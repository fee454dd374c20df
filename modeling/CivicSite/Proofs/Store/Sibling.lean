import CivicSite.Proofs.Store.Works
import CivicSite.Settings

/-!
# Two files in one directory

What is written to one file leaves the files beside it as they are (`SameFile`): they are found and
read as before, and a file that could be kept still can. The settings are saved beside the drafts,
so saving them leaves the drafts alone (`Settings.save_beside`). The path of the settings is the
longer one of the two, so where it can be followed the other one can be as well.
-/

namespace CivicSite

/-- The path of what lies in a directory. -/
theorem Path.text_child (dir : Path) (name : Text) :
    (dir.child name).text
      = if dir.names.isEmpty then name else dir.text ++ Text.ofString "/" ++ name := by
  have hjoined : ∀ {names : List Text}, names ≠ [] →
      List.intercalate (Text.ofString "/") (names ++ [name])
        = List.intercalate (Text.ofString "/") names ++ Text.ofString "/" ++ name := by
    intro names
    induction names with
    | nil => exact fun h => absurd rfl h
    | cons n rest ih =>
        intro _
        rw [List.cons_append, List.intercalate_cons_of_ne_nil (List.concat_ne_nil name rest)]
        by_cases hrest : rest = []
        · subst hrest
          simp
        · rw [ih hrest, List.intercalate_cons_of_ne_nil hrest]
          simp only [List.append_assoc]
  have hchild : (dir.child name).names.isEmpty = false :=
    List.isEmpty_eq_false_iff.mpr (List.concat_ne_nil name dir.names)
  rw [text, hchild, if_neg Bool.false_ne_true]
  by_cases hdir : dir.names = []
  · rw [child, hdir]
    simp
  · rw [if_neg (by simpa using hdir), text, if_neg (by simpa using hdir)]
    exact hjoined hdir

namespace Disk

variable {d d' : Disk} {dir : Path} {name name' : Text}

/-! ## The size of paths -/

theorem sizeOf_append (s t : Text) : sizeOf (s ++ t) = sizeOf s + sizeOf t := by
  unfold sizeOf
  rw [List.flatMap_append, List.length_append]

/-- A longer name makes a longer path. -/
theorem sizeOf_child_le (h : sizeOf name ≤ sizeOf name') :
    sizeOf (dir.child name).text ≤ sizeOf (dir.child name').text := by
  rw [Path.text_child, Path.text_child]
  split
  · exact h
  · rw [sizeOf_append, sizeOf_append _ name']
    omega

/-- A directory has a shorter path than what lies in it. -/
theorem sizeOf_text_le_child (h : 0 < sizeOf name) :
    sizeOf dir.text ≤ sizeOf (dir.child name).text := by
  rw [Path.text_child]
  split
  · rw [Path.text, if_pos ‹_›]
    exact h
  · rw [sizeOf_append, sizeOf_append]
    omega

/-! ## Following a path to a file -/

/-- What leads to one file in a directory. -/
theorem follow_child_eq_ok {q : Path} (hname : 0 < sizeOf name)
    (h : d.follow (dir.child name) = .ok q) :
    ∃ place, d.follow dir = .ok place ∧ d.nodeAt? place = some .directory
      ∧ q = place.step name := by
  obtain ⟨hsize, hfold⟩ := follow_eq_ok h
  have hfold : (dir.names.foldlM d.enter .here).bind (fun place => d.enter place name) = .ok q := by
    rw [← foldlM_enter_concat]
    exact hfold
  cases hdir : dir.names.foldlM d.enter .here with
  | error o =>
      rw [hdir] at hfold
      cases hfold
  | ok place =>
      rw [hdir] at hfold
      obtain ⟨hnode, -, hq⟩ := enter_eq_ok hfold
      refine ⟨place, ?_, hnode, hq⟩
      rw [follow, if_neg (Nat.not_lt.mpr (Nat.le_trans (sizeOf_text_le_child hname) hsize)), hdir]

theorem follow_child {place : Path} (h : d.follow dir = .ok place)
    (hnode : d.nodeAt? place = some .directory) (hname : sizeOf name ≤ maxNameSize)
    (hsize : sizeOf (dir.child name).text ≤ maxPathSize) :
    d.follow (dir.child name) = .ok (place.step name) := by
  rw [follow, if_neg (Nat.not_lt.mpr hsize)]
  show (dir.names ++ [name]).foldlM d.enter .here = _
  rw [foldlM_enter_concat, (follow_eq_ok h).2]
  exact enter_of_directory hnode hname

/-! ## The directory of a file -/

theorem isUnaskable_parent {p : Path} (h : isUnaskable p = false) :
    isUnaskable p.parent = false := by
  unfold isUnaskable at h ⊢
  rw [List.any_eq_false] at h ⊢
  intro name hname
  exact h name (List.dropLast_subset _ hname)

theorem sizeOf_text_parent {p : Path} (h : sizeOf p.text ≤ maxPathSize) :
    sizeOf p.parent.text ≤ maxPathSize := by
  rcases List.eq_nil_or_concat p.names with hnil | ⟨init, name, hnames⟩
  · have hparent : p.parent = p := by
      cases p
      simp_all [Path.parent]
    rwa [hparent]
  · have hchild : p = p.parent.child name := by
      cases p
      simp_all [Path.parent, Path.child]
    rw [hchild, Path.text_child] at h
    split at h
    · rename_i hempty
      rw [Path.text, if_pos hempty]
      decide
    · rw [sizeOf_append, sizeOf_append] at h
      omega

/-- Where a path leads somewhere, the directory that it names its last part in is there. -/
theorem hasDirectory_parent {p q : Path} (h : d.follow p = .ok q) : d.HasDirectory p.parent := by
  obtain ⟨hsize, hfold⟩ := follow_eq_ok h
  have hfollow : d.follow p.parent = p.parent.names.foldlM d.enter .here := by
    rw [follow, if_neg (Nat.not_lt.mpr (sizeOf_text_parent hsize))]
  rcases List.eq_nil_or_concat p.names with hnil | ⟨init, name, hnames⟩
  · refine ⟨.here, ?_, rfl⟩
    rw [hfollow, Path.parent, hnil]
    rfl
  · have hparent : p.parent.names = init := by
      rw [Path.parent, hnames, List.concat_eq_append, List.dropLast_concat]
    rw [hnames, List.concat_eq_append, foldlM_enter_concat, ← hparent] at hfold
    cases hdir : p.parent.names.foldlM d.enter .here with
    | error o =>
        rw [hdir] at hfold
        cases hfold
    | ok place =>
        rw [hdir] at hfold
        exact ⟨place, hfollow.trans hdir, (enter_eq_ok hfold).1⟩

/-! ## Writing beside a file -/

/-- A file is found and read on one disk as on another, and can be kept there if it can be here. -/
structure SameFile (p : Path) (d d' : Disk) : Prop where
  exists? : d'.exists? p = d.exists? p
  readFile : d'.readFile p = d.readFile p
  serves : d.Serves p → d'.Serves p

theorem SameFile.refl (p : Path) (d : Disk) : SameFile p d d := ⟨rfl, rfl, id⟩

theorem step_eq_child {place : Path} (h : (name == Path.back) = false) :
    place.step name = place.child name := by
  rw [Path.step, h, Bool.false_and, if_neg Bool.false_ne_true]

/-- The names of two files in a directory, of which the second one has the longer name. -/
structure Siblings (name name' : Text) : Prop where
  ne : name ≠ name'
  plain : (name == Path.back) = false
  plain' : (name' == Path.back) = false
  pos : 0 < sizeOf name
  le : sizeOf name ≤ sizeOf name'
  small : sizeOf name ≤ maxNameSize

/-- A file put beside another one is in another place, and the other one stays where it was. -/
theorem sameFile_put {place : Path} (hs : Siblings name name')
    (h : d.follow (dir.child name') = .ok place) (hplace : d.nodeAt? place ≠ some .directory)
    (n : Node) : SameFile (dir.child name) d (d.put place n) := by
  obtain ⟨q, hdir, hnode, rfl⟩ := follow_child_eq_ok (Nat.lt_of_lt_of_le hs.pos hs.le) h
  rw [step_eq_child hs.plain'] at h hplace ⊢
  have hfollow : d.follow (dir.child name) = .ok (q.child name) := by
    have hsize := Nat.le_trans (sizeOf_child_le hs.le) (follow_eq_ok h).1
    have hchild := follow_child hdir hnode hs.small hsize
    rwa [step_eq_child hs.plain] at hchild
  have hfollow' := follow_put n hplace hfollow
  have hne : q.child name ≠ q.child name' := fun heq => by
    have hnames : q.names ++ [name] = q.names ++ [name'] := congrArg Path.names heq
    exact hs.ne (List.singleton_inj.mp (List.append_cancel_left hnames))
  have hsame : (d.put (q.child name') n).nodeAt? (q.child name) = d.nodeAt? (q.child name) := by
    rw [nodeAt?_put, if_neg hne]
    split
    · exact (if_pos ‹_›).symm
    · rfl
  refine ⟨?_, ?_, ?_⟩
  · rw [exists?, exists?, hfollow, hfollow']
    dsimp only
    rw [hsame]
  · unfold readFile
    by_cases hask : isUnaskable (dir.child name) = true
    · rw [locate, locate, if_pos hask, if_pos hask]
      rfl
    · rw [Bool.not_eq_true] at hask
      rw [locate_of_follow hask hfollow, locate_of_follow hask hfollow']
      simp only [Bind.bind, Except.bind, hsame]
  · rintro ⟨d', there, hmake, hlocate, hfree⟩
    -- the directory is there, so nothing needs to be made
    have hthere : d.HasDirectory dir := ⟨q, hdir, hnode⟩
    have hparent : (dir.child name).parent = dir := by
      rw [Path.parent, Path.child, List.dropLast_concat]
    rw [hparent] at hmake
    obtain ⟨hask, hwithin⟩ := makeDirectory_eq_ok hmake
    rw [makeWithin_of_hasDirectory hthere] at hwithin
    cases hwithin
    obtain ⟨hask', hfollowed⟩ := locate_eq_ok hlocate
    cases hfollow.symm.trans hfollowed
    refine ⟨d.put (q.child name') n, q.child name, ?_, locate_of_follow hask' hfollow', ?_⟩
    · rw [hparent, makeDirectory, hask, if_neg Bool.false_ne_true,
        makeWithin_of_hasDirectory (hthere.put n hplace)]
    · rw [hsame]
      exact hfree

theorem sameFile_writeBytes (hs : Siblings name name') (d : Disk) (bytes : ByteArray) :
    SameFile (dir.child name) d (d.writeBytes (dir.child name') bytes).2 := by
  unfold writeBytes
  split
  · exact .refl _ d
  · rename_i place hlocate
    split
    · exact .refl _ d
    · rename_i hfree
      exact sameFile_put hs (locate_eq_ok hlocate).2 (fun h => hfree h) _

/-- **Writing a file leaves the files beside it alone**, whether it can be written or not. -/
theorem sameFile_writeFile (hs : Siblings name name') (d : Disk) (text : Text) :
    SameFile (dir.child name) d (d.writeFile (dir.child name') text).2 := by
  unfold writeFile
  split
  · exact sameFile_writeBytes hs d _
  · exact sameFile_writeBytes hs d _

end Disk

/-! ## Settings beside drafts -/

theorem Store.readEntries_of_sameFile {p : Path} {d d' : Disk} (h : Disk.SameFile p d d') :
    Store.readEntries d' p = Store.readEntries d p := by
  unfold Store.readEntries Store.readText
  rw [h.exists?, h.readFile]

theorem Store.get_of_sameFile {p : Path} {d d' : Disk} (h : Disk.SameFile p d d') (key : Text) :
    ((Store.file p).get key d').1 = ((Store.file p).get key d).1 := by
  rw [Store.file_get, Store.file_get, Store.readEntries_of_sameFile h]

namespace Settings

/-- The data directory, the user's own if none is named. -/
def directory (s : Settings) : Path := s.dataDir.getD (userDataDir defaultHome)

variable {s : Settings} {d : Disk}

theorem locate_eq_ok {dir : Path} (h : (s.locate d).1 = .ok dir) : dir = s.directory := by
  unfold locate at h
  unfold directory
  cases hdir : s.dataDir with
  | some named =>
      rw [hdir] at h
      cases h
      rfl
  | none =>
      rw [hdir] at h
      dsimp only at h
      cases hmade : (d.makeDirectory (userDataDir defaultHome)).1 with
      | error e =>
          rw [hmade] at h
          cases h
      | ok u =>
          rw [hmade] at h
          cases h
          rfl

theorem draftsPath_eq_ok {p : Path} (h : (s.draftsPath d).1 = .ok p) :
    p = s.directory.child "drafts.json" := by
  have hpath : (s.draftsPath d).1 = (s.locate d).1.map (·.child "drafts.json") := rfl
  rw [hpath] at h
  cases hdir : (s.locate d).1 with
  | error e =>
      rw [hdir] at h
      cases h
  | ok dir =>
      rw [hdir] at h
      cases h
      rw [locate_eq_ok hdir]

/-- A directory that is there is not made. -/
theorem locate_of_hasDirectory (h : s.dataDir = none → d.HasDirectory s.directory) :
    s.locate d = (.ok s.directory, d) := by
  unfold directory at h ⊢
  unfold locate
  cases hdir : s.dataDir with
  | some named => rfl
  | none =>
      rw [hdir] at h
      have hask : Disk.isUnaskable (userDataDir defaultHome) = false := by decide
      have hthere : d.HasDirectory (userDataDir defaultHome) := h rfl
      dsimp only
      rw [Disk.makeDirectory, hask, if_neg Bool.false_ne_true,
        Disk.makeWithin_of_hasDirectory hthere]
      rfl

/-- The settings and the drafts lie beside each other. -/
theorem siblings : Disk.Siblings "drafts.json" "settings.json" := by
  constructor <;> decide

/-- **Saving the settings leaves the drafts alone.** -/
theorem save_beside (h : s.dataDir = none → d.HasDirectory s.directory) :
    Disk.SameFile (s.directory.child "drafts.json") d (s.save none d).2 := by
  have hpath : s.settingsPath none d = (.ok (s.directory.child "settings.json"), d) := by
    rw [settingsPath, locate_of_hasDirectory h]
    rfl
  rw [save, hpath]
  dsimp only
  split
  · exact .refl _ d
  · exact Disk.sameFile_writeFile siblings d _

end Settings

end CivicSite
