import CivicSite.Disk

/-!
# A disk before and after a file is written

What is put in a place that holds no directory changes nothing for those who pass by: a path that
led somewhere still leads there (`follow_put`). So a file that could be written once can be written
again, and what was written is found (`Serves.written`). A file stays as it is while directories are
made (`stays_makeDirectory`) and files are written in other places (`stays_writeFile`).
-/

namespace CivicSite

namespace Disk

/-! ## Contents -/

theorem nodeAt?_put (d : Disk) (place q : Path) (n : Node) :
    (d.put place n).nodeAt? q
      = if q.isBack then some .directory else if q = place then some n else d.nodeAt? q := by
  unfold nodeAt? put
  by_cases hback : q.isBack
  · rw [if_pos hback, if_pos hback]
  · rw [if_neg hback, if_neg hback, List.find?_append, List.find?_filter]
    by_cases hq : q = place
    · subst hq
      have hnone : d.nodes.find? (fun e => decide (e.1 != q ∧ e.1 == q)) = none := by
        refine List.find?_eq_none.mpr fun e _ => ?_
        by_cases h : e.1 = q <;> simp [h]
      rw [hnone, if_pos rfl]
      simp
    · have hsame :
          (fun e : Path × Node => decide (e.1 != place ∧ e.1 == q)) = fun e => e.1 == q := by
        funext e
        by_cases h : e.1 = q
        · simp [h, hq]
        · simp [h]
      rw [hsame, if_neg hq, if_neg hback]
      cases d.nodes.find? (·.1 == q) with
      | some e => rfl
      | none => simp [Ne.symm hq]

/-- A place that holds no directory may be written to without harm to any directory. -/
theorem nodeAt?_put_of_directory {d : Disk} {place q : Path} (n : Node)
    (hplace : d.nodeAt? place ≠ some .directory) (hq : d.nodeAt? q = some .directory) :
    (d.put place n).nodeAt? q = some .directory := by
  rw [nodeAt?_put]
  split
  · rfl
  · have hne : q ≠ place := fun h => hplace (h ▸ hq)
    rw [if_neg hne, hq]

theorem nodeAt?_put_self {d : Disk} {place : Path} (n : Node)
    (hplace : d.nodeAt? place ≠ some .directory) : (d.put place n).nodeAt? place = some n := by
  have hback : ¬ place.isBack = true := fun h => hplace (by rw [nodeAt?, if_pos h])
  rw [nodeAt?_put, if_neg hback, if_pos rfl]

/-! ## Paths -/

theorem enter_eq_ok {d : Disk} {place q : Path} {name : Text} (h : d.enter place name = .ok q) :
    d.nodeAt? place = some .directory ∧ sizeOf name ≤ maxNameSize ∧ q = place.step name := by
  unfold enter at h
  split at h
  · cases h
  · cases h
  · rename_i hnode
    split at h
    · cases h
    · cases h
      exact ⟨hnode, Nat.not_lt.mp ‹_›, rfl⟩

theorem enter_of_directory {d : Disk} {place : Path} {name : Text}
    (h : d.nodeAt? place = some .directory) (hsize : sizeOf name ≤ maxNameSize) :
    d.enter place name = .ok (place.step name) := by
  unfold enter
  rw [h]
  exact if_neg (Nat.not_lt.mpr hsize)

theorem foldlM_enter_put {d : Disk} {place : Path} (n : Node)
    (hplace : d.nodeAt? place ≠ some .directory) {names : List Text} {start q : Path}
    (h : names.foldlM d.enter start = .ok q) :
    names.foldlM (d.put place n).enter start = .ok q := by
  induction names generalizing start with
  | nil => exact h
  | cons name rest ih =>
      rw [List.foldlM_cons] at h ⊢
      cases he : d.enter start name with
      | error o => rw [he] at h; cases h
      | ok next =>
          rw [he] at h
          obtain ⟨hdir, hsize, rfl⟩ := enter_eq_ok he
          rw [enter_of_directory (nodeAt?_put_of_directory n hplace hdir) hsize]
          exact ih h

theorem follow_eq_ok {d : Disk} {p q : Path} (h : d.follow p = .ok q) :
    sizeOf p.text ≤ maxPathSize ∧ p.names.foldlM d.enter .here = .ok q := by
  unfold follow at h
  split at h
  · cases h
  · exact ⟨Nat.not_lt.mp ‹_›, h⟩

/-- A path still leads where it led. -/
theorem follow_put {d : Disk} {place p q : Path} (n : Node)
    (hplace : d.nodeAt? place ≠ some .directory) (h : d.follow p = .ok q) :
    (d.put place n).follow p = .ok q := by
  obtain ⟨hsize, hfold⟩ := follow_eq_ok h
  rw [follow, if_neg (Nat.not_lt.mpr hsize)]
  exact foldlM_enter_put n hplace hfold

theorem locate_eq_ok {d : Disk} {p q : Path} (h : d.locate p = .ok q) :
    isUnaskable p = false ∧ d.follow p = .ok q := by
  unfold locate at h
  split at h
  · cases h
  · cases hf : d.follow p with
    | error o => rw [hf] at h; cases h
    | ok place =>
        rw [hf] at h
        cases h
        exact ⟨Bool.eq_false_iff.mpr ‹_›, rfl⟩

theorem locate_of_follow {d : Disk} {p q : Path} (hp : isUnaskable p = false)
    (h : d.follow p = .ok q) : d.locate p = .ok q := by
  rw [locate, hp, h]
  rfl

/-! ## Making directories -/

/-- The directory that a path names is there. -/
def HasDirectory (d : Disk) (p : Path) : Prop :=
  ∃ place, d.follow p = .ok place ∧ d.nodeAt? place = some .directory

theorem make_eq_found {d : Disk} {p : Path} : d.make p = .found .directory ↔ d.HasDirectory p := by
  unfold make HasDirectory
  constructor
  · intro h
    split at h
    · cases h
    · split at h
      · cases h
        exact ⟨_, ‹_›, ‹_›⟩
      · cases h
  · rintro ⟨place, hfollow, hnode⟩
    rw [hfollow]
    simp only [hnode]

theorem HasDirectory.put {d : Disk} {p place : Path} (n : Node) (h : d.HasDirectory p)
    (hplace : d.nodeAt? place ≠ some .directory) : (d.put place n).HasDirectory p := by
  obtain ⟨q, hfollow, hnode⟩ := h
  exact ⟨q, follow_put n hplace hfollow, nodeAt?_put_of_directory n hplace hnode⟩

/-- What making a directory comes to: it is there, or it was put where nothing was. -/
theorem make_eq_made {d d' : Disk} {p : Path} (h : d.make p = .made d') :
    d'.HasDirectory p ∧ ∃ place, d.follow p = .ok place ∧ d.nodeAt? place = none := by
  unfold make at h
  split at h
  · cases h
  · rename_i place hfollow
    split at h
    · cases h
    · rename_i hnode
      cases h
      have hplace : d.nodeAt? place ≠ some .directory := fun hd => by rw [hd] at hnode; cases hnode
      exact ⟨⟨place, follow_put _ hplace hfollow, nodeAt?_put_self _ hplace⟩, place, hfollow, hnode⟩

theorem hasDirectory_of_makeWithin {depth : Nat} {d d' : Disk} {p : Path}
    (h : makeWithin depth p d = (.ok (), d')) : d'.HasDirectory p := by
  unfold makeWithin at h
  split at h
  · cases h
    exact (make_eq_made ‹_›).1
  · cases h
    exact make_eq_found.mp ‹_›
  · cases h
  · split at h
    · cases h
    · split at h
      · cases h
        exact (make_eq_made ‹_›).1
      · cases h
        exact make_eq_found.mp ‹_›
      · cases h
      · cases h
  · cases h

theorem makeWithin_of_hasDirectory {depth : Nat} {d : Disk} {p : Path} (h : d.HasDirectory p) :
    makeWithin depth p d = (.ok (), d) := by
  unfold makeWithin
  rw [make_eq_found.mpr h]

/-- A directory that had to be made was missing, so nothing lay in it. -/
theorem follow_of_makeWithin {depth : Nat} {d d' : Disk} {p : Path}
    (h : makeWithin depth p d = (.ok (), d')) :
    d' = d ∨ d.follow p = .error .missing
      ∨ ∃ place, d.follow p = .ok place ∧ d.nodeAt? place = none := by
  unfold makeWithin at h
  split at h
  · exact Or.inr (Or.inr (make_eq_made ‹_›).2)
  · cases h
    exact Or.inl rfl
  · cases h
  · rename_i hmake
    refine Or.inr (Or.inl ?_)
    unfold make at hmake
    split at hmake
    · cases hmake
      assumption
    · split at hmake <;> cases hmake
  · cases h

/-! ## Files that can be written -/

/-- A file can be kept under a path: its directory is there or can be made, and the path does not
lead to a directory. -/
def Serves (d : Disk) (p : Path) : Prop :=
  ∃ d' place, d.makeDirectory p.parent = (.ok (), d') ∧ d'.locate p = .ok place
    ∧ d'.nodeAt? place ≠ some .directory

theorem makeDirectory_eq_ok {d d' : Disk} {p : Path} (h : d.makeDirectory p = (.ok (), d')) :
    isUnaskable p = false ∧ makeWithin p.names.length p d = (.ok (), d') := by
  unfold makeDirectory at h
  split at h
  · cases h
  · exact ⟨Bool.eq_false_iff.mpr ‹_›, h⟩

theorem readFile_of_locate {d : Disk} {p place : Path} {bytes : ByteArray}
    (h : d.locate p = .ok place) (hnode : d.nodeAt? place = some (.file bytes)) :
    d.readFile p = .ok bytes := by
  unfold readFile
  rw [h]
  simp only [Bind.bind, Except.bind, hnode]

/-- What was written to a file is read from it, and it can be written to again. -/
theorem Serves.write {d : Disk} {p : Path} (h : d.Serves p) (bytes : ByteArray) :
    ∃ d' d'', d.makeDirectory p.parent = (.ok (), d') ∧ d'.writeBytes p bytes = (.ok (), d'')
      ∧ d''.Serves p ∧ d''.exists? p = .ok true ∧ d''.readFile p = .ok bytes := by
  obtain ⟨d', place, hmake, hlocate, hplace⟩ := h
  obtain ⟨hparent, hwithin⟩ := makeDirectory_eq_ok hmake
  obtain ⟨hp, hfollow⟩ := locate_eq_ok hlocate
  have hdir : (d'.put place (.file bytes)).HasDirectory p.parent :=
    (hasDirectory_of_makeWithin hwithin).put _ hplace
  have hfollow' : (d'.put place (.file bytes)).follow p = .ok place := follow_put _ hplace hfollow
  have hlocate' := locate_of_follow hp hfollow'
  have hnode : (d'.put place (.file bytes)).nodeAt? place = some (.file bytes) :=
    nodeAt?_put_self _ hplace
  refine ⟨d', d'.put place (.file bytes), hmake, ?_, ?_, ?_, ?_⟩
  · simp only [writeBytes, hlocate]
  · refine ⟨_, place, ?_, hlocate', fun hd => by rw [hnode] at hd; cases hd⟩
    rw [makeDirectory, hparent, if_neg Bool.false_ne_true, makeWithin_of_hasDirectory hdir]
  · simp only [exists?, hp, hfollow', hnode, Option.isSome_some, if_neg Bool.false_ne_true]
  · exact readFile_of_locate hlocate' hnode

theorem foldlM_enter_concat (d : Disk) (start : Path) (names : List Text) (name : Text) :
    (names ++ [name]).foldlM d.enter start
      = (names.foldlM d.enter start).bind fun place => d.enter place name := by
  rw [List.foldlM_append]
  cases names.foldlM d.enter start with
  | error o => rfl
  | ok place =>
      show ([name].foldlM d.enter place : Except Obstacle Path) = d.enter place name
      rw [List.foldlM_cons]
      exact bind_pure _

/-- Where a directory is missing there are no files in it. -/
theorem follow_of_missing_parent {d : Disk} {p : Path} (hsize : sizeOf p.text ≤ maxPathSize)
    (h : d.follow p.parent = .error .missing
      ∨ ∃ place, d.follow p.parent = .ok place ∧ d.nodeAt? place = none) :
    d.follow p = .error .missing := by
  have hfold : p.parent.names.foldlM d.enter .here = .error .missing
      ∨ ∃ place, p.parent.names.foldlM d.enter .here = .ok place ∧ d.nodeAt? place = none := by
    rcases h with h | ⟨place, h, hnode⟩
    · unfold follow at h
      split at h
      · cases h
      · exact Or.inl h
    · exact Or.inr ⟨place, (follow_eq_ok h).2, hnode⟩
  rw [follow, if_neg (Nat.not_lt.mpr hsize)]
  rcases List.eq_nil_or_concat p.names with hnil | ⟨init, name, hnames⟩
  · have hparent : p.parent.names = [] := by rw [Path.parent, hnil]; rfl
    rw [hparent] at hfold
    rcases hfold with h | ⟨place, h, hnode⟩
    · cases h
    · cases h
      cases hnode
  · have hparent : p.parent.names = init := by
      rw [Path.parent, hnames, List.concat_eq_append, List.dropLast_concat]
    rw [hparent] at hfold
    rw [hnames, List.concat_eq_append, foldlM_enter_concat]
    rcases hfold with h | ⟨place, h, hnode⟩
    · rw [h]
      rfl
    · rw [h]
      show d.enter place name = _
      rw [enter, hnode]

/-- Under such a path there is a file that can be read, or nothing. -/
theorem Serves.exists_or {d : Disk} {p : Path} (h : d.Serves p) :
    d.exists? p = .ok false ∨ ∃ bytes, d.exists? p = .ok true ∧ d.readFile p = .ok bytes := by
  obtain ⟨d', place, hmake, hlocate, hplace⟩ := h
  obtain ⟨-, hwithin⟩ := makeDirectory_eq_ok hmake
  obtain ⟨hp, hfollow⟩ := locate_eq_ok hlocate
  rcases follow_of_makeWithin hwithin with rfl | hmissing
  · cases hnode : d'.nodeAt? place with
    | none =>
        refine Or.inl ?_
        simp only [exists?, hp, hfollow, hnode, Option.isSome_none, if_neg Bool.false_ne_true]
    | some n =>
        cases n with
        | directory => exact absurd hnode hplace
        | file bytes =>
            refine Or.inr ⟨bytes, ?_, ?_⟩
            · simp only [exists?, hp, hfollow, hnode, Option.isSome_some,
                if_neg Bool.false_ne_true]
            · exact readFile_of_locate hlocate hnode
  · refine Or.inl ?_
    have hgone := follow_of_missing_parent (follow_eq_ok hfollow).1 hmissing
    simp only [exists?, hp, hgone, if_neg Bool.false_ne_true]

/-! ## Files that stay -/

theorem readFile_eq_ok {d : Disk} {p : Path} {bytes : ByteArray} (h : d.readFile p = .ok bytes) :
    ∃ place, d.locate p = .ok place ∧ d.nodeAt? place = some (.file bytes) := by
  unfold readFile at h
  cases hplace : d.locate p with
  | error e =>
      rw [hplace] at h
      cases h
  | ok place =>
      rw [hplace] at h
      simp only [Bind.bind, Except.bind] at h
      split at h
      · rename_i hnode
        cases h
        exact ⟨place, rfl, hnode⟩
      · cases h
      · cases h

theorem exists?_of_readFile {d : Disk} {p : Path} {bytes : ByteArray}
    (h : d.readFile p = .ok bytes) : d.exists? p = .ok true := by
  obtain ⟨place, hlocate, hnode⟩ := readFile_eq_ok h
  obtain ⟨hask, hfollow⟩ := locate_eq_ok hlocate
  simp [exists?, hask, hfollow, hnode]

theorem locate_put {d : Disk} {p place q : Path} (n : Node)
    (hplace : d.nodeAt? place ≠ some .directory) (h : d.locate p = .ok q) :
    (d.put place n).locate p = .ok q := by
  obtain ⟨hask, hfollow⟩ := locate_eq_ok h
  exact locate_of_follow hask (follow_put n hplace hfollow)

/-- A file that can be read on one disk is read alike on another one. -/
def Stays (p : Path) (d d' : Disk) : Prop :=
  ∀ bytes, d.readFile p = .ok bytes → d'.readFile p = .ok bytes

theorem Stays.refl (p : Path) (d : Disk) : Stays p d d := fun _ h => h

theorem Stays.trans {p : Path} {d d' d'' : Disk} (h : Stays p d d') (h' : Stays p d' d'') :
    Stays p d d'' := fun bytes hread => h' bytes (h bytes hread)

theorem stays_put {d : Disk} {p place : Path} (n : Node)
    (hplace : d.nodeAt? place ≠ some .directory)
    (hne : ∀ q bytes, d.locate p = .ok q → d.nodeAt? q = some (.file bytes) → q ≠ place) :
    Stays p d (d.put place n) := by
  intro bytes hread
  obtain ⟨q, hlocate, hnode⟩ := readFile_eq_ok hread
  have hback : ¬ q.isBack = true := by
    intro hback
    rw [nodeAt?, if_pos hback] at hnode
    cases hnode
  refine readFile_of_locate (locate_put n hplace hlocate) ?_
  rw [nodeAt?_put, if_neg hback, if_neg (hne q bytes hlocate hnode), hnode]

theorem stays_make {d d' : Disk} {p dir : Path} (h : d.make dir = .made d') : Stays p d d' := by
  unfold make at h
  split at h
  · cases h
  · split at h
    · cases h
    · rename_i hnone
      cases h
      refine stays_put _ (fun hd => by rw [hd] at hnone; cases hnone) fun q bytes _ hnode heq => ?_
      rw [heq, hnone] at hnode
      cases hnode

theorem stays_makeWithin (p : Path) (depth : Nat) (dir : Path) (d : Disk) :
    Stays p d (makeWithin depth dir d).2 := by
  induction depth generalizing dir d with
  | zero =>
      unfold makeWithin
      split
      · exact stays_make ‹_›
      · exact .refl p d
      · exact .refl p d
      · rename_i hdepth
        cases hdepth
      · exact .refl p d
  | succ depth ih =>
      unfold makeWithin
      split
      · exact stays_make ‹_›
      · exact .refl p d
      · exact .refl p d
      · rename_i hdepth
        cases hdepth
        have hparent := ih dir.parent d
        split
        · rename_i hmade
          rwa [hmade] at hparent
        · rename_i hmade
          rw [hmade] at hparent
          split
          · exact hparent.trans (stays_make ‹_›)
          · exact hparent
          · exact hparent
          · exact hparent
      · exact .refl p d

/-- **Making directories leaves every file.** -/
theorem stays_makeDirectory (p dir : Path) (d : Disk) : Stays p d (d.makeDirectory dir).2 := by
  unfold makeDirectory
  split
  · exact .refl p d
  · exact stays_makeWithin p _ dir d

/-- **Writing a file leaves those in other places.** -/
theorem stays_writeFile {d : Disk} {p p' : Path}
    (hne : ∀ q q', d.locate p = .ok q → d.locate p' = .ok q' → q ≠ q') (text : Text) :
    Stays p d (d.writeFile p' text).2 := by
  have hbytes (bytes : ByteArray) : Stays p d (d.writeBytes p' bytes).2 := by
    unfold writeBytes
    split
    · exact .refl p d
    · rename_i place hlocate
      split
      · exact .refl p d
      · rename_i hfree
        exact stays_put _ (fun hd => hfree hd) fun q _ hq _ => hne q place hq hlocate
  unfold writeFile
  split
  · exact hbytes _
  · exact hbytes _

end Disk

end CivicSite
