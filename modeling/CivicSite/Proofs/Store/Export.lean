import CivicSite.Proofs.Page.Encodable
import CivicSite.Proofs.Store.Sibling

/-!
# Websites on the disk

A website is exported file by file. Files of different names go to different places of a directory,
so each of them is read as it was written once all of them were (`Site.exportTo_exact`), whatever
was in these places before, and the other files of the directory stay (`Site.keepsOthers_exportTo`).
What cannot be written to such a place is a text that has no UTF-8.
-/

namespace CivicSite

theorem Text.isEncodable_eq_isSome (t : Text) : t.isEncodable = t.string?.isSome :=
  Option.isSome_map.symm

namespace Disk

variable {d : Disk} {dir p place : Path} {name name' : Text} {bytes : ByteArray}

/-! ## Places that can be written to -/

/-- Whether a path leads to a place where there is no directory, so that a file can be written
there. -/
def isFree (d : Disk) (p : Path) : Bool :=
  match d.locate p with
  | .ok place => !(d.nodeAt? place matches some .directory)
  | .error _ => false

theorem isFree_iff :
    d.isFree p = true ↔ ∃ place, d.locate p = .ok place ∧ d.nodeAt? place ≠ some .directory := by
  unfold isFree
  cases d.locate p with
  | error e => exact ⟨nofun, fun ⟨_, h, _⟩ => nomatch h⟩
  | ok place =>
      dsimp only
      cases hnode : d.nodeAt? place with
      | none => exact iff_of_true rfl ⟨place, rfl, by rw [hnode]; exact nofun⟩
      | some n =>
          cases n with
          | file bytes => exact iff_of_true rfl ⟨place, rfl, by rw [hnode]; exact nofun⟩
          | directory =>
              refine iff_of_false Bool.false_ne_true ?_
              rintro ⟨place', hplace, hfree⟩
              cases hplace
              exact hfree hnode

/-- A file holds a text in UTF-8. -/
def Holds (d : Disk) (p : Path) (text : Text) : Prop :=
  ∃ s, text.string? = some s ∧ d.readFile p = .ok s.toUTF8

theorem isFree_put (h : d.isFree p = true) (hplace : d.nodeAt? place ≠ some .directory)
    (bytes : ByteArray) : (d.put place (.file bytes)).isFree p = true := by
  obtain ⟨q, hlocate, hq⟩ := isFree_iff.mp h
  refine isFree_iff.mpr ⟨q, locate_put _ hplace hlocate, ?_⟩
  have hback : ¬ q.isBack = true := fun h => hq (by rw [nodeAt?, if_pos h])
  rw [nodeAt?_put, if_neg hback]
  split
  · intro h
    cases h
  · exact hq

/-- What a text is written as where a file can be written. -/
theorem writeFile_of_isFree (h : d.isFree p = true) (text : Text) :
    ∃ place bytes, d.locate p = .ok place ∧ d.nodeAt? place ≠ some .directory
      ∧ (d.writeFile p text).2 = d.put place (.file bytes)
      ∧ (text.string? = none → (d.writeFile p text).1 = .error .unencodable)
      ∧ ∀ s, text.string? = some s → (d.writeFile p text).1 = .ok () ∧ bytes = s.toUTF8 := by
  obtain ⟨place, hlocate, hplace⟩ := isFree_iff.mp h
  have hwrite (bytes : ByteArray) :
      d.writeBytes p bytes = (.ok (), d.put place (.file bytes)) := by
    simp only [writeBytes, hlocate]
  unfold writeFile
  cases text.string? with
  | none =>
      refine ⟨place, .empty, hlocate, hplace, ?_, fun _ => ?_, fun s hs => ?_⟩
      · simp only [hwrite]
      · simp only [hwrite]
        rfl
      · cases hs
  | some s =>
      refine ⟨place, s.toUTF8, hlocate, hplace, ?_, fun hs => ?_, fun s' hs' => ?_⟩
      · simp only [hwrite]
      · cases hs
      · obtain rfl := Option.some.inj hs'
        simp only [hwrite, and_self]

/-- A file that can be read can be written. -/
theorem isFree_of_readFile (h : d.readFile p = .ok bytes) : d.isFree p = true := by
  obtain ⟨place, hlocate, hnode⟩ := readFile_eq_ok h
  refine isFree_iff.mpr ⟨place, hlocate, fun hdir => ?_⟩
  rw [hnode] at hdir
  cases hdir

/-- A file that was written could be. -/
theorem isFree_of_writeFile {d' : Disk} {text : Text} (h : d.writeFile p text = (.ok (), d')) :
    d.isFree p = true := by
  have hbytes {bytes : ByteArray} (hwrite : (d.writeBytes p bytes).1 = .ok ()) :
      d.isFree p = true := by
    unfold writeBytes at hwrite
    split at hwrite
    · cases hwrite
    · rename_i place hlocate
      split at hwrite
      · cases hwrite
      · rename_i hnode
        exact isFree_iff.mpr ⟨place, hlocate, hnode⟩
  unfold writeFile at h
  split at h
  · exact hbytes (congrArg Prod.fst h)
  · rename_i bytes _
    cases hwrite : (d.writeBytes p .empty).1 with
    | ok u => exact hbytes hwrite
    | error e =>
        have hresult := congrArg Prod.fst h
        dsimp only at hresult
        rw [hwrite] at hresult
        cases hresult

/-- Whether files of some names can be written to a directory, which is made if it is missing. -/
def takes (d : Disk) (dir : Path) (names : List Text) : Bool :=
  match d.makeDirectory dir with
  | (.ok (), d) => names.all fun name => d.isFree (dir.child name)
  | (.error _, _) => false

theorem takes_iff {names : List Text} :
    d.takes dir names = true ↔ ∃ d', d.makeDirectory dir = (.ok (), d')
      ∧ ∀ name ∈ names, d'.isFree (dir.child name) = true := by
  unfold takes
  rcases d.makeDirectory dir with ⟨e | u, d'⟩
  · exact ⟨nofun, fun ⟨_, h, _⟩ => nomatch h⟩
  · refine List.all_eq_true.trans ⟨fun h => ⟨d', rfl, h⟩, ?_⟩
    rintro ⟨d'', hmake, h⟩
    cases hmake
    exact h

/-! ## Different names -/

/-- A name of a file, which does not lead back. -/
def IsFileName (name : Text) : Prop := (name == Path.back) = false ∧ 0 < sizeOf name

/-- The files of a directory stay as they are, except for those of some names. -/
def KeepsOthers (d : Disk) (dir : Path) (names : List Text) (d' : Disk) : Prop :=
  ∀ name bytes, IsFileName name → name ∉ names → d.readFile (dir.child name) = .ok bytes →
    d'.readFile (dir.child name) = .ok bytes

/-- Files of different names are in different places, whatever directories they lie in. -/
theorem place_ne {dir dir' q q' : Path} (hname : IsFileName name) (hname' : IsFileName name')
    (hne : name ≠ name') (h : d.locate (dir.child name) = .ok q)
    (h' : d.locate (dir'.child name') = .ok q') : q ≠ q' := by
  obtain ⟨place, -, -, rfl⟩ := follow_child_eq_ok hname.2 (locate_eq_ok h).2
  obtain ⟨place', -, -, rfl⟩ := follow_child_eq_ok hname'.2 (locate_eq_ok h').2
  rw [step_eq_child hname.1, step_eq_child hname'.1]
  intro heq
  have hnames : place.names ++ [name] = place'.names ++ [name'] := congrArg Path.names heq
  exact hne (List.singleton_inj.mp (List.append_inj_right' hnames rfl))

/-- Writing a file leaves the files of other names as they are. -/
theorem stays_writeFile_of_ne {dir dir' : Path} (hname : IsFileName name)
    (hname' : IsFileName name') (hne : name ≠ name') (d : Disk) (text : Text) :
    Stays (dir.child name) d (d.writeFile (dir'.child name') text).2 :=
  stays_writeFile (fun _ _ h h' => place_ne hname hname' hne h h') text

end Disk

namespace Site

open Disk (IsFileName)

variable {d : Disk} {dir : Path} {name : Text} {bytes : ByteArray}

/-! ## Writing files -/

/-- Files of other names are left as they are, in every directory. -/
theorem stays_writeFiles {dir dir' : Path} {files : Entries Text} (hname : IsFileName name)
    (hfiles : ∀ f ∈ files, IsFileName f.1 ∧ name ≠ f.1) (d : Disk) :
    Disk.Stays (dir.child name) d (writeFiles dir' files d).2 := by
  induction files generalizing d with
  | nil => exact .refl _ d
  | cons f rest ih =>
      obtain ⟨⟨hf, hne⟩, hrest⟩ := List.forall_mem_cons.mp hfiles
      have hfirst : Disk.Stays (dir.child name) d (d.writeFile (dir'.child f.1) f.2).2 :=
        Disk.stays_writeFile_of_ne hname hf hne d f.2
      rw [writeFiles]
      rcases hwrite : d.writeFile (dir'.child f.1) f.2 with ⟨e | u, d'⟩
      · rwa [hwrite] at hfirst
      · rw [hwrite] at hfirst
        exact hfirst.trans (ih hrest d')

/-- **What was written is read**, if each of the texts has UTF-8. Else writing stops at a fault. -/
theorem writeFiles_exact {files : Entries Text} (hnodup : (files.map (·.1)).Nodup)
    (hfiles : ∀ f ∈ files, IsFileName f.1 ∧ d.isFree (dir.child f.1) = true) :
    (files.all (·.2.isEncodable) = true →
      (writeFiles dir files d).1 = .ok (files.map fun f => dir.child f.1)
        ∧ ∀ f ∈ files, (writeFiles dir files d).2.Holds (dir.child f.1) f.2)
    ∧ (files.all (·.2.isEncodable) = false → (writeFiles dir files d).1 = .error .unencodable) := by
  induction files generalizing d with
  | nil => exact ⟨fun _ => ⟨rfl, nofun⟩, nofun⟩
  | cons f rest ih =>
      obtain ⟨hnew, hnodup⟩ := List.nodup_cons.mp hnodup
      obtain ⟨⟨hf, hfree⟩, hrest⟩ := List.forall_mem_cons.mp hfiles
      obtain ⟨place, bytes, hlocate, hplace, hdisk, hstops, hwrites⟩ :=
        Disk.writeFile_of_isFree hfree f.2
      rcases hwrite : d.writeFile (dir.child f.1) f.2 with ⟨result, d'⟩
      rw [hwrite] at hdisk hstops hwrites
      obtain rfl : d' = d.put place (.file bytes) := hdisk
      cases hs : f.2.string? with
      | none =>
          obtain rfl : result = .error .unencodable := hstops hs
          rw [List.all_cons, Text.isEncodable_eq_isSome, hs, Option.isSome_none, Bool.false_and,
            writeFiles, hwrite]
          exact ⟨nofun, fun _ => rfl⟩
      | some s =>
          obtain ⟨hresult, rfl⟩ := hwrites s hs
          obtain rfl : result = .ok () := hresult
          have hlater : ∀ g ∈ rest, IsFileName g.1
              ∧ (d.put place (.file s.toUTF8)).isFree (dir.child g.1) = true := fun g hg =>
            ⟨(hrest g hg).1, Disk.isFree_put (hrest g hg).2 hplace _⟩
          obtain ⟨hwhole, hbroken⟩ := ih hnodup hlater
          rw [List.all_cons, Text.isEncodable_eq_isSome, hs, Option.isSome_some, Bool.true_and,
            writeFiles, hwrite]
          dsimp only
          refine ⟨fun hall => ?_, fun hall => ?_⟩
          · obtain ⟨hpaths, hheld⟩ := hwhole hall
            refine ⟨by rw [hpaths]; rfl, List.forall_mem_cons.mpr ⟨?_, hheld⟩⟩
            have hread : (d.put place (.file s.toUTF8)).readFile (dir.child f.1) = .ok s.toUTF8 :=
              Disk.readFile_of_locate (Disk.locate_put _ hplace hlocate)
                (Disk.nodeAt?_put_self _ hplace)
            refine ⟨s, hs,
              stays_writeFiles hf (fun g hg => ⟨(hlater g hg).1, fun heq => ?_⟩) _ _ hread⟩
            exact hnew (List.mem_map.mpr ⟨g, hg, heq.symm⟩)
          · rw [hbroken hall]
            rfl

/-! ## Exporting -/

/-- The names of the files of a website, with or without the two pages of a blog. -/
def fileNames (listing post : Bool) : List Text :=
  let always : List Text := ["index.html", "styles.css", "script.js"]
  let named (name : Text) (there : Bool) : List Text := if there then [name] else []
  always ++ named "blog.html" listing ++ named "post.html" post

theorem names_files (s : Site) :
    s.files.map (·.1) = fileNames s.blogHtml.isSome s.postHtml.isSome := by
  obtain ⟨html, css, js, _ | blog, _ | post⟩ := s <;> rfl

theorem nodup_fileNames : ∀ listing post, (fileNames listing post).Nodup := by
  decide

theorem isFileName_of_mem :
    ∀ listing post, ∀ name ∈ fileNames listing post, IsFileName name := by
  unfold IsFileName
  decide

theorem isFileName_files (s : Site) : ∀ f ∈ s.files, IsFileName f.1 := fun f hf =>
  isFileName_of_mem _ _ f.1 (names_files s ▸ List.mem_map_of_mem hf)

/-- The pages of a blog are among the files of a website with a blog, and of no other one. -/
theorem mem_fileNames : ∀ blog, ∀ name ∈ (["blog.html", "post.html"] : List Text),
    name ∈ fileNames blog blog ↔ blog = true := by
  decide

/-- **An exported website is on the disk as it is**, if each of its texts has UTF-8. Else exporting
it stops at a fault. -/
theorem exportTo_exact (s : Site) (h : d.takes dir (s.files.map (·.1)) = true) :
    (s.files.all (·.2.isEncodable) = true →
      (s.exportTo dir d).1 = .ok (s.files.map fun f => dir.child f.1)
        ∧ ∀ f ∈ s.files, (s.exportTo dir d).2.Holds (dir.child f.1) f.2)
    ∧ (s.files.all (·.2.isEncodable) = false → (s.exportTo dir d).1 = .error .unencodable) := by
  obtain ⟨d', hmake, hfree⟩ := Disk.takes_iff.mp h
  rw [exportTo, hmake]
  refine writeFiles_exact (names_files s ▸ nodup_fileNames _ _) fun f hf => ?_
  exact ⟨isFileName_files s f hf, hfree f.1 (List.mem_map_of_mem hf)⟩

/-- An export, also one that stops, leaves the files of other names as they are. -/
theorem stays_exportTo {dir dir' : Path} (s : Site) (hname : IsFileName name)
    (hother : name ∉ s.files.map (·.1)) (d : Disk) :
    Disk.Stays (dir.child name) d (s.exportTo dir' d).2 := by
  have hmade := Disk.stays_makeDirectory (dir.child name) dir' d
  rw [exportTo]
  rcases hmake : d.makeDirectory dir' with ⟨e | u, d'⟩
  · rwa [hmake] at hmade
  · rw [hmake] at hmade
    refine hmade.trans (stays_writeFiles hname (fun f hf => ⟨isFileName_files s f hf, ?_⟩) d')
    exact fun heq => hother (heq ▸ List.mem_map_of_mem hf)

theorem keepsOthers_exportTo (s : Site) (dir : Path) (d : Disk) :
    d.KeepsOthers dir (s.files.map (·.1)) (s.exportTo dir d).2 := fun _ bytes hname hother hread =>
  stays_exportTo s hname hother d bytes hread

theorem names_generate (c : SiteContent) (o : SiteOptions) :
    (generate c o).files.map (·.1) = fileNames (c.has .blog) (c.has .blog) := by
  rw [names_files, generate]
  cases c.has .blog <;> rfl

end Site

/-- Whether the website can be exported: its pages can link to its posts, and its texts have
UTF-8. -/
def SiteContent.isExportable (c : SiteContent) (o : SiteOptions) : Bool :=
  c.isLinkable && (Site.generate c o).files.all (·.2.isEncodable)

theorem SiteContent.Encodable.isExportable {c : SiteContent} (h : c.Encodable) (o : SiteOptions) :
    c.isExportable o = true := by
  refine Bool.and_eq_true_iff.mpr ⟨?_, List.all_eq_true.mpr (h.isEncodable_files o)⟩
  unfold SiteContent.isLinkable
  cases hblog : c.has .blog with
  | false => rfl
  | true => exact List.all_eq_true.mpr fun p hp => (h.posts hblog p hp).id

end CivicSite
