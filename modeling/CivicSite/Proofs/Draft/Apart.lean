import CivicSite.Proofs.Draft.Lenient
import CivicSite.Proofs.Store.Refinement

/-!
# Drafts of two settlements

The drafts of all settlements are kept in one store, in a file even in one text that is written anew
at every save. What the cache does for one settlement nevertheless leaves the draft of another one
as it was, whatever the store holds. In memory this is a frame rule of entries
(`Use.get?_run_memory`). A file mirrors entries in memory (`Store.Mirrors`), so the rule carries
over; a file that cannot be gone through stays as it is; and a place where no file can be kept has
no drafts, before and after (`Disk.noFile_writeEntries`).

One thing breaks the rule. A draft that has no UTF-8 is refused only after the file was emptied, so
the drafts of all settlements are lost with it (`losing`).
-/

namespace CivicSite

/-! ## Where no file can be kept -/

namespace Disk

variable {d d' : Disk} {p : Path}

theorem not_hasDirectory_of_make (h : d.make p ≠ .found .directory) : ¬ d.HasDirectory p :=
  fun hd => h (make_eq_found.mpr hd)

/-- A directory that could not be made is not there, whatever was made on the way to it. -/
theorem not_hasDirectory_of_makeWithin {depth : Nat} {e : Fault}
    (h : makeWithin depth p d = (.error e, d')) : ¬ d'.HasDirectory p := by
  fun_induction makeWithin depth p d generalizing d' e with
  | case1 => cases h
  | case2 => cases h
  | case3 _ _ _ _ hmake =>
      cases h
      exact not_hasDirectory_of_make (by rw [hmake]; nofun)
  | case4 p d depth _ _ d₁ hparent ih =>
      cases h
      rintro ⟨place, hfollow, -⟩
      exact ih hparent (hasDirectory_parent hfollow)
  | case5 => cases h
  | case6 => cases h
  | case7 _ _ _ _ _ _ _ hmake =>
      cases h
      exact not_hasDirectory_of_make (by rw [hmake]; nofun)
  | case8 _ _ _ _ _ _ _ hmake =>
      cases h
      exact not_hasDirectory_of_make (by rw [hmake]; nofun)
  | case9 _ _ _ _ hmake _ =>
      cases h
      exact not_hasDirectory_of_make (by rw [hmake]; nofun)

theorem not_hasDirectory_of_makeDirectory {e : Fault} (hask : isUnaskable p = false)
    (h : d.makeDirectory p = (.error e, d')) : ¬ d'.HasDirectory p := by
  rw [makeDirectory, hask, if_neg Bool.false_ne_true] at h
  exact not_hasDirectory_of_makeWithin h

/-- No file can be read under a path. -/
def NoFile (d : Disk) (p : Path) : Prop := ∀ bytes, d.readFile p ≠ .ok bytes

theorem noFile_of_not_serves (h : ¬ d.Serves p) : d.NoFile p :=
  fun _ hread => h (serves_of_readFile hread)

/-- A file that was found after it was written could be written. -/
theorem writable_of_writeBytes {bytes found : ByteArray}
    (h : (d.writeBytes p bytes).2.readFile p = .ok found) :
    ∃ place, d.locate p = .ok place ∧ d.nodeAt? place ≠ some .directory := by
  unfold writeBytes at h
  split at h
  · rename_i hlocate
    obtain ⟨place, hplace, -⟩ := readFile_eq_ok h
    rw [hlocate] at hplace
    cases hplace
  · rename_i place hlocate
    refine ⟨place, hlocate, fun hnode => ?_⟩
    rw [hnode] at h
    obtain ⟨place', hplace, hfile⟩ := readFile_eq_ok h
    rw [hlocate] at hplace
    cases hplace
    rw [hnode] at hfile
    cases hfile

theorem writable_of_writeFile {text : Text} {found : ByteArray}
    (h : (d.writeFile p text).2.readFile p = .ok found) :
    ∃ place, d.locate p = .ok place ∧ d.nodeAt? place ≠ some .directory := by
  unfold writeFile at h
  split at h
  · exact writable_of_writeBytes h
  · exact writable_of_writeBytes h

/-- Where no file can be kept none comes to be, although directories may. -/
theorem noFile_writeEntries (h : ¬ d.Serves p) (es : Entries Text) :
    (Store.writeEntries d p es).2.NoFile p := by
  intro bytes hread
  obtain ⟨place, hlocate, -⟩ := readFile_eq_ok hread
  obtain ⟨hask, hfollow⟩ := locate_eq_ok hlocate
  unfold Store.writeEntries at hread hfollow
  cases hmake : d.makeDirectory p.parent with
  | mk result d' =>
      rw [hmake] at hread hfollow
      cases result with
      | error e =>
          exact not_hasDirectory_of_makeDirectory (isUnaskable_parent hask) hmake
            (hasDirectory_parent hfollow)
      | ok u =>
          obtain ⟨place', hplace, hnode⟩ := writable_of_writeFile hread
          exact h ⟨d', place', hmake, hplace, hnode⟩

theorem locate_error {e : Fault} (h : d.locate p = .error e) :
    (e.isValueFault || e.isSystemFault) = true := by
  unfold locate at h
  by_cases hask : isUnaskable p = true
  · rw [if_pos hask] at h
    cases h
    rfl
  · rw [if_neg hask] at h
    cases hfollow : d.follow p with
    | ok place => rw [hfollow] at h; cases h
    | error o =>
        rw [hfollow] at h
        cases h
        cases o <;> rfl

theorem readFile_error {e : Fault} (h : d.readFile p = .error e) :
    (e.isValueFault || e.isSystemFault) = true := by
  unfold readFile at h
  cases hplace : d.locate p with
  | error e' =>
      rw [hplace] at h
      cases h
      exact locate_error hplace
  | ok place =>
      rw [hplace] at h
      simp only [Bind.bind, Except.bind] at h
      split at h <;> cases h <;> rfl

end Disk

namespace DraftCache

variable {σ τ : Type} {settlement : Text}

/-! ## Loading -/

/-- What loading makes of an answer of the store. -/
theorem load_congr {store : Store σ} {store' : Store τ} {s : σ} {s' : τ}
    (h : (store.get (keyFor settlement) s).1 = (store'.get (keyFor settlement) s').1) :
    (load store settlement s).1 = (load store' settlement s').1 := by
  unfold load
  generalize store.get (keyFor settlement) s = r at h ⊢
  generalize store'.get (keyFor settlement) s' = r' at h ⊢
  obtain ⟨result, left⟩ := r
  obtain ⟨result', left'⟩ := r'
  dsimp only at h
  subst h
  cases result with
  | error e => rfl
  | ok text? =>
      cases text? with
      | none => rfl
      | some text =>
          dsimp only
          cases decode text with
          | ok draft => rfl
          | error e => rfl

theorem load_of_none {store : Store σ} {s : σ}
    (h : (store.get (keyFor settlement) s).1 = .ok none) :
    (load store settlement s).1 = .ok none := by
  have hempty : (Store.memory.get (keyFor settlement) []).1 = .ok none := rfl
  exact load_congr (h.trans hempty.symm)

theorem load_of_error {store : Store σ} {s : σ} {e : Fault}
    (h : (store.get (keyFor settlement) s).1 = .error e)
    (he : (e.isValueFault || e.isSystemFault) = true) :
    (load store settlement s).1 = .ok none := by
  unfold load
  generalize store.get (keyFor settlement) s = r at h ⊢
  obtain ⟨result, left⟩ := r
  dsimp only at h
  subst h
  exact if_pos he

/-- Where no file can be read there are no entries, or a fault that the cache passes over. -/
theorem readEntries_of_noFile {d : Disk} {p : Path} (h : d.NoFile p) :
    Store.readEntries d p = .ok []
      ∨ ∃ e, Store.readEntries d p = .error e ∧ (e.isValueFault || e.isSystemFault) = true := by
  cases hexists : d.exists? p with
  | error e =>
      refine .inr ⟨e, ?_, ?_⟩
      · unfold Store.readEntries
        rw [hexists]
        rfl
      · unfold Disk.exists? at hexists
        split at hexists
        · cases hexists
        · split at hexists <;> cases hexists
          rfl
  | ok there =>
      cases there with
      | false => exact .inl (Store.readEntries_of_missing hexists)
      | true =>
          cases hfile : d.readFile p with
          | ok bytes => exact absurd hfile (h bytes)
          | error e =>
              refine .inr ⟨e, ?_, Disk.readFile_error hfile⟩
              unfold Store.readEntries Store.readText
              rw [hexists, hfile]
              rfl

/-- Where no file can be read there is no draft. -/
theorem load_of_noFile {d : Disk} {p : Path} (h : d.NoFile p) :
    (load (Store.file p) settlement d).1 = .ok none := by
  rcases readEntries_of_noFile h with hread | ⟨e, hread, he⟩
  · refine load_of_none ?_
    rw [Store.file_get, hread]
    rfl
  · refine load_of_error ?_ he
    rw [Store.file_get, hread]
    rfl

/-- A draft in a file is the one that memory has under its key. -/
theorem load_of_mirrors {d : Disk} {p : Path} {fault? : Option Fault} {m : Entries Text}
    (h : Store.Mirrors p d fault? m) :
    (load (Store.file p) settlement d).1 = (load Store.memory settlement m).1 := by
  cases h with
  | readable _ hread _ =>
      refine load_congr ?_
      rw [Store.file_get, hread]
      rfl
  | @unreadable e _ hread hpassed =>
      refine load_of_error (e := e) ?_ (by rw [hpassed, Bool.true_or])
      rw [Store.file_get, hread]
      rfl

/-! ## Uses -/

/-- What the cache is used for, for one settlement. -/
inductive Use where
  | load
  | save (components : List Component) (css : Text)
  | clear

namespace Use

/-- What a use leaves of the clock and of the store. -/
def run (store : Store σ) (settlement : Text) (u : Use) (clock : Supply) (s : σ) : Supply × σ :=
  match u with
  | load => (clock, (DraftCache.load store settlement s).2)
  | save components css => (DraftCache.save store settlement components css clock s).2
  | clear => (clock, (DraftCache.clear store settlement s).2)

/-- What a use leaves of the clock. -/
def tick (clock : Supply) : Use → Supply
  | save _ _ => clock.draw.2
  | _ => clock

/-- Whether a use can be kept: it saves nothing without UTF-8. -/
def isKept (settlement : Text) (clock : Supply) : Use → Bool
  | save components css => (keyFor settlement).isEncodable
      && (encode ⟨settlement, components, css, clock.draw.1⟩).isEncodable
  | _ => true

theorem run_load (store : Store σ) (settlement : Text) (clock : Supply) (s : σ) :
    load.run store settlement clock s = (clock, (store.get (keyFor settlement) s).2) :=
  congrArg (Prod.mk clock) (Session.load_stored store settlement s)

theorem run_save (store : Store σ) (settlement : Text) (components : List Component) (css : Text)
    (clock : Supply) (s : σ) :
    (save components css).run store settlement clock s
      = (clock.draw.2, (store.set (keyFor settlement)
          (encode ⟨settlement, components, css, clock.draw.1⟩) s).2) := by
  unfold run DraftCache.save
  dsimp only
  rcases store.set _ _ s with ⟨_ | _, _⟩ <;> rfl

theorem run_clear (store : Store σ) (settlement : Text) (clock : Supply) (s : σ) :
    clear.run store settlement clock s = (clock, (store.delete (keyFor settlement) s).2) := by
  unfold run
  rw [Session.clear_eq]

theorem fst_run (store : Store σ) (settlement : Text) (u : Use) (clock : Supply) (s : σ) :
    (u.run store settlement clock s).1 = u.tick clock := by
  cases u with
  | load => rfl
  | save components css => rw [run_save]; rfl
  | clear => rfl

end Use

/-- What a run of uses leaves of the clock and of the store. -/
def afterUses (store : Store σ) (settlement : Text) : List Use → Supply → σ → Supply × σ
  | [], clock, s => (clock, s)
  | u :: rest, clock, s =>
    let r := u.run store settlement clock s
    afterUses store settlement rest r.1 r.2

/-- Whether a run of uses is to save what has no UTF-8. -/
def losing (settlement : Text) : List Use → Supply → Bool
  | [], _ => false
  | u :: rest, clock => !u.isKept settlement clock || losing settlement rest (u.tick clock)

/-! ## In memory -/

variable {a b : Text}

theorem keyFor_ne (h : a ≠ b) : keyFor a ≠ keyFor b :=
  fun hkeys => h (List.append_cancel_left hkeys)

theorem get?_put_of_ne (h : a ≠ b) (m : Entries Text) (text : Text) :
    (m.put (keyFor a) text).get? (keyFor b) = m.get? (keyFor b) := by
  rw [Entries.get?_put, if_neg (by simpa using keyFor_ne h)]

theorem get?_remove_of_ne (h : a ≠ b) (m : Entries Text) :
    (m.remove (keyFor a)).get? (keyFor b) = m.get? (keyFor b) := by
  rw [Entries.get?_remove, if_neg (by simpa using keyFor_ne h)]

theorem Use.get?_run_memory (h : a ≠ b) (u : Use) (clock : Supply) (m : Entries Text) :
    (u.run Store.memory a clock m).2.get? (keyFor b) = m.get? (keyFor b) := by
  cases u with
  | load => rw [run_load]; rfl
  | save components css => rw [run_save]; exact get?_put_of_ne h m _
  | clear => rw [run_clear]; exact get?_remove_of_ne h m

theorem get?_afterUses_memory (h : a ≠ b) (uses : List Use) (clock : Supply) (m : Entries Text) :
    (afterUses Store.memory a uses clock m).2.get? (keyFor b) = m.get? (keyFor b) := by
  induction uses generalizing clock m with
  | nil => rfl
  | cons u rest ih => rw [afterUses, ih, u.get?_run_memory h]

theorem load_memory_congr {m m' : Entries Text} (h : m'.get? (keyFor b) = m.get? (keyFor b)) :
    (load Store.memory b m').1 = (load Store.memory b m).1 :=
  load_congr (congrArg Except.ok h)

theorem load_memory_of_get?_eq_none {m : Entries Text} (h : m.get? (keyFor b) = none) :
    (load Store.memory b m).1 = .ok none :=
  load_of_none (congrArg Except.ok h)

/-! ## In a file -/

variable {p : Path} {d : Disk} {fault? : Option Fault} {m : Entries Text}

/-- **One use**: a file goes on mirroring entries, of which another settlement's is the one that it
had, or gone. -/
theorem mirrors_use (h : Store.Mirrors p d fault? m) (hab : a ≠ b) (u : Use) (clock : Supply) :
    ∃ fault' m', Store.Mirrors p (u.run (Store.file p) a clock d).2 fault' m'
      ∧ m'.get? (keyFor b) = if u.isKept a clock then m.get? (keyFor b) else none := by
  cases u with
  | load =>
      rw [Use.run_load]
      exact ⟨fault?, m, h, rfl⟩
  | save components css =>
      rw [Use.run_save]
      by_cases hkept : (Use.save components css).isKept a clock = true
      · obtain ⟨hkey, htext⟩ := (Bool.and_eq_true _ _).mp hkept
        obtain ⟨-, hmirrors, -⟩ := h.set hkey htext
        rw [if_pos hkept]
        exact ⟨_, _, hmirrors, get?_put_of_ne hab m _⟩
      · rw [if_neg hkept]
        exact ⟨_, [], h.set_unencodable hkept, rfl⟩
  | clear =>
      rw [Use.run_clear]
      obtain ⟨-, hmirrors, -⟩ := h.delete (keyFor a)
      exact ⟨fault?, _, hmirrors, get?_remove_of_ne hab m⟩

/-- **A run of uses**. -/
theorem mirrors_afterUses (h : Store.Mirrors p d fault? m) (hab : a ≠ b) (uses : List Use)
    (clock : Supply) :
    ∃ fault' m', Store.Mirrors p (afterUses (Store.file p) a uses clock d).2 fault' m'
      ∧ m'.get? (keyFor b) = if losing a uses clock then none else m.get? (keyFor b) := by
  induction uses generalizing clock d fault? m with
  | nil => exact ⟨fault?, m, h, rfl⟩
  | cons u rest ih =>
      obtain ⟨fault₁, m₁, hmirrors, hget⟩ := mirrors_use h hab u clock
      obtain ⟨fault₂, m₂, hafter, hrest⟩ := ih hmirrors (u.tick clock)
      refine ⟨fault₂, m₂, ?_, ?_⟩
      · rw [afterUses, Use.fst_run]
        exact hafter
      · rw [hrest, hget, losing]
        cases u.isKept a clock <;> simp

/-! ## Drafts stay apart -/

/-- A file in good order mirrors the entries that are found in it. -/
theorem exists_mirrors (hserves : d.Serves p) (hopens : Store.Opens p d)
    (hencodable : ∀ es, Store.readEntries d p = .ok es → Store.AllEncodable es) :
    ∃ fault? m, Store.Mirrors p d fault? m := by
  rcases Store.readEntries_cases hserves with ⟨es, hread, -⟩ | ⟨e, hread, he | rfl⟩
  · exact ⟨none, es, .readable hserves hread (hencodable es hread)⟩
  · exact ⟨some e, [], .unreadable hserves hread he⟩
  · obtain ⟨es, hes⟩ := hopens
    rw [Store.recoverEntries, hread] at hes
    cases hes

/-- A file whose JSON lies too deep in itself is left alone. -/
theorem afterUses_of_not_opens (hserves : d.Serves p) (hopens : ¬ Store.Opens p d) (uses : List Use)
    (clock : Supply) : (afterUses (Store.file p) a uses clock d).2 = d := by
  have hrecover := (Store.recoverEntries_of_not_opens hserves hopens).2
  have huse : ∀ (u : Use) (clock : Supply), (u.run (Store.file p) a clock d).2 = d := by
    intro u clock
    cases u with
    | load => rw [Use.run_load]; rfl
    | save components css => simp only [Use.run_save, Store.file, hrecover]
    | clear => simp only [Use.run_clear, Store.file, hrecover]
  induction uses generalizing clock with
  | nil => rfl
  | cons u rest ih => rw [afterUses, huse, ih]

/-- A set or a deletion leaves the disk as it is or writes the file. -/
theorem noFile_use (hserves : ¬ d.Serves p) (u : Use) (clock : Supply) :
    (u.run (Store.file p) a clock d).2.NoFile p := by
  have hnone : d.NoFile p := Disk.noFile_of_not_serves hserves
  cases u with
  | load => rw [Use.run_load]; exact hnone
  | save components css =>
      rw [Use.run_save]
      simp only [Store.file]
      split
      · exact hnone
      · exact Disk.noFile_writeEntries hserves _
  | clear =>
      rw [Use.run_clear]
      simp only [Store.file]
      split
      · exact hnone
      · split
        · exact Disk.noFile_writeEntries hserves _
        · exact hnone

/-- Where there is no file there is no draft for other settlements afterwards. -/
theorem load_afterUses_of_noFile (hab : a ≠ b) (hnone : d.NoFile p) (uses : List Use)
    (clock : Supply) :
    (load (Store.file p) b (afterUses (Store.file p) a uses clock d).2).1 = .ok none := by
  induction uses generalizing clock d with
  | nil => exact load_of_noFile hnone
  | cons u rest ih =>
      by_cases hserves : d.Serves p
      · -- the file can be made, and is at first without entries
        have hmissing : d.exists? p = .ok false := by
          rcases hserves.exists_or with h | ⟨bytes, -, hread⟩
          · exact h
          · exact absurd hread (hnone bytes)
        have hmirrors : Store.Mirrors p d none [] :=
          .readable hserves (Store.readEntries_of_missing hmissing)
            fun e he => absurd he List.not_mem_nil
        obtain ⟨fault', m', hafter, hget⟩ := mirrors_afterUses hmirrors hab (u :: rest) clock
        rw [load_of_mirrors hafter]
        refine load_memory_of_get?_eq_none (hget.trans ?_)
        split <;> rfl
      · exact ih (noFile_use hserves u clock) _

/-- **What is done for one settlement leaves the draft of another one as it was**, be it a draft, a
miss or a fault. In memory this is always so. In a file it is so unless a draft is saved that has no
UTF-8: the file is emptied for it, and the other draft is lost. -/
theorem drafts_apart (hab : a ≠ b) (uses : List Use) (clock : Supply) :
    (∀ m, (load Store.memory b (afterUses Store.memory a uses clock m).2).1
        = (load Store.memory b m).1)
      ∧ ∀ (p : Path) (d : Disk),
        (∀ es, Store.readEntries d p = .ok es → Store.AllEncodable es) →
        let after := (load (Store.file p) b (afterUses (Store.file p) a uses clock d).2).1
        (Store.Opens p d → losing a uses clock = true → after = .ok none)
          ∧ (¬ Store.Opens p d ∨ losing a uses clock = false →
            after = (load (Store.file p) b d).1) := by
  refine ⟨fun m => load_memory_congr (get?_afterUses_memory hab uses clock m), ?_⟩
  intro p d hencodable after
  by_cases hserves : d.Serves p
  · by_cases hopens : Store.Opens p d
    · obtain ⟨fault?, m, hmirrors⟩ := exists_mirrors hserves hopens hencodable
      obtain ⟨fault', m', hafter, hget⟩ := mirrors_afterUses hmirrors hab uses clock
      have hload : after = (load Store.memory b m').1 := load_of_mirrors hafter
      refine ⟨fun _ hlosing => ?_, fun h => ?_⟩
      · rw [if_pos hlosing] at hget
        rw [hload, load_memory_of_get?_eq_none hget]
      · have hkept : losing a uses clock = false := h.resolve_left (not_not_intro hopens)
        rw [hkept, if_neg Bool.false_ne_true] at hget
        rw [hload, load_of_mirrors hmirrors, load_memory_congr hget]
    · refine ⟨fun h => absurd h hopens, fun _ => ?_⟩
      exact congrArg (fun d => (load (Store.file p) b d).1)
        (afterUses_of_not_opens hserves hopens uses clock)
  · have hnone : d.NoFile p := Disk.noFile_of_not_serves hserves
    have hafter : after = .ok none := load_afterUses_of_noFile hab hnone uses clock
    exact ⟨fun _ _ => hafter, fun _ => hafter.trans (load_of_noFile hnone).symm⟩

/-- A stylesheet saved for one settlement, with UTF-8 or without, in a file with another's draft. -/
theorem drafts_apart_stylesheet :
    let p : Path := ⟨["drafts.json"]⟩
    let clock : Supply := .ofSequence fun _ => "now"
    let text : String := "\x7b\"website-draft:b\": \"\x7b\x7d\"\x7d"
    let d : Disk := ⟨[(p, .file text.toUTF8)]⟩
    let after (css : Text) :=
      (load (Store.file p) "b" (afterUses (Store.file p) "a" [.save [] css, .load] clock d).2).1
    after "p" = .ok (some ⟨"b", [], "", ""⟩) ∧ after [.lone 0] = .ok none := by
  -- the text and the path are kept from being evaluated where they play no part
  have hgeneral : ∀ (text : String) (name : Text) (css : Text) (clock : Supply),
      let d : Disk := ⟨[(⟨[name]⟩, .file text.toUTF8)]⟩
      let after := (load (Store.file ⟨[name]⟩) "b"
        (afterUses (Store.file ⟨[name]⟩) "a" [.save [] css, .load] clock d).2).1
      d.readFile ⟨[name]⟩ = .ok text.toUTF8 →
      Json.read text = .ok (.object [(keyFor "b", .text "\x7b\x7d")]) →
      (losing "a" [.save [] css, .load] clock = false →
          after = (load Store.memory "b" [(keyFor "b", "\x7b\x7d")]).1)
        ∧ (losing "a" [.save [] css, .load] clock = true → after = .ok none) := by
    intro text name css clock d after hfile hjson
    have hencodable : Store.AllEncodable (Store.textEntries [(keyFor "b", .text "\x7b\x7d")]) := by
      intro e he
      rw [List.mem_singleton.mp he]
      exact ⟨rfl, rfl⟩
    have hmirrors := (Store.Starts.object hfile hjson hencodable).mirrors
    have hapart := (drafts_apart (a := "a") (b := "b") (by decide) [.save [] css, .load] clock).2
      ⟨[name]⟩ d fun es hes => by
        cases hmirrors with
        | readable _ hread _ =>
            rw [hread] at hes
            cases hes
            exact hencodable
    refine ⟨fun h => (hapart.2 (.inr h)).trans (load_of_mirrors hmirrors), ?_⟩
    exact hapart.1 ⟨_, hmirrors.recover⟩
  have hread : Json.read ("\x7b\"website-draft:b\": \"\x7b\x7d\"\x7d" : String)
      = .ok (.object [(keyFor "b", .text "\x7b\x7d")]) := by rfl
  have hsorted : Component.byPosition [] = [] := List.mergeSort_nil
  have hdecoded : decode "\x7b\x7d" = .ok ⟨"", [], "", ""⟩ :=
    congrArg (fun cs => Except.ok (⟨"", cs, "", ""⟩ : Draft)) hsorted
  have hloaded : (load Store.memory "b" [(keyFor "b", "\x7b\x7d")]).1
      = .ok (some ⟨"b", [], "", ""⟩) := by
    have hget : Store.memory.get (keyFor "b") [(keyFor "b", "\x7b\x7d")]
        = (.ok (some "\x7b\x7d"), _) := rfl
    rw [load_of_get hget, hdecoded]
  intro p clock text d after
  refine ⟨?_, ?_⟩
  · exact ((hgeneral text "drafts.json" "p" clock rfl hread).1 (by decide +kernel)).trans hloaded
  · exact (hgeneral text "drafts.json" [.lone 0] clock rfl hread).2 (by decide +kernel)

end DraftCache

end CivicSite
