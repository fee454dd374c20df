import CivicSite.Proofs.Json.Encodable
import CivicSite.Proofs.Json.Keys
import CivicSite.Proofs.Json.RoundTrip
import CivicSite.Proofs.Store.Disk
import CivicSite.Store.File

/-!
# Stores that work

A store works if it gives back what it took and no longer has what it let go. `Works` says so for
any store, and says as exactly what happens otherwise: which texts it refuses, and which states it
cannot go through. The store in memory refuses nothing. The store in a file refuses what it has no
bytes for, with everything that is already in the file, and a file whose JSON lies too deep in
itself it neither reads nor writes.
-/

namespace CivicSite

namespace Store

/-! ## The law -/

/-- The store has no text under a key, or none that can be read. -/
def Lacks {σ : Type} (store : Store σ) (key : Text) (s : σ) : Prop :=
  (store.get key s).1 = .ok none ∨ ∃ e, (store.get key s).1 = .error e ∧ e.isValueFault = true

/-- What a store does in the states that are `good`. A state that is not `open` is one that the
store cannot go through; what it `takes` it gives back, anything else it refuses. -/
structure Works {σ : Type} (store : Store σ) (good opens : σ → Prop)
    (takes : Text → Text → σ → Prop) : Prop where
  get_state : ∀ {s}, good s → ∀ key, (store.get key s).2 = s
  set_good : ∀ {s}, good s → ∀ key value, good (store.set key value s).2
  delete_good : ∀ {s}, good s → ∀ key, good (store.delete key s).2
  set_taken : ∀ {s key value}, good s → takes key value s →
    (store.set key value s).1 = .ok ()
      ∧ (store.get key (store.set key value s).2).1 = .ok (some value)
  set_refused : ∀ {s key value}, good s → ¬ takes key value s →
    (∃ e, (store.set key value s).1 = .error e ∧ e.isSystemFault = false)
      ∧ ∀ v, (store.get key (store.set key value s).2).1 ≠ .ok (some v)
  delete_open : ∀ {s} key, good s → opens s →
    (∀ e, (store.delete key s).1 = .error e → e.isValueFault = true)
      ∧ store.Lacks key (store.delete key s).2
  delete_shut : ∀ {s key}, good s → ¬ opens s → store.delete key s = (.error .tooDeep, s)

/-! ## The store in memory -/

theorem memory_works : memory.Works (fun _ => True) (fun _ => True) fun _ _ _ => True where
  get_state := fun _ _ => rfl
  set_good := fun _ _ _ => trivial
  delete_good := fun _ _ => trivial
  set_taken := fun {s key value} _ _ => by
    refine ⟨rfl, ?_⟩
    show Except.ok ((Entries.put s key value).get? key) = _
    rw [Entries.get?_put, beq_self_eq_true, if_pos rfl]
  set_refused := fun _ h => absurd trivial h
  delete_open := fun {s} key _ _ => by
    refine ⟨fun e h => (nomatch h), Or.inl ?_⟩
    show Except.ok ((Entries.remove s key).get? key) = _
    rw [Entries.get?_remove, beq_self_eq_true, if_pos rfl]
  delete_shut := fun _ h => absurd trivial h

/-! ## The text of a file -/

theorem textEntries_map (es : Entries Text) :
    textEntries (es.map fun e => (e.1, Json.text e.2)) = es := by
  induction es with
  | nil => rfl
  | cons e rest ih => exact congrArg (e :: ·) ih

theorem keys_textEntries_sublist (entries : Entries Json) :
    ((textEntries entries).map Prod.fst).Sublist (entries.map Prod.fst) := by
  unfold textEntries
  induction entries with
  | nil => exact List.Sublist.refl _
  | cons e rest ih =>
      obtain ⟨k, v⟩ := e
      cases v with
      | text s => exact ih.cons_cons k
      | null => exact ih.cons k
      | bool b => exact ih.cons k
      | int i => exact ih.cons k
      | double x => exact ih.cons k
      | list items => exact ih.cons k
      | object entries => exact ih.cons k

/-- The text of a file reads as the entries that it was written for. -/
theorem read_entriesText {es : Entries Text} (h : (es.map Prod.fst).Nodup) :
    Json.read (entriesText es) = .ok (.object (es.map fun e => (e.1, Json.text e.2))) := by
  have hdepth : ∀ es : Entries Text,
      Json.depthOfEntries (es.map fun e => (e.1, Json.text e.2)) = 0 := by
    intro es
    induction es with
    | nil => rfl
    | cons e rest ih =>
        rw [List.map_cons, Json.depthOfEntries, ih]
        rfl
  have hkeeps (s : Text) : Json.Style.Keeps ⟨false, some 2⟩ s := Json.Style.keeps_of_not_ascii rfl s
  refine Json.read_render ?_ ⟨?_, ?_⟩
  · rw [Json.depth, hdepth]
    decide
  · rw [List.map_map]
    exact h
  · refine Json.entriesReadable_iff.mpr fun e he => ?_
    obtain ⟨e, -, rfl⟩ := List.mem_map.mp he
    exact ⟨hkeeps e.1, hkeeps e.2⟩

/-! ## The bytes of a file -/

/-- Whether all keys and values have UTF-8. -/
def AllEncodable (es : Entries Text) : Prop :=
  ∀ e ∈ es, e.1.isEncodable = true ∧ e.2.isEncodable = true

theorem isEncodable_writeEntries (es : Entries Text) (depth : Nat) :
    (Json.writeEntries ⟨false, some 2⟩ depth
        (es.map fun e => (e.1, Json.text e.2))).isEncodable = true
      ↔ AllEncodable es := by
  induction es with
  | nil => exact ⟨fun _ _ he => (List.not_mem_nil he).elim, fun _ => rfl⟩
  | cons e rest ih =>
      have hseparator : (Json.separator ⟨false, some 2⟩ depth).isEncodable = true :=
        Text.isEncodable_append.mpr ⟨rfl, Json.isEncodable_lineBreak ⟨false, some 2⟩ depth⟩
      have hcolon : (Text.ofString ": ").isEncodable = true := rfl
      rw [AllEncodable, List.forall_mem_cons, ← AllEncodable, ← ih]
      simp only [List.map_cons, Json.writeEntries, Json.write, Text.isEncodable_append, hseparator,
        hcolon, Json.isEncodable_writeText, true_and, and_true]

/-- A file has bytes if all keys and values in it have. -/
theorem isEncodable_entriesText (es : Entries Text) :
    (entriesText es).isEncodable = true ↔ AllEncodable es := by
  cases es with
  | nil => exact ⟨fun _ _ he => (List.not_mem_nil he).elim, fun _ => rfl⟩
  | cons e rest =>
      have hopen : (Text.ofString "\x7b").isEncodable = true := rfl
      have hcolon : (Text.ofString ": ").isEncodable = true := rfl
      have hclose : (Text.ofString "\x7d").isEncodable = true := rfl
      rw [AllEncodable, List.forall_mem_cons, ← AllEncodable, ← isEncodable_writeEntries rest 1]
      simp only [entriesText, Json.render, List.map_cons, Json.write, Text.isEncodable_append,
        hopen, hcolon, hclose, Json.isEncodable_lineBreak, Json.isEncodable_writeText, true_and,
        and_true]

/-! ## Reading a file -/

/-- The entries in the bytes of a file. -/
def entriesOf (p : Path) (bytes : ByteArray) : Except Fault (Entries Text) :=
  match String.fromUTF8? bytes with
  | none => .error .malformedUtf8
  | some s =>
    match Json.read s with
    | .ok (.object entries) => .ok (textEntries entries)
    | .ok _ => .error (.value (.notAnObject p.text))
    | .error e => .error (.ofReadError e)

theorem readEntries_of_missing {d : Disk} {p : Path} (h : d.exists? p = .ok false) :
    readEntries d p = .ok [] := by
  unfold readEntries
  rw [h]
  rfl

theorem readEntries_of_file {d : Disk} {p : Path} {bytes : ByteArray}
    (h : d.exists? p = .ok true) (hread : d.readFile p = .ok bytes) :
    readEntries d p = entriesOf p bytes := by
  unfold readEntries readText entriesOf
  rw [h, hread]
  simp only [Bind.bind, Except.bind, pure, Except.pure]
  cases String.fromUTF8? bytes with
  | none => rfl
  | some s =>
      cases hs : Json.read (Text.ofString s) with
      | error e =>
          dsimp only
          rw [hs]
          rfl
      | ok v =>
          dsimp only
          rw [hs]
          cases v <;> rfl

theorem ofString_of_string? {t : Text} {s : String} (h : t.string? = some s) :
    Text.ofString s = t := by
  obtain ⟨cs, hcs, rfl⟩ := Option.map_eq_some_iff.mp h
  rw [Text.ofString, String.toList_ofList]
  exact (Text.chars?_eq_some_iff.mp hcs).symm

theorem entriesOf_toUTF8 {p : Path} {es : Entries Text} (h : (es.map Prod.fst).Nodup) {s : String}
    (hs : (entriesText es).string? = some s) : entriesOf p s.toUTF8 = .ok es := by
  rw [entriesOf, Text.fromUTF8?_toUTF8]
  simp only [ofString_of_string? hs, read_entriesText h, textEntries_map]

theorem entriesOf_empty (p : Path) : entriesOf p .empty = .error .malformedJson := by
  have h : String.fromUTF8? .empty = some "" := Text.fromUTF8?_toUTF8 ""
  rw [entriesOf, h]
  rfl

theorem nodup_entriesOf {p : Path} {bytes : ByteArray} {es : Entries Text}
    (h : entriesOf p bytes = .ok es) : (es.map Prod.fst).Nodup := by
  unfold entriesOf at h
  split at h
  · cases h
  · split at h
    · rename_i entries hread
      cases h
      exact (keys_textEntries_sublist entries).nodup (Json.distinctKeys_of_read hread).1
    · cases h
    · cases h

/-- What stops those who read a file is about the value in it, or the depth of the JSON. -/
theorem entriesOf_error {p : Path} {bytes : ByteArray} {e : Fault}
    (h : entriesOf p bytes = .error e) : e.isValueFault = true ∨ e = .tooDeep := by
  unfold entriesOf at h
  split at h
  · cases h
    exact Or.inl rfl
  · split at h
    · cases h
    · cases h
      exact Or.inl rfl
    · rename_i e' _
      cases h
      cases e' with
      | malformed => exact Or.inl rfl
      | tooManyDigits n => exact Or.inl rfl
      | tooDeep => exact Or.inr rfl

/-- In a file that serves there are entries, or what keeps them from being read. -/
theorem readEntries_cases {d : Disk} {p : Path} (h : d.Serves p) :
    (∃ es, readEntries d p = .ok es ∧ (es.map Prod.fst).Nodup)
      ∨ ∃ e, readEntries d p = .error e ∧ (e.isValueFault = true ∨ e = .tooDeep) := by
  rcases h.exists_or with hmissing | ⟨bytes, hex, hread⟩
  · exact Or.inl ⟨[], readEntries_of_missing hmissing, List.nodup_nil⟩
  · rw [readEntries_of_file hex hread]
    cases he : entriesOf p bytes with
    | ok es => exact Or.inl ⟨es, rfl, nodup_entriesOf he⟩
    | error e => exact Or.inr ⟨e, rfl, entriesOf_error he⟩

/-! ## Writing a file -/

/-- The JSON in a file does not lie too deep in itself. -/
def Opens (p : Path) (d : Disk) : Prop := ∃ es, recoverEntries d p = .ok es

/-- A file takes a text under a key if its JSON can be read or dropped, and if all that will be in
it has UTF-8. -/
def Takes (p : Path) (key value : Text) (d : Disk) : Prop :=
  ∃ es, recoverEntries d p = .ok es ∧ AllEncodable (es.put key value)

/-- A file without entries takes whatever has UTF-8. -/
theorem takes_of_nil {d : Disk} {p : Path} (h : recoverEntries d p = .ok []) {key value : Text}
    (hkey : key.isEncodable = true) (hvalue : value.isEncodable = true) : Takes p key value d :=
  ⟨[], h, fun _ he => List.mem_singleton.mp he ▸ ⟨hkey, hvalue⟩⟩

theorem nodup_recoverEntries {d : Disk} {p : Path} (h : d.Serves p) {es : Entries Text}
    (hes : recoverEntries d p = .ok es) : (es.map Prod.fst).Nodup := by
  unfold recoverEntries at hes
  rcases readEntries_cases h with ⟨es', hread, hnodup⟩ | ⟨e, hread, -⟩
  · rw [hread] at hes
    cases hes
    exact hnodup
  · rw [hread] at hes
    dsimp only at hes
    split at hes
    · cases hes
      exact List.nodup_nil
    · cases hes

theorem recoverEntries_of_not_opens {d : Disk} {p : Path} (h : d.Serves p) (hp : ¬ Opens p d) :
    readEntries d p = .error .tooDeep ∧ recoverEntries d p = .error .tooDeep := by
  unfold Opens recoverEntries at hp
  rcases readEntries_cases h with ⟨es, hread, -⟩ | ⟨e, hread, he | rfl⟩
  · exact absurd ⟨es, by rw [hread]⟩ hp
  · exact absurd ⟨[], by rw [hread]; exact if_pos he⟩ hp
  · refine ⟨hread, ?_⟩
    rw [recoverEntries, hread]
    rfl

/-- After entries were written the file serves still. It has the entries if they have UTF-8, and
nothing that can be read if they do not. -/
theorem writeEntries_spec {d : Disk} {p : Path} (h : d.Serves p) {es : Entries Text}
    (hes : (es.map Prod.fst).Nodup) :
    (writeEntries d p es).2.Serves p
      ∧ if (entriesText es).isEncodable then
          (writeEntries d p es).1 = .ok () ∧ readEntries (writeEntries d p es).2 p = .ok es
        else
          (writeEntries d p es).1 = .error .unencodable
            ∧ readEntries (writeEntries d p es).2 p = .error .malformedJson := by
  unfold writeEntries Disk.writeFile
  cases hs : (entriesText es).string? with
  | some s =>
      obtain ⟨d', d'', hmake, hwrite, hserves, hex, hread⟩ := h.write s.toUTF8
      have hencodable : (entriesText es).isEncodable = true :=
        Text.isEncodable_iff.mpr ⟨s, (ofString_of_string? hs).symm⟩
      rw [hmake, hencodable, if_pos rfl]
      simp only [hwrite]
      exact ⟨hserves, trivial, by rw [readEntries_of_file hex hread, entriesOf_toUTF8 hes hs]⟩
  | none =>
      obtain ⟨d', d'', hmake, hwrite, hserves, hex, hread⟩ := h.write .empty
      have hencodable : ¬ (entriesText es).isEncodable = true := fun he => by
        obtain ⟨s, hs'⟩ := Text.isEncodable_iff.mp he
        rw [hs', Text.string?_ofString] at hs
        cases hs
      rw [hmake, if_neg hencodable]
      simp only [hwrite]
      exact ⟨hserves, rfl, by rw [readEntries_of_file hex hread, entriesOf_empty]⟩

/-! ## The store in a file -/

theorem file_get (p : Path) (key : Text) (d : Disk) :
    ((file p).get key d).1 = (readEntries d p).map (·.get? key) := rfl

theorem file_set_spec {d : Disk} {p : Path} (h : d.Serves p) (key value : Text) :
    ((file p).set key value d).2.Serves p
      ∧ (Takes p key value d → ((file p).set key value d).1 = .ok ()
          ∧ ((file p).get key ((file p).set key value d).2).1 = .ok (some value))
      ∧ (¬ Takes p key value d →
          (∃ e, ((file p).set key value d).1 = .error e ∧ e.isSystemFault = false)
          ∧ ∀ v, ((file p).get key ((file p).set key value d).2).1 ≠ .ok (some v)) := by
  by_cases hopens : Opens p d
  · obtain ⟨es, hes⟩ := hopens
    have hset : (file p).set key value d = writeEntries d p (es.put key value) := by
      simp only [file, hes]
    obtain ⟨hserves, hspec⟩ :=
      writeEntries_spec h (Entries.nodup_put (nodup_recoverEntries h hes) key value)
    have htakes : Takes p key value d ↔ (entriesText (es.put key value)).isEncodable = true := by
      rw [isEncodable_entriesText]
      constructor
      · rintro ⟨es', hes', he⟩
        rw [hes] at hes'
        cases hes'
        exact he
      · exact fun he => ⟨es, hes, he⟩
    rw [hset]
    refine ⟨hserves, fun ht => ?_, fun ht => ?_⟩
    · rw [if_pos (htakes.mp ht)] at hspec
      obtain ⟨hok, hread⟩ := hspec
      refine ⟨hok, ?_⟩
      have hput : (es.put key value).get? key = some value := by
        rw [Entries.get?_put, beq_self_eq_true, if_pos rfl]
      rw [file_get, hread]
      exact congrArg Except.ok hput
    · rw [if_neg (fun he => ht (htakes.mpr he))] at hspec
      obtain ⟨herr, hread⟩ := hspec
      refine ⟨⟨.unencodable, herr, rfl⟩, fun v hv => ?_⟩
      rw [file_get, hread] at hv
      cases hv
  · obtain ⟨hread, hrecover⟩ := recoverEntries_of_not_opens h hopens
    have hset : (file p).set key value d = (.error .tooDeep, d) := by
      simp only [file, hrecover]
    rw [hset]
    have htakes : ¬ Takes p key value d := by
      rintro ⟨es, hes, -⟩
      exact hopens ⟨es, hes⟩
    refine ⟨h, fun ht => absurd ht htakes, fun _ => ⟨⟨.tooDeep, rfl, rfl⟩, ?_⟩⟩
    intro v hv
    rw [file_get, hread] at hv
    cases hv

theorem file_delete_shut {d : Disk} {p : Path} (h : d.Serves p) (hp : ¬ Opens p d) (key : Text) :
    (file p).delete key d = (.error .tooDeep, d) := by
  simp only [file, (recoverEntries_of_not_opens h hp).2]

/-- A key that is not there leaves the disk alone. -/
theorem file_lacks {d : Disk} {p : Path} (h : d.Serves p) {es : Entries Text}
    (hes : recoverEntries d p = .ok es) {key : Text} (hnone : es.get? key = none) :
    (file p).Lacks key d := by
  rcases readEntries_cases h with ⟨es', hread, -⟩ | ⟨e, hread, he⟩
  · have hsame : es' = es := by
      rw [recoverEntries, hread] at hes
      cases hes
      rfl
    refine Or.inl ?_
    rw [file_get, hread, hsame]
    exact congrArg Except.ok hnone
  · refine Or.inr ⟨e, ?_, ?_⟩
    · rw [file_get, hread]
      rfl
    · rcases he with he | rfl
      · exact he
      · rw [recoverEntries, hread] at hes
        cases hes

/-- Entries without a key, written anew. -/
theorem writeEntries_remove {d : Disk} {p : Path} (h : d.Serves p) {es : Entries Text}
    (hes : recoverEntries d p = .ok es) (key : Text) :
    (writeEntries d p (es.remove key)).2.Serves p
      ∧ (∀ e, (writeEntries d p (es.remove key)).1 = .error e → e.isValueFault = true)
      ∧ (file p).Lacks key (writeEntries d p (es.remove key)).2 := by
  have hnodup : ((es.remove key).map Prod.fst).Nodup :=
    (List.filter_sublist.map Prod.fst).nodup (nodup_recoverEntries h hes)
  obtain ⟨hserves, hspec⟩ := writeEntries_spec h hnodup
  refine ⟨hserves, ?_⟩
  split at hspec
  · obtain ⟨hok, hread⟩ := hspec
    refine ⟨fun e he => ?_, Or.inl ?_⟩
    · rw [hok] at he
      cases he
    · have hremoved : (es.remove key).get? key = none := by
        rw [Entries.get?_remove, beq_self_eq_true, if_pos rfl]
      rw [file_get, hread]
      exact congrArg Except.ok hremoved
  · obtain ⟨herr, hread⟩ := hspec
    refine ⟨fun e he => ?_, Or.inr ⟨.malformedJson, ?_, rfl⟩⟩
    · rw [herr] at he
      cases he
      rfl
    · rw [file_get, hread]
      rfl

theorem file_delete_open {d : Disk} {p : Path} (h : d.Serves p) (hp : Opens p d) (key : Text) :
    ((file p).delete key d).2.Serves p
      ∧ (∀ e, ((file p).delete key d).1 = .error e → e.isValueFault = true)
      ∧ (file p).Lacks key ((file p).delete key d).2 := by
  obtain ⟨es, hes⟩ := hp
  have hdelete : (file p).delete key d
      = if (es.get? key).isSome then writeEntries d p (es.remove key) else (.ok (), d) := by
    simp only [file, hes]
  rw [hdelete]
  split
  · exact writeEntries_remove h hes key
  · rename_i hnone
    exact ⟨h, fun e he => (by cases he), file_lacks h hes (by simpa using hnone)⟩

/-- The store in a file works as long as the file can be kept where it is. -/
theorem file_works (p : Path) : (file p).Works (fun d => d.Serves p) (Opens p) (Takes p) where
  get_state := fun _ _ => rfl
  set_good := fun h key value => (file_set_spec h key value).1
  delete_good := fun {d} h key => by
    by_cases hp : Opens p d
    · exact (file_delete_open h hp key).1
    · rw [file_delete_shut h hp]
      exact h
  set_taken := fun {d key value} h ht => (file_set_spec h key value).2.1 ht
  set_refused := fun {d key value} h ht => (file_set_spec h key value).2.2 ht
  delete_open := fun {d} key h hp => (file_delete_open h hp key).2
  delete_shut := fun {d key} h hp => file_delete_shut h hp key

end Store

end CivicSite
