import CivicSite.Proofs.Store.Sibling

/-!
# The store in a file as a store in memory

Whoever only calls the store in a file cannot tell it from the store in memory that starts with the
same entries (`file_refines_memory`). The two are related call by call: the file `Mirrors` the
entries in memory, which one call keeps (`Mirrors.step`) and so any run of calls does
(`Mirrors.after`). Every call that changes something leaves a file whose text is one object, the
entries in memory in their order (`Holds`).

Only a whole number with more digits than the reader takes tells the two apart. Such a file cannot
be read until a text is set, but is written to as if it were empty.
-/

namespace CivicSite

namespace Disk

variable {d : Disk} {p : Path}

/-! ## Files that are there -/

/-- A file that can be read can be written to. -/
theorem serves_of_readFile {bytes : ByteArray} (h : d.readFile p = .ok bytes) : d.Serves p := by
  obtain ⟨place, hlocate, hnode⟩ := readFile_eq_ok h
  obtain ⟨hask, hfollow⟩ := locate_eq_ok hlocate
  have hparent : isUnaskable p.parent = false := isUnaskable_parent hask
  refine ⟨d, place, ?_, hlocate, fun hd => by rw [hnode] at hd; cases hd⟩
  rw [makeDirectory, hparent, if_neg Bool.false_ne_true,
    makeWithin_of_hasDirectory (hasDirectory_parent hfollow)]

end Disk

theorem Entries.remove_of_get?_eq_none {m : Entries Text} {key : Text} (h : m.get? key = none) :
    m.remove key = m := by
  refine List.filter_eq_self.mpr fun e he => ?_
  have hfind : m.find? (·.1 == key) = none := Option.map_eq_none_iff.mp h
  simpa using List.find?_eq_none.mp hfind e he

theorem Entries.mem_put_self {α : Type} (es : Entries α) (key : Text) (v : α) :
    (key, v) ∈ es.put key v := by
  induction es with
  | nil => exact List.mem_singleton_self _
  | cons e rest ih =>
      rw [put]
      split
      · exact List.mem_cons_self
      · exact List.mem_cons_of_mem e ih

namespace Store

/-! ## Calls -/

/-- A call of a store, with texts that have UTF-8. -/
inductive Call where
  | get (key : String)
  | set (key value : String)
  | delete (key : String)

namespace Call

variable {σ : Type}

/-- What a call answers, a text only where it asks for one, and what it leaves of the store. -/
def run (store : Store σ) (s : σ) : Call → Except Fault (Option Text) × σ
  | get key => store.get key s
  | set key value => ((store.set key value s).1.map fun _ => none, (store.set key value s).2)
  | delete key => ((store.delete key s).1.map fun _ => none, (store.delete key s).2)

def isGet : Call → Bool
  | get _ => true
  | _ => false

def isSet : Call → Bool
  | set _ _ => true
  | _ => false

/-- Whether a call changes the entries: it sets a text, or deletes one that is there. -/
def alters (m : Entries Text) : Call → Bool
  | get _ => false
  | set _ _ => true
  | delete key => (m.get? key).isSome

end Call

/-- What a run of calls leaves of a store. -/
def after {σ : Type} (store : Store σ) (s : σ) (calls : List Call) : σ :=
  calls.foldl (fun s c => (c.run store s).2) s

/-- The store in memory answers every call. -/
theorem run_memory_ok (m : Entries Text) (c : Call) :
    ∃ answer, (c.run memory m).1 = .ok answer := by
  cases c <;> exact ⟨_, rfl⟩

/-! ## What a file holds -/

/-- The text of a file is one object, with just the given entries. -/
def Holds (p : Path) (d : Disk) (m : Entries Text) : Prop :=
  ∃ text : String, d.readFile p = .ok text.toUTF8
    ∧ Json.read text = .ok (.object (m.map fun e => (e.1, .text e.2)))

variable {p : Path} {d : Disk} {m : Entries Text} {fault? : Option Fault}

/-- What was written is read back, and the text of the file is one object. -/
theorem writeEntries_holds (h : d.Serves p) (hkeys : (m.map Prod.fst).Nodup)
    (hencodable : AllEncodable m) :
    (writeEntries d p m).1 = .ok () ∧ Holds p (writeEntries d p m).2 m := by
  obtain ⟨s, hs⟩ := Text.isEncodable_iff.mp ((isEncodable_entriesText m).mpr hencodable)
  have hstring : (entriesText m).string? = some s := by rw [hs, Text.string?_ofString]
  obtain ⟨d', d'', hmake, hwrite, -, -, hread⟩ := h.write s.toUTF8
  have hwritten : writeEntries d p m = (.ok (), d'') := by
    rw [writeEntries, hmake]
    simp only [Disk.writeFile, hstring, hwrite]
  rw [hwritten]
  refine ⟨rfl, s, hread, ?_⟩
  show Json.read (Text.ofString s) = _
  rw [← hs, read_entriesText hkeys]

/-! ## Files and entries in memory -/

/-- A file behaves as entries in memory do, or has a fault that keeps it from being read until it is
written anew. -/
inductive Mirrors (p : Path) (d : Disk) : Option Fault → Entries Text → Prop
  | readable {m : Entries Text} (serves : d.Serves p) (read : readEntries d p = .ok m)
      (encodable : AllEncodable m) : Mirrors p d none m
  | unreadable {e : Fault} (serves : d.Serves p) (read : readEntries d p = .error e)
      (passed : e.isValueFault = true) : Mirrors p d (some e) []

theorem Mirrors.serves (h : Mirrors p d fault? m) : d.Serves p := by
  cases h <;> assumption

theorem Mirrors.encodable (h : Mirrors p d fault? m) : AllEncodable m := by
  cases h with
  | readable _ _ hencodable => exact hencodable
  | unreadable _ _ _ => exact fun e he => absurd he List.not_mem_nil

/-- Those who write go by the entries in memory. -/
theorem Mirrors.recover (h : Mirrors p d fault? m) : recoverEntries d p = .ok m := by
  unfold recoverEntries
  cases h with
  | readable _ hread _ => rw [hread]
  | unreadable _ hread hpassed =>
      rw [hread]
      exact if_pos hpassed

theorem Mirrors.nodup (h : Mirrors p d fault? m) : (m.map Prod.fst).Nodup :=
  nodup_recoverEntries h.serves h.recover

/-- Entries that were written are mirrored, whatever the file held before. -/
theorem Mirrors.write (h : Mirrors p d fault? m) {es : Entries Text}
    (hkeys : (es.map Prod.fst).Nodup) (hencodable : AllEncodable es) :
    (writeEntries d p es).1 = .ok () ∧ Mirrors p (writeEntries d p es).2 none es
      ∧ Holds p (writeEntries d p es).2 es := by
  obtain ⟨hok, hholds⟩ := writeEntries_holds h.serves hkeys hencodable
  obtain ⟨hserves, hspec⟩ := writeEntries_spec h.serves hkeys
  rw [if_pos ((isEncodable_entriesText es).mpr hencodable)] at hspec
  exact ⟨hok, .readable hserves hspec.2 hencodable, hholds⟩

theorem Mirrors.set (h : Mirrors p d fault? m) {key value : Text} (hkey : key.isEncodable = true)
    (hvalue : value.isEncodable = true) :
    ((file p).set key value d).1 = .ok ()
      ∧ Mirrors p ((file p).set key value d).2 none (m.put key value)
      ∧ Holds p ((file p).set key value d).2 (m.put key value) := by
  have hset : (file p).set key value d = writeEntries d p (m.put key value) := by
    simp only [file, h.recover]
  have hencodable : AllEncodable (m.put key value) := by
    intro e he
    rcases Entries.mem_put he with he | rfl
    · exact h.encodable e he
    · exact ⟨hkey, hvalue⟩
  rw [hset]
  exact h.write (Entries.nodup_put h.nodup key value) hencodable

/-- A text that has no UTF-8 empties the file before it is refused. -/
theorem Mirrors.set_unencodable (h : Mirrors p d fault? m) {key value : Text}
    (hne : ¬ (key.isEncodable && value.isEncodable) = true) :
    Mirrors p ((file p).set key value d).2 (some .malformedJson) [] := by
  have hset : (file p).set key value d = writeEntries d p (m.put key value) := by
    simp only [file, h.recover]
  have hrefused : ¬ (entriesText (m.put key value)).isEncodable = true := by
    intro htext
    obtain ⟨hkey, hvalue⟩ :=
      (isEncodable_entriesText _).mp htext _ (Entries.mem_put_self m key value)
    exact hne (by rw [hkey, hvalue]; rfl)
  obtain ⟨hserves, hspec⟩ := writeEntries_spec h.serves (Entries.nodup_put h.nodup key value)
  rw [if_neg hrefused] at hspec
  rw [hset]
  exact .unreadable hserves hspec.2 rfl

theorem Mirrors.delete_present (h : Mirrors p d none m) {key : Text}
    (hkey : (m.get? key).isSome = true) :
    ((file p).delete key d).1 = .ok ()
      ∧ Mirrors p ((file p).delete key d).2 none (m.remove key)
      ∧ Holds p ((file p).delete key d).2 (m.remove key) := by
  have hdelete : (file p).delete key d = writeEntries d p (m.remove key) := by
    simp only [file, h.recover, hkey, if_true]
  have hencodable : AllEncodable (m.remove key) := by
    intro e he
    exact h.encodable e (List.mem_filter.mp he).1
  have hkeys : ((m.remove key).map Prod.fst).Nodup :=
    (List.filter_sublist.map Prod.fst).nodup h.nodup
  rw [hdelete]
  exact h.write hkeys hencodable

theorem Mirrors.delete_absent (h : Mirrors p d fault? m) {key : Text} (hkey : m.get? key = none) :
    (file p).delete key d = (.ok (), d) ∧ m.remove key = m := by
  refine ⟨?_, Entries.remove_of_get?_eq_none hkey⟩
  simp [file, h.recover, hkey]

theorem Mirrors.delete (h : Mirrors p d fault? m) (key : Text) :
    ((file p).delete key d).1 = .ok ()
      ∧ Mirrors p ((file p).delete key d).2 fault? (m.remove key)
      ∧ if (m.get? key).isSome then Holds p ((file p).delete key d).2 (m.remove key)
        else ((file p).delete key d).2 = d := by
  cases hkey : m.get? key with
  | none =>
      obtain ⟨hdelete, hremove⟩ := h.delete_absent hkey
      rw [hdelete, hremove]
      exact ⟨rfl, h, rfl⟩
  | some value =>
      cases h with
      | readable hserves hread hencodable =>
          exact (Mirrors.readable hserves hread hencodable).delete_present (hkey ▸ rfl)
      | unreadable => cases hkey

/-! ## Runs of calls -/

/-- What keeps a file from being read does so until a text is set. -/
def faultAfter (fault? : Option Fault) (calls : List Call) : Option Fault :=
  if calls.any Call.isSet then none else fault?

/-- What a call is answered by a file: what memory answers, or the fault that keeps the file from
being read. -/
def answer (fault? : Option Fault) (m : Entries Text) (c : Call) : Except Fault (Option Text) :=
  match fault? with
  | some e => if c.isGet then .error e else (c.run memory m).1
  | none => (c.run memory m).1

/-- What one call does to a file, by what it does to the entries in memory. -/
structure Steps (p : Path) (d : Disk) (fault? : Option Fault) (m : Entries Text) (c : Call) :
    Prop where
  answers : (c.run (file p) d).1 = answer fault? m c
  mirrors : Mirrors p (c.run (file p) d).2 (faultAfter fault? [c]) (c.run memory m).2
  holds : if c.alters m then Holds p (c.run (file p) d).2 (c.run memory m).2
    else (c.run (file p) d).2 = d

theorem Mirrors.step_get (h : Mirrors p d fault? m) (key : String) :
    Steps p d fault? m (.get key) where
  answers := by
    cases h with
    | readable _ hread _ => exact congrArg (Except.map (Entries.get? · key)) hread
    | unreadable _ hread _ => exact congrArg (Except.map (Entries.get? · key)) hread
  mirrors := h
  holds := rfl

theorem Mirrors.step_set (h : Mirrors p d fault? m) (key value : String) :
    Steps p d fault? m (.set key value) := by
  obtain ⟨hok, hmirrors, hholds⟩ :=
    h.set (Text.isEncodable_ofString key) (Text.isEncodable_ofString value)
  refine ⟨?_, hmirrors, hholds⟩
  simp only [Call.run, hok]
  cases fault? <;> rfl

theorem Mirrors.step_delete (h : Mirrors p d fault? m) (key : String) :
    Steps p d fault? m (.delete key) := by
  obtain ⟨hok, hmirrors, hholds⟩ := h.delete key
  refine ⟨?_, hmirrors, hholds⟩
  simp only [Call.run, hok]
  cases fault? <;> rfl

/-- **One call**: a file goes on mirroring the entries in memory. -/
theorem Mirrors.step (h : Mirrors p d fault? m) (c : Call) : Steps p d fault? m c := by
  cases c with
  | get key => exact h.step_get key
  | set key value => exact h.step_set key value
  | delete key => exact h.step_delete key

/-- **A run of calls**. -/
theorem Mirrors.after (h : Mirrors p d fault? m) (calls : List Call) :
    Mirrors p ((file p).after d calls) (faultAfter fault? calls) (memory.after m calls) := by
  induction calls generalizing d fault? m with
  | nil => exact h
  | cons c rest ih =>
      have hfault : faultAfter (faultAfter fault? [c]) rest = faultAfter fault? (c :: rest) := by
        cases hset : c.isSet <;> simp [faultAfter, hset]
      have hrest := ih (h.step c).mirrors
      rwa [hfault] at hrest

/-! ## From a file that someone else wrote -/

/-- How the entries in memory start for a file that is found. Entries of an object that are no texts
do not count. -/
inductive Starts (p : Path) (d : Disk) : Option Fault → Entries Text → Prop
  | absent (serves : d.Serves p) (missing : d.exists? p = .ok false) : Starts p d none []
  | object {text : String} {es : Entries Json} (read : d.readFile p = .ok text.toUTF8)
      (json : Json.read text = .ok (.object es)) (encodable : AllEncodable (textEntries es)) :
      Starts p d none (textEntries es)
  /-- A whole number in the file has more digits than the reader takes. -/
  | overlong {text : String} {count : Nat} (read : d.readFile p = .ok text.toUTF8)
      (json : Json.read text = .error (.tooManyDigits count)) :
      Starts p d (some (.value (.tooManyDigits count))) []

theorem Starts.mirrors (h : Starts p d fault? m) : Mirrors p d fault? m := by
  cases h with
  | absent hserves hmissing =>
      exact .readable hserves (readEntries_of_missing hmissing)
        fun e he => absurd he List.not_mem_nil
  | object hread hjson hencodable =>
      refine .readable (Disk.serves_of_readFile hread) ?_ hencodable
      rw [readEntries_of_file (Disk.exists?_of_readFile hread) hread, entriesOf,
        Text.fromUTF8?_toUTF8]
      simp only [hjson]
  | overlong hread hjson =>
      refine .unreadable (Disk.serves_of_readFile hread) ?_ rfl
      rw [readEntries_of_file (Disk.exists?_of_readFile hread) hread, entriesOf,
        Text.fromUTF8?_toUTF8]
      simp only [hjson]
      rfl

/-- **The store in a file is a store in memory** to those who call it, whatever they called before.
Each call is answered as memory answers it, one that changes the entries leaves just these in the
file, in their order, and any other one leaves the disk alone. While a number in the file has too
many digits, asking for a text fails, until one is set. -/
theorem file_refines_memory (h : Starts p d fault? m) (calls : List Call) (c : Call) :
    let d' := (file p).after d calls
    let m' := memory.after m calls
    (c.run (file p) d').1 = answer (faultAfter fault? calls) m' c
      ∧ (∃ found, (c.run memory m').1 = .ok found)
      ∧ if c.alters m' then Holds p (c.run (file p) d').2 (c.run memory m').2
        else (c.run (file p) d').2 = d' := by
  intro d' m'
  have hstep : Steps p d' (faultAfter fault? calls) m' c := (h.mirrors.after calls).step c
  exact ⟨hstep.answers, run_memory_ok m' c, hstep.holds⟩

/-- A file with an entry that is no text, in which a text is set and another one deleted. -/
theorem file_refines_memory_mixed :
    let text : String := "\x7b\"n\": 1, \"k\": \"v\"\x7d"
    let d : Disk := ⟨[(⟨["f.json"]⟩, .file text.toUTF8)]⟩
    Holds ⟨["f.json"]⟩ ((file ⟨["f.json"]⟩).after d [.set "a" "b", .delete "k"]) [("a", "b")] := by
  -- the text is kept from being evaluated where it plays no part
  have hgeneral : ∀ text : String,
      Json.read text = .ok (.object [("n", .int 1), ("k", .text "v")]) →
      Holds ⟨["f.json"]⟩ ((file ⟨["f.json"]⟩).after ⟨[(⟨["f.json"]⟩, .file text.toUTF8)]⟩
        [.set "a" "b", .delete "k"]) [("a", "b")] := by
    intro text hjson
    have hread :
        Disk.readFile ⟨[(⟨["f.json"]⟩, .file text.toUTF8)]⟩ ⟨["f.json"]⟩ = .ok text.toUTF8 := rfl
    have hencodable : AllEncodable (textEntries [("n", .int 1), ("k", .text "v")]) := by
      intro e he
      rw [List.mem_singleton.mp he]
      exact ⟨rfl, rfl⟩
    exact (file_refines_memory (.object hread hjson hencodable) [.set "a" "b"] (.delete "k")).2.2
  exact hgeneral _ (by rfl)

theorem read_eq_tooManyDigits {t : Text} {count : Nat}
    (h : (match Json.read t with
      | .error (.tooManyDigits n) => n == count
      | _ => false) = true) : Json.read t = .error (.tooManyDigits count) := by
  split at h
  · rename_i n hn
    rw [hn, beq_iff_eq.mp h]
  · cases h

set_option maxRecDepth 100000 in
/-- A file is not a store in memory where it holds an object with a number of 4301 digits: the text
beside the number is not found. -/
theorem file_get_overlong :
    let text : String := String.ofList
      ("\x7b\"n\": ".toList ++ List.replicate 4301 '1' ++ ", \"k\": \"v\"\x7d".toList)
    let d : Disk := ⟨[(⟨["f.json"]⟩, .file text.toUTF8)]⟩
    ((Call.get "k").run (file ⟨["f.json"]⟩) d).1 = .error (.value (.tooManyDigits 4301))
      ∧ ((Call.get "k").run memory [("k", "v")]).1 = .ok (some (Text.ofString "v")) := by
  have hgeneral : ∀ cs : List Char, Json.read (Text.ofChars cs) = .error (.tooManyDigits 4301) →
      ((Call.get "k").run (file ⟨["f.json"]⟩)
        ⟨[(⟨["f.json"]⟩, .file (String.ofList cs).toUTF8)]⟩).1
        = .error (.value (.tooManyDigits 4301)) := by
    intro cs hcs
    have hread : Disk.readFile ⟨[(⟨["f.json"]⟩, .file (String.ofList cs).toUTF8)]⟩ ⟨["f.json"]⟩
        = .ok (String.ofList cs).toUTF8 := rfl
    have hjson : Json.read (String.ofList cs) = .error (.tooManyDigits 4301) := by
      rw [Text.ofString, String.toList_ofList]
      exact hcs
    exact ((Starts.overlong hread hjson).mirrors.step_get "k").answers
  exact ⟨hgeneral _ (read_eq_tooManyDigits (by decide +kernel)), rfl⟩

end Store

end CivicSite
