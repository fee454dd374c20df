import CivicSite.Proofs.Json.Contents
import CivicSite.Proofs.Json.Encodable
import CivicSite.Proofs.Json.Escapes

/-!
# Texts that were read

A text in UTF-8 holds no halves of surrogate pairs, and what is read of it holds none that make a
pair: halves come in by escapes alone, and the scanner keeps each first half back until it is known
whether the other half follows (`joined_step`). So the texts in every value that is read are as they
were meant (`joined_of_read`), and so are the texts that show such a value (`Joined.display`).
-/

namespace CivicSite

/-! ## Halves that are kept apart -/

namespace CodePoint

theorem val_of_isHigh {half : Fin 2048} (h : (lone half).isHigh = true) : half.val < 0x400 :=
  of_decide_eq_true h

theorem val_of_isLow {half : Fin 2048} (h : (lone half).isLow = true) : 0x400 ≤ half.val :=
  of_decide_eq_true h

theorem bounds_of_isHigh {n : Nat} (h : (ofNat n).isHigh = true) : 0xD800 ≤ n ∧ n ≤ 0xDBFF := by
  unfold ofNat at h
  split at h
  · have hval := val_of_isHigh h
    dsimp only at hval
    omega
  · cases h

theorem bounds_of_isLow {n : Nat} (h : (ofNat n).isLow = true) : 0xDC00 ≤ n ∧ n ≤ 0xDFFF := by
  unfold ofNat at h
  split at h
  · have hval := val_of_isLow h
    dsimp only at hval
    omega
  · cases h

end CodePoint

namespace Text

theorem isJoined_of_isEncodable {s : Text} (h : s.isEncodable = true) : s.IsJoined := by
  rw [isEncodable_iff_forall] at h
  induction s with
  | nil => exact List.isChain_nil
  | cons c rest ih =>
      obtain ⟨⟨ch, rfl⟩, hrest⟩ := List.forall_mem_cons.mp h
      exact List.isChain_cons.mpr ⟨fun _ _ hpair => absurd hpair.1 Bool.false_ne_true, ih hrest⟩

/-- One more code point is put to a text that is kept in reverse. -/
theorem isJoined_reverse_cons {read : Text} (h : Text.IsJoined read.reverse) {c : CodePoint}
    (hc : c.isLow = true → ∀ d ∈ read.head?, d.isHigh = false) :
    Text.IsJoined (c :: read : Text).reverse := by
  rw [List.reverse_cons]
  refine List.isChain_append.mpr ⟨h, List.isChain_singleton c, fun d hd e he hpair => ?_⟩
  rw [List.getLast?_reverse] at hd
  obtain rfl := Option.some.inj he
  exact Bool.false_ne_true ((hc hpair.2 d hd).symm.trans hpair.1)

end Text

namespace Json

/-! ## The scanner -/

/-- What was read of a string, kept in reverse, where the last half of a pair may follow. -/
structure Ready (read : Text) : Prop where
  joined : Text.IsJoined read.reverse
  head : ∀ d ∈ read.head?, d.isHigh = false

/-- The invariant of the scanner in a string. -/
def Scan.Joined : Scan → Prop
  | string read | escape read | unit read none _ _ => Ready read
  | unit read (some high) _ _ | half read high | halfEscape read high =>
    Text.IsJoined read.reverse ∧ 0xD800 ≤ high ∧ high ≤ 0xDBFF
  | _ => True

theorem ready_nil : Ready [] := ⟨List.isChain_nil, nofun⟩

theorem ready_cons {read : Text} (h : Text.IsJoined read.reverse) {c : CodePoint}
    (hlow : c.isLow = true → ∀ d ∈ read.head?, d.isHigh = false) (hhigh : c.isHigh = false) :
    Ready (c :: read) :=
  ⟨Text.isJoined_reverse_cons h hlow, fun _ hd => Option.some.inj hd ▸ hhigh⟩

theorem ready_char {read : Text} (h : Text.IsJoined read.reverse) (c : Char) :
    Ready (.char c :: read) :=
  ready_cons h nofun rfl

/-- A first half that stays by itself. -/
theorem isJoined_half {read : Text} (h : Text.IsJoined read.reverse) {high : Nat}
    (hhigh : 0xD800 ≤ high ∧ high ≤ 0xDBFF) :
    Text.IsJoined (.ofNat high :: read : Text).reverse := by
  refine Text.isJoined_reverse_cons h fun hlow => ?_
  have hbounds := CodePoint.bounds_of_isLow hlow
  omega

theorem joined_ite {p : Prop} [Decidable p] {r r' : Scan × List Token} (h : r.1.Joined)
    (h' : r'.1.Joined) : (if p then r else r').1.Joined := by
  by_cases hp : p
  · rwa [if_pos hp]
  · rwa [if_neg hp]

theorem joined_startToken (c : Char) : (startToken c).1.Joined := by
  unfold startToken
  repeat' apply joined_ite
  all_goals first | trivial | exact ready_nil

theorem joined_insideString {read : Text} {c : Char} (h : Text.IsJoined read.reverse)
    (hslash : c = '\\' → Ready read) : (insideString read c).1.Joined := by
  unfold insideString
  split
  · trivial
  split
  · rename_i hc
    exact hslash (by simpa using hc)
  split
  · trivial
  · exact ready_char h c

theorem joined_afterBackslash {read : Text} {c : Char} (h : Text.IsJoined read.reverse)
    (hunit : c = 'u' → Ready read) : (afterBackslash read c).1.Joined := by
  unfold afterBackslash
  split
  · exact ready_char h c
  iterate 5
    split
    · exact ready_char h _
  split
  · rename_i hc
    exact hunit (by simpa using hc)
  · trivial

/-- A unit that is no first half is read at once. -/
theorem ready_unit {read : Text} (h : Text.IsJoined read.reverse) {n : Nat}
    (hlow : (CodePoint.ofNat n).isLow = true → ∀ d ∈ read.head?, d.isHigh = false)
    (hhigh : ¬ (0xD800 ≤ n ∧ n ≤ 0xDBFF)) : Ready (.ofNat n :: read) :=
  ready_cons h hlow (Bool.eq_false_iff.mpr fun h => hhigh (CodePoint.bounds_of_isHigh h))

theorem joined_afterUnit_none {read : Text} (h : Ready read) (n : Nat) :
    (afterUnit read none n).Joined := by
  unfold afterUnit
  dsimp only
  split
  · rename_i hhigh
    exact ⟨h.joined, by simpa using hhigh⟩
  · rename_i hhigh
    exact ready_unit h.joined (fun _ => h.head) (by simpa using hhigh)

theorem joined_afterUnit_some {read : Text} (h : Text.IsJoined read.reverse) {high : Nat}
    (hhigh : 0xD800 ≤ high ∧ high ≤ 0xDBFF) (n : Nat) : (afterUnit read (some high) n).Joined := by
  unfold afterUnit
  dsimp only
  split
  · -- the two halves are one character
    refine ready_unit h (fun hlow => ?_) (by omega)
    have hbounds := CodePoint.bounds_of_isLow hlow
    omega
  split
  · rename_i hn
    exact ⟨isJoined_half h hhigh, by simpa using hn⟩
  · rename_i hlow hn
    refine ready_unit (isJoined_half h hhigh) (fun hl => ?_) (by simpa using hn)
    have hbounds := CodePoint.bounds_of_isLow hl
    simp at hlow
    omega

theorem joined_stepChar {scan : Scan} (h : scan.Joined) (c : Char) :
    (scan.stepChar c).1.Joined := by
  cases scan with
  | idle => exact joined_startToken c
  | string read => exact joined_insideString h.joined fun _ => h
  | escape read => exact joined_afterBackslash h.joined fun _ => h
  | unit read high? left value =>
      dsimp only [Scan.stepChar]
      split
      · split
        · cases high? with
          | none => exact joined_afterUnit_none h _
          | some high => exact joined_afterUnit_some h.1 h.2 _
        · cases high? <;> exact h
      · trivial
  | half read high =>
      dsimp only [Scan.stepChar]
      split
      · exact h
      · rename_i hslash
        exact joined_insideString (isJoined_half h.1 h.2) fun hc =>
          absurd (beq_iff_eq.mpr hc) hslash
  | halfEscape read high =>
      dsimp only [Scan.stepChar]
      split
      · exact h
      · rename_i hunit
        exact joined_afterBackslash (isJoined_half h.1 h.2) fun hc =>
          absurd (beq_iff_eq.mpr hc) hunit
  | numeral read phase =>
      dsimp only [Scan.stepChar]
      split
      · trivial
      · split
        · trivial
        · exact joined_startToken c
  | word read =>
      dsimp only [Scan.stepChar]
      split
      · trivial
      · exact joined_startToken c

/-- **The scanner keeps halves apart until they are joined.** -/
theorem joined_step {scan : Scan} (h : scan.Joined) {c : CodePoint}
    (hc : ∃ ch : Char, c = .char ch) : (scan.step c).1.Joined := by
  obtain ⟨ch, rfl⟩ := hc
  exact joined_stepChar h ch

theorem Scan.Joined.text {scan : Scan} (h : scan.Joined) : ∀ s ∈ scan.text?, Text.IsJoined s := by
  intro s hs
  cases scan with
  | string read => exact Option.some.inj hs ▸ h.joined
  | half read high => exact Option.some.inj hs ▸ isJoined_half h.1 h.2
  | _ => cases hs

/-! ## Values -/

mutual

/-- In no text of a value do two halves stand where they make a pair. -/
def Joined : Json → Prop
  | text s => s.IsJoined
  | list items => ItemsJoined items
  | object entries => EntriesJoined entries
  | _ => True

/-- In no text of the items do they. -/
def ItemsJoined : List Json → Prop
  | [] => True
  | v :: rest => Joined v ∧ ItemsJoined rest

/-- In no text of the values do they. -/
def EntriesJoined : List (Text × Json) → Prop
  | [] => True
  | (_, v) :: rest => Joined v ∧ EntriesJoined rest

end

theorem itemsJoined_iff {items : List Json} : ItemsJoined items ↔ ∀ v ∈ items, Joined v := by
  induction items with
  | nil => exact ⟨fun _ _ hv => (List.not_mem_nil hv).elim, fun _ => trivial⟩
  | cons v rest ih => rw [ItemsJoined, ih, List.forall_mem_cons]

theorem entriesJoined_iff {entries : List (Text × Json)} :
    EntriesJoined entries ↔ ∀ e ∈ entries, Joined e.2 := by
  induction entries with
  | nil => exact ⟨fun _ _ he => (List.not_mem_nil he).elim, fun _ => trivial⟩
  | cons e rest ih =>
      obtain ⟨k, v⟩ := e
      rw [EntriesJoined, ih, List.forall_mem_cons]

theorem closed_joined : Closed Joined where
  null := trivial
  bool _ := trivial
  int _ _ := trivial
  double _ := trivial
  list _ := itemsJoined_iff.mpr
  object _ _ hentries := entriesJoined_iff.mpr fun e he => (hentries e he).2

/-- **What is read of a text in UTF-8 has its halves joined.** -/
theorem joined_of_read {s : Text} (hs : s.isEncodable = true) {v : Json} (h : read s = .ok v) :
    v.Joined :=
  holds_of_read (I := Scan.Joined) closed_joined (fun _ hscan => hscan.text) trivial
    (fun c hc _ hscan => joined_step hscan (Text.isEncodable_iff_forall.mp hs c hc)) h

/-- What an object holds under a key. -/
theorem Joined.get? {entries : Entries Json} (h : (object entries).Joined) {key : Text} {v : Json}
    (hv : entries.get? key = some v) : v.Joined := by
  obtain ⟨e, he, rfl⟩ := Option.map_eq_some_iff.mp hv
  exact entriesJoined_iff.mp h e (List.mem_of_find?_eq_some he)

/-! ## Texts of values -/

theorem isEncodable_quotedChar (quote : Char) (c : CodePoint) :
    (Text.quotedChar quote c).isEncodable = true := by
  have hescape (s : String) (cs : List Char) : Text.isEncodable (s ++ .ofChars cs) = true :=
    Text.isEncodable_append.mpr ⟨Text.isEncodable_ofString s, Text.isEncodable_ofChars cs⟩
  unfold Text.quotedChar
  cases c with
  | char c =>
      split
      · exact Text.isEncodable_ofChars ['\\', c]
      iterate 3
        split
        · exact Text.isEncodable_ofString _
      split
      · exact Text.isEncodable_ofChars [c]
      iterate 2
        split
        · exact hescape _ _
      exact hescape _ _
  | lone half =>
      have hne (d : Char) : (CodePoint.lone half == CodePoint.char d) = false := rfl
      simp only [hne, Text.isPrintable_lone, Bool.or_self, Bool.false_eq_true, if_false]
      iterate 2
        split
        · exact hescape _ _
      exact hescape _ _

theorem isEncodable_quoted (s : Text) : (Text.quoted s).isEncodable = true := by
  unfold Text.quoted
  have hquote (q : Char) : Text.isEncodable [CodePoint.char q] = true := rfl
  simp only [Text.isEncodable_append, hquote, Text.isEncodable_flatMap, isEncodable_quotedChar,
    implies_true, and_self]

theorem isEncodable_text (x : Double) : x.text.isEncodable = true := by
  cases x with
  | nan => exact Text.isEncodable_ofString _
  | infinite negative => cases negative <;> exact Text.isEncodable_ofString _
  | finite negative units hunits => exact Text.isEncodable_ofChars _

mutual

theorem isEncodable_literal (v : Json) : v.literal.isEncodable = true := by
  cases v with
  | null => exact Text.isEncodable_ofString _
  | bool b => cases b <;> exact Text.isEncodable_ofString _
  | int i => exact Text.isEncodable_ofString _
  | double x => exact isEncodable_text x
  | text s => exact isEncodable_quoted s
  | list items =>
      simp only [literal, Text.isEncodable_append, Text.isEncodable_ofString,
        isEncodable_literals items, and_self]
  | object entries =>
      simp only [literal, Text.isEncodable_append, Text.isEncodable_ofString,
        isEncodable_literalEntries entries, and_self]

theorem isEncodable_literals (items : List Json) : (literals items).isEncodable = true := by
  cases items with
  | nil => exact Text.isEncodable_ofString _
  | cons v rest =>
      cases rest with
      | nil => exact isEncodable_literal v
      | cons w rest =>
          simp only [literals, Text.isEncodable_append, Text.isEncodable_ofString,
            isEncodable_literal v, isEncodable_literals (w :: rest), and_self]

theorem isEncodable_literalEntries (entries : List (Text × Json)) :
    (literalEntries entries).isEncodable = true := by
  cases entries with
  | nil => exact Text.isEncodable_ofString _
  | cons e rest =>
      obtain ⟨k, v⟩ := e
      cases rest with
      | nil =>
          simp only [literalEntries, Text.isEncodable_append, Text.isEncodable_ofString,
            isEncodable_quoted, isEncodable_literal v, and_self]
      | cons e rest =>
          simp only [literalEntries, Text.isEncodable_append, Text.isEncodable_ofString,
            isEncodable_quoted, isEncodable_literal v, isEncodable_literalEntries (e :: rest),
            and_self]

end

/-- **The text that shows a value has its halves joined**, if the texts of the value do. -/
theorem Joined.display {v : Json} (h : v.Joined) : v.display.IsJoined := by
  cases v with
  | text s => exact h
  | _ => exact Text.isJoined_of_isEncodable (isEncodable_literal _)

end Json

end CivicSite
