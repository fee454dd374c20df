import CivicSite.Proofs.Json.Halves
import CivicSite.Script.Site

/-!
# The literals of a script

A literal is what the writer makes of a value, with escapes for the characters that mean something
in markup. The writer makes printable ASCII of every value (`Script.printable_write`), so a literal
ends neither its line nor the element that the script stands in (`Script.inert_literal`).

It can be read all the same. Outside of strings the reader takes no character that means something
in markup (`Script.step_markup`), and in a string it takes the escape of one for the character. So
whatever it makes of a written text, it makes of the text with the escapes
(`Script.read_literalPoints`). A value that can be read back is thus read back from its literal, the
keys of objects in order (`Script.isLiteral_of_readable`), and any text is, with its halves joined
(`Script.isLiteral_text`).
-/

namespace CivicSite.Script

/-! ## Characters that mean nothing in markup -/

/-- The characters that mean something in markup. -/
def markupChars : List Char := ['<', '>', '&', '\'']

/-- Printable characters of ASCII. -/
def Printable (s : Text) : Prop :=
  ∀ c ∈ s, ∃ d : Char, c = .char d ∧ 0x20 ≤ d.toNat ∧ d.toNat < 0x7F

/-- Printable characters of ASCII that mean nothing in markup. -/
def Inert (s : Text) : Prop := Printable s ∧ ∀ d ∈ markupChars, CodePoint.char d ∉ s

theorem printable_append {s t : Text} : Printable (s ++ t) ↔ Printable s ∧ Printable t :=
  List.forall_mem_append

theorem printable_flatMap {t : Text} {f : CodePoint → Text} (h : ∀ c ∈ t, Printable (f c)) :
    Printable (t.flatMap f) := by
  intro d hd
  obtain ⟨c, hc, hd⟩ := List.mem_flatMap.mp hd
  exact h c hc d hd

theorem inert_append {s t : Text} (hs : Inert s) (ht : Inert t) : Inert (s ++ t) :=
  ⟨printable_append.mpr ⟨hs.1, ht.1⟩, fun d hd hmem =>
    (List.mem_append.mp hmem).elim (hs.2 d hd) (ht.2 d hd)⟩

theorem inert_flatMap {t : Text} {f : CodePoint → Text} (h : ∀ c ∈ t, Inert (f c)) :
    Inert (t.flatMap f) := by
  refine ⟨printable_flatMap fun c hc => (h c hc).1, fun d hd hmem => ?_⟩
  obtain ⟨c, hc, hmem⟩ := List.mem_flatMap.mp hmem
  exact (h c hc).2 d hd hmem

/-- Whether a character may stand in a literal. -/
def isInert (c : Char) : Bool :=
  Nat.ble 0x20 c.toNat && Nat.ble c.toNat 0x7E && !markupChars.contains c

theorem isInert_iff {c : Char} :
    isInert c = true ↔ (0x20 ≤ c.toNat ∧ c.toNat ≤ 0x7E) ∧ c ∉ markupChars := by
  rw [isInert, Bool.and_eq_true, Bool.and_eq_true, Nat.ble_eq, Nat.ble_eq, Bool.not_eq_true',
    Bool.eq_false_iff, ne_eq, List.contains_iff_mem]

theorem inert_ofChars {cs : List Char} (h : cs.all isInert = true) : Inert (.ofChars cs) := by
  have hinert (c : Char) (hc : c ∈ cs) := isInert_iff.mp (List.all_eq_true.mp h c hc)
  constructor
  · intro c hc
    obtain ⟨d, hd, rfl⟩ := List.mem_map.mp hc
    obtain ⟨⟨hlow, hhigh⟩, -⟩ := hinert d hd
    exact ⟨d, rfl, hlow, Nat.lt_succ_of_le hhigh⟩
  · intro d hd hmem
    obtain ⟨e, he, heq⟩ := List.mem_map.mp hmem
    cases heq
    exact (hinert d he).2 hd

theorem inert_hexDigits (width n : Nat) : Inert (.ofChars (Text.hexDigits width n)) := by
  have hdigit : ∀ d : Fin 16, [Nat.digitChar d].all isInert = true := by decide
  induction width generalizing n with
  | zero => exact inert_ofChars rfl
  | succ width ih =>
      rw [Text.hexDigits, Text.ofChars, List.map_append]
      exact inert_append (ih _) (inert_ofChars (hdigit ⟨n % 16, Nat.mod_lt _ (by decide)⟩))

theorem inert_unitEscape (n : Nat) : Inert (Json.unitEscape n) :=
  @inert_append "\\u" _ (inert_ofChars rfl) (inert_hexDigits 4 n)

theorem printable_escapes (c : CodePoint) : Printable (Json.escapes c) := by
  unfold Json.escapes
  dsimp only
  split
  · exact (inert_unitEscape _).1
  · exact printable_append.mpr ⟨(inert_unitEscape _).1, (inert_unitEscape _).1⟩

/-! ## Numbers -/

/-- The characters that a numeral goes on with. -/
theorem char_of_next? {phase phase' : Json.NumeralPhase} {c : Char}
    (h : phase.next? c = some phase') : c.isDigit = true ∨ c ∈ ['.', 'e', 'E', '+', '-'] := by
  by_contra hnot
  rw [not_or] at hnot
  obtain ⟨hdigit, hsign⟩ := hnot
  have hzero : c ≠ '0' := by
    rintro rfl
    exact hdigit rfl
  simp only [List.mem_cons, List.not_mem_nil, or_false, not_or] at hsign
  obtain ⟨hpoint, hsmall, hcapital, hplus, hminus⟩ := hsign
  cases phase <;> simp [Json.NumeralPhase.next?, *] at h

theorem bounds_of_isDigit {c : Char} (h : c.isDigit = true) : 48 ≤ c.toNat ∧ c.toNat ≤ 57 := by
  simp only [Char.isDigit, Bool.and_eq_true, decide_eq_true_eq] at h
  exact h

theorem isInert_of_next? {phase phase' : Json.NumeralPhase} {c : Char}
    (h : phase.next? c = some phase') : isInert c = true := by
  rcases char_of_next? h with hdigit | hsign
  · obtain ⟨hlow, hhigh⟩ := bounds_of_isDigit hdigit
    refine isInert_iff.mpr ⟨⟨by omega, by omega⟩, fun hmarkup => ?_⟩
    simp only [markupChars, List.mem_cons, List.not_mem_nil, or_false] at hmarkup
    rcases hmarkup with rfl | rfl | rfl | rfl <;> cases hdigit
  · simp only [List.mem_cons, List.not_mem_nil, or_false] at hsign
    rcases hsign with rfl | rfl | rfl | rfl | rfl <;> rfl

theorem inert_of_run? {phase phase' : Json.NumeralPhase} {cs : List Char}
    (h : phase.run? cs = some phase') : Inert (.ofChars cs) := by
  refine inert_ofChars (List.all_eq_true.mpr ?_)
  induction cs generalizing phase with
  | nil => exact List.forall_mem_nil _
  | cons c rest ih =>
      obtain ⟨next, hnext, hrest⟩ := Option.bind_eq_some_iff.mp h
      exact List.forall_mem_cons.mpr ⟨isInert_of_next? hnext, ih hrest⟩

/-- A numeral with its sign. -/
theorem printable_numeral (negative : Bool) {phase phase' : Json.NumeralPhase} {cs : List Char}
    (h : phase.run? cs = some phase') : Printable (.ofChars (Json.minus negative ++ cs)) := by
  have hminus : Inert (.ofChars (Json.minus negative)) := by
    cases negative <;> exact inert_ofChars rfl
  rw [Text.ofChars, List.map_append]
  exact printable_append.mpr ⟨hminus.1, (inert_of_run? h).1⟩

theorem printable_writeInt (i : Int) : Printable (toString i : String) := by
  obtain ⟨phase, hrun, -⟩ := Json.run?_toDigits i.natAbs
  rw [Json.ofString_toString_int]
  exact printable_numeral _ hrun

theorem printable_writeDouble (x : Double) : Printable (Json.writeDouble x) := by
  cases x with
  | nan => exact (@inert_ofChars "NaN".toList rfl).1
  | infinite negative =>
      cases negative with
      | true => exact (@inert_ofChars "-Infinity".toList rfl).1
      | false => exact (@inert_ofChars "Infinity".toList rfl).1
  | finite negative units hunits =>
      obtain ⟨cs, digits, exponent, htext, hdenotes, -⟩ := Json.denotes_finiteText negative hunits
      obtain ⟨phase, hrun, -⟩ := hdenotes.run
      show Printable (Double.finiteText negative units)
      rw [htext]
      exact printable_numeral negative hrun

/-! ## What is written -/

/-- What is written neither short nor as an escape is written as itself. -/
theorem writePoint_cases {c : CodePoint} (h : ∀ p ∈ Json.shortEscapes, c ≠ .char p.1) :
    Json.writePoint true c = Json.escapes c ∨ Json.writePoint true c = [c] ∧
      ∃ d : Char, c = .char d ∧ 0x20 ≤ d.toNat ∧ d.toNat < 0x7F := by
  rw [Json.writePoint_eq_ite h]
  by_cases hlow : c.toNat < 0x20
  · have hescapes : Json.escapes c = Json.unitEscape c.toNat := if_pos (by omega)
    rw [if_pos hlow, hescapes]
    exact .inl rfl
  rw [if_neg hlow]
  by_cases hhigh : 0x7F ≤ c.toNat
  · rw [decide_eq_true hhigh]
    exact .inl rfl
  · rw [decide_eq_false hhigh]
    refine .inr ⟨rfl, ?_⟩
    cases c with
    | char d => exact ⟨d, rfl, Nat.not_lt.mp hlow, Nat.not_le.mp hhigh⟩
    | lone half =>
        rw [CodePoint.toNat] at hhigh
        omega

theorem printable_writePoint (c : CodePoint) : Printable (Json.writePoint true c) := by
  by_cases hshort : ∃ p ∈ Json.shortEscapes, c = .char p.1
  · obtain ⟨p, hp, rfl⟩ := hshort
    rw [Json.writePoint_of_shortEscape hp]
    simp only [Json.shortEscapes, List.mem_cons, List.not_mem_nil, or_false] at hp
    rcases hp with rfl | rfl | rfl | rfl | rfl | rfl | rfl <;>
      exact (@inert_ofChars ['\\', _] rfl).1
  · rcases writePoint_cases fun p hp hc => hshort ⟨p, hp, hc⟩ with hescape | ⟨hplain, hprinted⟩
    · rw [hescape]
      exact printable_escapes c
    · rw [hplain]
      exact List.forall_mem_singleton.mpr hprinted

theorem printable_writeText (s : Text) : Printable (Json.writeText true s) := by
  have hquote : Printable "\"" := (@inert_ofChars ['"'] rfl).1
  unfold Json.writeText
  simp only [printable_append, hquote, true_and, and_true]
  exact printable_flatMap fun c _ => printable_writePoint c

theorem printable_separator (depth : Nat) : Printable (Json.separator .ascii depth) :=
  (@inert_ofChars ", ".toList rfl).1

mutual

/-- **Every value is written in printable ASCII**, if characters beyond it are escaped. -/
theorem printable_write (v : Json) (depth : Nat) : Printable (Json.write .ascii depth v) := by
  have hmark (c : Char) (hc : [c].all isInert = true) : Printable (.ofChars [c]) :=
    (inert_ofChars hc).1
  have hbreak (depth : Nat) : Printable (Json.lineBreak .ascii depth) := List.forall_mem_nil _
  cases v with
  | null => exact (@inert_ofChars "null".toList rfl).1
  | bool b =>
      cases b with
      | true => exact (@inert_ofChars "true".toList rfl).1
      | false => exact (@inert_ofChars "false".toList rfl).1
  | int i => exact printable_writeInt i
  | double x => exact printable_writeDouble x
  | text s => exact printable_writeText s
  | list items =>
      have hopen : Printable "[" := hmark '[' rfl
      have hclose : Printable "]" := hmark ']' rfl
      cases items with
      | nil => exact (@inert_ofChars "[]".toList rfl).1
      | cons v rest =>
          simp only [Json.write, printable_append, hopen, hclose, hbreak, printable_write v,
            printable_writeItems rest, and_self]
  | object entries =>
      have hopen : Printable "\x7b" := hmark '\x7b' rfl
      have hclose : Printable "\x7d" := hmark '\x7d' rfl
      have hcolon : Printable ": " := (@inert_ofChars ": ".toList rfl).1
      cases entries with
      | nil => exact (@inert_ofChars "\x7b\x7d".toList rfl).1
      | cons e rest =>
          obtain ⟨k, v⟩ := e
          have hkey : Printable (Json.writeText Json.Style.ascii.asciiOnly k) :=
            printable_writeText k
          simp only [Json.write, printable_append, hopen, hclose, hcolon, hbreak, hkey,
            printable_write v, printable_writeEntries rest, and_self]

theorem printable_writeItems (items : List Json) (depth : Nat) :
    Printable (Json.writeItems .ascii depth items) := by
  cases items with
  | nil => exact List.forall_mem_nil _
  | cons v rest =>
      simp only [Json.writeItems, printable_append, printable_separator, printable_write v,
        printable_writeItems rest, and_self]

theorem printable_writeEntries (entries : List (Text × Json)) (depth : Nat) :
    Printable (Json.writeEntries .ascii depth entries) := by
  have hcolon : Printable ": " := (@inert_ofChars ": ".toList rfl).1
  cases entries with
  | nil => exact List.forall_mem_nil _
  | cons e rest =>
      obtain ⟨k, v⟩ := e
      have hkey : Printable (Json.writeText Json.Style.ascii.asciiOnly k) :=
        printable_writeText k
      simp only [Json.writeEntries, printable_append, printable_separator, hcolon, hkey,
        printable_write v, printable_writeEntries rest, and_self]

end

/-! ## Markup in literals -/

theorem literalPoint_of_not_mem {c : CodePoint} (h : ∀ d ∈ markupChars, c ≠ .char d) :
    literalPoint c = [c] := by
  simp only [markupChars, List.forall_mem_cons] at h
  obtain ⟨hlt, hgt, hamp, hquote, -⟩ := h
  simp [literalPoint, hlt, hgt, hamp, hquote]

theorem literalPoint_of_mem {d : Char} (h : d ∈ markupChars) :
    literalPoint (.char d) = Json.unitEscape d.toNat := by
  simp only [markupChars, List.mem_cons, List.not_mem_nil, or_false] at h
  rcases h with rfl | rfl | rfl | rfl <;> rfl

/-- **A literal means nothing in markup**, whatever it is a literal of. -/
theorem inert_literal (v : Json) : Inert (literal v) := by
  refine inert_flatMap fun c hc => ?_
  obtain ⟨d, rfl, hlow, hhigh⟩ := printable_write v.sortKeys 0 c hc
  by_cases hmarkup : d ∈ markupChars
  · rw [literalPoint_of_mem hmarkup]
    exact inert_unitEscape _
  · have hplain : literalPoint (.char d) = [.char d] :=
      literalPoint_of_not_mem fun e he heq => hmarkup (CodePoint.char.inj heq ▸ he)
    have hinert : isInert d = true := isInert_iff.mpr ⟨⟨hlow, Nat.le_of_lt_succ hhigh⟩, hmarkup⟩
    rw [hplain]
    exact @inert_ofChars [d] (List.all_eq_true.mpr (List.forall_mem_singleton.mpr hinert))

/-! ## Reading literals -/

/-- What is read of a character that means something in markup: in a string it is taken, and
anywhere else it is a fault. -/
theorem step_markup {d : Char} (hd : d ∈ markupChars) (scan : Json.Scan) :
    (∃ next, scan.step d = (.string next, [])
        ∧ ∀ b, Json.resume (.ok (scan, b)) (Json.unitEscape d.toNat) = .ok (.string next, b))
      ∨ ∃ tokens e, (scan.step d).2 = tokens ++ [.fault e] := by
  simp only [markupChars, List.mem_cons, List.not_mem_nil, or_false] at hd
  have hsmall : d.toNat < 0x10000 := by
    rcases hd with rfl | rfl | rfl | rfl <;> decide
  cases scan with
  | string read =>
      refine .inl ⟨.char d :: read, ?_, fun b => ?_⟩
      · rcases hd with rfl | rfl | rfl | rfl <;> rfl
      · show Json.resume (.ok (.unit read none 4 0, b)) (.ofChars (Text.hexDigits 4 d.toNat)) = _
        rw [Json.resume_hexDigits read none b hsmall]
        rcases hd with rfl | rfl | rfl | rfl <;> rfl
  | half read high =>
      refine .inl ⟨.char d :: .ofNat high :: read, ?_, fun b => ?_⟩
      · rcases hd with rfl | rfl | rfl | rfl <;> rfl
      · show Json.resume (.ok (.unit read (some high) 4 0, b))
          (.ofChars (Text.hexDigits 4 d.toNat)) = _
        rw [Json.resume_hexDigits read (some high) b hsmall]
        rcases hd with rfl | rfl | rfl | rfl <;> rfl
  | numeral read phase =>
      refine .inr ⟨Json.numeralTokens read phase, .malformed, ?_⟩
      rcases hd with rfl | rfl | rfl | rfl <;> cases phase <;> rfl
  | word read =>
      refine .inr ⟨[Json.wordToken read], .malformed, ?_⟩
      rcases hd with rfl | rfl | rfl | rfl <;> rfl
  | _ =>
      refine .inr ⟨[], .malformed, ?_⟩
      rcases hd with rfl | rfl | rfl | rfl <;> rfl

/-- What the reader makes of a code point, it makes of how it stands in a literal. -/
theorem resume_literalPoint {r : Json.Reader} {state : Json.Scan × Json.Builder} {c : CodePoint}
    (h : r.feed c = .ok state) : Json.resume r (literalPoint c) = .ok state := by
  by_cases hmarkup : ∃ d ∈ markupChars, c = .char d
  · obtain ⟨d, hd, rfl⟩ := hmarkup
    cases r with
    | error e => cases h
    | ok before =>
        obtain ⟨scan, b⟩ := before
        rcases step_markup hd scan with ⟨next, hstep, hescape⟩ | ⟨tokens, e, htokens⟩
        · rw [Json.feed_silent hstep b] at h
          rw [literalPoint_of_mem hd, hescape b, h]
        · exact absurd h (Json.feed_fault htokens b state)
  · have hplain : literalPoint c = [c] :=
      literalPoint_of_not_mem fun d hd hc => hmarkup ⟨d, hd, hc⟩
    rw [hplain]
    exact h

theorem resume_literalPoints {r : Json.Reader} {state : Json.Scan × Json.Builder} {s : Text}
    (h : Json.resume r s = .ok state) : Json.resume r (s.flatMap literalPoint) = .ok state := by
  induction s generalizing r with
  | nil => exact h
  | cons c rest ih =>
      rw [Json.resume_cons] at h
      rw [List.flatMap_cons, Json.resume_append]
      cases hfeed : r.feed c with
      | error e =>
          rw [hfeed, Json.resume_error] at h
          cases h
      | ok next =>
          rw [resume_literalPoint hfeed, ← hfeed]
          exact ih h

/-- **What is read of a text is read of it with the escapes of a literal.** -/
theorem read_literalPoints {s : Text} {v : Json} (h : Json.read s = .ok v) :
    Json.read (s.flatMap literalPoint) = .ok v := by
  rw [Json.read_eq_conclude] at h ⊢
  cases hrun : Json.resume (.ok (.idle, .start)) s with
  | error e =>
      rw [hrun] at h
      cases h
  | ok state => rwa [resume_literalPoints hrun, ← hrun]

/-- A literal of a value, safe where it stands. -/
structure IsLiteral (s : Text) (v : Json) : Prop where
  inert : Inert s
  read : Json.read s = .ok v

/-- **A value that can be read back is read back from its literal**, with its keys in order. -/
theorem isLiteral_of_readable {v : Json} (hdepth : v.depth ≤ Json.maxDepth)
    (hreadable : v.Readable .ascii) : IsLiteral (literal v) v.sortKeys where
  inert := inert_literal v
  read := read_literalPoints <|
    Json.read_render (Nat.le_trans (Json.depth_sortKeys_le v) hdepth) hreadable.sortKeys

/-- **A text is written as a literal of it**, with halves joined where they make a pair. -/
theorem isLiteral_text (t : Text) : IsLiteral (literal (.text t)) (.text t.joined) := by
  have hsame : literal (.text t) = literal (.text t.joined) :=
    congrArg (List.flatMap literalPoint) (Json.write_joinedText rfl (.text t) 0).symm
  rw [hsame]
  exact isLiteral_of_readable (Nat.zero_le _) (Json.readable_text_joinedText t)

theorem isLiteral_double (x : Double) : IsLiteral (literal (.double x)) (.double x) :=
  isLiteral_of_readable (Nat.zero_le _) trivial

end CivicSite.Script
