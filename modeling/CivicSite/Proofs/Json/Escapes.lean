import CivicSite.Proofs.Json.Scalar
import Mathlib.Data.List.Chain

/-!
# Reading escapes

A string may spell a code point in several ways: as itself, as a backslash and another character, or
by its code units in UTF-16, each as an escape of four digits (`Json.Spells`). The reader takes them
all for the code point, with one exception. Two halves of a surrogate pair that stand next to each
other have the code units of one character, so that is what their escapes are read as. The code
units of a text are thus read back for any text (`Text.units_joined`), and the text itself if no two
halves in it make a pair (`Text.joined_eq_iff`).
-/

namespace CivicSite

/-! ## Halves of pairs -/

namespace CodePoint

/-- The code units of a code point in UTF-16. -/
def units (c : CodePoint) : List Nat :=
  if c.toNat < 0x10000 then [c.toNat]
  else [0xD800 + (c.toNat - 0x10000) / 0x400, 0xDC00 + (c.toNat - 0x10000) % 0x400]

/-- The halves that come first in a pair. -/
def isHigh : CodePoint → Bool
  | lone half => half < 0x400
  | char _ => false

/-- The halves that come last in a pair. -/
def isLow : CodePoint → Bool
  | lone half => 0x400 ≤ half
  | char _ => false

/-- The character that two halves stand for. -/
def ofPair (high low : Fin 2048) : CodePoint :=
  .char (.ofNat (0x10000 + high * 0x400 + (low - 0x400)))

theorem ofNat_eq_ofPair (high low : Fin 2048) :
    ofNat (0x10000 + high * 0x400 + (low - 0x400)) = ofPair high low := by
  rw [ofNat, dif_neg (by omega), ofPair]

theorem units_ofPair {high low : Fin 2048} (hhigh : high < 0x400) (hlow : 0x400 ≤ low) :
    (ofPair high low).units = [0xD800 + high.val, 0xD800 + low.val] := by
  have hhigh' : high.val < 0x400 := hhigh
  have hlow' : 0x400 ≤ low.val := hlow
  have hlt := low.isLt
  have hnat : (ofPair high low).toNat = 0x10000 + high * 0x400 + (low - 0x400) := by
    rw [← ofNat_eq_ofPair]
    exact toNat_ofNat (by omega)
  have hfirst : 0xD800 + (0x10000 + high.val * 0x400 + (low.val - 0x400) - 0x10000) / 0x400
      = 0xD800 + high.val := by omega
  have hsecond : 0xDC00 + (0x10000 + high.val * 0x400 + (low.val - 0x400) - 0x10000) % 0x400
      = 0xD800 + low.val := by omega
  rw [units, if_neg (by omega), hnat, hfirst, hsecond]

theorem units_lone (half : Fin 2048) : (lone half).units = [0xD800 + half.val] := by
  have hlt := half.isLt
  rw [units, toNat, if_pos (by omega)]

end CodePoint

namespace Text

/-- The code units of a text in UTF-16. -/
def units (s : Text) : List Nat := s.flatMap CodePoint.units

/-- A text with each two halves that make a pair joined to the character that they stand for. -/
def joined : Text → Text
  | .lone a :: .lone b :: rest =>
    if a < 0x400 ∧ 0x400 ≤ b then .ofPair a b :: joined rest
    else .lone a :: joined (.lone b :: rest)
  | c :: rest => c :: joined rest
  | [] => []

/-- No two halves that make a pair stand next to each other. -/
def IsJoined (s : Text) : Prop := s.IsChain fun c d => ¬ (c.isHigh = true ∧ d.isLow = true)

/-- **Joining halves leaves the code units alone.** -/
theorem units_joined (s : Text) : s.joined.units = s.units := by
  fun_induction joined s with
  | case1 a b rest hpair ih =>
      obtain ⟨ha, hb⟩ := hpair
      have hrest : (joined rest).flatMap CodePoint.units = rest.flatMap CodePoint.units := ih
      simp only [units, List.flatMap_cons, CodePoint.units_ofPair ha hb, CodePoint.units_lone,
        hrest, List.cons_append, List.nil_append]
  | case2 a b rest hpair ih =>
      rw [units, List.flatMap_cons, ← units, ih]
      rfl
  | case3 c rest hne ih =>
      rw [units, List.flatMap_cons, ← units, ih]
      rfl
  | case4 => rfl

theorem joined_eq_of_isJoined {s : Text} (h : s.IsJoined) : s.joined = s := by
  fun_induction joined s with
  | case1 a b rest hpair ih =>
      have hfirst := (List.isChain_cons_cons.mp h).1
      exact absurd ⟨decide_eq_true hpair.1, decide_eq_true hpair.2⟩ hfirst
  | case2 a b rest hpair ih => rw [ih (List.IsChain.tail h)]
  | case3 c rest hne ih => rw [ih (List.IsChain.tail h)]
  | case4 => rfl

/-- The last half of a pair begins a text only if it did so before. -/
theorem head?_of_isLow {s : Text} {d : CodePoint} (hd : d ∈ s.joined.head?)
    (hlow : d.isLow = true) : d ∈ s.head? := by
  fun_induction joined s with
  | case1 a b rest hpair ih =>
      obtain rfl := Option.some.inj hd
      cases hlow
  | case2 a b rest hpair ih => exact hd
  | case3 c rest hne ih => exact hd
  | case4 => exact hd

theorem isJoined_joined (s : Text) : s.joined.IsJoined := by
  fun_induction joined s with
  | case1 a b rest hpair ih =>
      exact List.isChain_cons.mpr ⟨fun _ _ hfirst => absurd hfirst.1 Bool.false_ne_true, ih⟩
  | case2 a b rest hpair ih =>
      refine List.isChain_cons.mpr ⟨fun d hd => ?_, ih⟩
      rintro ⟨hhigh, hlow⟩
      obtain rfl := Option.some.inj (head?_of_isLow hd hlow)
      exact hpair ⟨of_decide_eq_true hhigh, of_decide_eq_true hlow⟩
  | case3 c rest hne ih =>
      refine List.isChain_cons.mpr ⟨fun d hd => ?_, ih⟩
      rintro ⟨hhigh, hlow⟩
      cases rest with
      | nil => cases hd
      | cons e rest =>
          obtain rfl : e = d := Option.some.inj (head?_of_isLow hd hlow)
          cases c with
          | char c => cases hhigh
          | lone a =>
              cases e with
              | char e => cases hlow
              | lone b => exact hne a b rest rfl rfl
  | case4 => exact List.isChain_nil

/-- A text is left alone just if there is nothing to join in it. -/
theorem joined_eq_iff {s : Text} : s.joined = s ↔ s.IsJoined :=
  ⟨fun h => h ▸ isJoined_joined s, joined_eq_of_isJoined⟩

theorem joined_cons_of_not_isHigh {c : CodePoint} (h : c.isHigh = false) (rest : Text) :
    joined (c :: rest) = c :: joined rest := by
  cases c with
  | char c => rw [joined]; exact fun _ _ _ heq => nomatch heq
  | lone a =>
      have ha : ¬ a < 0x400 := of_decide_eq_false h
      cases rest with
      | nil => rfl
      | cons d rest =>
          cases d with
          | char d => rfl
          | lone b => rw [joined, if_neg fun hpair => ha hpair.1]

theorem joined_cons_of_not_isLow {c d : CodePoint} (h : d.isLow = false) (rest : Text) :
    joined (c :: d :: rest) = c :: joined (d :: rest) := by
  cases c with
  | char c => rfl
  | lone a =>
      cases d with
      | char d => rfl
      | lone b => rw [joined, if_neg fun hpair => of_decide_eq_false h hpair.2]

end Text

/-! ## Spellings -/

namespace Json

/-- The ways to write a code point in a string. -/
inductive Spells : CodePoint → Text → Prop where
  | plain {c : Char} (quote : c ≠ '"') (slash : c ≠ '\\') (printed : 0x20 ≤ c.toNat) :
    Spells (.char c) [.char c]
  | short {p : Char × Char} (h : p ∈ shortEscapes) : Spells (.char p.1) [.char '\\', .char p.2]
  | escaped (c : CodePoint) : Spells c (escapes c)

/-- Where a reader is in a string. The half that it has read last is kept apart as long as it may
still become a pair. -/
def scanOf (read : Text) : Option (Fin 2048) → Scan
  | none => .string read
  | some half => .half read (0xD800 + half)

/-- What is read of a string after one more code point. -/
def advance (read : Text) (half? : Option (Fin 2048)) : CodePoint → Scan
  | .char c => .string (.char c :: ((half?.map .lone).toList ++ read))
  | .lone b =>
    match half? with
    | some a =>
      if 0x400 ≤ b then .string (.ofPair a b :: read) else scanOf (.lone a :: read) (some b)
    | none => if b < 0x400 then scanOf read (some b) else .string (.lone b :: read)

variable {read : Text} {half? : Option (Fin 2048)} {b b' : Builder}

theorem resume_unitEscape (read : Text) (half? : Option (Fin 2048)) (b : Builder) {n : Nat}
    (h : n < 0x10000) :
    resume (.ok (scanOf read half?, b)) (unitEscape n)
      = .ok (afterUnit read (half?.map fun a => 0xD800 + a.val) n, b) := by
  have hopen : resume (.ok (scanOf read half?, b)) "\\u"
      = .ok (.unit read (half?.map fun a => 0xD800 + a.val) 4 0, b) := by
    cases half? <;> rfl
  rw [unitEscape, resume_append, hopen, resume_hexDigits _ _ _ h]

/-- A unit that is no half of a pair. -/
theorem afterUnit_of_plain {n : Nat} (h : n < 0xD800 ∨ 0xE000 ≤ n) :
    afterUnit read (half?.map fun a => 0xD800 + a.val) n
      = .string (.ofNat n :: ((half?.map .lone).toList ++ read)) := by
  cases half? with
  | none => exact if_neg (by simp; omega)
  | some a =>
      have hlone : CodePoint.ofNat (0xD800 + a.val) = .lone a := CodePoint.ofNat_toNat (.lone a)
      simp only [Option.map_some, afterUnit]
      rw [if_neg (by simp; omega), if_neg (by simp; omega), hlone]
      rfl

/-- A unit that is the first half of a pair. -/
theorem afterUnit_of_high {a : Fin 2048} (h : a < 0x400) :
    afterUnit read (half?.map fun a => 0xD800 + a.val) (0xD800 + a.val)
      = scanOf ((half?.map .lone).toList ++ read) (some a) := by
  have ha : a.val < 0x400 := h
  cases half? with
  | none => exact if_pos (by simp; omega)
  | some c =>
      have hlone : CodePoint.ofNat (0xD800 + c.val) = .lone c := CodePoint.ofNat_toNat (.lone c)
      simp only [Option.map_some, afterUnit]
      rw [if_neg (by simp; omega), if_pos (by simp; omega), hlone]
      rfl

/-- A unit that is the last half of a pair. -/
theorem afterUnit_of_low {a : Fin 2048} (h : 0x400 ≤ a) :
    afterUnit read (half?.map fun a => 0xD800 + a.val) (0xD800 + a.val)
      = advance read half? (.lone a) := by
  have ha : 0x400 ≤ a.val := h
  have hlt := a.isLt
  cases half? with
  | none =>
      have hlone : CodePoint.ofNat (0xD800 + a.val) = .lone a := CodePoint.ofNat_toNat (.lone a)
      simp only [Option.map_none, afterUnit, advance]
      rw [if_neg (by simp; omega), if_neg (by omega), hlone]
  | some c =>
      have hpair : 0x10000 + (0xD800 + c.val - 0xD800) * 0x400 + (0xD800 + a.val - 0xDC00)
          = 0x10000 + c.val * 0x400 + (a.val - 0x400) := by omega
      simp only [Option.map_some, afterUnit, advance]
      rw [if_pos (by simp; omega), if_pos h, hpair, CodePoint.ofNat_eq_ofPair]

theorem advance_of_high {a : Fin 2048} (h : a < 0x400) :
    advance read half? (.lone a) = scanOf ((half?.map .lone).toList ++ read) (some a) := by
  have ha : ¬ 0x400 ≤ a := Fin.not_le.mpr h
  cases half? with
  | none => exact if_pos h
  | some c => exact if_neg ha

theorem advance_of_low {a c : Fin 2048} (h : 0x400 ≤ c) :
    advance read (some a) (.lone c) = .string (.ofPair a c :: read) := if_pos h

/-- **A code point is read from its escapes**, along with the half before it. -/
theorem resume_escapes (read : Text) (half? : Option (Fin 2048)) (b : Builder) (c : CodePoint) :
    resume (.ok (scanOf read half?, b)) (escapes c) = .ok (advance read half? c, b) := by
  unfold escapes
  dsimp only
  cases c with
  | lone a =>
      have hlt := a.isLt
      have hnat : (CodePoint.lone a).toNat = 0xD800 + a.val := rfl
      rw [hnat, if_pos (by omega), resume_unitEscape read half? b (by omega)]
      rcases Nat.lt_or_ge a.val 0x400 with ha | ha
      · rw [afterUnit_of_high ha, advance_of_high ha]
      · rw [afterUnit_of_low ha]
  | char c =>
      have hvalid : c.toNat < 0xD800 ∨ 0xDFFF < c.toNat ∧ c.toNat < 0x110000 := c.valid
      have hnat : (CodePoint.char c).toNat = c.toNat := rfl
      have hback : CodePoint.ofNat c.toNat = .char c := CodePoint.ofNat_toNat (.char c)
      rw [hnat]
      split
      · rw [resume_unitEscape read half? b (by omega), afterUnit_of_plain (by omega), hback]
        rfl
      · -- the two halves of a pair, one after the other
        let high : Fin 2048 := ⟨(c.toNat - 0x10000) / 0x400, by omega⟩
        let low : Fin 2048 := ⟨0x400 + (c.toNat - 0x10000) % 0x400, by omega⟩
        have hhigh : high < 0x400 := show (c.toNat - 0x10000) / 0x400 < 0x400 by omega
        have hlow : 0x400 ≤ low := show 0x400 ≤ 0x400 + (c.toNat - 0x10000) % 0x400 by omega
        have hnumber : 0x10000 + high.val * 0x400 + (low.val - 0x400) = c.toNat := by
          show 0x10000 + (c.toNat - 0x10000) / 0x400 * 0x400
            + (0x400 + (c.toNat - 0x10000) % 0x400 - 0x400) = c.toNat
          omega
        have hpair : CodePoint.ofPair high low = .char c := by
          rw [← CodePoint.ofNat_eq_ofPair, hnumber, hback]
        have hsecond : 0xDC00 + (c.toNat - 0x10000) % 0x400 = 0xD800 + low.val := by
          show _ = 0xD800 + (0x400 + (c.toNat - 0x10000) % 0x400)
          omega
        have hfirst : resume (.ok (scanOf read half?, b)) (unitEscape (0xD800 + high.val))
            = .ok (scanOf ((half?.map .lone).toList ++ read) (some high), b) := by
          rw [resume_unitEscape read half? b (by omega), afterUnit_of_high hhigh]
        rw [resume_append, hfirst, hsecond, resume_unitEscape _ _ b (by omega),
          afterUnit_of_low hlow, advance_of_low hlow, hpair]
        rfl

theorem afterBackslash_of_shortEscape {p : Char × Char} (h : p ∈ shortEscapes) (read : Text) :
    p.2 ≠ 'u' ∧ afterBackslash read p.2 = (.string (.char p.1 :: read), []) := by
  simp only [shortEscapes, List.mem_cons, List.not_mem_nil, or_false] at h
  rcases h with rfl | rfl | rfl | rfl | rfl | rfl | rfl <;> exact ⟨by decide, rfl⟩

/-- **A code point is read from any of its spellings.** -/
theorem resume_spells {c : CodePoint} {s : Text} (h : Spells c s) (read : Text)
    (half? : Option (Fin 2048)) (b : Builder) :
    resume (.ok (scanOf read half?, b)) s = .ok (advance read half? c, b) := by
  have hlone (a : Fin 2048) : CodePoint.ofNat (0xD800 + a.val) = .lone a :=
    CodePoint.ofNat_toNat (.lone a)
  cases h with
  | escaped => exact resume_escapes read half? b c
  | @plain c quote slash printed =>
      have hslash : (c == '\\') = false := beq_false_of_ne slash
      have hinside (read : Text) : insideString read c = (.string (.char c :: read), []) := by
        rw [insideString, if_neg (fun h => quote (beq_iff_eq.mp h)), hslash,
          if_neg Bool.false_ne_true, if_neg (Nat.not_lt.mpr printed)]
      rw [resume_cons, resume_nil]
      refine feed_silent ?_ b
      cases half? with
      | none => exact hinside read
      | some a =>
          show (if c == '\\' then _ else insideString (.ofNat (0xD800 + a.val) :: read) c) = _
          rw [hslash, if_neg Bool.false_ne_true, hlone, hinside]
          rfl
  | @short p h =>
      cases half? with
      | none =>
          have hescape : Scan.step (.escape read) p.2 = (.string (.char p.1 :: read), []) :=
            (afterBackslash_of_shortEscape h read).2
          exact feed_silent hescape b
      | some a =>
          have hescape : Scan.step (.halfEscape read (0xD800 + a.val)) p.2
              = (.string (.char p.1 :: .lone a :: read), []) := by
            obtain ⟨hunit, hshort⟩ := afterBackslash_of_shortEscape h (.lone a :: read)
            show (if p.2 == 'u' then _
              else afterBackslash (.ofNat (0xD800 + a.val) :: read) p.2) = _
            rw [if_neg (fun h => hunit (beq_iff_eq.mp h)), hlone, hshort]
          exact feed_silent hescape b

/-! ## Strings -/

/-- The end of a string, after what may have been a half of a pair. -/
theorem feed_quote {read : Text} {half? : Option (Fin 2048)} {b b' : Builder}
    (h : b.push (.scalar (.text ((((half?.map .lone).toList : Text) ++ read).reverse))) = .ok b') :
    Reader.feed (.ok (scanOf read half?, b)) '"' = .ok (.idle, b') := by
  refine feed_token ?_ h
  cases half? with
  | none => rfl
  | some a =>
      have hlone : CodePoint.ofNat (0xD800 + a.val) = .lone a := CodePoint.ofNat_toNat (.lone a)
      show (Scan.idle, [Token.scalar (.text (.ofNat (0xD800 + a.val) :: read).reverse)]) = _
      rw [hlone]
      rfl

/-- A half that has been read before what is not the other half stays by itself. -/
theorem joined_half_append (half? : Option (Fin 2048)) {c : CodePoint} (h : c.isLow = false)
    (s : Text) : Text.joined ((half?.map .lone).toList ++ c :: s)
      = (half?.map .lone).toList ++ Text.joined (c :: s) := by
  cases half? with
  | none => rfl
  | some a => exact Text.joined_cons_of_not_isLow h s

/-- What is read of a string after one more code point, with the half that is kept apart. -/
theorem advance_eq_scanOf {half? : Option (Fin 2048)} (hhalf : ∀ a ∈ half?, a < 0x400)
    (read : Text) (c : CodePoint) :
    ∃ read' half?', advance read half? c = scanOf read' half?' ∧ (∀ a ∈ half?', a < 0x400)
      ∧ ∀ s, read'.reverse ++ Text.joined ((half?'.map .lone).toList ++ s)
        = read.reverse ++ Text.joined ((half?.map .lone).toList ++ c :: s) := by
  have hreverse (s : Text) : ((half?.map CodePoint.lone).toList ++ read).reverse ++ s
      = read.reverse ++ ((half?.map CodePoint.lone).toList ++ s) := by
    cases half? <;> simp
  cases c with
  | char c =>
      refine ⟨.char c :: ((half?.map .lone).toList ++ read), none, rfl, nofun, fun s => ?_⟩
      rw [joined_half_append half? rfl, Text.joined_cons_of_not_isHigh rfl, List.reverse_cons,
        List.append_assoc, hreverse]
      rfl
  | lone b =>
      by_cases hb : b < 0x400
      · have hlow : (CodePoint.lone b).isLow = false := decide_eq_false (Fin.not_le.mpr hb)
        refine ⟨(half?.map .lone).toList ++ read, some b, advance_of_high hb, ?_, fun s => ?_⟩
        · intro a ha
          obtain rfl := Option.some.inj ha
          exact hb
        · rw [joined_half_append half? hlow, hreverse]
          rfl
      · have hhigh : (CodePoint.lone b).isHigh = false := decide_eq_false hb
        have hlow : 0x400 ≤ b := Fin.not_lt.mp hb
        cases half? with
        | none =>
            refine ⟨.lone b :: read, none, if_neg hb, nofun, fun s => ?_⟩
            show _ = read.reverse ++ Text.joined (.lone b :: s)
            rw [Text.joined_cons_of_not_isHigh hhigh, List.reverse_cons, List.append_assoc]
            rfl
        | some a =>
            refine ⟨.ofPair a b :: read, none, if_pos hlow, nofun, fun s => ?_⟩
            show _ = read.reverse ++ Text.joined (.lone a :: .lone b :: s)
            rw [Text.joined, if_pos ⟨hhalf a rfl, hlow⟩, List.reverse_cons, List.append_assoc]
            rfl

variable {f : CodePoint → Text}

/-- **A string is read as its text with halves joined**, however each code point is spelled. -/
theorem resume_spelled (hf : ∀ c, Spells c (f c)) {b b' : Builder} (s : Text) :
    ∀ (read : Text) (half? : Option (Fin 2048)), (∀ a ∈ half?, a < 0x400) →
      b.push (.scalar (.text (read.reverse ++ Text.joined ((half?.map .lone).toList ++ s))))
        = .ok b' →
      resume (.ok (scanOf read half?, b)) (s.flatMap f ++ [CodePoint.char '"'])
        = .ok (.idle, b') := by
  induction s with
  | nil =>
      intro read half? hhalf h
      refine feed_quote ?_
      have hread : read.reverse ++ Text.joined ((half?.map .lone).toList ++ [])
          = (((half?.map .lone).toList : Text) ++ read).reverse := by
        cases half? with
        | none => exact List.append_nil _
        | some a => exact (List.reverse_cons ..).symm
      rw [← hread]
      exact h
  | cons c s ih =>
      intro read half? hhalf h
      obtain ⟨read', half?', hscan, hhalf', hsame⟩ := advance_eq_scanOf hhalf read c
      rw [List.flatMap_cons, List.append_assoc, resume_append, resume_spells (hf c), hscan]
      refine ih read' half?' hhalf' ?_
      rw [hsame]
      exact h

end Json

end CivicSite
