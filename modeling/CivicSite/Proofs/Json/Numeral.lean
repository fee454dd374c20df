import CivicSite.Proofs.Double.Decimal
import CivicSite.Proofs.Json.Scalar

/-!
# Reading doubles that were written

The digits of a double are laid out in one of four ways: after a point and zeros, before zeros and a
point, with the point among them, or with a power of ten. Each is a numeral in full for the reader,
and stands for the digits with the point where it was asked for (`denotes_layout`). The digits are
those of a decimal number that is read as the double, and zeros that move between the digits and the
power do not change that. So every double is read back from what is written of it
(`settles_double`).
-/

namespace CivicSite.Json

open Double (zeros layout dropEndZeros finiteText decimalUnits exponent? ofDecimal ofNumeral
  shortest)

/-! ## Digits -/

theorem isDigit_zeros (k : Nat) : ∀ c ∈ zeros k, c.isDigit = true := by
  intro c hc
  rw [List.eq_of_mem_replicate hc]
  rfl

theorem ofDigitChars_append_zeros (ds : List Char) (k : Nat) :
    Nat.ofDigitChars 10 (ds ++ zeros k) 0 = Nat.ofDigitChars 10 ds 0 * 10 ^ k := by
  rw [Nat.ofDigitChars_append, zeros, Nat.ofDigitChars_replicate_zero, Nat.mul_comm]

theorem ofDigitChars_zeros_append (k : Nat) (ds : List Char) :
    Nat.ofDigitChars 10 (zeros k ++ ds) 0 = Nat.ofDigitChars 10 ds 0 := by
  rw [Nat.ofDigitChars_append, zeros, Nat.ofDigitChars_replicate_zero, Nat.mul_zero]

/-- Digits that do not begin with a zero. -/
structure Leading (ds : List Char) : Prop where
  head : ∃ d ∈ ds.head?, d ≠ '0'
  digits : ∀ d ∈ ds, d.isDigit = true

theorem Leading.ne_nil {ds : List Char} (h : Leading ds) : ds ≠ [] := by
  rintro rfl
  obtain ⟨d, hd, -⟩ := h.head
  cases hd

/-- More digits may follow, and digits may be left out at the end. -/
theorem Leading.of_prefix {ds es : List Char} (h : Leading ds) (hhead : es.head? = ds.head?)
    (hdigits : ∀ d ∈ es, d.isDigit = true) : Leading es :=
  ⟨hhead ▸ h.head, hdigits⟩

theorem leading_toDigits {n : Nat} (h : 0 < n) : Leading (Nat.toDigits 10 n) := by
  obtain ⟨d, ds, hds, hzero⟩ := toDigits_eq_cons h
  exact ⟨⟨d, by rw [hds]; rfl, hzero⟩, isDigit_toDigits n⟩

theorem dropEndZeros_cons (c : Char) (ds : List Char) :
    dropEndZeros (c :: ds)
      = if c == '0' && (dropEndZeros ds).isEmpty then [] else c :: dropEndZeros ds := rfl

theorem exists_dropEndZeros (ds : List Char) : ∃ k, ds = dropEndZeros ds ++ zeros k := by
  induction ds with
  | nil => exact ⟨0, rfl⟩
  | cons c ds ih =>
      obtain ⟨k, hk⟩ := ih
      rw [dropEndZeros_cons]
      split
      · rename_i hdrop
        obtain ⟨hc, hnil⟩ := (Bool.and_eq_true _ _).mp hdrop
        rw [List.isEmpty_iff.mp hnil, List.nil_append] at hk
        exact ⟨k + 1, by rw [beq_iff_eq.mp hc, hk]; rfl⟩
      · exact ⟨k, congrArg (c :: ·) hk⟩

theorem Leading.dropEndZeros {ds : List Char} (h : Leading ds) : Leading (dropEndZeros ds) := by
  obtain ⟨k, hk⟩ := exists_dropEndZeros ds
  have hdigits : ∀ d ∈ Double.dropEndZeros ds, d.isDigit = true := fun d hd =>
    h.digits d (hk ▸ List.mem_append_left _ hd)
  cases ds with
  | nil => exact absurd rfl h.ne_nil
  | cons d rest =>
      obtain ⟨_, hd, hzero⟩ := h.head
      obtain rfl := Option.some.inj hd
      refine h.of_prefix ?_ hdigits
      rw [dropEndZeros_cons, beq_false_of_ne hzero]
      rfl

/-! ## The parts of a numeral -/

/-- What may stand before the point. -/
def IsWhole (whole : List Char) : Prop := whole = ['0'] ∨ Leading whole

/-- What stands after the whole part, with the point, if anything does. -/
def pointed : List Char → List Char
  | [] => []
  | d :: ds => '.' :: d :: ds

/-- The digits of a power of ten, at least two. -/
def powerDigits (power : Int) : List Char :=
  let size := Nat.toDigits 10 power.natAbs
  zeros (2 - size.length) ++ size

/-- A power of ten, its sign written out. -/
def powerText (power : Int) : List Char :=
  'e' :: (if power < 0 then '-' else '+') :: powerDigits power

theorem NumeralPhase.next?_fraction {d : Char} (h : d.isDigit = true) :
    fraction.next? d = some fraction := if_pos h

theorem NumeralPhase.next?_power {d : Char} (h : d.isDigit = true) : power.next? d = some power :=
  if_pos h

variable {whole fraction tail : List Char}

theorem IsWhole.digits (h : IsWhole whole) : ∀ d ∈ whole, d.isDigit = true := by
  rcases h with rfl | h
  · exact isDigit_zeros 1
  · exact h.digits

theorem IsWhole.head (h : IsWhole whole) : ∃ d ∈ whole.head?, d.isDigit = true := by
  have hdigits := h.digits
  rcases h with rfl | h
  · exact ⟨'0', rfl, rfl⟩
  · obtain ⟨d, hd, -⟩ := h.head
    exact ⟨d, hd, hdigits d (List.mem_of_mem_head? hd)⟩

theorem IsWhole.run? (h : IsWhole whole) :
    ∃ phase, NumeralPhase.sign.run? whole = some phase ∧ (phase = .zero ∨ phase = .whole) := by
  rcases h with rfl | h
  · exact ⟨.zero, rfl, .inl rfl⟩
  · cases whole with
    | nil => exact absurd rfl h.ne_nil
    | cons d ds =>
        obtain ⟨_, hd, hzero⟩ := h.head
        obtain rfl := Option.some.inj hd
        exact ⟨.whole, run?_whole hzero h.digits, .inr rfl⟩

/-- With its whole part and its fraction a numeral may end, and it may go on with a power. -/
theorem run?_parts (hwhole : IsWhole whole) (hfraction : ∀ d ∈ fraction, d.isDigit = true) :
    ∃ phase, NumeralPhase.sign.run? (whole ++ pointed fraction) = some phase
      ∧ phase.isComplete = true ∧ phase.next? 'e' = some .mark := by
  obtain ⟨phase, hrun, hphase⟩ := hwhole.run?
  rw [NumeralPhase.run?_append hrun]
  cases fraction with
  | nil => exact ⟨phase, rfl, by rcases hphase with rfl | rfl <;> exact ⟨rfl, rfl⟩⟩
  | cons d ds =>
      obtain ⟨hd, hds⟩ := List.forall_mem_cons.mp hfraction
      have hpoint : phase.next? '.' = some .point := by rcases hphase with rfl | rfl <;> rfl
      have hfirst : NumeralPhase.point.next? d = some .fraction := if_pos hd
      refine ⟨.fraction, ?_, rfl, rfl⟩
      rw [pointed, NumeralPhase.run?_cons, hpoint, Option.bind_some, NumeralPhase.run?_cons, hfirst]
      exact NumeralPhase.run?_digits (fun _ => NumeralPhase.next?_fraction) hds

theorem isDigit_powerDigits (power : Int) : ∀ d ∈ powerDigits power, d.isDigit = true :=
  List.forall_mem_append.mpr ⟨isDigit_zeros _, isDigit_toDigits _⟩

theorem powerDigits_ne_nil (power : Int) : powerDigits power ≠ [] := fun hnil =>
  Nat.toDigits_ne_nil (List.append_eq_nil_iff.mp hnil).2

theorem ofDigitChars_powerDigits (power : Int) :
    Nat.ofDigitChars 10 (powerDigits power) 0 = power.natAbs := by
  rw [powerDigits, ofDigitChars_zeros_append, Nat.ofDigitChars_ten_toDigits]

theorem run?_powerText {phase : NumeralPhase} (h : phase.next? 'e' = some .mark) (power : Int) :
    phase.run? (powerText power) = some .power := by
  have hsign : NumeralPhase.mark.next? (if power < 0 then '-' else '+') = some .markSign := by
    split <;> rfl
  have hdigits := isDigit_powerDigits power
  rw [powerText, NumeralPhase.run?_cons, h, Option.bind_some, NumeralPhase.run?_cons, hsign,
    Option.bind_some]
  cases hpower : powerDigits power with
  | nil => exact absurd hpower (powerDigits_ne_nil power)
  | cons d ds =>
      rw [hpower] at hdigits
      obtain ⟨hd, hds⟩ := List.forall_mem_cons.mp hdigits
      have hfirst : NumeralPhase.markSign.next? d = some .power := if_pos hd
      rw [NumeralPhase.run?_cons, hfirst]
      exact NumeralPhase.run?_digits (fun _ => NumeralPhase.next?_power) hds

theorem exponent?_powerText (power : Int) : exponent? (powerText power) = some power := by
  have hsign : Text.splitSign ((if power < 0 then '-' else '+') :: powerDigits power)
      = (decide (power < 0), powerDigits power) := by
    by_cases hneg : power < 0
    · rw [if_pos hneg, decide_eq_true hneg]
      rfl
    · rw [if_neg hneg, decide_eq_false hneg]
      rfl
  have hne : (powerDigits power).isEmpty = false :=
    Bool.eq_false_iff.mpr fun hnil => powerDigits_ne_nil power (List.isEmpty_iff.mp hnil)
  have hall : (powerDigits power).all Char.isDigit = true :=
    List.all_eq_true.mpr (isDigit_powerDigits power)
  have hvalue : (if decide (power < 0) then -(power.natAbs : Int) else power.natAbs) = power := by
    by_cases hneg : power < 0
    · rw [if_pos (decide_eq_true hneg)]
      omega
    · rw [if_neg (by simpa using hneg)]
      omega
  unfold exponent? powerText
  dsimp only
  rw [hsign]
  dsimp only
  rw [hne, hall, ofDigitChars_powerDigits, hvalue]
  rfl

/-! ## Numerals with a fraction or a power -/

/-- The token of a numeral that is not a whole number. -/
theorem numeralToken_parts (negative : Bool) (hwhole : IsWhole whole)
    (hfraction : ∀ d ∈ fraction, d.isDigit = true)
    (htail : tail = [] ∧ fraction ≠ [] ∨ ∃ rest, tail = 'e' :: rest) :
    numeralToken (minus negative ++ (whole ++ (pointed fraction ++ tail)))
      = .scalar (.double (ofNumeral negative whole fraction ((exponent? tail).getD 0))) := by
  have hhead : ∃ c ∈ (whole ++ (pointed fraction ++ tail)).head?, c.isDigit = true := by
    obtain ⟨d, hd, hdigit⟩ := hwhole.head
    exact ⟨d, by rw [List.head?_append, Option.mem_def.mp hd]; rfl, hdigit⟩
  have hend : ∀ c ∈ tail.head?, c.isDigit = false := by
    rcases htail with ⟨rfl, -⟩ | ⟨rest, rfl⟩
    · exact nofun
    · exact fun c hc => Option.some.inj hc ▸ rfl
  cases fraction with
  | nil =>
      obtain ⟨rest, rfl⟩ := htail.resolve_left fun h => h.2 rfl
      have hsplit : Text.splitDigits (whole ++ (pointed [] ++ 'e' :: rest))
          = (whole, 'e' :: rest) :=
        splitDigits_append hwhole.digits hend
      simp only [numeralToken, splitSign_minus hhead, hsplit]
      rfl
  | cons d ds =>
      have hsplit : Text.splitDigits (whole ++ (pointed (d :: ds) ++ tail))
          = (whole, '.' :: (d :: ds ++ tail)) :=
        splitDigits_append hwhole.digits fun c hc => Option.some.inj hc ▸ rfl
      simp only [numeralToken, splitSign_minus hhead, hsplit, splitDigits_append hfraction hend]

/-- A numeral without its sign that is read as a decimal number. -/
structure Denotes (cs : List Char) (digits : Nat) (exponent : Int) : Prop where
  run : ∃ phase, NumeralPhase.sign.run? cs = some phase ∧ phase.isComplete = true
  token : ∀ negative,
    numeralToken (minus negative ++ cs) = .scalar (.double (ofDecimal negative digits exponent))

theorem denotes_fraction (hwhole : IsWhole whole) (hfraction : ∀ d ∈ fraction, d.isDigit = true)
    (hne : fraction ≠ []) : Denotes (whole ++ '.' :: fraction)
      (Nat.ofDigitChars 10 (whole ++ fraction) 0) (-fraction.length) := by
  have hpointed : '.' :: fraction = pointed fraction ++ [] := by
    cases fraction with
    | nil => exact absurd rfl hne
    | cons d ds => exact (List.append_nil _).symm
  obtain ⟨phase, hrun, hphase, -⟩ := run?_parts hwhole hfraction
  rw [hpointed]
  refine ⟨⟨phase, by rwa [List.append_nil], hphase⟩, fun negative => ?_⟩
  rw [numeralToken_parts negative hwhole hfraction (.inl ⟨rfl, hne⟩), ofNumeral,
    ← Int.zero_sub (fraction.length : Int)]
  rfl

theorem denotes_power (hwhole : IsWhole whole) (hfraction : ∀ d ∈ fraction, d.isDigit = true)
    (power : Int) : Denotes (whole ++ (pointed fraction ++ powerText power))
      (Nat.ofDigitChars 10 (whole ++ fraction) 0) (power - fraction.length) := by
  obtain ⟨phase, hrun, -, hmark⟩ := run?_parts hwhole hfraction
  refine ⟨⟨.power, ?_, rfl⟩, fun negative => ?_⟩
  · rw [← List.append_assoc, NumeralPhase.run?_append hrun, run?_powerText hmark]
  · have htail : ∃ rest, powerText power = 'e' :: rest := ⟨_, rfl⟩
    rw [numeralToken_parts negative hwhole hfraction (.inr htail), exponent?_powerText]
    rfl

/-! ## Layouts -/

variable {ds : List Char} {point : Int}

/-- Digits after the point and zeros. -/
theorem denotes_after (hds : Leading ds) (hpoint : point ≤ 0) :
    Denotes ('0' :: '.' :: zeros (-point).toNat ++ ds) (Nat.ofDigitChars 10 ds 0)
      (point - ds.length) := by
  have hnumeral := @denotes_fraction ['0'] (zeros (-point).toNat ++ ds) (.inl rfl)
    (List.forall_mem_append.mpr ⟨isDigit_zeros _, hds.digits⟩)
    (fun hnil => hds.ne_nil (List.append_eq_nil_iff.mp hnil).2)
  have hdigits : Nat.ofDigitChars 10 (['0'] ++ (zeros (-point).toNat ++ ds)) 0
      = Nat.ofDigitChars 10 ds 0 := ofDigitChars_zeros_append ((-point).toNat + 1) ds
  have hexponent : -((zeros (-point).toNat ++ ds).length : Int) = point - ds.length := by
    rw [List.length_append, zeros, List.length_replicate]
    omega
  rwa [hdigits, hexponent] at hnumeral

/-- Digits before zeros and the point. -/
theorem denotes_before (hds : Leading ds) (k : Nat) :
    Denotes (ds ++ zeros k ++ ['.', '0']) (Nat.ofDigitChars 10 ds 0 * 10 ^ (k + 1)) (-1) := by
  have hwhole : Leading (ds ++ zeros k) := by
    refine hds.of_prefix ?_ (List.forall_mem_append.mpr ⟨hds.digits, isDigit_zeros k⟩)
    obtain ⟨d, hd, -⟩ := hds.head
    rw [List.head?_append, Option.mem_def.mp hd, Option.some_or]
  have hnumeral := @denotes_fraction _ ['0'] (.inr hwhole) (isDigit_zeros 1)
    (List.cons_ne_nil _ _)
  have hdigits : Nat.ofDigitChars 10 (ds ++ zeros k ++ ['0']) 0
      = Nat.ofDigitChars 10 ds 0 * 10 ^ (k + 1) := by
    rw [List.append_assoc, show zeros k ++ ['0'] = zeros (k + 1) from List.replicate_succ'.symm,
      ofDigitChars_append_zeros]
  rwa [hdigits] at hnumeral

theorem Leading.take (hds : Leading ds) {n : Nat} (hn : 0 < n) : Leading (ds.take n) :=
  hds.of_prefix (by rw [List.head?_take, if_neg (by omega)]) fun d hd =>
    hds.digits d (List.mem_of_mem_take hd)

theorem Leading.drop (hds : Leading ds) (n : Nat) : ∀ d ∈ ds.drop n, d.isDigit = true := fun d hd =>
  hds.digits d (List.mem_of_mem_drop hd)

/-- Digits with the point among them. -/
theorem denotes_among (hds : Leading ds) {n : Nat} (hn : 0 < n) (hlength : n < ds.length) :
    Denotes (ds.take n ++ '.' :: ds.drop n) (Nat.ofDigitChars 10 ds 0) (n - ds.length) := by
  have hnumeral := denotes_fraction (.inr (hds.take hn)) (hds.drop n)
    (fun hnil => by rw [List.drop_eq_nil_iff] at hnil; omega)
  have hexponent : -((ds.drop n).length : Int) = n - ds.length := by
    rw [List.length_drop]
    omega
  rwa [List.take_append_drop, hexponent] at hnumeral

/-- Digits with a power of ten. -/
theorem denotes_scaled (hds : Leading ds) (power : Int) :
    Denotes (ds.take 1 ++ (pointed (ds.drop 1) ++ powerText power)) (Nat.ofDigitChars 10 ds 0)
      (power + 1 - ds.length) := by
  have hnumeral := denotes_power (.inr (hds.take Nat.one_pos)) (hds.drop 1) power
  have hpos : 0 < ds.length := List.length_pos_iff.mpr hds.ne_nil
  have hexponent : power - ((ds.drop 1).length : Int) = power + 1 - ds.length := by
    rw [List.length_drop]
    omega
  rwa [List.take_append_drop, hexponent] at hnumeral

/-- **Digits that are laid out with a point stand for the number with the point there.** -/
theorem denotes_layout (hds : Leading ds) (point : Int) : ∃ k : Nat,
    Denotes (layout ds point) (Nat.ofDigitChars 10 ds 0 * 10 ^ k) (point - ds.length - k) := by
  have hunscaled {cs : List Char} {exponent : Int} (hexponent : exponent = point - ds.length)
      (h : Denotes cs (Nat.ofDigitChars 10 ds 0) exponent) : ∃ k : Nat,
      Denotes cs (Nat.ofDigitChars 10 ds 0 * 10 ^ k) (point - ds.length - k) := by
    refine ⟨0, ?_⟩
    rw [Nat.pow_zero, Nat.mul_one, Int.natCast_zero, Int.sub_zero, ← hexponent]
    exact h
  unfold layout
  dsimp only
  split
  · by_cases hpoint : point ≤ 0
    · rw [if_pos hpoint]
      exact hunscaled rfl (denotes_after hds hpoint)
    · rw [if_neg hpoint]
      by_cases hlength : ds.length ≤ point.toNat
      · rw [if_pos hlength]
        refine ⟨point.toNat - ds.length + 1, ?_⟩
        rw [show point - ds.length - ((point.toNat - ds.length + 1 : Nat) : Int) = -1 by omega]
        exact denotes_before hds _
      · rw [if_neg hlength]
        exact hunscaled (by omega) (denotes_among hds (by omega) (Nat.not_le.mp hlength))
  · have hrest : (if ds.length ≤ 1 then [] else '.' :: ds.drop 1) = pointed (ds.drop 1) := by
      rcases ds with - | ⟨d, - | ⟨e, rest⟩⟩ <;> rfl
    rw [hrest, List.append_assoc, List.append_assoc]
    exact hunscaled (by omega) (denotes_scaled hds (point - 1))

/-! ## Doubles -/

/-- **The text of a finite double is a numeral that is read as the double.** -/
theorem denotes_finiteText (negative : Bool) {units : Nat} (hunits : IsMagnitude units) :
    ∃ cs digits exponent, finiteText negative units = .ofChars (minus negative ++ cs)
      ∧ Denotes cs digits exponent ∧ decimalUnits digits exponent = units := by
  rcases Nat.eq_zero_or_pos units with rfl | hpos
  · exact ⟨['0', '.', '0'], 0, -1, rfl, denotes_fraction (.inl rfl) (isDigit_zeros 1)
      (List.cons_ne_nil _ _), Double.decimalUnits_zero _⟩
  · have hback := Double.decimalUnits_shortest hunits
    have hwritten := leading_toDigits (Double.shortest_pos hunits hpos)
    generalize hfound : shortest units = found at hback hwritten
    obtain ⟨digits, exponent⟩ := found
    dsimp only at hback hwritten
    obtain ⟨z, hz⟩ := exists_dropEndZeros (Nat.toDigits 10 digits)
    obtain ⟨k, hlayout⟩ := denotes_layout hwritten.dropEndZeros
      ((Nat.toDigits 10 digits).length + exponent)
    refine ⟨_, _, _, ?_, hlayout, ?_⟩
    · unfold finiteText
      rw [if_neg (Nat.pos_iff_ne_zero.mp hpos), hfound]
      rfl
    · have hlength : ((Nat.toDigits 10 digits).length : Int)
          = (dropEndZeros (Nat.toDigits 10 digits)).length + z := by
        have := congrArg List.length hz
        rw [List.length_append, zeros, List.length_replicate] at this
        omega
      have hvalue : digits
          = Nat.ofDigitChars 10 (dropEndZeros (Nat.toDigits 10 digits)) 0 * 10 ^ z := by
        rw [← ofDigitChars_append_zeros, ← hz, Nat.ofDigitChars_ten_toDigits]
      have hexponent : (Nat.toDigits 10 digits).length + exponent
          - (dropEndZeros (Nat.toDigits 10 digits)).length - z = exponent := by omega
      have hshift := Double.decimalUnits_shift
        (Nat.ofDigitChars 10 (dropEndZeros (Nat.toDigits 10 digits)) 0) z
        ((Nat.toDigits 10 digits).length + exponent
          - (dropEndZeros (Nat.toDigits 10 digits)).length)
      rw [Double.decimalUnits_shift, ← hshift, ← hvalue, hexponent, hback]

theorem settles_finite (negative : Bool) {units : Nat} (hunits : IsMagnitude units)
    {b b' : Builder} (hb : b.push (.scalar (.double (.finite negative units hunits))) = .ok b') :
    Settles (resume (.ok (.idle, b)) (finiteText negative units)) (.ok (.idle, b')) := by
  obtain ⟨cs, digits, exponent, htext, hdenotes, hback⟩ := denotes_finiteText negative hunits
  obtain ⟨phase, hrun, hphase⟩ := hdenotes.run
  rw [htext]
  refine settles_numeral hrun hphase (hdenotes.token negative) ?_
  rw [Double.ofDecimal_of_units hunits hback]
  exact hb

/-- A double that was written is read as one token, once it ends. -/
theorem settles_double (x : Double) {b b' : Builder} (hb : b.push (.scalar (.double x)) = .ok b') :
    Settles (resume (.ok (.idle, b)) (writeDouble x)) (.ok (.idle, b')) := by
  cases x with
  | nan => exact settles_word rfl hb
  | infinite negative =>
      cases negative with
      | true => exact settles_word rfl hb
      | false => exact settles_word rfl hb
  | finite negative units hunits => exact settles_finite negative hunits hb

end CivicSite.Json
