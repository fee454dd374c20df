import CivicSite.Proofs.Double.Value
import Mathlib.Algebra.Order.Floor.Semiring
import Mathlib.Data.Rat.Floor

/-!
# Quotients rounded up

The quotient of two whole numbers is rounded to a double first and then up to a whole number. Below
2^53 the first rounding makes no difference to the second: a quotient that is above a whole number
is above it by more than half a step, so its double is above it as well (`lt_roundUnits_iff`). There
is one exception. A quotient that is at most half of the least positive double is rounded to zero,
and zero is not rounded up to one (`ceiling?_ofQuotient?`).
-/

namespace CivicSite.Double

/-! ## Quotients that vanish -/

/-- Just what is at most half a unit is rounded to zero. -/
theorem roundUnits_eq_zero_iff {num den : Nat} (hden : 0 < den) :
    roundUnits num den = 0 ↔ 2 * num ≤ den := by
  by_cases hsmall : num < den
  · have hq : num / den = 0 := Nat.div_eq_of_lt hsmall
    have hlog : Nat.log2 0 - 52 = 0 := by decide
    simp only [roundUnits, roundHalfEven, hq, hlog, Nat.pow_eq, Nat.pow_zero, Nat.mul_one,
      Nat.mod_eq_of_lt hsmall]
    split
    · omega
    · split <;> omega
  · have hpos : 0 < roundUnits num den := roundUnits_pos hden (Nat.le_of_not_lt hsmall)
    omega

/-! ## Doubles between whole numbers -/

variable {total den n : Nat}

theorem isMagnitude_whole (h : n ≤ 2 ^ 53) : IsMagnitude (n * unitsPerOne) := by
  have hunits : n * unitsPerOne ≤ 2 ^ 53 * unitsPerOne := Nat.mul_le_mul_right _ h
  have hlimit : 2 ^ 53 * unitsPerOne < unitLimit := by decide +kernel
  refine ⟨⟨n, 1074, h, ?_⟩, Nat.lt_of_le_of_lt hunits hlimit⟩
  unfold unitsPerOne
  with_reducible rfl

/-- What is not above a whole number is not rounded to anything above it. -/
theorem roundUnits_le_whole (hden : 0 < den) (hn : n ≤ 2 ^ 53) (h : total ≤ n * den) :
    roundUnits (total * unitsPerOne) den ≤ n * unitsPerOne := by
  have hwhole : roundUnits (n * unitsPerOne * den) den = n * unitsPerOne := by
    have hsame := roundUnits_mul_right (n * unitsPerOne) 1 hden
    rwa [Nat.one_mul, roundUnits_of_isMagnitude (isMagnitude_whole hn)] at hsame
  have hnum : total * unitsPerOne ≤ n * unitsPerOne * den := by
    rw [Nat.mul_right_comm]
    exact Nat.mul_le_mul_right _ h
  exact Nat.le_trans (roundUnits_mono hnum den) (Nat.le_of_eq hwhole)

/-- The step of a quotient is less than two units of the divisor. -/
theorem mul_step_lt (htotal : total < 2 ^ 53) (hden : den < 2 * unitsPerOne) :
    den * step (total * unitsPerOne) den < 2 * unitsPerOne := by
  generalize hs : step (total * unitsPerOne) den = s
  rcases Nat.lt_or_ge 1 s with hlarge | hone
  · -- all 53 bits are taken, so 52 bits and the step are no more than the quotient
    have hexp : 52 < Nat.log2 (total * unitsPerOne / den) := by
      by_contra hle
      rw [step, Nat.sub_eq_zero_of_le (Nat.le_of_not_lt hle)] at hs
      omega
    have hne : total * unitsPerOne / den ≠ 0 := by
      intro hzero
      rw [hzero] at hexp
      exact absurd hexp (by decide)
    have hquotient : 2 ^ 52 * s ≤ total * unitsPerOne / den := by
      rw [← hs, step, ← Nat.pow_add, Nat.add_sub_cancel' (Nat.le_of_lt hexp)]
      exact Nat.log2_self_le hne
    have hproduct : 2 ^ 52 * s * den ≤ total * unitsPerOne :=
      Nat.mul_le_of_le_div _ _ _ hquotient
    have hbound : total * unitsPerOne < 2 ^ 53 * unitsPerOne :=
      Nat.mul_lt_mul_of_pos_right htotal unitsPerOne_pos
    have hcomm : 2 ^ 52 * s * den = 2 ^ 52 * (den * s) := by
      rw [Nat.mul_assoc, Nat.mul_comm s]
    omega
  · have hle : den * s ≤ den * 1 := Nat.mul_le_mul_left _ hone
    omega

/-- **A quotient of numbers below 2^53 is above a whole number just if its double is**, unless its
double is zero. -/
theorem lt_roundUnits_iff (htotal : total < 2 ^ 53) (hden : 0 < den)
    (hvisible : den < total * (2 * unitsPerOne)) :
    n * unitsPerOne < roundUnits (total * unitsPerOne) den ↔ n * den < total := by
  constructor
  · intro hlt
    by_contra hle
    have hle : total ≤ n * den := Nat.le_of_not_lt hle
    rcases Nat.le_total n (2 ^ 53) with hn | hn
    · have hround := roundUnits_le_whole hden hn hle
      omega
    · have hround := roundUnits_le_whole (n := 2 ^ 53) hden (Nat.le_refl _)
        (Nat.le_trans (Nat.le_of_lt htotal) (Nat.le_mul_of_pos_right _ hden))
      have hunits : 2 ^ 53 * unitsPerOne ≤ n * unitsPerOne := Nat.mul_le_mul_right _ hn
      omega
  · intro hlt
    rcases Nat.eq_zero_or_pos n with rfl | hpos
    · rw [Nat.zero_mul]
      refine Nat.pos_of_ne_zero fun hzero => ?_
      have hle := (roundUnits_eq_zero_iff hden).mp hzero
      have hcomm : 2 * (total * unitsPerOne) = total * (2 * unitsPerOne) := Nat.mul_left_comm ..
      omega
    · have hsmall : den < 2 * unitsPerOne := by
        have hbelow : 2 ^ 53 < 2 * unitsPerOne := by decide +kernel
        have hle : den ≤ n * den := Nat.le_mul_of_pos_left _ hpos
        omega
      have hstep := mul_step_lt htotal hsmall
      have hnear := (roundUnits_near (total * unitsPerOne) hden).1
      by_contra hle
      have hle : roundUnits (total * unitsPerOne) den * den ≤ n * unitsPerOne * den :=
        Nat.mul_le_mul_right _ (Nat.le_of_not_lt hle)
      have hnext : (n * den + 1) * unitsPerOne ≤ total * unitsPerOne :=
        Nat.mul_le_mul_right _ hlt
      rw [Nat.add_mul, Nat.one_mul, Nat.mul_right_comm] at hnext
      omega

/-! ## Rounding up -/

/-- The least whole number that is not below a double is the one that is not below its value. -/
theorem ceiling?_eq (x : Double) : x.ceiling? = x.value?.map Int.ceil := by
  unfold ceiling? value?
  cases x.signedUnits? with
  | none => rfl
  | some u => exact congrArg some (Rat.ceil_intCast_div_natCast u unitsPerOne).symm

/-- The ceiling of a quotient of natural numbers, by the whole numbers below it. -/
theorem lt_ceil_div_iff {a d : Nat} (hd : 0 < d) : n < ⌈(a : ℚ) / d⌉₊ ↔ n * d < a := by
  have hpos : (0 : ℚ) < d := Nat.cast_pos.mpr hd
  rw [Nat.lt_ceil, lt_div_iff₀ hpos, ← Nat.cast_mul, Nat.cast_lt]

theorem ceil_div_eq_natCast (a d : Nat) : ⌈(a : ℚ) / d⌉ = (⌈(a : ℚ) / d⌉₊ : Int) :=
  (Int.natCast_ceil_eq_ceil (div_nonneg (Nat.cast_nonneg a) (Nat.cast_nonneg d))).symm

/-- **The double of a quotient is rounded up as the quotient is**, unless it is zero. -/
theorem ceiling?_ofQuotient? (htotal : total < 2 ^ 53) (hden : 0 < den) :
    (ofQuotient? total den).bind ceiling?
      = some (if total * (2 * unitsPerOne) ≤ den then 0 else ⌈(total : ℚ) / den⌉) := by
  have hlimit : roundUnits (total * unitsPerOne) den < unitLimit := by
    have hround := roundUnits_le_whole (n := 2 ^ 53) hden (Nat.le_refl _)
      (Nat.le_trans (Nat.le_of_lt htotal) (Nat.le_mul_of_pos_right _ hden))
    exact Nat.lt_of_le_of_lt hround (isMagnitude_whole (Nat.le_refl _)).2
  have hsign : (decide ((total : Int) < 0) != decide ((den : Int) < 0)) = false := by
    rw [decide_eq_false (by omega), decide_eq_false (by omega)]
    rfl
  obtain ⟨hunits, hfinite⟩ := @ofRatio_of_lt false _ _ hlimit
  have hquotient : ofQuotient? total den
      = some (.finite false (roundUnits (total * unitsPerOne) den) hunits) := by
    rw [ofQuotient?, hsign, Int.natAbs_natCast, Int.natAbs_natCast, hfinite]
    rfl
  have hvalue : value? (.finite false (roundUnits (total * unitsPerOne) den) hunits)
      = some ((roundUnits (total * unitsPerOne) den : ℚ) / unitsPerOne) := rfl
  rw [hquotient, Option.bind_some, ceiling?_eq, hvalue, Option.map_some]
  refine congrArg some ?_
  by_cases hvanishes : total * (2 * unitsPerOne) ≤ den
  · have hzero : roundUnits (total * unitsPerOne) den = 0 := by
      refine (roundUnits_eq_zero_iff hden).mpr ?_
      rwa [Nat.mul_left_comm]
    rw [if_pos hvanishes, hzero, Nat.cast_zero, zero_div, Int.ceil_zero]
  · rw [if_neg hvanishes, ceil_div_eq_natCast, ceil_div_eq_natCast]
    refine congrArg Nat.cast (eq_of_forall_lt_iff fun n => ?_)
    rw [lt_ceil_div_iff unitsPerOne_pos, lt_ceil_div_iff hden,
      lt_roundUnits_iff htotal hden (Nat.lt_of_not_le hvanishes)]

end CivicSite.Double
