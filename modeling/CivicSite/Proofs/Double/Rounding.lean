import CivicSite.Double.Basic
import Mathlib.Algebra.Group.Nat.Defs

/-!
# Rounding

A quotient is rounded to a multiple of a power of two, its step, which is the one that leaves 53
bits. What it is rounded to is at most half a step away (`roundUnits_near`), so of two quotients
the greater one is not rounded lower (`roundUnits_mono`), and it is rounded higher if the two are
more than a step apart. A number of units that has at most 53 bits is left alone
(`roundUnits_of_isMagnitude`), and it is the quotient that counts, not how it is written
(`roundUnits_mul_right`).
-/

namespace CivicSite

namespace Double

/-! ## To a whole number -/

theorem le_roundHalfEven (num den : Nat) : num / den ≤ roundHalfEven num den := by
  unfold roundHalfEven
  dsimp only
  split
  · omega
  · split <;> omega

/-- What is rounded is at most one half away. -/
theorem roundHalfEven_near (num : Nat) {den : Nat} (hden : 0 < den) :
    2 * num ≤ 2 * (roundHalfEven num den * den) + den
      ∧ 2 * (roundHalfEven num den * den) ≤ 2 * num + den := by
  have hdiv : den * (num / den) + num % den = num := Nat.div_add_mod num den
  have hr : num % den < den := Nat.mod_lt _ hden
  have hup : (num / den + 1) * den = den * (num / den) + den := by
    rw [Nat.add_mul, Nat.one_mul, Nat.mul_comm]
  have hdown : num / den * den = den * (num / den) := Nat.mul_comm ..
  unfold roundHalfEven
  dsimp only
  split
  · omega
  · split
    · omega
    · rcases Nat.mod_two_eq_zero_or_one (num / den) with h | h <;> rw [h]
      · rw [Nat.add_zero]
        omega
      · omega

theorem roundHalfEven_mono {num num' : Nat} (h : num ≤ num') (den : Nat) :
    roundHalfEven num den ≤ roundHalfEven num' den := by
  have hq : num / den ≤ num' / den := Nat.div_le_div_right h
  rcases Nat.lt_or_eq_of_le hq with hlt | heq
  · have hlow := roundHalfEven_le num den
    have hhigh := le_roundHalfEven num' den
    omega
  · have hdiv : den * (num / den) + num % den = num := Nat.div_add_mod num den
    have hdiv' : den * (num' / den) + num' % den = num' := Nat.div_add_mod num' den
    rw [← heq] at hdiv'
    unfold roundHalfEven
    dsimp only
    rw [← heq]
    have hparity := Nat.mod_two_eq_zero_or_one (num / den)
    repeat' split
    all_goals omega

theorem roundHalfEven_mul_right (num den : Nat) {c : Nat} (hc : 0 < c) :
    roundHalfEven (num * c) (den * c) = roundHalfEven num den := by
  have hr : 2 * (num % den * c) = 2 * (num % den) * c := (Nat.mul_assoc ..).symm
  unfold roundHalfEven
  dsimp only
  rw [Nat.mul_div_mul_right _ _ hc, Nat.mul_mod_mul_right, hr]
  simp only [Nat.mul_lt_mul_right hc]

/-! ## To a multiple of the step -/

/-- What a quotient is rounded to a multiple of. -/
def step (num den : Nat) : Nat := 2 ^ (Nat.log2 (num / den) - 52)

theorem roundUnits_eq (num den : Nat) :
    roundUnits num den = roundHalfEven num (den * step num den) * step num den := rfl

theorem step_pos (num den : Nat) : 0 < step num den := Nat.two_pow_pos _

/-- A quotient has less than 53 bits above its step. -/
theorem step_le {num den k : Nat} (h : num < 2 ^ (53 + k) * den) : step num den ≤ 2 ^ k := by
  refine Nat.pow_le_pow_right Nat.two_pos ?_
  rcases Nat.eq_zero_or_pos (num / den) with hzero | hpos
  · have hlog : Nat.log2 0 = 0 := by decide
    rw [hzero, hlog]
    exact Nat.zero_le k
  · have hlt : num / den < 2 ^ (53 + k) := Nat.div_lt_of_lt_mul (Nat.mul_comm .. ▸ h)
    have hlog := (Nat.log2_lt (Nat.pos_iff_ne_zero.mp hpos)).mpr hlt
    omega

/-- **What is rounded is at most half a step away.** -/
theorem roundUnits_near (num : Nat) {den : Nat} (hden : 0 < den) :
    2 * num ≤ 2 * (roundUnits num den * den) + den * step num den
      ∧ 2 * (roundUnits num den * den) ≤ 2 * num + den * step num den := by
  have hpos : 0 < den * step num den := Nat.mul_pos hden (step_pos num den)
  have hnear := roundHalfEven_near num hpos
  have hsame : roundUnits num den * den
      = roundHalfEven num (den * step num den) * (den * step num den) := by
    rw [roundUnits_eq, Nat.mul_assoc, Nat.mul_comm (step num den)]
  rwa [hsame]

theorem roundUnits_le (num den : Nat) : roundUnits num den ≤ 2 ^ 53 * step num den := by
  rw [roundUnits_eq]
  refine Nat.mul_le_mul_right _ (Nat.le_trans (roundHalfEven_le ..) ?_)
  rw [← Nat.div_div_eq_div_mul]
  have hlog : num / den < 2 ^ (Nat.log2 (num / den) + 1) := Nat.lt_log2_self
  have hpow : 2 ^ (Nat.log2 (num / den) + 1) ≤ step num den * 2 ^ 53 := by
    rw [step, ← Nat.pow_add]
    exact Nat.pow_le_pow_right Nat.two_pos (by omega)
  exact Nat.div_lt_of_lt_mul (Nat.lt_of_lt_of_le hlog hpow)

/-- With a step above one unit all 53 bits are taken. -/
theorem le_roundUnits {num den : Nat} (h : 1 < step num den) :
    2 ^ 52 * step num den ≤ roundUnits num den := by
  rw [roundUnits_eq]
  refine Nat.mul_le_mul_right _ (Nat.le_trans ?_ (le_roundHalfEven ..))
  have hexp : 52 < Nat.log2 (num / den) := by
    rcases Nat.lt_or_ge 52 (Nat.log2 (num / den)) with hlt | hge
    · exact hlt
    · rw [step, Nat.sub_eq_zero_of_le hge] at h
      exact absurd h (by decide)
  have hne : num / den ≠ 0 := by
    intro hzero
    rw [hzero, show Nat.log2 0 = 0 by decide] at hexp
    omega
  rw [← Nat.div_div_eq_div_mul, Nat.le_div_iff_mul_le (step_pos num den), step, ← Nat.pow_add,
    Nat.add_sub_cancel' (Nat.le_of_lt hexp)]
  exact Nat.log2_self_le hne

/-- **Of two quotients the greater one is not rounded lower.** -/
theorem roundUnits_mono {num num' : Nat} (h : num ≤ num') (den : Nat) :
    roundUnits num den ≤ roundUnits num' den := by
  have hq : num / den ≤ num' / den := Nat.div_le_div_right h
  have hlog : Nat.log2 (num / den) ≤ Nat.log2 (num' / den) := by
    rcases Nat.eq_zero_or_pos (num / den) with hzero | hpos
    · rw [hzero, show Nat.log2 0 = 0 by decide]
      exact Nat.zero_le _
    · have hne : num / den ≠ 0 := Nat.pos_iff_ne_zero.mp hpos
      have hlow : 2 ^ Nat.log2 (num / den) ≤ num' / den := Nat.le_trans (Nat.log2_self_le hne) hq
      exact (Nat.le_log2 (by omega)).mpr hlow
  rcases Nat.lt_or_ge (Nat.log2 (num / den) - 52) (Nat.log2 (num' / den) - 52) with hlt | hge
  · -- with a greater step, all of the lower steps are passed
    have hstep : 2 * step num den ≤ step num' den := by
      rw [step, step, Nat.mul_comm, ← Nat.pow_succ]
      exact Nat.pow_le_pow_right Nat.two_pos hlt
    have hpos := step_pos num den
    have hlow := roundUnits_le num den
    have hhigh := @le_roundUnits num' den (by omega)
    omega
  · have hsame : step num den = step num' den := by
      rw [step, step, show Nat.log2 (num / den) - 52 = Nat.log2 (num' / den) - 52 by omega]
    rw [roundUnits_eq, roundUnits_eq, hsame]
    exact Nat.mul_le_mul_right _ (roundHalfEven_mono h _)

/-- What is at least one unit is not rounded to zero. -/
theorem roundUnits_pos {num den : Nat} (hden : 0 < den) (h : den ≤ num) :
    0 < roundUnits num den := by
  have hone : roundUnits den den = 1 := by
    rw [roundUnits, Nat.div_self hden, show Nat.log2 1 - 52 = 0 by decide]
    simpa using roundHalfEven_mul 1 hden
  have hmono := roundUnits_mono h den
  omega

/-- It is the quotient that is rounded, however it is written. -/
theorem roundUnits_mul_right (num den : Nat) {c : Nat} (hc : 0 < c) :
    roundUnits (num * c) (den * c) = roundUnits num den := by
  have hstep : step (num * c) (den * c) = step num den := by
    rw [step, step, Nat.mul_div_mul_right _ _ hc]
  rw [roundUnits_eq, roundUnits_eq, hstep, Nat.mul_right_comm den c, roundHalfEven_mul_right _ _ hc]

/-- A number of units with at most 53 bits is a multiple of its step. -/
theorem step_dvd {units : Nat} (h : IsMagnitude units) : step units 1 ∣ units := by
  obtain ⟨⟨m, k, hm, rfl⟩, -⟩ := h
  rcases Nat.eq_zero_or_pos m with rfl | hpos
  · rw [Nat.zero_mul]
    exact Nat.dvd_zero _
  rw [step, Nat.div_one]
  have hunits : m * Nat.pow 2 k ≠ 0 := Nat.pos_iff_ne_zero.mp (Nat.mul_pos hpos (Nat.two_pow_pos k))
  rcases Nat.lt_or_eq_of_le hm with hlt | rfl
  · -- fewer than 54 bits are there, so the step is not above the power that they are taken of
    have hbits : m * Nat.pow 2 k < 2 ^ (53 + k) := by
      rw [Nat.pow_add]
      exact Nat.mul_lt_mul_of_pos_right hlt (Nat.two_pow_pos k)
    have hlog := (Nat.log2_lt hunits).mpr hbits
    exact Nat.dvd_mul_left_of_dvd (Nat.pow_dvd_pow 2 (by omega)) m
  · have hsame : Nat.pow 2 53 * Nat.pow 2 k = 2 ^ (53 + k) := (Nat.pow_add ..).symm
    rw [hsame, Nat.log2_two_pow]
    exact Nat.pow_dvd_pow 2 (by omega)

/-- **A magnitude is rounded to itself.** -/
theorem roundUnits_of_isMagnitude {units : Nat} (h : IsMagnitude units) :
    roundUnits units 1 = units := by
  obtain ⟨q, hq⟩ := step_dvd h
  rw [Nat.mul_comm] at hq
  have hround : roundHalfEven units (step units 1) = q := by
    have hexact := roundHalfEven_mul q (step_pos units 1)
    rwa [← hq] at hexact
  rw [roundUnits_eq, Nat.one_mul, hround, ← hq]

/-! ## Quotients as doubles -/

theorem ofRatio_of_lt {negative : Bool} {num den : Nat}
    (h : roundUnits (num * unitsPerOne) den < unitLimit) : ∃ hunits,
      ofRatio negative num den = .finite negative (roundUnits (num * unitsPerOne) den) hunits := by
  unfold ofRatio
  exact ⟨_, dif_pos h⟩

theorem ofRatio_of_ge {negative : Bool} {num den : Nat}
    (h : unitLimit ≤ roundUnits (num * unitsPerOne) den) :
    ofRatio negative num den = .infinite negative := by
  unfold ofRatio
  exact dif_neg (Nat.not_lt.mpr h)

theorem ofRatio_cases (negative : Bool) (num den : Nat) :
    ofRatio negative num den = .infinite negative ∨ ∃ h,
      ofRatio negative num den = .finite negative (roundUnits (num * unitsPerOne) den) h := by
  rcases Nat.lt_or_ge (roundUnits (num * unitsPerOne) den) unitLimit with hlimit | hlimit
  · exact .inr (ofRatio_of_lt hlimit)
  · exact .inl (ofRatio_of_ge hlimit)

/-- The units of a quotient that has a finite double. -/
theorem rank_ofRatio {negative : Bool} {num den : Nat}
    (h : roundUnits (num * unitsPerOne) den < unitLimit) :
    (ofRatio negative num den).rank
      = if negative then -(roundUnits (num * unitsPerOne) den : Int)
        else roundUnits (num * unitsPerOne) den := by
  obtain ⟨hunits, heq⟩ := @ofRatio_of_lt negative _ _ h
  rw [heq]
  cases negative <;> simp [rank]

end Double

end CivicSite
