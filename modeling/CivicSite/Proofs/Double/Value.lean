import CivicSite.Proofs.Double.Rounding
import CivicSite.Proofs.Post.Order
import Mathlib.Algebra.Order.Field.Rat
import Mathlib.Algebra.Order.Ring.Cast

/-!
# Doubles as numbers

A finite double is a rational number (`Double.value?`), so what is asked of a coordinate is a matter
of ordinary inequalities (`Double.within_of_between`). A whole number is brought to a double by
rounding to 53 bits. It has none just if rounding takes it to the limit, and that is so from the
middle on between the greatest double and the limit (`Double.ofInt?_eq_none_iff`).
-/

namespace CivicSite.Double

theorem unitsPerOne_pos : 0 < unitsPerOne := by decide +kernel

/-! ## Values -/

/-- The number that a finite double is. -/
def value? (x : Double) : Option ℚ := x.signedUnits?.map fun u => (u : ℚ) / unitsPerOne

/-- The double is a number, and not farther from zero than a bound. -/
def Within (bound : ℚ) (x : Double) : Prop := ∃ q, x.value? = some q ∧ -bound ≤ q ∧ q ≤ bound

/-- What lies within a bound in units lies within it as a number. -/
theorem div_mem_bounds {u : ℤ} {bound n : Nat} (hn : 0 < n) (hlow : -bound * n ≤ u)
    (hhigh : u ≤ bound * n) : -(bound : ℚ) ≤ u / n ∧ (u : ℚ) / n ≤ bound := by
  have hpos : (0 : ℚ) < n := Nat.cast_pos.mpr hn
  have hlow : ((-bound * n : ℤ) : ℚ) ≤ u := Int.cast_le.mpr hlow
  have hhigh : (u : ℚ) ≤ ((bound * n : ℤ) : ℚ) := Int.cast_le.mpr hhigh
  constructor
  · rw [le_div_iff₀ hpos]
    simpa using hlow
  · rw [div_le_iff₀ hpos]
    simpa using hhigh

theorem within_of_between {x : Double} {bound : Nat} (h : x.between (-bound) bound = true) :
    x.Within bound := by
  unfold between at h
  cases hunits : x.signedUnits? with
  | none =>
      rw [hunits] at h
      cases h
  | some u =>
      rw [hunits] at h
      dsimp only at h
      obtain ⟨hlow, hhigh⟩ := (Bool.and_eq_true _ _).mp h
      obtain ⟨hlow, hhigh⟩ := div_mem_bounds unitsPerOne_pos (of_decide_eq_true hlow)
        (of_decide_eq_true hhigh)
      exact ⟨(u : ℚ) / unitsPerOne, by rw [value?, hunits]; rfl, hlow, hhigh⟩

/-! ## Texts -/

theorem layout_ne_nil (digits : List Char) (point : Int) : layout digits point ≠ [] := by
  unfold layout
  split
  · split
    · simp
    · dsimp only
      split <;> simp
  · simp

theorem finiteText_ne_nil (negative : Bool) (units : Nat) : finiteText negative units ≠ [] := by
  unfold finiteText
  dsimp only
  intro hnil
  have hbody := (List.append_eq_nil_iff.mp (List.map_eq_nil_iff.mp hnil)).2
  split at hbody
  · cases hbody
  · exact layout_ne_nil _ _ hbody

/-- Every double is shown by a text. -/
theorem text_ne_nil (x : Double) : x.text ≠ [] := by
  cases x with
  | nan => exact List.cons_ne_nil _ _
  | infinite negative => cases negative <;> exact List.cons_ne_nil _ _
  | finite negative units h => exact finiteText_ne_nil negative units

/-! ## Whole numbers beyond the doubles -/

/-- In the last step before a power of two, what lies in the upper half is rounded to that power. -/
theorem roundHalfEven_last {P N : Nat} (hq : N / (2 * P) = 2 ^ 53 - 1) :
    roundHalfEven N (2 * P) = if N < (2 ^ 54 - 1) * P then 2 ^ 53 - 1 else 2 ^ 53 := by
  have hN : 2 * P * (N / (2 * P)) + N % (2 * P) = N := Nat.div_add_mod N (2 * P)
  rw [hq] at hN
  unfold roundHalfEven
  dsimp only
  rw [hq]
  by_cases h : N < (2 ^ 54 - 1) * P
  · rw [if_pos h, if_pos (by omega)]
  · rw [if_neg h, if_neg (by omega)]
    split <;> rfl

section Place

variable {N k h : Nat}

/-- Rounded to a lower place, the result does not reach the power of two. -/
theorem round_of_lower (hN : N < 2 ^ 53 * 2 ^ k) (hk : k ≤ h) :
    roundHalfEven N (2 ^ k) * 2 ^ k < 2 ^ 54 * 2 ^ h ∧ N < (2 ^ 54 - 1) * 2 ^ h := by
  have hP : 0 < 2 ^ h := Nat.two_pow_pos h
  have hpow : 2 ^ k ≤ 2 ^ h := Nat.pow_le_pow_right Nat.two_pos hk
  have hq : N / 2 ^ k < 2 ^ 53 := Nat.div_lt_of_lt_mul (by omega)
  have hround := roundHalfEven_le N (2 ^ k)
  have hmul : roundHalfEven N (2 ^ k) * 2 ^ k ≤ 2 ^ 53 * 2 ^ h := Nat.mul_le_mul (by omega) hpow
  have hbound : 2 ^ 53 * 2 ^ k ≤ 2 ^ 53 * 2 ^ h := Nat.mul_le_mul_left _ hpow
  omega

/-- Rounded to the place just below the power of two, the result reaches it from the middle of the
last step on. -/
theorem round_at (hN : N < 2 ^ 53 * 2 ^ (h + 1)) :
    roundHalfEven N (2 ^ (h + 1)) * 2 ^ (h + 1) < 2 ^ 54 * 2 ^ h ↔ N < (2 ^ 54 - 1) * 2 ^ h := by
  have hP : 0 < 2 ^ h := Nat.two_pow_pos h
  rw [Nat.pow_succ, Nat.mul_comm _ 2] at hN ⊢
  have hq : N / (2 * 2 ^ h) < 2 ^ 53 := Nat.div_lt_of_lt_mul (by omega)
  have hdiv : 2 * 2 ^ h * (N / (2 * 2 ^ h)) + N % (2 * 2 ^ h) = N := Nat.div_add_mod N (2 * 2 ^ h)
  have hr : N % (2 * 2 ^ h) < 2 * 2 ^ h := Nat.mod_lt _ (by omega)
  by_cases hlast : N / (2 * 2 ^ h) = 2 ^ 53 - 1
  · rw [roundHalfEven_last hlast]
    split <;> omega
  · have hround := roundHalfEven_le N (2 * 2 ^ h)
    have hmul : roundHalfEven N (2 * 2 ^ h) * (2 * 2 ^ h) ≤ (2 ^ 53 - 1) * (2 * 2 ^ h) :=
      Nat.mul_le_mul_right _ (by omega)
    have hbound : 2 * 2 ^ h * (N / (2 * 2 ^ h)) ≤ 2 * 2 ^ h * (2 ^ 53 - 2) :=
      Nat.mul_le_mul_left _ (by omega)
    omega

/-- What is rounded to a higher place is beyond the power of two already. -/
theorem round_of_higher (hN : 2 ^ 52 * 2 ^ k ≤ N) (hk : h + 1 < k) :
    2 ^ 54 * 2 ^ h ≤ roundHalfEven N (2 ^ k) * 2 ^ k ∧ (2 ^ 54 - 1) * 2 ^ h ≤ N := by
  have hlarge : 4 * 2 ^ h ≤ 2 ^ k := by
    have hpow : 2 ^ (2 + h) ≤ 2 ^ k := Nat.pow_le_pow_right Nat.two_pos (by omega)
    rwa [Nat.pow_add] at hpow
  have hdiv : 2 ^ 52 ≤ N / 2 ^ k := (Nat.le_div_iff_mul_le (Nat.two_pow_pos k)).mpr hN
  have hround := le_roundHalfEven N (2 ^ k)
  have hmul : 2 ^ 52 * 2 ^ k ≤ roundHalfEven N (2 ^ k) * 2 ^ k :=
    Nat.mul_le_mul_right _ (Nat.le_trans hdiv hround)
  omega

end Place

/-- What is rounded stays below a power of two up to the middle of the last step. -/
theorem roundUnits_lt_iff {N h : Nat} :
    roundUnits N 1 < 2 ^ 54 * 2 ^ h ↔ N < (2 ^ 54 - 1) * 2 ^ h := by
  unfold roundUnits
  simp only [Nat.div_one, Nat.one_mul, Nat.pow_eq]
  generalize hk : Nat.log2 N - 52 = k
  have hlt : N < 2 ^ 53 * 2 ^ k := by
    have hlog : N < 2 ^ (Nat.log2 N + 1) := Nat.lt_log2_self
    rw [← Nat.pow_add]
    exact Nat.lt_of_lt_of_le hlog (Nat.pow_le_pow_right Nat.two_pos (by omega))
  -- the place that is rounded to, by the place just below the power of two
  rcases Nat.lt_trichotomy k (h + 1) with hlow | rfl | hhigh
  · obtain ⟨hround, hN⟩ := round_of_lower hlt (Nat.lt_succ_iff.mp hlow)
    exact iff_of_true hround hN
  · exact round_at hlt
  · have hN : N ≠ 0 := by
      rintro rfl
      have hzero : Nat.log2 0 = 0 := by decide
      omega
    have hge : 2 ^ 52 * 2 ^ k ≤ N := by
      rw [← Nat.pow_add]
      exact Nat.le_trans (Nat.pow_le_pow_right Nat.two_pos (by omega)) (Nat.log2_self_le hN)
    obtain ⟨hround, hN⟩ := round_of_higher hge hhigh
    exact iff_of_false (Nat.not_lt.mpr hround) (Nat.not_lt.mpr hN)

/-- The bound of the whole numbers that have a double, by what it is in units. -/
theorem ofInt?_eq_none_iff_of {i : Int} {h bound : Nat} (hlimit : unitLimit = 2 ^ 54 * 2 ^ h)
    (hbound : (2 ^ 54 - 1) * 2 ^ h = bound * unitsPerOne) :
    ofInt? i = none ↔ bound ≤ i.natAbs := by
  have hrounds : roundUnits (i.natAbs * unitsPerOne) 1 < unitLimit ↔ i.natAbs < bound := by
    rw [hlimit, roundUnits_lt_iff, hbound]
    exact Nat.mul_lt_mul_right unitsPerOne_pos
  unfold ofInt?
  rcases Nat.lt_or_ge (roundUnits (i.natAbs * unitsPerOne) 1) unitLimit with hlt | hge
  · obtain ⟨hunits, hfinite⟩ := @ofRatio_of_lt (decide (i < 0)) i.natAbs 1 hlt
    rw [hfinite]
    exact iff_of_false nofun (Nat.not_le.mpr (hrounds.mp hlt))
  · rw [ofRatio_of_ge hge]
    exact iff_of_true rfl (Nat.not_lt.mp fun hsmall => Nat.not_lt.mpr hge (hrounds.mpr hsmall))

/-- A whole number has no double just if it is not nearer to the greatest double than to the power
of two after it. -/
theorem ofInt?_eq_none_iff {i : Int} : ofInt? i = none ↔ 2 ^ 1024 - 2 ^ 970 ≤ i.natAbs :=
  ofInt?_eq_none_iff_of (h := 2044) (by decide +kernel) (by decide +kernel)

end CivicSite.Double
