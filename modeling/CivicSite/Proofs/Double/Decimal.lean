import CivicSite.Double.Decimal
import CivicSite.Proofs.Double.Rounding

/-!
# Decimal numbers as doubles

Reading a decimal number is rounding its exact value, also where the number is so large or so small
that its power of ten is not computed (`ofDecimal_eq`). So it is the value that counts, and zeros
may be moved between the digits and the exponent (`decimalUnits_shift`).

The fewest digits of a double read back as the double: each grid that is tried is taken only if one
of the neighbours on it does, and if none is taken, all the digits there are stand for the double
exactly (`decimalUnits_shortest`).
-/

namespace CivicSite.Double

/-! ## The value of a decimal number -/

/-- Quotients that are the same are rounded alike. -/
theorem roundUnits_congr {num den num' den' : Nat} (hden : 0 < den) (hden' : 0 < den')
    (h : num * den' = num' * den) : roundUnits num den = roundUnits num' den' := by
  rw [← roundUnits_mul_right num den hden', h, Nat.mul_comm den den',
    roundUnits_mul_right num' den' hden]

theorem ofRatio_congr {negative : Bool} {num den num' den' : Nat}
    (h : roundUnits (num * unitsPerOne) den = roundUnits (num' * unitsPerOne) den') :
    ofRatio negative num den = ofRatio negative num' den' := by
  unfold ofRatio
  simp only [h]

theorem ofRatio_of_units {negative : Bool} {num den units : Nat} (hunits : IsMagnitude units)
    (h : roundUnits (num * unitsPerOne) den = units) :
    ofRatio negative num den = .finite negative units hunits := by
  have hlimit : roundUnits (num * unitsPerOne) den < unitLimit := h ▸ hunits.2
  obtain ⟨_, hfinite⟩ := @ofRatio_of_lt negative _ _ hlimit
  simp only [hfinite, h]

/-- The units that a decimal number is rounded to. -/
def decimalUnits (digits : Nat) (exponent : Int) : Nat :=
  roundUnits (digits * 10 ^ exponent.toNat * unitsPerOne) (10 ^ (-exponent).toNat)

/-- What is less than half a unit is rounded to zero. -/
theorem roundUnits_eq_zero {num den : Nat} (h : 2 * num < den) : roundUnits num den = 0 := by
  have hdiv : num / den = 0 := Nat.div_eq_of_lt (by omega)
  have hstep : step num den = 1 := by
    rw [step, hdiv]
    decide
  have hround : roundHalfEven num den = 0 := by
    unfold roundHalfEven
    dsimp only
    rw [hdiv, Nat.mod_eq_of_lt (by omega), if_pos h]
  simp only [roundUnits_eq, hstep, Nat.mul_one, hround]

/-- What reaches the limit is not rounded below it. -/
theorem unitLimit_le_roundUnits {num den : Nat} (hden : 0 < den) (h : unitLimit * den ≤ num) :
    unitLimit ≤ roundUnits num den := by
  have hlimit : roundUnits unitLimit 1 = unitLimit := by decide +kernel
  calc unitLimit = roundUnits (unitLimit * den) (1 * den) := by
        rw [roundUnits_mul_right _ _ hden, hlimit]
    _ = roundUnits (unitLimit * den) den := by rw [Nat.one_mul]
    _ ≤ roundUnits num den := roundUnits_mono h den

/-- The units of one are a power of two. Its exponent has a name, so that no power is computed. -/
theorem exists_unitsPerOne : ∃ k, k = 1074 ∧ unitsPerOne = Nat.pow 2 k :=
  ⟨1074, rfl, by decide +kernel⟩

/-- A number with so few bits before the point is less than half a unit. -/
theorem decimalUnits_small {digits n k : Nat} (hk : unitsPerOne = Nat.pow 2 k)
    (h : Nat.log2 digits + 1 + (k + 1) ≤ 3 * n) :
    roundUnits (digits * unitsPerOne) (10 ^ n) = 0 := by
  have hbits : digits < 2 ^ (Nat.log2 digits + 1) := Nat.lt_log2_self
  refine roundUnits_eq_zero ?_
  calc 2 * (digits * unitsPerOne) = digits * 2 ^ (k + 1) := by
        rw [Nat.mul_left_comm, hk, Nat.pow_eq, ← Nat.pow_succ']
    _ < 2 ^ (Nat.log2 digits + 1) * 2 ^ (k + 1) :=
        Nat.mul_lt_mul_of_pos_right hbits (Nat.two_pow_pos _)
    _ = 2 ^ (Nat.log2 digits + 1 + (k + 1)) := (Nat.pow_add ..).symm
    _ ≤ 2 ^ (3 * n) := Nat.pow_le_pow_right (by decide) h
    _ = 8 ^ n := Nat.pow_mul ..
    _ ≤ 10 ^ n := Nat.pow_le_pow_left (by decide) _

/-- A number with so many zeros before the point reaches the limit. -/
theorem unitLimit_le_decimalUnits {digits n k : Nat} (hk : unitLimit ≤ Nat.pow 10 k * unitsPerOne)
    (hdigits : digits ≠ 0) (h : k ≤ n) :
    unitLimit ≤ roundUnits (digits * 10 ^ n * unitsPerOne) 1 := by
  have hpow : 10 ^ k ≤ digits * 10 ^ n :=
    Nat.le_trans (Nat.pow_le_pow_right (by decide) h)
      (Nat.le_mul_of_pos_left _ (Nat.pos_of_ne_zero hdigits))
  refine unitLimit_le_roundUnits Nat.one_pos ?_
  rw [Nat.mul_one]
  exact Nat.le_trans hk (Nat.mul_le_mul_right _ hpow)

/-- **A decimal number is read as its exact value, rounded.** -/
theorem ofDecimal_eq (negative : Bool) (digits : Nat) (exponent : Int) :
    ofDecimal negative digits exponent
      = ofRatio negative (digits * 10 ^ exponent.toNat) (10 ^ (-exponent).toNat) := by
  have hzero : roundUnits (0 * unitsPerOne) 1 = 0 := by
    rw [Nat.zero_mul]
    decide
  unfold ofDecimal
  by_cases hdigits : digits = 0
  · rw [if_pos hdigits]
    refine ofRatio_congr ?_
    rw [hzero, hdigits, Nat.zero_mul, Nat.zero_mul]
    exact (roundUnits_eq_zero (Nat.pow_pos (by decide))).symm
  rw [if_neg hdigits]
  by_cases hlarge : 400 < exponent
  · have hden : (-exponent).toNat = 0 := by omega
    have hlimit : unitLimit ≤ Nat.pow 10 401 * unitsPerOne := by decide +kernel
    rw [if_pos hlarge, hden, Nat.pow_zero,
      ofRatio_of_ge (unitLimit_le_decimalUnits hlimit hdigits (by omega))]
  rw [if_neg hlarge]
  by_cases hpos : 0 ≤ exponent
  · have hden : (-exponent).toNat = 0 := by omega
    rw [if_pos hpos, hden, Nat.pow_zero, Nat.pow_eq]
  have hnum : exponent.toNat = 0 := by omega
  rw [if_neg hpos, hnum, Nat.pow_zero, Nat.mul_one]
  by_cases hsmall : (Nat.log2 digits : Int) + 1 + 3 * exponent < -1075
  · obtain ⟨k, hk, hunits⟩ := exists_unitsPerOne
    rw [if_pos hsmall]
    exact ofRatio_congr (by rw [hzero, decimalUnits_small hunits (by omega)])
  · rw [if_neg hsmall, Nat.pow_eq]

/-- A decimal number that is rounded to the units of a double is read as that double. -/
theorem ofDecimal_of_units {negative : Bool} {digits units : Nat} {exponent : Int}
    (hunits : IsMagnitude units) (h : decimalUnits digits exponent = units) :
    ofDecimal negative digits exponent = .finite negative units hunits := by
  rw [ofDecimal_eq]
  exact ofRatio_of_units hunits h

theorem decimalUnits_zero (exponent : Int) : decimalUnits 0 exponent = 0 := by
  rw [decimalUnits, Nat.zero_mul, Nat.zero_mul]
  exact roundUnits_eq_zero (Nat.pow_pos (by decide))

/-- **Zeros may be moved from the exponent to the digits.** -/
theorem decimalUnits_shift (digits k : Nat) (exponent : Int) :
    decimalUnits (digits * 10 ^ k) (exponent - k) = decimalUnits digits exponent := by
  have hten (n : Nat) : 0 < 10 ^ n := Nat.pow_pos (by decide)
  have hpow : 10 ^ k * 10 ^ (exponent - k).toNat * 10 ^ (-exponent).toNat
      = 10 ^ exponent.toNat * 10 ^ (-(exponent - k)).toNat := by
    rw [← Nat.pow_add, ← Nat.pow_add, ← Nat.pow_add]
    exact congrArg (10 ^ ·) (by omega)
  refine roundUnits_congr (hten _) (hten _) ?_
  calc digits * 10 ^ k * 10 ^ (exponent - k).toNat * unitsPerOne * 10 ^ (-exponent).toNat
      = digits * (10 ^ k * 10 ^ (exponent - k).toNat * 10 ^ (-exponent).toNat) * unitsPerOne := by
        rw [Nat.mul_right_comm _ unitsPerOne, Nat.mul_assoc digits, Nat.mul_assoc digits]
    _ = digits * 10 ^ exponent.toNat * unitsPerOne * 10 ^ (-(exponent - k)).toNat := by
        rw [hpow, ← Nat.mul_assoc digits, Nat.mul_right_comm _ unitsPerOne]

/-! ## The fewest digits -/

theorem decimalUnits_of_readsBack {units digits : Nat} {exponent : Int}
    (h : readsBack units digits exponent = true) : decimalUnits digits exponent = units := by
  unfold readsBack at h
  rw [ofDecimal_eq] at h
  rcases ofRatio_cases false (digits * 10 ^ exponent.toNat) (10 ^ (-exponent).toNat) with
    heq | ⟨hunits, heq⟩
  · rw [heq] at h
    cases h
  · rw [heq] at h
    exact beq_iff_eq.mp h

theorem roundHalfEven_eq (num den : Nat) :
    roundHalfEven num den = num / den ∨ roundHalfEven num den = num / den + 1 := by
  have hlow := le_roundHalfEven num den
  have hhigh := roundHalfEven_le num den
  omega

/-- What is taken on a grid reads back. -/
theorem decimalUnits_of_onGrid? {units digits : Nat} {exponent : Int}
    (h : onGrid? units exponent = some digits) : decimalUnits digits exponent = units := by
  unfold onGrid? at h
  dsimp only at h
  split at h
  · rename_i hbelow habove
    obtain rfl := Option.some.inj h
    rcases roundHalfEven_eq (units * Nat.pow 10 (-exponent).toNat)
      (unitsPerOne * Nat.pow 10 exponent.toNat) with heq | heq
    · rw [heq]
      exact decimalUnits_of_readsBack hbelow
    · rw [heq]
      exact decimalUnits_of_readsBack habove
  · rename_i hbelow habove
    obtain rfl := Option.some.inj h
    exact decimalUnits_of_readsBack hbelow
  · rename_i hbelow habove
    obtain rfl := Option.some.inj h
    exact decimalUnits_of_readsBack habove
  · cases h

/-- With all of its digits a double is written exactly. -/
theorem decimalUnits_exact {units n : Nat} (hn : unitsPerOne = Nat.pow 2 n)
    (hunits : IsMagnitude units) : decimalUnits (units * Nat.pow 5 n) (-n) = units := by
  have hpow : Nat.pow 5 n * unitsPerOne = 10 ^ n := by
    rw [hn]
    exact (Nat.mul_pow 5 2 n).symm
  have hneg : (-(n : Int)).toNat = 0 := by omega
  have hpos : (- -(n : Int)).toNat = n := by omega
  calc decimalUnits (units * Nat.pow 5 n) (-n)
      = roundUnits (units * 10 ^ n) (1 * 10 ^ n) := by
        rw [decimalUnits, hneg, hpos, Nat.pow_zero, Nat.mul_one, Nat.mul_assoc, hpow, Nat.one_mul]
    _ = roundUnits units 1 := roundUnits_mul_right _ _ (Nat.pow_pos (by decide))
    _ = units := roundUnits_of_isMagnitude hunits

theorem shortest_eq (units : Nat) : shortest units
    = ((List.range' 1 17).findSome? fun count : Nat =>
        (onGrid? units (pointOf units - count)).map (·, pointOf units - count)).getD
          (units * Nat.pow 5 1074, -1074) := by
  unfold shortest
  rfl

/-- The fewest digits come from a grid, or else they are all there are. -/
theorem shortest_cases (units : Nat) :
    onGrid? units (shortest units).2 = some (shortest units).1
      ∨ shortest units = (units * Nat.pow 5 1074, -1074) := by
  rw [shortest_eq]
  generalize hfound : List.findSome? _ _ = found?
  cases found? with
  | none =>
      rw [Option.getD_none]
      exact .inr rfl
  | some found =>
      obtain ⟨count, -, hcount⟩ := List.exists_of_findSome?_eq_some hfound
      obtain ⟨digits, hgrid, rfl⟩ := Option.map_eq_some_iff.mp hcount
      rw [Option.getD_some]
      exact .inl hgrid

/-- **The fewest digits of a double read back as the double.** -/
theorem decimalUnits_shortest {units : Nat} (hunits : IsMagnitude units) :
    decimalUnits (shortest units).1 (shortest units).2 = units := by
  rcases shortest_cases units with hgrid | hexact
  · exact decimalUnits_of_onGrid? hgrid
  · obtain ⟨k, hk, hpow⟩ := exists_unitsPerOne
    have hdigits : shortest units = (units * Nat.pow 5 k, -(k : Int)) := by
      rw [hexact, hk]
      rfl
    rw [hdigits]
    exact decimalUnits_exact hpow hunits

/-- A double that is not zero has digits. -/
theorem shortest_pos {units : Nat} (hunits : IsMagnitude units) (hpos : 0 < units) :
    0 < (shortest units).1 := by
  refine Nat.pos_of_ne_zero fun hzero => ?_
  have hback := decimalUnits_shortest hunits
  rw [hzero, decimalUnits_zero] at hback
  omega

end CivicSite.Double
