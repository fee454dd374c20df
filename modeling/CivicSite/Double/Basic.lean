/-!
# Double precision numbers, exactly

A finite double is a sign and a whole number of units of 2^-1074, the smallest step there is.
Not every number of units is a double: at most 53 significant bits are kept. `roundUnits`
takes any quotient to the nearest number of units that is one, a tie to the even neighbour,
and everything that makes a double goes through it, so the arithmetic is that of exact
integers and no bit pattern is ever looked at.
-/

namespace CivicSite

/-! ## Rounding to the nearest whole number -/

/-- The whole number nearest to `num / den`; halfway, the even one. -/
def roundHalfEven (num den : Nat) : Nat :=
  let q := num / den
  let r := num % den
  if 2 * r < den then q else if den < 2 * r then q + 1 else q + q % 2

theorem roundHalfEven_le (num den : Nat) : roundHalfEven num den ≤ num / den + 1 := by
  unfold roundHalfEven; dsimp only; split
  · omega
  · split <;> omega

theorem roundHalfEven_mul (q : Nat) {den : Nat} (h : 0 < den) :
    roundHalfEven (q * den) den = q := by
  simp [roundHalfEven, Nat.mul_div_cancel _ h, h]

/-! ## Representable magnitudes -/

/-- The units of the first power of two that is too large to be a finite double. -/
def unitLimit : Nat := Nat.pow 2 2098

def unitsPerOne : Nat := Nat.pow 2 1074

/-- At most 53 significant bits, and below the limit. -/
def IsMagnitude (units : Nat) : Prop :=
  (∃ m k, m ≤ Nat.pow 2 53 ∧ units = m * Nat.pow 2 k) ∧ units < unitLimit

/-- The units nearest to `num / den` that have at most 53 significant bits. -/
def roundUnits (num den : Nat) : Nat :=
  let k := Nat.log2 (num / den) - 52
  roundHalfEven num (den * Nat.pow 2 k) * Nat.pow 2 k

theorem roundUnits_eq_mul (num den : Nat) :
    ∃ m k, m ≤ Nat.pow 2 53 ∧ roundUnits num den = m * Nat.pow 2 k := by
  refine ⟨_, _, ?_, rfl⟩
  refine Nat.le_trans (roundHalfEven_le ..) ?_
  rw [← Nat.div_div_eq_div_mul]
  have hlog : num / den < 2 ^ (Nat.log2 (num / den) + 1) := Nat.lt_log2_self
  have hpow : 2 ^ (Nat.log2 (num / den) + 1) ≤ 2 ^ (Nat.log2 (num / den) - 52) * 2 ^ 53 := by
    rw [← Nat.pow_add]
    exact Nat.pow_le_pow_right (by decide) (by omega)
  exact Nat.div_lt_of_lt_mul (Nat.lt_of_lt_of_le hlog hpow)

theorem isMagnitude_roundUnits {num den : Nat} (h : roundUnits num den < unitLimit) :
    IsMagnitude (roundUnits num den) :=
  ⟨roundUnits_eq_mul num den, h⟩

/-! ## The numbers -/

/-- A double precision number. The finite ones are a sign and a representable magnitude. -/
inductive Double where
  | nan
  | infinite (negative : Bool)
  | finite (negative : Bool) (units : Nat) (isMagnitude : IsMagnitude units)
deriving DecidableEq

namespace Double

/-- The double nearest to the quotient, an infinity where that is beyond the limit. -/
def ofRatio (negative : Bool) (num den : Nat) : Double :=
  let units := roundUnits (num * unitsPerOne) den
  if h : units < unitLimit then .finite negative units (isMagnitude_roundUnits h)
  else .infinite negative

instance : Inhabited Double := ⟨ofRatio false 0 1⟩

/-- The number itself, if it is not beyond the limit. -/
def bounded? : Double → Option Double
  | infinite _ => none
  | x => some x

/-- The double nearest to an integer, if it is not beyond the limit. -/
def ofInt? (i : Int) : Option Double := (ofRatio (i < 0) i.natAbs 1).bounded?

/-- The double nearest to the quotient of two integers, the divisor not zero, if it is not
beyond the limit. -/
def ofQuotient? (a b : Int) : Option Double :=
  (ofRatio ((a < 0) != (b < 0)) a.natAbs b.natAbs).bounded?

/-- The units of a finite number, with its sign. -/
def signedUnits? : Double → Option Int
  | finite negative units _ => some (if negative then -units else units)
  | _ => none

/-- Whether a number lies between two integers, both included. -/
def between (x : Double) (low high : Int) : Bool :=
  match x.signedUnits? with
  | some u => low * unitsPerOne ≤ u && u ≤ high * unitsPerOne
  | none => false

/-- Where an ordinary number stands in the order: the infinities outside, zero one place. -/
def rank : Double → Int
  | nan => 0
  | infinite true => -unitLimit
  | infinite false => unitLimit
  | finite true units _ => -units
  | finite false units _ => units

/-- Whether one ordinary number is at most another. -/
def le (x y : Double) : Bool :=
  x != nan && y != nan && x.rank ≤ y.rank

/-- The integer part of a finite number. -/
def truncate? (x : Double) : Option Int :=
  x.signedUnits?.map (Int.tdiv · unitsPerOne)

/-- The least integer that is not below a finite number. -/
def ceiling? (x : Double) : Option Int :=
  x.signedUnits?.map fun u => -(-u / unitsPerOne)

/-- Whether a number is zero, of either sign. -/
def isZero : Double → Bool
  | finite _ units _ => units == 0
  | _ => false

end Double

end CivicSite
