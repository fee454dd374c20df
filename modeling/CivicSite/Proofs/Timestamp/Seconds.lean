import CivicSite.Proofs.Post.Order

/-!
# Instants in seconds

Instants are exact to the microsecond, and are compared by their seconds, which are doubles. Up to
2^33 seconds from the beginning of 1970 a double has steps of less than a microsecond, so there the
seconds tell all instants apart (`Timestamp.instant_eq_of_rank_eq`). From then on, which is in the
year 2242 and before 1697, instants have the same seconds if they are close to each other; how
close depends on how far they are from 1970, and 30 microseconds is the most that there is
(`Timestamp.instant_sub_le`). The order of instants is never reversed
(`Timestamp.rank_seconds_mono`).
-/

namespace CivicSite

/-! ## Microseconds as units -/

/-- The units of a number of microseconds, rounded to a double. -/
def microUnits (n : Nat) : Nat := roundUnits (n * unitsPerOne) 1000000

theorem microUnits_mono {n m : Nat} (h : n ≤ m) : microUnits n ≤ microUnits m :=
  Double.roundUnits_mono (Nat.mul_le_mul_right _ h) _

theorem microUnits_pos {n : Nat} (h : 0 < n) : 0 < microUnits n := by
  have hunits : 1000000 ≤ unitsPerOne := by decide +kernel
  exact Double.roundUnits_pos (by decide) (Nat.le_trans hunits (Nat.le_mul_of_pos_left _ h))

section Step

variable {c k n m : Nat}

/-- The step of a number of microseconds, by the bits that it has beyond a second. -/
theorem step_micros_le (hone : unitsPerOne = 2 ^ c * 2 ^ k) (hn : n * 2 ^ c < 2 ^ 53 * 1000000) :
    Double.step (n * unitsPerOne) 1000000 ≤ 2 ^ k := by
  refine Double.step_le ?_
  rw [hone, ← Nat.mul_assoc, Nat.pow_add, Nat.mul_right_comm (2 ^ 53)]
  exact Nat.mul_lt_mul_of_pos_right hn (Nat.two_pow_pos k)

/-- Numbers of microseconds that are rounded alike are not more than a step apart. -/
theorem sub_le_of_microUnits_eq (hone : unitsPerOne = 2 ^ c * 2 ^ k)
    (hm : m * 2 ^ c < 2 ^ 53 * 1000000) (hle : n ≤ m) (h : microUnits n = microUnits m) :
    (m - n) * 2 ^ c ≤ 1000000 := by
  obtain ⟨e, rfl⟩ := Nat.exists_eq_add_of_le hle
  have hn : n * 2 ^ c < 2 ^ 53 * 1000000 :=
    Nat.lt_of_le_of_lt (Nat.mul_le_mul_right _ hle) hm
  have hlow := (Double.roundUnits_near (n * unitsPerOne) (show 0 < 1000000 by decide)).2
  have hhigh := (Double.roundUnits_near ((n + e) * unitsPerOne) (show 0 < 1000000 by decide)).1
  have hstep := step_micros_le hone hn
  have hstep' := step_micros_le hone hm
  rw [← microUnits] at hlow hhigh
  rw [← h] at hhigh
  have hsum : (n + e) * unitsPerOne = n * unitsPerOne + e * unitsPerOne := Nat.add_mul ..
  have hbound : e * unitsPerOne ≤ 1000000 * 2 ^ k := by omega
  rw [hone, ← Nat.mul_assoc] at hbound
  rw [Nat.add_sub_cancel_left]
  exact Nat.le_of_mul_le_mul_right hbound (Nat.two_pow_pos k)

end Step

theorem microUnits_lt {n : Nat} (h : n < 2 ^ 38 * 1000000) : microUnits n < unitLimit := by
  have hone : unitsPerOne = 2 ^ 15 * 2 ^ 1059 := by decide +kernel
  have hstep := step_micros_le hone (show n * 2 ^ 15 < 2 ^ 53 * 1000000 by omega)
  have hround := Double.roundUnits_le (n * unitsPerOne) 1000000
  have hlimit : 2 ^ 53 * 2 ^ 1059 < unitLimit := by decide +kernel
  exact Nat.lt_of_le_of_lt (Nat.le_trans hround (Nat.mul_le_mul_left _ hstep)) hlimit

/-! ## The calendar -/

namespace Calendar

theorem daysBeforeMonth_le (year month : Nat) : daysBeforeMonth year (month + 1) ≤ 31 * month := by
  induction month with
  | zero => exact Nat.le_refl 0
  | succ month ih =>
      have hdays := daysInMonth_le year (month + 1)
      rw [daysBeforeMonth]
      omega

theorem dayNumber_le {year month day : Nat} (hyear : year ≤ 9999) (hmonth : month ≤ 12)
    (hday : day ≤ 31) : dayNumber year month day ≤ 3652500 := by
  have hbefore : daysBeforeMonth year month ≤ 341 := by
    cases month with
    | zero => exact Nat.zero_le _
    | succ month =>
        have := daysBeforeMonth_le year month
        omega
  unfold dayNumber daysBeforeYear
  dsimp only
  omega

end Calendar

namespace Timestamp

/-- No timestamp is as much as 2^38 seconds from the beginning of 1970. -/
theorem natAbs_instant_lt (t : Timestamp) : t.instant.natAbs < 2 ^ 38 * 1000000 := by
  obtain ⟨⟨-, hyear⟩, ⟨-, hmonth⟩, ⟨-, hday⟩, hhour, hminute, hsecond, hmicro, hoffset⟩ := t.isValid
  have hstart : Calendar.dayNumber 1970 1 1 = 719163 := by decide
  have hdays := Calendar.dayNumber_le hyear hmonth
    (Nat.le_trans hday (Calendar.daysInMonth_le t.year t.month))
  have hlimit : microsPerDay = 86400000000 := by decide
  rw [hlimit] at hoffset
  unfold instant
  rw [hstart]
  dsimp only
  omega

/-! ## The order of instants -/

theorem rank_seconds (t : Timestamp) : t.seconds.rank
    = if t.instant < 0 then -(microUnits t.instant.natAbs : Int)
      else microUnits t.instant.natAbs := by
  rw [seconds, Double.rank_ofRatio (microUnits_lt t.natAbs_instant_lt)]
  simp only [decide_eq_true_eq]
  rfl

variable {t u : Timestamp}

/-- **An instant that is not before another one does not have fewer seconds.** -/
theorem rank_seconds_mono (h : t.instant ≤ u.instant) : t.seconds.rank ≤ u.seconds.rank := by
  rw [rank_seconds, rank_seconds]
  rcases Int.lt_or_le t.instant 0 with ht | ht <;> rcases Int.lt_or_le u.instant 0 with hu | hu
  · have hmono := microUnits_mono (show u.instant.natAbs ≤ t.instant.natAbs by omega)
    rw [if_pos ht, if_pos hu]
    omega
  · rw [if_pos ht, if_neg (by omega)]
    omega
  · omega
  · have hmono := microUnits_mono (show t.instant.natAbs ≤ u.instant.natAbs by omega)
    rw [if_neg (by omega), if_neg (by omega)]
    omega

/-- Instants with the same seconds are on the same side of 1970, as far as their doubles tell. -/
theorem microUnits_eq_of_rank_eq (h : t.seconds.rank = u.seconds.rank) :
    (t.instant < 0 ↔ u.instant < 0)
      ∧ microUnits t.instant.natAbs = microUnits u.instant.natAbs := by
  rw [rank_seconds, rank_seconds] at h
  rcases Int.lt_or_le t.instant 0 with ht | ht <;> rcases Int.lt_or_le u.instant 0 with hu | hu
  · rw [if_pos ht, if_pos hu] at h
    omega
  · have hpos := microUnits_pos (show 0 < t.instant.natAbs by omega)
    rw [if_pos ht, if_neg (by omega)] at h
    omega
  · have hpos := microUnits_pos (show 0 < u.instant.natAbs by omega)
    rw [if_neg (by omega), if_pos hu] at h
    omega
  · rw [if_neg (by omega), if_neg (by omega)] at h
    omega

/-- How far apart instants with the same seconds can be, by the bits that are left below a second.
-/
theorem sub_le_of_rank_eq {c k : Nat} (hone : unitsPerOne = 2 ^ c * 2 ^ k)
    (ht : t.instant.natAbs * 2 ^ c < 2 ^ 53 * 1000000)
    (hu : u.instant.natAbs * 2 ^ c < 2 ^ 53 * 1000000) (hle : t.instant ≤ u.instant)
    (h : t.seconds.rank = u.seconds.rank) :
    (u.instant - t.instant).natAbs * 2 ^ c ≤ 1000000 := by
  obtain ⟨hside, heq⟩ := microUnits_eq_of_rank_eq h
  rcases Int.lt_or_le t.instant 0 with hneg | hpos
  · have hneg' := hside.mp hneg
    have hgap := sub_le_of_microUnits_eq hone ht (by omega) heq.symm
    rwa [show (u.instant - t.instant).natAbs = t.instant.natAbs - u.instant.natAbs by omega]
  · have hgap := sub_le_of_microUnits_eq hone hu (by omega) heq
    rwa [show (u.instant - t.instant).natAbs = u.instant.natAbs - t.instant.natAbs by omega]

/-- **Instants with the same seconds are at most 30 microseconds apart.** -/
theorem instant_sub_le (h : t.seconds.rank = u.seconds.rank) : u.instant - t.instant ≤ 30 := by
  rcases Int.lt_or_le t.instant u.instant with hlt | hge
  · have ht := t.natAbs_instant_lt
    have hu := u.natAbs_instant_lt
    have hone : unitsPerOne = 2 ^ 15 * 2 ^ 1059 := by decide +kernel
    have hgap := sub_le_of_rank_eq hone (by omega) (by omega) (Int.le_of_lt hlt) h
    omega
  · omega

/-- The instants whose seconds a double can tell apart. -/
def IsNear (t : Timestamp) : Prop := t.instant.natAbs < 2 ^ 33 * 1000000

instance (t : Timestamp) : Decidable t.IsNear := inferInstanceAs (Decidable (_ < _))

/-- **Near 1970, the seconds tell all instants apart.** -/
theorem instant_eq_of_rank_eq (ht : t.IsNear) (hu : u.IsNear)
    (h : t.seconds.rank = u.seconds.rank) : t.instant = u.instant := by
  unfold IsNear at ht hu
  have hone : unitsPerOne = 2 ^ 20 * 2 ^ 1054 := by decide +kernel
  rcases Int.le_total t.instant u.instant with hle | hle
  · have hgap := sub_le_of_rank_eq hone (by omega) (by omega) hle h
    omega
  · have hgap := sub_le_of_rank_eq hone (by omega) (by omega) hle h.symm
    omega

end Timestamp

end CivicSite
