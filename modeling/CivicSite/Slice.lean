/-!
# Slices

A stretch of a list between two indices. An index below zero counts from the end, and an index
beyond either end stands for that end, so every pair of indices names a stretch.
-/

namespace CivicSite

/-- The place between the elements of a list of length `n` that an index names. -/
def place (n : Nat) (i : Int) : Nat :=
  if i < 0 then (n + i).toNat else min i.toNat n

/-- The elements from one index up to another. -/
def slice {α : Type} (xs : List α) (start stop : Int) : List α :=
  (xs.take (place xs.length stop)).drop (place xs.length start)

theorem slice_sublist {α : Type} (xs : List α) (start stop : Int) :
    (slice xs start stop).Sublist xs :=
  (List.drop_sublist ..).trans (List.take_sublist ..)

end CivicSite
