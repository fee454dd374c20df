import CivicSite.Text.Basic

/-!
# Supplies

A supply hands out texts one after the other: fresh component ids, or readings of a clock. It
is an endless sequence and the count of what has been taken from it.
-/

namespace CivicSite

/-- An endless sequence of texts and how many were taken. -/
structure Supply where
  item : Nat → Text
  taken : Nat

namespace Supply

/-- The supply with nothing taken. -/
def ofSequence (item : Nat → Text) : Supply := ⟨item, 0⟩

/-- The next text, and the supply without it. -/
def draw (s : Supply) : Text × Supply :=
  (s.item s.taken, { s with taken := s.taken + 1 })

end Supply

end CivicSite
