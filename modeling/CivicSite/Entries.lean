import CivicSite.Text.Basic

/-!
# Entries in order of arrival

A list of key and value pairs that remembers the order in which the keys first arrived.
Putting a value under a present key replaces it in place.
-/

namespace CivicSite

/-- Key and value pairs, in order of arrival. -/
abbrev Entries (α : Type) := List (Text × α)

namespace Entries

variable {α : Type}

def get? (es : Entries α) (key : Text) : Option α :=
  (es.find? (·.1 == key)).map (·.2)

/-- The entries with a value put under a key. -/
def put : Entries α → Text → α → Entries α
  | [], key, v => [(key, v)]
  | e :: rest, key, v => if e.1 == key then (key, v) :: rest else e :: put rest key v

/-- The entries without a key. -/
def remove (es : Entries α) (key : Text) : Entries α :=
  es.filter (·.1 != key)

@[simp] theorem get?_nil (key : Text) : get? ([] : Entries α) key = none := rfl

theorem get?_cons (e : Text × α) (es : Entries α) (key : Text) :
    get? (e :: es) key = if e.1 == key then some e.2 else get? es key := by
  simp only [get?, List.find?_cons]
  split <;> simp_all

theorem get?_put (es : Entries α) (key other : Text) (v : α) :
    get? (put es key v) other = if key == other then some v else get? es other := by
  induction es with
  | nil => simp [put, get?_cons]
  | cons e rest ih =>
    unfold put
    by_cases h : e.1 = key <;> by_cases h' : key = other <;> simp_all [get?_cons]

theorem get?_remove (es : Entries α) (key other : Text) :
    get? (remove es key) other = if key == other then none else get? es other := by
  induction es with
  | nil => simp [remove]
  | cons e rest ih =>
    simp only [remove, List.filter_cons] at ih ⊢
    by_cases h : e.1 = key <;> by_cases h' : e.1 = other <;> by_cases h'' : key = other <;>
      simp_all [get?_cons]

end Entries

end CivicSite
