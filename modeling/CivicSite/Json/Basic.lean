import CivicSite.Double.Decimal
import CivicSite.Entries
import CivicSite.Text.Quoted

/-!
# JSON values

Whole numbers and doubles are told apart, and an object remembers the order of its keys.
Where a value of any kind has to be shown as text, `display` gives the text: a string as it
is, everything else as the literal it would be inside a list.
-/

namespace CivicSite

/-- A JSON value. -/
inductive Json where
  | null
  | bool (b : Bool)
  | int (i : Int)
  | double (x : Double)
  | text (s : Text)
  | list (items : List Json)
  | object (entries : List (Text × Json))

namespace Json

instance : Inhabited Json := ⟨null⟩

/-! ## Equality -/

mutual

/-- Whether two values are the same. -/
def same : Json → Json → Bool
  | null, null => true
  | bool a, bool b => a == b
  | int a, int b => a == b
  | double a, double b => a == b
  | text a, text b => a == b
  | list a, list b => sameItems a b
  | object a, object b => sameEntries a b
  | _, _ => false

/-- Whether two lists hold the same values. -/
def sameItems : List Json → List Json → Bool
  | [], [] => true
  | a :: as, b :: bs => same a b && sameItems as bs
  | _, _ => false

/-- Whether two objects hold the same values under the same keys in the same order. -/
def sameEntries : List (Text × Json) → List (Text × Json) → Bool
  | [], [] => true
  | (k, a) :: as, (l, b) :: bs => k == l && same a b && sameEntries as bs
  | _, _ => false

end

instance : BEq Json := ⟨same⟩

/-! ## Looking into values -/

/-- Whether a value counts as given: not null, not false, not zero, not empty. -/
def isTruthy : Json → Bool
  | null => false
  | bool b => b
  | int i => i != 0
  | double x => !x.isZero
  | text s => !s.isEmpty
  | list items => !items.isEmpty
  | object entries => !entries.isEmpty

/-- Whether a value is missing: null or the empty text. -/
def isBlank : Json → Bool
  | null => true
  | text s => s.isEmpty
  | _ => false

/-- What a value that is not a number is called. -/
def kindName : Json → Text
  | null => "NoneType"
  | bool _ => "bool"
  | int _ => "int"
  | double _ => "float"
  | text _ => "str"
  | list _ => "list"
  | object _ => "dict"

mutual

/-- How many lists and objects lie in each other. -/
def depth : Json → Nat
  | list items => depthOfItems items + 1
  | object entries => depthOfEntries entries + 1
  | _ => 0

def depthOfItems : List Json → Nat
  | [] => 0
  | v :: rest => max (depth v) (depthOfItems rest)

/-- The greatest depth of the values. -/
def depthOfEntries : List (Text × Json) → Nat
  | [] => 0
  | (_, v) :: rest => max (depth v) (depthOfEntries rest)

end

def ofText? : Option Text → Json
  | some s => text s
  | none => null

/-! ## Texts of values -/

mutual

def literal : Json → Text
  | null => "None"
  | bool b => if b then "True" else "False"
  | int i => toString i
  | double x => x.text
  | text s => Text.quoted s
  | list items => "[" ++ literals items ++ "]"
  | object entries => "\x7b" ++ literalEntries entries ++ "\x7d"

/-- Literals with commas between them. -/
def literals : List Json → Text
  | [] => ""
  | [v] => literal v
  | v :: rest => literal v ++ ", " ++ literals rest

/-- Keys and literals with commas between them. -/
def literalEntries : List (Text × Json) → Text
  | [] => ""
  | [(k, v)] => Text.quoted k ++ ": " ++ literal v
  | (k, v) :: rest => Text.quoted k ++ ": " ++ literal v ++ ", " ++ literalEntries rest

end

/-- The text that shows a value. -/
def display : Json → Text
  | text s => s
  | v => v.literal

end Json

end CivicSite
