import CivicSite.Double.Basic
import CivicSite.Text.Numeral

/-!
# Doubles in decimal

`ofDecimal` is the double nearest to a decimal number, and every reader of a numeral ends in
it. `text` writes the fewest digits that read back as the same double: on the grids of 1, 2,
… 17 significant digits it tries the two neighbours of the value, takes the first grid where
one of them reads back, and of two the nearer. `fixed` writes a given number of places.
-/

namespace CivicSite.Double

/-! ## Reading -/

/-- The double nearest to `digits * 10 ^ exponent`. A number far outside the range of doubles
is answered without computing its power of ten. -/
def ofDecimal (negative : Bool) (digits : Nat) (exponent : Int) : Double :=
  if digits = 0 then ofRatio negative 0 1
  else if 400 < exponent then .infinite negative
  else if 0 ≤ exponent then ofRatio negative (digits * Nat.pow 10 exponent.toNat) 1
  else if Nat.log2 digits + 1 + 3 * exponent < -1075 then ofRatio negative 0 1
  else ofRatio negative digits (Nat.pow 10 (-exponent).toNat)

/-- The double of a numeral given by its parts: digits before the point, digits after it and
an exponent. -/
def ofNumeral (negative : Bool) (whole fraction : List Char) (exponent : Int) : Double :=
  ofDecimal negative (Nat.ofDigitChars 10 (whole ++ fraction) 0) (exponent - fraction.length)

/-- The exponent of a numeral that ends here, none where something else stands. -/
def exponent? : List Char → Option Int
  | [] => some 0
  | c :: rest => do
    guard (c == 'e' || c == 'E')
    let (negative, digits) := Text.splitSign rest
    guard (!digits.isEmpty && digits.all Char.isDigit)
    let n := Nat.ofDigitChars 10 digits 0
    return if negative then -n else n

/-- The number that a text writes: a numeral, or a word for infinity or no number. -/
def ofText? (s : Text) : Option Double := do
  let (negative, cs) := Text.splitSign (← Text.numeral? s)
  let word := String.ofList (cs.map Char.toLower)
  if word == "inf" || word == "infinity" then return .infinite negative
  if word == "nan" then return .nan
  let (whole, rest) := Text.splitDigits cs
  let (fraction, rest) :=
    match rest with
    | '.' :: more => Text.splitDigits more
    | _ => ([], rest)
  guard (!(whole ++ fraction).isEmpty)
  return ofNumeral negative whole fraction (← exponent? rest)

/-! ## The fewest digits -/

/-- Whether the decimal number is nearest to the finite double with these units. -/
def readsBack (units digits : Nat) (exponent : Int) : Bool :=
  match ofDecimal false digits exponent with
  | .finite _ u _ => u == units
  | _ => false

/-- The number of digits before the decimal point, below one the number of zeros after it
negated. No double but zero is below 10^-324. -/
def pointOf (units : Nat) : Int :=
  ((Nat.toDigits 10 (units * Nat.pow 10 324 / unitsPerOne)).length : Int) - 324

/-- The neighbour of a double on the grid of `10 ^ exponent` that reads back, the nearer one
if both do. -/
def onGrid? (units : Nat) (exponent : Int) : Option Nat :=
  let num := units * Nat.pow 10 (-exponent).toNat
  let den := unitsPerOne * Nat.pow 10 exponent.toNat
  let below := num / den
  match readsBack units below exponent, readsBack units (below + 1) exponent with
  | true, true => some (roundHalfEven num den)
  | true, false => some below
  | false, true => some (below + 1)
  | false, false => none

/-- A decimal number with the fewest digits that reads back, as digits and exponent. -/
def shortest (units : Nat) : Nat × Int :=
  let attempt (count : Nat) : Option (Nat × Int) :=
    let exponent := pointOf units - count
    (onGrid? units exponent).map (·, exponent)
  ((List.range' 1 17).findSome? attempt).getD (units * Nat.pow 5 1074, -1074)

/-! ## Writing -/

def zeros (n : Nat) : List Char := List.replicate n '0'

/-- Digits with a decimal point after the first `point` of them. Between 10^-4 and 10^16 the
number is written out, with at least one digit on each side of the point; elsewhere it has an
exponent of a sign and at least two digits. -/
def layout (digits : List Char) (point : Int) : List Char :=
  if -4 < point && point ≤ 16 then
    if point ≤ 0 then '0' :: '.' :: zeros (-point).toNat ++ digits
    else
      let n := point.toNat
      if digits.length ≤ n then digits ++ zeros (n - digits.length) ++ ['.', '0']
      else digits.take n ++ '.' :: digits.drop n
  else
    let power := point - 1
    let size := Nat.toDigits 10 power.natAbs
    digits.take 1 ++ (if digits.length ≤ 1 then [] else '.' :: digits.drop 1) ++
      'e' :: (if power < 0 then '-' else '+') :: zeros (2 - size.length) ++ size

/-- The digits without the zeros at their end. -/
def dropEndZeros (digits : List Char) : List Char :=
  digits.foldr (fun c r => if c == '0' && r.isEmpty then [] else c :: r) []

/-- The sign of a number and its fewest digits. -/
def finiteText (negative : Bool) (units : Nat) : Text :=
  let sign := if negative then ['-'] else []
  let body :=
    if units = 0 then ['0', '.', '0']
    else
      let found := shortest units
      let written := Nat.toDigits 10 found.1
      layout (dropEndZeros written) (written.length + found.2)
  .ofChars (sign ++ body)

def text : Double → Text
  | nan => "nan"
  | infinite negative => if negative then "-inf" else "inf"
  | finite negative units _ => finiteText negative units

/-- The text of a number with the given count of places after the point. -/
def fixed (places : Nat) : Double → Text
  | finite negative units _ =>
    let scaled := roundHalfEven (units * Nat.pow 10 places) unitsPerOne
    let fraction := Nat.toDigits 10 (scaled % Nat.pow 10 places)
    let whole := Nat.toDigits 10 (scaled / Nat.pow 10 places)
    .ofChars ((if negative then ['-'] else []) ++ whole ++ '.' ::
      zeros (places - fraction.length) ++ fraction)
  | x => x.text

end CivicSite.Double
