import CivicSite.Text.Blank
import CivicSite.Text.Digit

/-!
# Numerals in text

How a person may write a number: blanks around it (but not the separator controls), digits of
any script, and underscores between digits. `numeral?` brings such a text to plain ASCII
characters, and `wholeNumber?` reads the numerals of integers.
-/

namespace CivicSite.Text

/-- The blanks that may stand around a numeral. -/
def isNumeralSpace (c : CodePoint) : Bool :=
  isBlank c && !(28 ≤ c.toNat && c.toNat ≤ 31)

/-- A digit of any script as an ASCII digit; every other character as it is. -/
def plainDigit (c : Char) : Char :=
  if c.toNat < 0x80 then c
  else
    match digitValue? c with
    | some d => Nat.digitChar d
    | none => c

/-- The characters without their underscores, if each of these stands between two digits. The
first argument says whether a digit stands just before. -/
def joinDigits (afterDigit : Bool) : List Char → Option (List Char)
  | [] => some []
  | '_' :: c :: rest =>
    if afterDigit && c.isDigit then (joinDigits true rest).map (c :: ·) else none
  | c :: rest => if c == '_' then none else (joinDigits c.isDigit rest).map (c :: ·)

def numeral? (s : Text) : Option (List Char) := do
  let inner ← chars? (dropEndWhile isNumeralSpace (s.dropWhile isNumeralSpace))
  joinDigits false (inner.map plainDigit)

/-- A sign, if there is one, and the rest. -/
def splitSign : List Char → Bool × List Char
  | '-' :: rest => (true, rest)
  | '+' :: rest => (false, rest)
  | cs => (false, cs)

/-- The leading digits and the rest. -/
def splitDigits (cs : List Char) : List Char × List Char :=
  (cs.takeWhile Char.isDigit, cs.dropWhile Char.isDigit)

/-- The most digits that the numeral of an integer may have. -/
def maxDigits : Nat := 4300

/-- The integer that a text writes. -/
def wholeNumber? (s : Text) : Option Int := do
  let (negative, digits) := splitSign (← numeral? s)
  if digits.isEmpty || !digits.all Char.isDigit || maxDigits < digits.length then none
  let n := Nat.ofDigitChars 10 digits 0
  return if negative then -n else n

end CivicSite.Text
