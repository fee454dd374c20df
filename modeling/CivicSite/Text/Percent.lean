import CivicSite.Text.Utf8

/-!
# Percent encoding

A text as part of a link: letters, digits and `_ . - ~` stand for themselves, every other code
point is written as its UTF-8 bytes, each a percent sign and two hexadecimal digits.
-/

namespace CivicSite.Text

/-- The characters that need no encoding anywhere in a link. -/
def isUnreserved (c : Char) : Bool :=
  c.isAlphanum || c == '_' || c == '.' || c == '-' || c == '~'

/-- A hexadecimal digit in capitals. -/
def hexCapital (n : Nat) : Char :=
  (Nat.digitChar n).toUpper

/-- One byte as a percent sign and two digits. -/
def percentByte (b : UInt8) : List Char :=
  ['%', hexCapital (b.toNat / 16), hexCapital (b.toNat % 16)]

/-- One code point percent encoded, unless it is unreserved or kept. -/
def percentPoint (keep : Char → Bool) (c : CodePoint) : Text :=
  if c.char?.any fun a => isUnreserved a || keep a then [c]
  else .ofChars ((utf8Bytes c).flatMap percentByte)

/-- The text percent encoded, except for the unreserved characters and those kept. -/
def percentEncode (s : Text) (keep : Char → Bool) : Text :=
  s.flatMap (percentPoint keep)

end CivicSite.Text
