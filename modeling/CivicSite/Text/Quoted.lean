import CivicSite.Text.Printable

/-!
# Quoted text

A text between quotes, as it is shown inside lists and messages. Single quotes are used
unless the text holds a single quote and no double one. The quote in use, the backslash and
the characters that are not printable are written as escapes.
-/

namespace CivicSite.Text

/-- The last `width` hexadecimal digits of a number, in small letters. -/
def hexDigits : Nat → Nat → List Char
  | 0, _ => []
  | width + 1, n => hexDigits width (n / 16) ++ [Nat.digitChar (n % 16)]

def quotedChar (quote : Char) (c : CodePoint) : Text :=
  if c == quote || c == '\\' then ['\\', c]
  else if c == '\n' then "\\n"
  else if c == '\r' then "\\r"
  else if c == '\t' then "\\t"
  else if isPrintable c then [c]
  else if c.toNat < 0x100 then "\\x" ++ ofChars (hexDigits 2 c.toNat)
  else if c.toNat < 0x10000 then "\\u" ++ ofChars (hexDigits 4 c.toNat)
  else "\\U" ++ ofChars (hexDigits 8 c.toNat)

def quoteFor (s : Text) : Char :=
  if s.contains '\'' && !s.contains '"' then '"' else '\''

def quoted (s : Text) : Text :=
  let q := quoteFor s
  [.char q] ++ s.flatMap (quotedChar q) ++ [.char q]

end CivicSite.Text
