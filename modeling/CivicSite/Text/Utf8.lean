import CivicSite.Text.Basic

/-!
# UTF-8

`utf8Bytes` are the bytes of a code point. Half a surrogate pair by itself has none that a
reader accepts; its three bytes are those that its number would have.

Strict reading is `String.fromUTF8?`. Where damaged bytes must still be shown, each maximal
piece that cannot be continued to a character is shown as one replacement character: the
reader is a machine that takes one byte at a time and keeps the bytes still expected, with
the range allowed for the next one.
-/

namespace CivicSite.Text

/-! ## Writing -/

def utf8Bytes : CodePoint → List UInt8
  | .char c => String.utf8EncodeChar c
  | .lone half => [0xED, .ofNat (0xA0 + half / 0x40), .ofNat (0x80 + half % 0x40)]

/-! ## Reading -/

/-- A character begun: the bits so far, the range of the next byte, and the bytes after it. -/
structure OpenSequence where
  bits : Nat
  low : Nat
  high : Nat
  more : Nat
deriving DecidableEq, Repr

/-- The character shown for damaged bytes. -/
def replacement : Char := Char.ofNat 0xFFFD

/-- What a byte does where a character may start. -/
def startSequence (b : Nat) : List Char × Option OpenSequence :=
  if b < 0x80 then ([Char.ofNat b], none)
  else if 0xC2 ≤ b && b ≤ 0xDF then ([], some ⟨b - 0xC0, 0x80, 0xBF, 0⟩)
  else if b == 0xE0 then ([], some ⟨0, 0xA0, 0xBF, 1⟩)
  else if b == 0xED then ([], some ⟨0xD, 0x80, 0x9F, 1⟩)
  else if 0xE1 ≤ b && b ≤ 0xEF then ([], some ⟨b - 0xE0, 0x80, 0xBF, 1⟩)
  else if b == 0xF0 then ([], some ⟨0, 0x90, 0xBF, 2⟩)
  else if b == 0xF4 then ([], some ⟨4, 0x80, 0x8F, 2⟩)
  else if 0xF1 ≤ b && b ≤ 0xF3 then ([], some ⟨b - 0xF0, 0x80, 0xBF, 2⟩)
  else ([replacement], none)

/-- What the next byte does: it continues the open character, or gives it up and starts anew. -/
def nextByte (s : Option OpenSequence) (b : Nat) : List Char × Option OpenSequence :=
  match s with
  | none => startSequence b
  | some o =>
    if o.low ≤ b && b ≤ o.high then
      let bits := o.bits * 64 + (b - 0x80)
      match o.more with
      | 0 => ([Char.ofNat bits], none)
      | more + 1 => ([], some ⟨bits, 0x80, 0xBF, more⟩)
    else
      let (shown, next) := startSequence b
      (replacement :: shown, next)

/-- The characters that the bytes show, from an open character on. -/
def decodeFrom (s : Option OpenSequence) : List UInt8 → List Char
  | [] => if s.isSome then [replacement] else []
  | b :: rest =>
    let (shown, next) := nextByte s b.toNat
    shown ++ decodeFrom next rest

/-- The bytes of a string are read as the string. -/
theorem fromUTF8?_toUTF8 (s : String) : String.fromUTF8? s.toUTF8 = some s := by
  have hvalid : s.toUTF8.IsValidUTF8 := s.isValidUTF8
  rw [String.fromUTF8?, dif_pos hvalid]
  rfl

/-- The text that the bytes show, damaged pieces replaced. -/
def decodeLossy (bytes : ByteArray) : Text :=
  match String.fromUTF8? bytes with
  | some s => s
  | none => ofChars (decodeFrom none bytes.toList)

end CivicSite.Text
