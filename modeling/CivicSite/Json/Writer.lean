import CivicSite.Json.Basic

/-!
# Writing JSON

A style says whether everything beyond ASCII is written as an escape and whether items stand
on lines of their own, indented by depth. On one line, items are set apart by a comma and a
space. Doubles that are no finite numbers are written as the words `NaN` and `Infinity`.
-/

namespace CivicSite.Json

/-- How a value is written. -/
structure Style where
  /-- Characters beyond ASCII are written as escapes. -/
  asciiOnly : Bool
  /-- The spaces by which each level is indented; on one line if there are none. -/
  indent? : Option Nat

/-- One line, characters as they are. -/
def Style.plain : Style := ⟨false, none⟩

def Style.ascii : Style := ⟨true, none⟩

/-! ## Strings -/

/-- An escape of four hexadecimal digits. -/
def unitEscape (n : Nat) : Text := "\\u" ++ .ofChars (Text.hexDigits 4 n)

/-- A code point as escapes: one, or a surrogate pair beyond the first plane. -/
def escapes (c : CodePoint) : Text :=
  let n := c.toNat
  if n < 0x10000 then unitEscape n
  else unitEscape (0xD800 + (n - 0x10000) / 0x400) ++ unitEscape (0xDC00 + (n - 0x10000) % 0x400)

def writePoint (asciiOnly : Bool) (c : CodePoint) : Text :=
  if c == '"' || c == '\\' then ['\\', c]
  else if c == '\n' then "\\n"
  else if c == '\r' then "\\r"
  else if c == '\t' then "\\t"
  else if c == Char.ofNat 8 then "\\b"
  else if c == Char.ofNat 12 then "\\f"
  else if c.toNat < 0x20 then unitEscape c.toNat
  else if asciiOnly && 0x7F ≤ c.toNat then escapes c
  else [c]

/-- A string between quotes. -/
def writeText (asciiOnly : Bool) (s : Text) : Text :=
  "\"" ++ s.flatMap (writePoint asciiOnly) ++ "\""

/-! ## Values -/

def writeDouble : Double → Text
  | .nan => "NaN"
  | .infinite negative => if negative then "-Infinity" else "Infinity"
  | x => x.text

/-- A line break and the indentation of the given depth, where items have lines of their own. -/
def lineBreak (style : Style) (depth : Nat) : Text :=
  match style.indent? with
  | some n => '\n' :: List.replicate (n * depth) ' '
  | none => []

/-- What stands between two items. -/
def separator (style : Style) (depth : Nat) : Text :=
  "," ++ if style.indent?.isSome then lineBreak style depth else " "

mutual

/-- The text of a value that stands at the given depth. -/
def write (style : Style) (depth : Nat) : Json → Text
  | null => "null"
  | bool b => if b then "true" else "false"
  | int i => toString i
  | double x => writeDouble x
  | text s => writeText style.asciiOnly s
  | list [] => "[]"
  | list (v :: rest) =>
    "[" ++ lineBreak style (depth + 1) ++ write style (depth + 1) v ++
      writeItems style (depth + 1) rest ++ lineBreak style depth ++ "]"
  | object [] => "\x7b\x7d"
  | object ((k, v) :: rest) =>
    "\x7b" ++ lineBreak style (depth + 1) ++ writeText style.asciiOnly k ++ ": " ++
      write style (depth + 1) v ++ writeEntries style (depth + 1) rest ++
      lineBreak style depth ++ "\x7d"

/-- The items after the first. -/
def writeItems (style : Style) (depth : Nat) : List Json → Text
  | [] => []
  | v :: rest => separator style depth ++ write style depth v ++ writeItems style depth rest

/-- The entries after the first. -/
def writeEntries (style : Style) (depth : Nat) : List (Text × Json) → Text
  | [] => []
  | (k, v) :: rest =>
    separator style depth ++ writeText style.asciiOnly k ++ ": " ++ write style depth v ++
      writeEntries style depth rest

end

def render (style : Style) (v : Json) : Text := write style 0 v

/-! ## Sorted keys -/

mutual

/-- The value with the keys of every object in it in ascending order. -/
def sortKeys : Json → Json
  | list items => list (sortItems items)
  | object entries => object ((sortEntries entries).mergeSort fun a b => a.1.le b.1)
  | v => v

/-- The items, each with its keys in order. -/
def sortItems : List Json → List Json
  | [] => []
  | v :: rest => sortKeys v :: sortItems rest

/-- The entries, each value with its keys in order. -/
def sortEntries : List (Text × Json) → List (Text × Json)
  | [] => []
  | (k, v) :: rest => (k, sortKeys v) :: sortEntries rest

end

end CivicSite.Json
