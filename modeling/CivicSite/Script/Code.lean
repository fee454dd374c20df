import CivicSite.Text.Basic

/-!
# Program text

Program text as lines and blocks in braces. Braces balance and lines are indented by
construction: a block indents its body, and a line inside a body holds its text only.
-/

namespace CivicSite

/-- A piece of program text. -/
inductive Code where
  /-- One line. -/
  | line (text : Text)
  /-- Lines that are indented by one step more. -/
  | deeper (body : List Code)
  /-- A head, a body in braces, and what follows the closing brace. -/
  | block (head : Text) (body : List Code) (tail : Text)
  /-- A block that goes on with a second body after the text in the middle. -/
  | twoBlocks (head : Text) (body : List Code) (middle : Text) (second : List Code)
      (tail : Text)

instance : Coe String Code := ⟨fun s => .line s⟩

namespace Code

/-- A line at the given depth. An empty line has no margin. -/
def indented (depth : Nat) (s : Text) : Text :=
  if s.isEmpty then [] else List.replicate (4 * depth) (.char ' ') ++ s

mutual

/-- The lines of a piece at the given depth. -/
def lines (depth : Nat) : Code → List Text
  | line s => [indented depth s]
  | deeper body => linesOf (depth + 1) body
  | block head body tail =>
    indented depth (head ++ "\x7b") :: linesOf (depth + 1) body ++
      [indented depth ("\x7d" ++ tail)]
  | twoBlocks head body middle second tail =>
    indented depth (head ++ "\x7b") :: linesOf (depth + 1) body ++
      indented depth ("\x7d" ++ middle ++ "\x7b") :: linesOf (depth + 1) second ++
      [indented depth ("\x7d" ++ tail)]

/-- The lines of pieces one after the other. -/
def linesOf (depth : Nat) : List Code → List Text
  | [] => []
  | c :: rest => lines depth c ++ linesOf depth rest

end

/-- The text of pieces, the last line without a line break. -/
def text (cs : List Code) : Text := List.intercalate "\n" (linesOf 0 cs)

end Code

end CivicSite
