import CivicSite.Text.Basic
import CivicSite.Text.CaseTable

/-!
# Small and capital letters

`lower` and `upper` map a whole text, character by character, by the full mappings of the
Unicode character database. One character depends on its neighbours: a capital sigma is
lowered to its final form where it ends a word, that is, where the nearest characters around
it that are not ignored for case are a cased letter before it and none after it.
-/

namespace CivicSite.Text

/-- What a table makes of one code point: an expansion, else a run, else the code point. -/
def mapCase (runs : List CaseRun) (expansions : List (Nat × List Nat)) (n : Nat) : List Nat :=
  match expansions.find? (·.1 == n) with
  | some e => e.2
  | none =>
    match runs.find? (·.covers n) with
    | some r => [r.apply n]
    | none => [n]

/-- The capital form of one code point. -/
def upperChar (c : CodePoint) : Text :=
  (mapCase upperRuns upperExpansions c.toNat).map .ofNat

/-- The small form of one code point, regardless of its neighbours. -/
def lowerChar (c : CodePoint) : Text :=
  (mapCase lowerRuns lowerExpansions c.toNat).map .ofNat

/-- Whether the nearest character that is not ignored for case is a cased letter. -/
def meetsCased (s : Text) : Bool :=
  match s.find? fun c => !inRanges caseIgnorableRanges c.toNat with
  | some c => inRanges casedRanges c.toNat
  | none => false

/-- Lowers the text that follows `before`, given in reverse. -/
def lowerAfter (before : Text) : Text → Text
  | [] => []
  | c :: rest =>
    let small : Text :=
      if c == 'Σ' then [if meetsCased before && !meetsCased rest then 'ς' else 'σ']
      else lowerChar c
    small ++ lowerAfter (c :: before) rest

/-- The text in capital letters. -/
def upper (s : Text) : Text := s.flatMap upperChar

/-- The text in small letters. -/
def lower (s : Text) : Text := lowerAfter [] s

end CivicSite.Text
