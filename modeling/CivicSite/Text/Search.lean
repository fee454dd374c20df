import CivicSite.Text.Basic

/-!
# Finding text

Occurrence of one text in another.
-/

namespace CivicSite.Text

/-- Whether the code points of a text occur in a row in another one. -/
def occursIn (needle : Text) : Text → Bool
  | [] => needle.isEmpty
  | c :: rest => needle.isPrefixOf (c :: rest) || occursIn needle rest

theorem occursIn_iff {needle cs : Text} : occursIn needle cs = true ↔ needle <:+: cs := by
  induction cs with
  | nil => simp [occursIn]
  | cons c rest ih => simp [occursIn, ih, List.infix_cons_iff]

def holds (s needle : Text) : Bool :=
  occursIn needle s

end CivicSite.Text
