import CivicSite.Text.Basic

/-!
# Blank characters

The white space of the Unicode character database together with the four ASCII separator
controls, and the three ways to cut it off. A text that is cut at both ends is `trim`med.
-/

namespace CivicSite.Text

/-- The blank characters: tab to carriage return, the separator controls, and every space. -/
def isBlank (c : CodePoint) : Bool :=
  let n := c.toNat
  (9 ≤ n && n ≤ 13) || (28 ≤ n && n ≤ 32) || n == 0x85 || n == 0xA0 || n == 0x1680 ||
    (0x2000 ≤ n && n ≤ 0x200A) || n == 0x2028 || n == 0x2029 || n == 0x202F || n == 0x205F ||
    n == 0x3000

/-- The text without what stands at its end and is to be dropped. -/
def dropEndWhile (drop : CodePoint → Bool) (s : Text) : Text :=
  s.foldr (fun c r => if drop c && r.isEmpty then [] else c :: r) []

@[simp] theorem dropEndWhile_nil (drop : CodePoint → Bool) : dropEndWhile drop [] = [] := rfl

theorem dropEndWhile_cons (drop : CodePoint → Bool) (c : CodePoint) (s : Text) :
    dropEndWhile drop (c :: s)
      = if drop c && (dropEndWhile drop s).isEmpty then [] else c :: dropEndWhile drop s := rfl

/-- What is dropped is all that stands at the end and is to be dropped. -/
theorem exists_dropEndWhile (drop : CodePoint → Bool) (s : Text) :
    ∃ dropped, s = dropEndWhile drop s ++ dropped ∧ (∀ c ∈ dropped, drop c = true) ∧
      ∀ c ∈ (dropEndWhile drop s).getLast?, drop c = false := by
  induction s with
  | nil => exact ⟨[], rfl, by simp, by simp⟩
  | cons c s ih =>
    obtain ⟨dropped, hs, hall, hlast⟩ := ih
    rw [dropEndWhile_cons]
    cases hrest : dropEndWhile drop s with
    | nil =>
      rw [hrest, List.nil_append] at hs
      cases hc : drop c with
      | true => exact ⟨c :: s, rfl, List.forall_mem_cons.mpr ⟨hc, hs ▸ hall⟩, by simp⟩
      | false => exact ⟨dropped, congrArg (c :: ·) hs, hall, by simpa using hc⟩
    | cons d rest =>
      rw [hrest] at hs hlast
      refine ⟨dropped, ?_, hall, ?_⟩
      · simpa using hs
      · simpa using hlast

/-- The text without the blanks at its end. -/
def trimEnd (s : Text) : Text := dropEndWhile isBlank s

/-- The text without the blanks at either end. -/
def trim (s : Text) : Text := dropEndWhile isBlank (s.dropWhile isBlank)

/-- The text without the slashes at its end. -/
def dropEndSlashes (s : Text) : Text := dropEndWhile (· == '/') s

end CivicSite.Text
