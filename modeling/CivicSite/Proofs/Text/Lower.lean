import CivicSite.Text.Case

/-!
# Small letters in context

Lowering maps the code points of a text one by one, but for the capital sigma, whose small form
depends on the nearest letters around it. So a text that stands in another one need not be lowered
there as it is by itself. It is just where no capital sigma in it looks past its ends (`IsSettled`):
such a text is lowered alike everywhere (`IsSettled.lowerBetween_eq`), and any other comes out
different next to a letter (`exists_lower_lost`).
-/

namespace CivicSite.Text

/-! ## The nearest letter -/

/-- Whether every character is ignored for case. -/
def isIgnored (s : Text) : Bool := s.all fun c => inRanges caseIgnorableRanges c.toNat

/-- The nearest letter is in a text, unless all of it is ignored. -/
theorem meetsCased_append (s t : Text) :
    meetsCased (s ++ t) = if isIgnored s then meetsCased t else meetsCased s := by
  induction s with
  | nil => rfl
  | cons c rest ih =>
      cases hc : inRanges caseIgnorableRanges c.toNat
      · simp [meetsCased, isIgnored, hc]
      · simpa [meetsCased, isIgnored, hc] using ih

theorem meetsCased_of_isIgnored {s : Text} (h : isIgnored s = true) : meetsCased s = false := by
  have happend := meetsCased_append s []
  rwa [List.append_nil, if_pos h] at happend

theorem isIgnored_reverse (s : Text) : isIgnored s.reverse = isIgnored s := by
  simp [isIgnored]

/-- A letter that is met is met whatever follows. -/
theorem meetsCased_append_of {s : Text} (h : meetsCased s = true) (t : Text) :
    meetsCased (s ++ t) = true := by
  rw [meetsCased_append]
  split
  · next hignored => rw [meetsCased_of_isIgnored hignored] at h; contradiction
  · exact h

/-! ## Lowering a part of a text -/

/-- The small form of a capital sigma between two texts, the first of which is given in reverse. -/
def lowerSigma (before after : Text) : CodePoint :=
  if meetsCased before && !meetsCased after then 'ς' else 'σ'

/-- The small form of a code point between two texts. -/
def lowerAt (before : Text) (c : CodePoint) (after : Text) : Text :=
  if c == 'Σ' then [lowerSigma before after] else lowerChar c

/-- Lowers a text that stands between two others, the first of which is given in reverse. -/
def lowerBetween (before : Text) : Text → Text → Text
  | [], _ => []
  | c :: rest, after => lowerAt before c (rest ++ after) ++ lowerBetween (c :: before) rest after

theorem lowerAfter_eq (before s : Text) : lowerAfter before s = lowerBetween before s [] := by
  induction s generalizing before with
  | nil => rfl
  | cons c rest ih => rw [lowerAfter, lowerBetween, List.append_nil, ih]; rfl

theorem lower_eq (s : Text) : lower s = lowerBetween [] s [] := lowerAfter_eq [] s

/-- **Each part of a text is lowered between the others.** -/
theorem lowerBetween_append (before s t after : Text) :
    lowerBetween before (s ++ t) after
      = lowerBetween before s (t ++ after) ++ lowerBetween (s.reverse ++ before) t after := by
  induction s generalizing before with
  | nil => rfl
  | cons c rest ih =>
      simp only [List.cons_append, lowerBetween, ih, List.append_assoc, List.reverse_cons,
        List.nil_append]

/-! ## Texts that are lowered alike everywhere -/

/-- Whether a capital sigma between two parts of a text depends on what surrounds the text: on what
stands before it, with nothing but ignored characters on its left and no letter on its right, or on
what stands after it, with a letter on its left and nothing but ignored characters on its right. -/
def IsOpen (left right : Text) : Prop :=
  isIgnored left = true ∧ meetsCased right = false
    ∨ meetsCased left.reverse = true ∧ isIgnored right = true

/-- No capital sigma in the text depends on what surrounds the text. -/
def IsSettled (s : Text) : Prop :=
  ∀ left right : Text, s = left ++ (CodePoint.char 'Σ' :: right) → ¬IsOpen left right

theorem lowerSigma_eq {left right : Text} (h : ¬IsOpen left right) (before after : Text) :
    lowerSigma (left.reverse ++ before) (right ++ after) = lowerSigma left.reverse right := by
  obtain ⟨hleft, hright⟩ := not_or.mp h
  simp only [lowerSigma, meetsCased_append, isIgnored_reverse]
  cases hl : isIgnored left
  · cases hr : isIgnored right
    · rfl
    · have hnone : meetsCased left.reverse = false := by simpa [hr] using hright
      simp [hnone]
  · have hmeets : meetsCased right = true := by simpa [hl] using hleft
    have hr : isIgnored right = false := by
      cases hr : isIgnored right
      · rfl
      · rw [meetsCased_of_isIgnored hr] at hmeets
        contradiction
    simp [hmeets, hr]

/-- **A settled text is lowered alike everywhere.** -/
theorem IsSettled.lowerBetween_eq {s : Text} (h : IsSettled s) (before after : Text) :
    lowerBetween before s after = lower s := by
  -- the induction is on what is left of the text, so a text is kept that stands before it
  have hpart : ∀ left rest, s = left ++ rest →
      lowerBetween (left.reverse ++ before) rest after = lowerBetween left.reverse rest [] := by
    intro left rest
    induction rest generalizing left with
    | nil => exact fun _ => rfl
    | cons c rest ih =>
        intro hs
        have hrest := ih (left ++ [c]) (by rw [hs, List.append_assoc]; rfl)
        simp only [List.reverse_append, List.reverse_singleton, List.cons_append,
          List.nil_append] at hrest
        rw [lowerBetween, lowerBetween, hrest, List.append_nil]
        refine congrArg (· ++ _) ?_
        unfold lowerAt
        split
        · next hc =>
            obtain rfl := eq_of_beq hc
            rw [lowerSigma_eq (h left rest hs)]
        · rfl
  rw [lower_eq]
  exact hpart [] s rfl

/-! ## Texts that are not -/

/-- The sigmas of a text that do not end a word. -/
def medials (s : Text) : Nat := s.count (CodePoint.char 'σ')

/-- The sigmas of a text that end a word. -/
def finals (s : Text) : Nat := s.count (CodePoint.char 'ς')

@[simp] theorem medials_append (s t : Text) : medials (s ++ t) = medials s + medials t :=
  List.count_append

@[simp] theorem finals_append (s t : Text) : finals (s ++ t) = finals s + finals t :=
  List.count_append

/-- A sigma that ends a word still does with more text before it and less text after it. -/
theorem lowerSigma_cases (before after more further : Text) :
    lowerSigma (before ++ more) after = lowerSigma before (after ++ further)
      ∨ lowerSigma (before ++ more) after = 'ς' ∧ lowerSigma before (after ++ further) = 'σ' := by
  cases hfinal : meetsCased before && !meetsCased (after ++ further)
  · have hmedial : lowerSigma before (after ++ further) = 'σ' := by simp [lowerSigma, hfinal]
    rw [hmedial]
    unfold lowerSigma
    split
    · exact .inr ⟨rfl, rfl⟩
    · exact .inl rfl
  · obtain ⟨hbefore, hafter⟩ :
        meetsCased before = true ∧ meetsCased (after ++ further) = false := by
      simpa using hfinal
    have hnone : meetsCased after = false := by
      cases h : meetsCased after
      · rfl
      · rw [meetsCased_append_of h] at hafter
        contradiction
    left
    simp [lowerSigma, hbefore, hafter, hnone, meetsCased_append_of hbefore]

/-- **More text before a text and less text after it make more of its sigmas final.** -/
theorem counts_lowerBetween_le (before s after more further : Text) :
    medials (lowerBetween (before ++ more) s after)
        ≤ medials (lowerBetween before s (after ++ further))
      ∧ finals (lowerBetween before s (after ++ further))
        ≤ finals (lowerBetween (before ++ more) s after) := by
  induction s generalizing before with
  | nil => exact ⟨Nat.le_refl _, Nat.le_refl _⟩
  | cons c rest ih =>
      obtain ⟨hmedial, hfinal⟩ := ih (c :: before)
      simp only [lowerBetween, medials_append, finals_append]
      suffices hat : medials (lowerAt (before ++ more) c (rest ++ after))
            ≤ medials (lowerAt before c (rest ++ (after ++ further)))
          ∧ finals (lowerAt before c (rest ++ (after ++ further)))
            ≤ finals (lowerAt (before ++ more) c (rest ++ after)) from
        ⟨Nat.add_le_add hat.1 hmedial, Nat.add_le_add hat.2 hfinal⟩
      unfold lowerAt
      split
      · rw [← List.append_assoc]
        rcases lowerSigma_cases before (rest ++ after) more further with h | ⟨h, h'⟩
        · rw [h]
          exact ⟨Nat.le_refl _, Nat.le_refl _⟩
        · rw [h, h']
          decide
      · exact ⟨Nat.le_refl _, Nat.le_refl _⟩

/-- The counts differ if one sigma does. -/
theorem counts_lowerBetween_lt {left right more further : Text}
    (hfinal : lowerSigma (left.reverse ++ more) right = 'ς')
    (hmedial : lowerSigma left.reverse (right ++ further) = 'σ') :
    medials (lowerBetween more (left ++ (CodePoint.char 'Σ' :: right)) [])
        < medials (lowerBetween [] (left ++ (CodePoint.char 'Σ' :: right)) further)
      ∧ finals (lowerBetween [] (left ++ (CodePoint.char 'Σ' :: right)) further)
        < finals (lowerBetween more (left ++ (CodePoint.char 'Σ' :: right)) []) := by
  have hone : medials [CodePoint.char 'ς'] = 0 ∧ medials [CodePoint.char 'σ'] = 1
      ∧ finals [CodePoint.char 'ς'] = 1 ∧ finals [CodePoint.char 'σ'] = 0 := by decide
  have hleft := counts_lowerBetween_le [] left (CodePoint.char 'Σ' :: right) more further
  have hright := counts_lowerBetween_le (CodePoint.char 'Σ' :: left.reverse) right [] more further
  simp only [lowerBetween_append, lowerBetween, lowerAt, beq_self_eq_true, if_true, List.append_nil,
    hfinal, hmedial, medials_append, finals_append, hone]
  simp only [List.nil_append, List.cons_append] at hleft hright ⊢
  omega

theorem lowerBetween_letter (before after : Text) :
    lowerBetween before [CodePoint.char 'A'] after = [CodePoint.char 'a'] := by
  have hsmall : lowerChar (CodePoint.char 'A') = [CodePoint.char 'a'] := by decide
  simp [lowerBetween, lowerAt, hsmall]

theorem lower_letter_append (s : Text) :
    lower (CodePoint.char 'A' :: s)
      = CodePoint.char 'a' :: lowerBetween [CodePoint.char 'A'] s [] := by
  have happend := lowerBetween_append [] [CodePoint.char 'A'] s []
  rw [lowerBetween_letter] at happend
  rw [lower_eq]
  exact happend

theorem lower_append_letter (s : Text) :
    lower (s ++ [CodePoint.char 'A'])
      = lowerBetween [] s [CodePoint.char 'A'] ++ [CodePoint.char 'a'] := by
  rw [lower_eq, lowerBetween_append, lowerBetween_letter, List.append_nil]

/-- **A text that is not settled is lowered differently next to a letter**, so that its small form
does not occur there. -/
theorem exists_lower_lost {s : Text} (h : ¬IsSettled s) :
    ∃ before after : Text, ¬lower s <:+: lower (before ++ s ++ after) := by
  have hletter : meetsCased [CodePoint.char 'A'] = true := by decide +kernel
  simp only [IsSettled, Classical.not_forall, Classical.not_not] at h
  obtain ⟨left, right, hs, ⟨hleft, hright⟩ | ⟨hleft, hright⟩⟩ := h
  · -- a letter before the text makes the sigma final
    refine ⟨[CodePoint.char 'A'], [], fun hinfix => ?_⟩
    have hfinal : lowerSigma (left.reverse ++ [CodePoint.char 'A']) right = 'ς' := by
      simp [lowerSigma, meetsCased_append, isIgnored_reverse, hleft, hright, hletter]
    have hmedial : lowerSigma left.reverse (right ++ []) = 'σ' := by
      have hnone : meetsCased left.reverse = false :=
        meetsCased_of_isIgnored ((isIgnored_reverse left).trans hleft)
      simp [lowerSigma, hnone]
    obtain ⟨hlt, -⟩ := counts_lowerBetween_lt hfinal hmedial
    rw [List.append_nil, List.singleton_append, lower_letter_append, lower_eq] at hinfix
    have hle : medials (lowerBetween [] s [])
        ≤ medials (CodePoint.char 'a' :: lowerBetween [CodePoint.char 'A'] s []) :=
      hinfix.sublist.count_le _
    have hcons : medials (CodePoint.char 'a' :: lowerBetween [CodePoint.char 'A'] s [])
        = medials (lowerBetween [CodePoint.char 'A'] s []) := List.count_cons_of_ne (by decide)
    rw [← hs] at hlt
    omega
  · -- a letter after the text makes the sigma no longer final
    refine ⟨[], [CodePoint.char 'A'], fun hinfix => ?_⟩
    have hfinal : lowerSigma (left.reverse ++ []) right = 'ς' := by
      simp [lowerSigma, hleft, meetsCased_of_isIgnored hright]
    have hmedial : lowerSigma left.reverse (right ++ [CodePoint.char 'A']) = 'σ' := by
      simp [lowerSigma, meetsCased_append, hright, hletter]
    obtain ⟨-, hlt⟩ := counts_lowerBetween_lt hfinal hmedial
    rw [List.nil_append, lower_append_letter, lower_eq] at hinfix
    have hle : finals (lowerBetween [] s [])
        ≤ finals (lowerBetween [] s [CodePoint.char 'A'] ++ [CodePoint.char 'a']) :=
      hinfix.sublist.count_le _
    have hsilent : finals [CodePoint.char 'a'] = 0 := by decide
    rw [finals_append, hsilent] at hle
    rw [← hs] at hlt
    omega

end CivicSite.Text
