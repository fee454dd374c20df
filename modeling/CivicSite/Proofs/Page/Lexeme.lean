import CivicSite.Proofs.Page.Tag
import Mathlib.Data.List.Basic

/-!
# Taking a page to its parts

A text that is taken for a page falls into tags, comments and the code points between them. A tag
ends where it is complete, so an angle bracket in a value does not end it, and a comment ends where
it says so; what stands in either does not count as anything else. Contents of scripts and styles
are taken like any other.

Nothing is lost (`written_lexemesFrom`), and a text is taken to the same parts whatever is written
before it, as long as that ends between them (`lexemes_append`). Of two texts that are written in a
row the first one keeps its own parts, too, if a part ends where the first text does
(`eq_lexemes_of_append`). Markup is taken to its tokens (`Markup.lexemes_render`).
-/

namespace CivicSite

/-! ## Parts -/

/-- A tag as it is read. -/
structure Tag where
  /-- Whether the tag ends an element. -/
  isEnd : Bool
  name : Text
  attributes : List Attribute
deriving DecidableEq, Repr

/-- A part of a page. -/
inductive Lexeme where
  /-- A code point of a text. -/
  | point (c : CodePoint)
  /-- A comment, or the type of the document. -/
  | comment (s : Text)
  /-- A tag, with how it is written. -/
  | tag (t : Tag) (s : Text)
deriving DecidableEq, Repr

/-- How a part of a page is written. -/
def Lexeme.written : Lexeme → Text
  | point c => [c]
  | comment s | tag _ s => s

namespace Text

/-- Whether what has been read of a comment, after its angle bracket, is all of it. One that does
not begin with dashes ends with any angle bracket. -/
def endsComment (read : Text) : Bool :=
  if ("!--" : Text).isPrefixOf read then
    ("-->" : Text).isSuffixOf read || ("--!>" : Text).isSuffixOf (read.drop 3)
  else read.contains (.char '>')

/-- The tag or the comment that is complete with what has been read after an angle bracket. -/
def lexeme? : Text → Option Lexeme
  | [] => none
  | c :: rest =>
    let written : Text := .char '<' :: c :: rest
    if c.isLetter then (startTag? written).map fun t => .tag ⟨false, t.1, t.2⟩ written
    else if c == .char '/' && rest.head?.any CodePoint.isLetter then
      (startTag? (.char '<' :: rest)).map fun t => .tag ⟨true, t.1, t.2⟩ written
    else if endsComment (c :: rest) then some (.comment written)
    else none

end Text

/-- Whether an angle bracket before a code point opens a tag or a comment. -/
def CodePoint.beginsMarkup (c : CodePoint) : Bool :=
  c.isLetter || c == .char '/' || c == .char '!' || c == .char '?'

/-- Where a reader is among the parts of a page. -/
inductive Mode where
  | between
  /-- After an angle bracket, which may yet be a text. -/
  | opened
  /-- In a tag or a comment, with what has been read of it after its angle bracket. -/
  | within (read : Text)
deriving DecidableEq, Repr

namespace Mode

/-- What has been read and is not a part yet. -/
def written : Mode → Text
  | between => []
  | opened => [.char '<']
  | within read => .char '<' :: read

/-- Whether a tag or a comment is incomplete. -/
def isWithin : Mode → Bool
  | within _ => true
  | _ => false

/-- The parts that are there once a code point has been read, and where the reader is then. -/
def step : Mode → CodePoint → List Lexeme × Mode
  | between, c => if c == .char '<' then ([], opened) else ([.point c], between)
  | opened, c =>
    if c.beginsMarkup then ([], within [c])
    else if c == .char '<' then ([.point (.char '<')], opened)
    else ([.point (.char '<'), .point c], between)
  | within read, c =>
    match Text.lexeme? (read ++ [c]) with
    | some l => ([l], between)
    | none => ([], within (read ++ [c]))

end Mode

namespace Text

/-- Where a reader is after a text. -/
def modeAfter (m : Mode) (s : Text) : Mode := s.foldl (fun m c => (m.step c).2) m

/-- The parts of a text, for a reader that is somewhere before it. -/
def lexemesFrom (m : Mode) : Text → List Lexeme
  | [] => []
  | c :: rest => (m.step c).1 ++ lexemesFrom (m.step c).2 rest

/-- The parts of a page. -/
def lexemes (s : Text) : List Lexeme := lexemesFrom .between s

/-! ## Texts in a row -/

theorem lexemesFrom_append (m : Mode) (s t : Text) :
    lexemesFrom m (s ++ t) = lexemesFrom m s ++ lexemesFrom (modeAfter m s) t := by
  induction s generalizing m with
  | nil => rfl
  | cons c s ih => simp only [List.cons_append, lexemesFrom, ih, List.append_assoc, modeAfter,
      List.foldl_cons]

theorem lexemes_append (s t : Text) :
    lexemes (s ++ t) = lexemes s ++ lexemesFrom (modeAfter .between s) t :=
  lexemesFrom_append .between s t

/-! ## Nothing is lost -/

theorem written_of_lexeme? {read : Text} {l : Lexeme} (h : lexeme? read = some l) :
    l.written = .char '<' :: read := by
  unfold lexeme? at h
  split at h
  · cases h
  · dsimp only at h
    split at h
    · obtain ⟨t, -, rfl⟩ := Option.map_eq_some_iff.mp h
      rfl
    · split at h
      · obtain ⟨t, -, rfl⟩ := Option.map_eq_some_iff.mp h
        rfl
      · split at h <;> cases h
        rfl

theorem written_step (m : Mode) (c : CodePoint) :
    (m.step c).1.flatMap Lexeme.written ++ (m.step c).2.written = m.written ++ [c] := by
  cases m with
  | between =>
      simp only [Mode.step]
      split
      · rename_i hc
        rw [beq_iff_eq.mp hc]
        rfl
      · rfl
  | opened =>
      simp only [Mode.step]
      split
      · rfl
      · split
        · rename_i hc
          rw [beq_iff_eq.mp hc]
          rfl
        · rfl
  | within read =>
      cases h : lexeme? (read ++ [c]) with
      | none => simp [Mode.step, h, Mode.written]
      | some l => simp [Mode.step, h, Mode.written, written_of_lexeme? h]

/-- **The parts of a text are written as the text is**, but for what is incomplete at its end. -/
theorem written_lexemesFrom (m : Mode) (s : Text) :
    (lexemesFrom m s).flatMap Lexeme.written ++ (modeAfter m s).written = m.written ++ s := by
  induction s generalizing m with
  | nil => simp [lexemesFrom, modeAfter]
  | cons c s ih =>
      have hlater := ih (m.step c).2
      have hfirst := written_step m c
      calc (lexemesFrom m (c :: s)).flatMap Lexeme.written ++ (modeAfter m (c :: s)).written
          = (m.step c).1.flatMap Lexeme.written
              ++ ((lexemesFrom (m.step c).2 s).flatMap Lexeme.written
                ++ (modeAfter (m.step c).2 s).written) := by
            simp only [lexemesFrom, modeAfter, List.foldl_cons, List.flatMap_append,
              List.append_assoc]
        _ = (m.step c).1.flatMap Lexeme.written ++ (m.step c).2.written ++ s := by
            rw [hlater, List.append_assoc]
        _ = m.written ++ c :: s := by
            rw [hfirst, List.append_assoc, List.singleton_append]

/-! ## Where a part ends -/

/-- What is within a tag or a comment is followed by more of it. -/
theorem written_of_within {read t : Text} {l : Lexeme} {after : List Lexeme}
    (h : lexemesFrom (.within read) t = l :: after) :
    ∃ c more, l.written = .char '<' :: (read ++ c :: more) := by
  induction t generalizing read with
  | nil => cases h
  | cons c t ih =>
      cases hread : lexeme? (read ++ [c]) with
      | some l' =>
          simp only [lexemesFrom, Mode.step, hread, List.singleton_append, List.cons.injEq] at h
          obtain ⟨rfl, -⟩ := h
          exact ⟨c, [], written_of_lexeme? hread⟩
      | none =>
          simp only [lexemesFrom, Mode.step, hread, List.nil_append] at h
          obtain ⟨d, more, hl⟩ := ih h
          exact ⟨c, d :: more, by rw [hl, List.append_assoc, List.singleton_append]⟩

/-- No part is written as nothing. -/
theorem ne_nil_of_mem_step {m : Mode} {c : CodePoint} {l : Lexeme} (h : l ∈ (m.step c).1) :
    l.written ≠ [] := by
  cases m with
  | between =>
      simp only [Mode.step] at h
      split at h
      · cases h
      · obtain rfl := List.mem_singleton.mp h
        exact List.cons_ne_nil _ _
  | opened =>
      simp only [Mode.step] at h
      split at h
      · cases h
      · split at h
        · obtain rfl := List.mem_singleton.mp h
          exact List.cons_ne_nil _ _
        · simp only [List.mem_cons, List.not_mem_nil, or_false] at h
          rcases h with rfl | rfl <;> exact List.cons_ne_nil _ _
  | within read =>
      cases hread : lexeme? (read ++ [c]) with
      | none => simp [Mode.step, hread] at h
      | some l' =>
          simp only [Mode.step, hread, List.mem_singleton] at h
          rw [h, written_of_lexeme? hread]
          exact List.cons_ne_nil _ _

theorem ne_nil_of_mem_lexemesFrom {m : Mode} {s : Text} {l : Lexeme} (h : l ∈ lexemesFrom m s) :
    l.written ≠ [] := by
  induction s generalizing m with
  | nil => cases h
  | cons c s ih =>
      rcases List.mem_append.mp h with h | h
      · exact ne_nil_of_mem_step h
      · exact ih h

theorem eq_nil_of_written {ls : List Lexeme} (h : ∀ l ∈ ls, l.written ≠ [])
    (hw : ls.flatMap Lexeme.written = []) : ls = [] := by
  cases ls with
  | nil => rfl
  | cons l ls =>
      rw [List.flatMap_cons] at hw
      exact absurd (List.append_eq_nil_iff.mp hw).1 (h l List.mem_cons_self)

end Text

/-- The bracket that turns out to be a text. -/
def Mode.rest : Mode → List Lexeme
  | opened => [.point (.char '<')]
  | _ => []

namespace Text

/-- A bracket that was read last is a text by itself, or more than it is read first. -/
theorem first_of_opened {t : Text} {l : Lexeme} {after : List Lexeme}
    (h : lexemesFrom .opened t = l :: after) :
    l = .point (.char '<') ∨ ∃ c more, l.written = .char '<' :: c :: more := by
  cases t with
  | nil => cases h
  | cons c t =>
      cases hc : c.beginsMarkup with
      | true =>
          simp only [lexemesFrom, Mode.step, hc, if_true, List.nil_append] at h
          obtain ⟨d, more, hl⟩ := written_of_within h
          exact .inr ⟨c, d :: more, hl⟩
      | false =>
          simp only [lexemesFrom, Mode.step, hc, Bool.false_eq_true, if_false] at h
          refine .inl ?_
          split at h <;> exact (List.cons.inj h).1.symm

/-- Where a part begins just after what was read, no tag and no comment was incomplete. -/
theorem rest_of_written {m : Mode} {t : Text} {ls after : List Lexeme}
    (h : lexemesFrom m t = ls ++ after) (hw : ls.flatMap Lexeme.written = m.written) :
    m.isWithin = false ∧ ls = m.rest := by
  have hne (l : Lexeme) (hl : l ∈ ls) : l.written ≠ [] :=
    ne_nil_of_mem_lexemesFrom (h ▸ List.mem_append_left after hl)
  cases m with
  | between => exact ⟨rfl, eq_nil_of_written hne hw⟩
  | within read =>
      cases ls with
      | nil => cases hw
      | cons l ls =>
          obtain ⟨c, more, hl⟩ := written_of_within h
          have hlength := congrArg List.length hw
          simp only [List.flatMap_cons, hl, Mode.written, List.length_append, List.length_cons]
            at hlength
          omega
  | opened =>
      refine ⟨rfl, ?_⟩
      cases ls with
      | nil => cases hw
      | cons l ls =>
          rcases first_of_opened h with rfl | ⟨c, more, hl⟩
          · have hnil : ls.flatMap Lexeme.written = [] := (List.cons.inj hw).2
            rw [eq_nil_of_written (fun l hl => hne l (List.mem_cons_of_mem _ hl)) hnil]
            rfl
          · rw [List.flatMap_cons, hl] at hw
            exact absurd (List.cons.inj hw).2 (List.cons_ne_nil _ _)

/-- **If a part ends where the first of two texts does**, the parts up to there are those of that
text, and it ends in no tag and no comment. -/
theorem eq_lexemes_of_append {s t : Text} {before after : List Lexeme}
    (h : lexemes (s ++ t) = before ++ after) (hw : before.flatMap Lexeme.written = s) :
    (modeAfter .between s).isWithin = false
      ∧ before = lexemes s ++ (modeAfter .between s).rest := by
  have hlost : (lexemes s).flatMap Lexeme.written ++ (modeAfter .between s).written = s :=
    written_lexemesFrom .between s
  rw [lexemes_append] at h
  rcases List.append_eq_append_iff.mp h with ⟨between, hbefore, hlater⟩ | ⟨between, hfirst, -⟩
  · -- the parts of the first text come first, and what comes then begins before its end
    have hbetween : between.flatMap Lexeme.written = (modeAfter .between s).written := by
      rw [hbefore, List.flatMap_append] at hw
      exact List.append_cancel_left (hw.trans hlost.symm)
    obtain ⟨hwithin, hrest⟩ := rest_of_written hlater hbetween
    exact ⟨hwithin, by rw [hbefore, hrest]⟩
  · -- there is no part of the first text beyond its end
    have hnothing : between.flatMap Lexeme.written ++ (modeAfter .between s).written = [] := by
      rw [hfirst, List.flatMap_append, hw, List.append_assoc] at hlost
      exact List.append_cancel_left (hlost.trans (List.append_nil s).symm)
    obtain ⟨hwritten, hmode⟩ := List.append_eq_nil_iff.mp hnothing
    have hbetween : between = [] := by
      refine eq_nil_of_written (fun l hl => ?_) hwritten
      have hmem : l ∈ lexemes s := by
        rw [hfirst]
        exact List.mem_append_right before hl
      exact ne_nil_of_mem_lexemesFrom hmem
    have hend : modeAfter .between s = .between := by
      cases hm : modeAfter .between s with
      | between => rfl
      | opened | within => rw [hm] at hmode; cases hmode
    rw [hend, hfirst, hbetween]
    exact ⟨rfl, by rw [List.append_nil]; exact (List.append_nil _).symm⟩

/-! ## What is written -/

/-- Where no angle bracket stands there is just text. -/
theorem lexemes_of_not_mem {s : Text} (h : .char '<' ∉ s) (rest : Text) :
    lexemes (s ++ rest) = s.map .point ++ lexemes rest := by
  induction s with
  | nil => rfl
  | cons c s ih =>
      obtain ⟨hc, hs⟩ := List.ne_and_not_mem_of_not_mem_cons h
      have hplain : (c == .char '<') = false := beq_false_of_ne hc.symm
      have hrest := ih hs
      simp only [lexemes] at hrest
      simp only [List.cons_append, lexemes, lexemesFrom, Mode.step, hplain, Bool.false_eq_true,
        if_false, hrest, List.map_cons, List.nil_append]

/-- No start tag is complete without an angle bracket. -/
theorem attributes?_of_not_mem {s : Text} (h : .char '>' ∉ s) (spot : Spot) :
    attributes? spot s = none := by
  induction s generalizing spot with
  | nil => cases spot <;> rfl
  | cons c s ih =>
      obtain ⟨hc, hs⟩ := List.ne_and_not_mem_of_not_mem_cons h
      have hclose : (c == .char '>') = false := beq_false_of_ne hc.symm
      cases spot <;> simp [attributes?, hclose, ih hs]

theorem startTag?_of_not_mem {s : Text} (h : .char '>' ∉ s) : startTag? s = none := by
  unfold startTag?
  split
  · split
    · dsimp only
      rw [attributes?_of_not_mem, Option.map_none]
      exact fun hmem => h (List.mem_cons_of_mem _ ((List.dropWhile_sublist _).subset hmem))
    · rfl
  · rfl

theorem endsComment_of_not_mem {read : Text} (h : .char '>' ∉ read) : endsComment read = false := by
  have hdashes : ("-->" : Text).isSuffixOf read = false := by
    rw [Bool.eq_false_iff]
    exact fun hs => h ((List.isSuffixOf_iff_suffix.mp hs).subset (by decide))
  have hbang : ("--!>" : Text).isSuffixOf (read.drop 3) = false := by
    rw [Bool.eq_false_iff]
    intro hs
    have hmem := (List.isSuffixOf_iff_suffix.mp hs).subset (a := .char '>') (by decide)
    exact h ((List.drop_sublist 3 read).subset hmem)
  unfold endsComment
  split
  · rw [hdashes, hbang]; rfl
  · simpa using h

/-- **Nothing is complete before the first angle bracket that could end it.** -/
theorem lexeme?_of_not_mem {read : Text} (h : .char '>' ∉ read) : lexeme? read = none := by
  cases read with
  | nil => rfl
  | cons c rest =>
      obtain ⟨-, hrest⟩ := List.ne_and_not_mem_of_not_mem_cons h
      have hwritten : .char '>' ∉ CodePoint.char '<' :: c :: rest :=
        List.not_mem_cons_of_ne_of_not_mem (by decide) h
      have hend : .char '>' ∉ CodePoint.char '<' :: rest :=
        List.not_mem_cons_of_ne_of_not_mem (by decide) hrest
      simp [lexeme?, startTag?_of_not_mem hwritten, startTag?_of_not_mem hend,
        endsComment_of_not_mem h]

theorem lexemesFrom_within {inner read : Text} (h : .char '>' ∉ read ++ inner) {l : Lexeme}
    (hl : lexeme? (read ++ inner ++ [.char '>']) = some l) (rest : Text) :
    lexemesFrom (.within read) (inner ++ .char '>' :: rest) = l :: lexemes rest := by
  induction inner generalizing read with
  | nil =>
      rw [List.append_nil] at hl
      simp only [List.nil_append, lexemesFrom, Mode.step, hl, List.singleton_append]
      rfl
  | cons c inner ih =>
      have hsplit : read ++ c :: inner = read ++ [c] ++ inner := by simp
      rw [hsplit] at h hl
      have hnone : lexeme? (read ++ [c]) = none :=
        lexeme?_of_not_mem fun hmem => h (List.mem_append_left inner hmem)
      simp only [List.cons_append, lexemesFrom, Mode.step, hnone, List.nil_append]
      exact ih h hl

/-- A tag or a comment is one part, if it can end only where it does. -/
theorem lexemes_cons {c : CodePoint} {inner : Text} (hc : c.beginsMarkup = true)
    (h : .char '>' ∉ c :: inner) {l : Lexeme} (hl : lexeme? (c :: inner ++ [.char '>']) = some l)
    (rest : Text) :
    lexemes (.char '<' :: c :: inner ++ .char '>' :: rest) = l :: lexemes rest := by
  have hopen : lexemes (.char '<' :: c :: inner ++ .char '>' :: rest)
      = lexemesFrom (.within [c]) (inner ++ .char '>' :: rest) := by
    simp only [lexemes, List.cons_append, lexemesFrom, Mode.step, beq_self_eq_true, if_true, hc,
      List.nil_append]
  rw [hopen, lexemesFrom_within h hl]

/-- A bracket before another one is a text. -/
theorem lexemesFrom_opened (s : Text) :
    lexemesFrom .opened (.char '<' :: s) = .point (.char '<') :: lexemes (.char '<' :: s) := rfl

end Text

/-! ## Tokens -/

namespace Token

/-- Whether a token is legible and has a name if it is an end tag. -/
def isSound : Token → Bool
  | stop name => isPlain name && Text.isTagName name
  | t => t.isLegible

/-- The parts that a token is taken to. -/
def lexemes : Token → List Lexeme
  | start tag attributes => [.tag ⟨false, tag, attributes⟩ (start tag attributes).render]
  | empty tag attributes => [.tag ⟨false, tag, attributes⟩ (empty tag attributes).render]
  | stop name => [.tag ⟨true, name, []⟩ (stop name).render]
  | verbatim s => [.comment s]
  | t => t.render.map .point

theorem not_mem_of_isTagName {name : Text} (h : Text.isTagName name = true) : .char '>' ∉ name := by
  intro hmem
  have hall := (Bool.and_eq_true_iff.mp h).2
  have hclose := List.all_eq_true.mp hall _ hmem
  exact absurd hclose (by decide)

theorem not_mem_close_renderAttribute {a : Attribute} (h : Text.isAttributeName a.1 = true) :
    .char '>' ∉ renderAttribute a := by
  obtain ⟨name, value?⟩ := a
  have hname : .char '>' ∉ name := by
    intro hmem
    have hall := (Bool.and_eq_true_iff.mp h).2
    have hclose := List.all_eq_true.mp hall _ hmem
    exact absurd hclose (by decide)
  cases value? with
  | none =>
      rw [renderAttribute, List.mem_append]
      exact not_or.mpr ⟨by decide, hname⟩
  | some value =>
      simp only [renderAttribute, List.mem_append, not_or]
      exact ⟨⟨⟨⟨by decide, hname⟩, by decide⟩, not_mem_escapeText (.inr (.inl rfl)) value⟩,
        by decide⟩

/-- A start tag is one part, however it ends. -/
theorem lexemes_startTag {tag : Text} {attributes : List Attribute}
    (htag : Text.isTagName tag = true)
    (hattributes : (attributes.all fun a => Text.isAttributeName a.1) = true) {slash : Text}
    (hslash : slash = [] ∨ slash = " /") (rest : Text) :
    let written : Text := .char '<' :: (tag ++ attributes.flatMap renderAttribute ++ slash ++ ">")
    Text.lexemes (written ++ rest)
      = .tag ⟨false, tag, attributes⟩ written :: Text.lexemes rest := by
  intro written
  have hclose : Text.IsClose (slash ++ (">" : Text)) := by
    rcases hslash with rfl | rfl
    · exact .inl rfl
    · exact .inr rfl
  have hopen : .char '>' ∉ tag ++ attributes.flatMap renderAttribute ++ slash := by
    refine List.not_mem_append (List.not_mem_append (not_mem_of_isTagName htag) fun hmem => ?_) ?_
    · obtain ⟨a, ha, hmem⟩ := List.mem_flatMap.mp hmem
      exact not_mem_close_renderAttribute (List.all_eq_true.mp hattributes a ha) hmem
    · rcases hslash with rfl | rfl <;> decide
  have hread : Text.startTag? written = some (tag, attributes) := by
    have hrender := Text.startTag?_render htag hattributes hclose []
    simpa [written] using hrender
  cases tag with
  | nil => cases htag
  | cons c tag =>
      have hletter : c.isLetter = true := (Bool.and_eq_true_iff.mp htag).1
      have hbegins : c.beginsMarkup = true := by simp [CodePoint.beginsMarkup, hletter]
      have hlexeme : Text.lexeme?
          (c :: (tag ++ attributes.flatMap renderAttribute ++ slash) ++ [.char '>'])
          = some (.tag ⟨false, c :: tag, attributes⟩ written) := by
        rw [List.cons_append, Text.lexeme?, if_pos hletter]
        exact congrArg (Option.map _) hread
      have hpart := Text.lexemes_cons hbegins hopen hlexeme rest
      simpa [written, Text.ofString, Text.ofChars] using hpart

/-- An end tag is one part. -/
theorem lexemes_endTag {name : Text} (h : Text.isTagName name = true) (rest : Text) :
    Text.lexemes ((stop name).render ++ rest)
      = .tag ⟨true, name, []⟩ (stop name).render :: Text.lexemes rest := by
  have hopen : .char '>' ∉ CodePoint.char '/' :: name :=
    List.not_mem_cons_of_ne_of_not_mem (by decide) (not_mem_of_isTagName h)
  have hread : Text.startTag? (.char '<' :: (name ++ [.char '>'])) = some (name, []) :=
    @Text.startTag?_render name h [] rfl ">" (.inl rfl) []
  have hletter : (name ++ [CodePoint.char '>']).head?.any CodePoint.isLetter = true := by
    cases name with
    | nil => cases h
    | cons c name => exact (Bool.and_eq_true_iff.mp h).1
  have hlexeme : Text.lexeme? (.char '/' :: name ++ [.char '>'])
      = some (.tag ⟨true, name, []⟩ (stop name).render) := by
    have hslash : CodePoint.isLetter (.char '/') = false := by decide
    rw [List.cons_append, Text.lexeme?]
    simp only [hslash, Bool.false_eq_true, if_false, beq_self_eq_true, hletter, Bool.and_self,
      if_true, hread, Option.map_some]
    rfl
  have hpart := Text.lexemes_cons (by decide) hopen hlexeme rest
  have hsame :
      (stop name).render ++ rest = .char '<' :: .char '/' :: name ++ .char '>' :: rest := by
    simp [render, Text.ofString, Text.ofChars]
  rw [hsame, hpart]

/-- **A token is taken to its parts**, whatever is written after it. -/
theorem lexemes_render {t : Token} (h : t.isSound = true) (rest : Text) :
    Text.lexemes (t.render ++ rest) = t.lexemes ++ Text.lexemes rest := by
  cases t with
  | stop name => exact lexemes_endTag (Bool.and_eq_true_iff.mp h).2 rest
  | text s => exact Text.lexemes_of_not_mem (not_mem_escapeText (.inl rfl) s) rest
  | layout s =>
      exact Text.lexemes_of_not_mem (not_mem_of_isPlain (Bool.and_eq_true_iff.mp h).1) rest
  | reference name =>
      refine Text.lexemes_of_not_mem ?_ rest
      simp only [render, List.mem_append, not_or]
      exact ⟨⟨by decide, not_mem_of_isPlain (Bool.and_eq_true_iff.mp h).1⟩, by decide⟩
  | verbatim s =>
      obtain rfl : s = "<!DOCTYPE html>" := beq_iff_eq.mp (Bool.and_eq_true_iff.mp h).1
      exact @Text.lexemes_cons (.char '!') "DOCTYPE html" rfl (by decide) (.comment _) rfl rest
  | start tag attributes =>
      have hnames := (Bool.and_eq_true_iff.mp h).2
      rw [opening?, Option.all_some, Bool.and_eq_true] at hnames
      have hpart := lexemes_startTag hnames.1 hnames.2 (.inl rfl) rest
      simpa [render, lexemes, Text.ofString, Text.ofChars] using hpart
  | empty tag attributes =>
      have hnames := (Bool.and_eq_true_iff.mp h).2
      rw [opening?, Option.all_some, Bool.and_eq_true] at hnames
      have hpart := lexemes_startTag hnames.1 hnames.2 (.inr rfl) rest
      simpa [render, lexemes, Text.ofString, Text.ofChars] using hpart

end Token

namespace Markup

variable {α : Type} {m n : Markup}

/-- All tokens are legible, and end tags have names. -/
def Sound (m : Markup) : Prop := ∀ t ∈ m, t.isSound = true

/-- **Markup is taken to the parts of its tokens**, whatever is written after it. -/
theorem lexemes_render (hm : m.Sound) (rest : Text) :
    Text.lexemes (render m ++ rest) = m.flatMap Token.lexemes ++ Text.lexemes rest := by
  induction m with
  | nil => rfl
  | cons t m ih =>
      have hlater := ih fun u hu => hm u (List.mem_cons_of_mem _ hu)
      have hwritten : render (t :: m) ++ rest = t.render ++ (render m ++ rest) := by
        simp [render]
      rw [hwritten, Token.lexemes_render (hm t List.mem_cons_self), hlater, List.flatMap_cons,
        List.append_assoc]

end Markup

end CivicSite
