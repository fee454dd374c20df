import CivicSite.Markup

/-!
# Reading pages

What a reader makes of a page depends on the places where a tag opens. This file says where those
are in markup that is written out. Texts and attribute values are written without angle brackets
and quotes, so a tag opens only where the markup has one, provided that its names and its verbatim
parts hold no surprises (`Markup.Tidy`). Whatever is found by reading a text from tag to tag is then
found at the markup's tags, one by one: each of them with what comes after it (`readAll_render_eq`),
or by itself, where what comes after it does not count (`readAll_render`).

The body of a page is what comes from its last body tag on. It is the *last* one because the styles
in the head may be any text: they are taken over verbatim, and could write such a tag themselves.
-/

namespace CivicSite

/-! ## Finding places in texts -/

namespace Text

variable {α : Type}

/-- What is found at the places of a text, from left to right. -/
def readAll (find : Text → Option α) : Text → List α
  | [] => []
  | c :: rest => (find (c :: rest)).toList ++ readAll find rest

/-- How often a text stands in another one. -/
def occurrences (needle s : Text) : Nat :=
  (readAll (fun rest => if needle.isPrefixOf rest then some () else none) s).length

/-- A text from the last place on where `needle` stands in it; nothing if it stands nowhere. -/
def fromLast (needle : Text) : Text → Text
  | [] => []
  | c :: rest =>
    match fromLast needle rest with
    | [] => if needle.isPrefixOf (c :: rest) then c :: rest else []
    | later => later

/-- The body of a page. -/
def body (page : Text) : Text := fromLast "<body" page

/-- What stands last is found whatever stands before it. -/
theorem fromLast_append {needle : Text} (before : Text) {c : CodePoint} {rest : Text}
    (h : needle <+: c :: rest) (hrest : fromLast needle rest = []) :
    fromLast needle (before ++ c :: rest) = c :: rest := by
  induction before with
  | nil => rw [List.nil_append, fromLast, hrest, if_pos (List.isPrefixOf_iff_prefix.mpr h)]
  | cons b before ih => rw [List.cons_append, fromLast, ih]

theorem fromLast_eq_nil {needle s : Text} (h : occurrences needle s = 0) :
    fromLast needle s = [] := by
  induction s with
  | nil => rfl
  | cons c rest ih =>
      simp only [occurrences, readAll, List.length_append, Nat.add_eq_zero_iff] at h
      obtain ⟨hhere, hrest⟩ := h
      rw [fromLast, ih hrest]
      refine if_neg fun hbegin => ?_
      rw [if_pos hbegin] at hhere
      cases hhere

/-- Something is found at tags only: nothing is found where none may open. -/
structure AtTags (find : Text → Option α) : Prop where
  opens : ∀ {s a}, find s = some a → s.head? = some (.char '<')

/-- Something is found by the tags of a text: at tags only, and whatever comes after the tag is
closed. -/
structure ByTags (find : Text → Option α) : Prop extends AtTags find where
  closes : ∀ {s}, .char '>' ∈ s → ∀ rest, find (s ++ rest) = find s

variable {find : Text → Option α}

theorem AtTags.none (h : AtTags find) {s : Text} (hs : s.head? ≠ some (.char '<')) :
    find s = none := by
  cases hf : find s with
  | none => rfl
  | some a => exact absurd (h.opens hf) hs

/-- Nothing is found where no tag opens. -/
theorem readAll_append_of_not_mem (h : AtTags find) {s : Text} (hs : .char '<' ∉ s) (rest : Text) :
    readAll find (s ++ rest) = readAll find rest := by
  induction s with
  | nil => rfl
  | cons c s ih =>
      obtain ⟨hc, hs⟩ := List.ne_and_not_mem_of_not_mem_cons hs
      have hnone : find (c :: (s ++ rest)) = Option.none :=
        h.none fun heq => hc (Option.some.inj heq).symm
      rw [List.cons_append, readAll, hnone, ih hs]
      rfl

/-- One thing at most is found at a tag. -/
theorem readAll_append_of_tag (h : AtTags find) {tag : Text} (hs : .char '<' ∉ tag) (rest : Text) :
    readAll find (.char '<' :: tag ++ rest)
      = (find (.char '<' :: tag ++ rest)).toList ++ readAll find rest := by
  rw [List.cons_append, readAll, readAll_append_of_not_mem h hs]

/-! ## Prefixes -/

/-- What does not hold a code point is a prefix of what comes before it, or not at all. -/
theorem isPrefixOf_append_cons {needle : Text} {c : CodePoint} (hc : c ∉ needle) (s rest : Text) :
    needle.isPrefixOf (s ++ c :: rest) = needle.isPrefixOf s := by
  induction needle generalizing s with
  | nil => rfl
  | cons a needle ih =>
      obtain ⟨hne, hc⟩ := List.ne_and_not_mem_of_not_mem_cons hc
      cases s with
      | nil =>
          show (a == c && needle.isPrefixOf rest) = false
          rw [beq_false_of_ne hne.symm, Bool.false_and]
      | cons b s => rw [List.cons_append, List.isPrefixOf, List.isPrefixOf, ih hc]

theorem head?_of_isPrefixOf {c : CodePoint} {needle s : Text}
    (h : List.isPrefixOf (c :: needle) s = true) : s.head? = some c := by
  obtain ⟨rest, rfl⟩ := List.isPrefixOf_iff_prefix.mp h
  rfl

/-- A tag, or the beginning of one, is found by tags. -/
theorem byTags_start {needle : Text} (h : .char '>' ∉ needle) :
    ByTags fun s => if List.isPrefixOf (.char '<' :: needle) s then some () else Option.none where
  opens {s a} hs := by
    by_cases hbegin : List.isPrefixOf (.char '<' :: needle) s = true
    · exact head?_of_isPrefixOf hbegin
    · rw [if_neg hbegin] at hs
      cases hs
  closes {s} hs rest := by
    obtain ⟨inner, after, rfl⟩ := List.append_of_mem hs
    have hneedle : .char '>' ∉ CodePoint.char '<' :: needle :=
      List.not_mem_cons_of_ne_of_not_mem (by decide) h
    rw [List.append_assoc, List.cons_append, isPrefixOf_append_cons hneedle,
      isPrefixOf_append_cons hneedle]

end Text

/-! ## Escaping -/

/-- Texts are written without what could be taken for a tag, or for the end of a value. -/
theorem not_mem_escapeText {c : CodePoint}
    (hc : c = .char '<' ∨ c = .char '>' ∨ c = .char '"') (s : Text) : c ∉ escapeText s := by
  intro hmem
  obtain ⟨d, -, hd⟩ := List.mem_flatMap.mp hmem
  unfold escapePoint at hd
  iterate 5
    split at hd
    · rcases hc with rfl | rfl | rfl <;> exact absurd hd (by decide)
  obtain rfl := List.mem_singleton.mp hd
  rcases hc with rfl | rfl | rfl <;> contradiction

/-! ## Tidy markup -/

namespace Token

/-- A token as it is written, if it may be taken for a tag. -/
def tag? : Token → Option Text
  | text _ | reference _ | layout _ => none
  | t => some t.render

/-- Whether a name can stand in markup without a tag opening in it. -/
def isPlain (name : Text) : Bool := !name.contains (.char '<')

/-- Whether a tag opens just where the token has one: there is none in its names, and of what is
taken over verbatim only the type of the document is looked at. -/
def isTidy : Token → Bool
  | start tag attributes | empty tag attributes =>
    isPlain tag && attributes.all fun a => isPlain a.1
  | stop name | reference name | layout name => isPlain name
  | text _ => true
  | verbatim s => s == "<!DOCTYPE html>"

theorem not_mem_of_isPlain {name : Text} (h : isPlain name = true) : .char '<' ∉ name := by
  unfold isPlain at h
  simpa using h

theorem not_mem_renderAttribute {a : Attribute} (h : isPlain a.1 = true) :
    .char '<' ∉ renderAttribute a := by
  obtain ⟨name, value?⟩ := a
  have hname := not_mem_of_isPlain h
  cases value? with
  | none =>
      rw [renderAttribute, List.mem_append]
      exact not_or.mpr ⟨by decide, hname⟩
  | some value =>
      simp only [renderAttribute, List.mem_append, not_or]
      exact ⟨⟨⟨⟨by decide, hname⟩, by decide⟩, not_mem_escapeText (.inl rfl) value⟩, by decide⟩

/-- What stands in a start tag after its angle bracket. -/
theorem not_mem_attributes {tag : Text} {attributes : List Attribute}
    (h : (isPlain tag && attributes.all fun a => isPlain a.1) = true) :
    .char '<' ∉ tag ++ attributes.flatMap renderAttribute := by
  obtain ⟨htag, hattributes⟩ := Bool.and_eq_true_iff.mp h
  refine List.not_mem_append (not_mem_of_isPlain htag) fun hmem => ?_
  obtain ⟨a, ha, hmem⟩ := List.mem_flatMap.mp hmem
  exact not_mem_renderAttribute (List.all_eq_true.mp hattributes a ha) hmem

/-- How a tidy token is written: as a tag, or without any. -/
theorem render_of_isTidy {t : Token} (h : t.isTidy = true) :
    (t.tag? = none ∧ .char '<' ∉ t.render)
    ∨ ∃ inner : Text, t.tag? = some (.char '<' :: inner) ∧ t.render = .char '<' :: inner
      ∧ .char '<' ∉ inner ∧ .char '>' ∈ inner := by
  cases t with
  | text s => exact .inl ⟨rfl, not_mem_escapeText (.inl rfl) s⟩
  | layout s => exact .inl ⟨rfl, not_mem_of_isPlain h⟩
  | reference name =>
      refine .inl ⟨rfl, ?_⟩
      simp only [render, List.mem_append, not_or]
      exact ⟨⟨by decide, not_mem_of_isPlain h⟩, by decide⟩
  | verbatim s =>
      obtain rfl : s = "<!DOCTYPE html>" := beq_iff_eq.mp h
      exact .inr ⟨"!DOCTYPE html>", rfl, rfl, by decide, by decide⟩
  | stop name =>
      refine .inr ⟨"/" ++ name ++ ">", rfl, rfl, ?_, List.mem_append_right _ (by decide)⟩
      simp only [List.mem_append, not_or]
      exact ⟨⟨by decide, not_mem_of_isPlain h⟩, by decide⟩
  | start tag attributes =>
      refine .inr ⟨tag ++ attributes.flatMap renderAttribute ++ ">", rfl, rfl, ?_,
        List.mem_append_right _ (by decide)⟩
      exact List.not_mem_append (not_mem_attributes h) (by decide)
  | empty tag attributes =>
      refine .inr ⟨tag ++ attributes.flatMap renderAttribute ++ " />", rfl, rfl, ?_,
        List.mem_append_right _ (by decide)⟩
      exact List.not_mem_append (not_mem_attributes h) (by decide)

end Token

namespace Markup

variable {α : Type} {m n : Markup}

/-- The tags of markup as they are written, in order. -/
def tags (m : Markup) : List Text := m.filterMap Token.tag?

/-- A tag opens just where the markup has one. -/
def Tidy (m : Markup) : Prop := ∀ t ∈ m, t.isTidy = true

theorem tidy_of_all (h : m.all Token.isTidy = true) : m.Tidy := List.all_eq_true.mp h

theorem tags_append (m n : Markup) : tags (m ++ n) = m.tags ++ n.tags :=
  List.filterMap_append ..

theorem tags_flatMap (l : List α) (f : α → Markup) :
    tags (l.flatMap f) = l.flatMap fun a => tags (f a) :=
  List.filterMap_flatMap ..

theorem tidy_append (hm : m.Tidy) (hn : n.Tidy) : Tidy (m ++ n) :=
  List.forall_mem_append.mpr ⟨hm, hn⟩

theorem tidy_flatMap {l : List α} {f : α → Markup} (h : ∀ a ∈ l, (f a).Tidy) :
    Tidy (l.flatMap f) := List.forall_mem_flatMap.mpr h

/-- What is found at the tags of markup, each with what is written after it. -/
def readFrom (find : Text → Option α) : Markup → List α
  | [] => []
  | t :: m => (t.tag?.bind fun tag => find (tag ++ render m)).toList ++ readFrom find m

/-- **What is read off a page that is written out is read off at its tags.** -/
theorem readAll_render_eq {find : Text → Option α} (hfind : Text.AtTags find) (hm : m.Tidy) :
    Text.readAll find (render m) = m.readFrom find := by
  induction m with
  | nil => rfl
  | cons t m ih =>
      have hrest := ih fun u hu => hm u (List.mem_cons_of_mem _ hu)
      have hrender : render (t :: m) = t.render ++ render m := rfl
      rcases Token.render_of_isTidy (hm t List.mem_cons_self) with
        ⟨htag, hplain⟩ | ⟨inner, htag, hinner, hopen, -⟩
      · rw [hrender, Text.readAll_append_of_not_mem hfind hplain, hrest, readFrom, htag]
        rfl
      · rw [hrender, hinner, Text.readAll_append_of_tag hfind hopen, hrest, readFrom, htag]
        rfl

/-- **What is found by tags is read off the tags**, whatever is written between them. -/
theorem readAll_render {find : Text → Option α} (hfind : Text.ByTags find) (hm : m.Tidy) :
    Text.readAll find (render m) = m.tags.filterMap find := by
  rw [readAll_render_eq hfind.toAtTags hm]
  induction m with
  | nil => rfl
  | cons t m ih =>
      have hrest := ih fun u hu => hm u (List.mem_cons_of_mem _ hu)
      rcases Token.render_of_isTidy (hm t List.mem_cons_self) with
        ⟨htag, -⟩ | ⟨inner, htag, -, -, hclose⟩
      · rw [readFrom, hrest, htag, tags, tags, List.filterMap_cons_none htag]
        rfl
      · rw [readFrom, hrest, htag, Option.bind_some,
          hfind.closes (List.mem_cons_of_mem _ hclose), tags, tags,
          List.filterMap_cons_some htag, List.filterMap_cons]
        cases find (.char '<' :: inner) <;> rfl

end Markup

end CivicSite
