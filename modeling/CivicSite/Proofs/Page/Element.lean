import CivicSite.Proofs.Page.Frame
import CivicSite.Proofs.Page.Lexeme

/-!
# Elements

The elements of a page that have a certain name, as a reader finds them: each begins with a start
tag of that name and goes on up to the next end tag of that name. What is read within an element are
the parts of the page again, so the elements in it are found in the same way, and its text is what
is left without its tags.

The elements of a page that is written out are those of its markup (`Text.elements_render`). A page
has none of a name that its markup does not open (`Markup.Among`); the frame of a published page
opens the names of `Page.frameTags` only.
-/

namespace CivicSite

open Markup

/-- A letter of ASCII in lower case, as names are compared. -/
def CodePoint.caseless : CodePoint → CodePoint
  | .char c => .char c.toLower
  | .lone half => .lone half

def Text.caseless (s : Text) : Text := s.map CodePoint.caseless

/-! ## The reader -/

/-- An element as it is read. -/
structure Element where
  attributes : List Attribute
  inner : List Lexeme
deriving DecidableEq, Repr

/-- The attributes of a start tag of the name. -/
def Lexeme.opening? (name : Text) : Lexeme → Option (List Attribute)
  | tag ⟨false, n, attributes⟩ _ => if n.caseless == name then some attributes else none
  | _ => none

/-- Whether a part of a page is an end tag of the name. -/
def Lexeme.ends (name : Text) : Lexeme → Bool
  | tag t _ => t.isEnd && t.name.caseless == name
  | _ => false

/-- The code point that a part of a page is, if it belongs to a text. -/
def Lexeme.point? : Lexeme → Option CodePoint
  | point c => some c
  | _ => none

/-- The elements of a name that end in parts of a page, and the one that the reader is in. -/
def elementsFrom (name : Text) : Option Element → List Lexeme → List Element
  | _, [] => []
  | none, l :: rest =>
    match l.opening? name with
    | some attributes => elementsFrom name (some ⟨attributes, []⟩) rest
    | none => elementsFrom name none rest
  | some e, l :: rest =>
    if l.ends name then e :: elementsFrom name none rest
    else elementsFrom name (some { e with inner := e.inner ++ [l] }) rest

namespace Element

/-- The text of an element, with characters for their references. -/
def text (e : Element) : Text := Text.unescape (e.inner.filterMap Lexeme.point?)

/-- The elements of a name in an element. -/
def elements (name : Text) (e : Element) : List Element := elementsFrom name none e.inner

end Element

/-- The elements of a name on a page. -/
def Text.elements (name page : Text) : List Element := elementsFrom name none page.lexemes

/-- Text is passed over. -/
theorem elementsFrom_points (name s : Text) (rest : List Lexeme) :
    elementsFrom name none (s.map .point ++ rest) = elementsFrom name none rest := by
  induction s with
  | nil => rfl
  | cons c s ih => exact ih

/-- Text in an element becomes a part of it. -/
theorem elementsFrom_inner_points (name s : Text) (e : Element) (rest : List Lexeme) :
    elementsFrom name (some e) (s.map .point ++ rest)
      = elementsFrom name (some { e with inner := e.inner ++ s.map .point }) rest := by
  induction s generalizing e with
  | nil => rw [List.map_nil, List.append_nil, List.nil_append]
  | cons c s ih =>
      have hlater := ih { e with inner := e.inner ++ [.point c] }
      rw [List.append_assoc] at hlater
      exact hlater

/-! ## Elements of markup -/

/-- Whether a token is an end tag of the name. -/
def Token.ends (name : Text) : Token → Bool
  | stop n => n.caseless == name
  | _ => false

namespace Markup

/-- The elements of a name that end in markup, and the one that the reader is in. -/
def elementsFrom (name : Text) :
    Option (List Attribute × Markup) → Markup → List (List Attribute × Markup)
  | _, [] => []
  | none, t :: m =>
    match t.opening? with
    | some (tag, attributes) =>
      if tag.caseless == name then elementsFrom name (some (attributes, [])) m
      else elementsFrom name none m
    | none => elementsFrom name none m
  | some (attributes, inner), t :: m =>
    if t.ends name then (attributes, inner) :: elementsFrom name none m
    else elementsFrom name (some (attributes, inner ++ [t])) m

/-- What ends no element of the name becomes a part of the one that the reader is in. -/
theorem elementsFrom_inner {name : Text} {inner : Markup} (h : ∀ t ∈ inner, t.ends name = false)
    (attributes : List Attribute) (seen rest : Markup) :
    elementsFrom name (some (attributes, seen)) (inner ++ rest)
      = elementsFrom name (some (attributes, seen ++ inner)) rest := by
  induction inner generalizing seen with
  | nil => rw [List.append_nil, List.nil_append]
  | cons t inner ih =>
      obtain ⟨ht, hinner⟩ := List.forall_mem_cons.mp h
      have hlater := ih hinner (seen ++ [t])
      rw [List.append_assoc] at hlater
      rw [List.cons_append, elementsFrom, ht, if_neg Bool.false_ne_true]
      exact hlater

/-- **An element is read with what stands in it**, if nothing in it ends one of its name. -/
theorem elementsFrom_element {name tag : Text} (htag : tag.caseless = name) {inner : Markup}
    (h : ∀ t ∈ inner, t.ends name = false) (attributes : List Attribute) (rest : Markup) :
    elementsFrom name none (element tag attributes inner ++ rest)
      = (attributes, inner) :: elementsFrom name none rest := by
  have hends : (Token.stop tag).ends name = true := beq_iff_eq.mpr htag
  have hinner := elementsFrom_inner h attributes [] (.stop tag :: rest)
  rw [List.nil_append, elementsFrom, hends, if_pos rfl] at hinner
  have hopen : element tag attributes inner ++ rest
      = .start tag attributes :: (inner ++ .stop tag :: rest) := by
    simp [element]
  rw [hopen, elementsFrom]
  simp only [Token.opening?, htag, beq_self_eq_true, if_true, hinner]

theorem elementsFrom_layout (name s : Text) (rest : Markup) :
    elementsFrom name none (.layout s :: rest) = elementsFrom name none rest := rfl

/-- A line that holds an element with a text. -/
theorem elementsFrom_line (name : Text) (depth : Nat) (tag : Text) (attributes : List Attribute)
    (s : Text) (rest : Markup) :
    elementsFrom name none (line depth (textElement tag attributes s) ++ rest)
      = (if tag.caseless = name then [(attributes, [.text s])] else [])
        ++ elementsFrom name none rest := by
  have hlines : line depth (textElement tag attributes s) ++ rest
      = .layout (List.replicate (4 * depth) (.char ' '))
        :: (element tag attributes [.text s] ++ (.layout "\n" :: rest)) := by
    simp [line, textElement]
  rw [hlines, elementsFrom_layout]
  by_cases htag : tag.caseless = name
  · have hinner : ∀ t ∈ [Token.text s], t.ends name = false :=
      List.forall_mem_singleton.mpr rfl
    rw [elementsFrom_element htag hinner, if_pos htag, elementsFrom_layout]
    rfl
  · have hother : (tag.caseless == name) = false := beq_false_of_ne htag
    rw [if_neg htag, List.nil_append, ← elementsFrom_layout name "\n" rest]
    simp only [element, List.cons_append, List.nil_append, elementsFrom, Token.opening?, hother,
      Bool.false_eq_true, if_false]

end Markup

namespace Element

/-- How an element of markup is read. -/
def ofMarkup (e : List Attribute × Markup) : Element := ⟨e.1, e.2.flatMap Token.lexemes⟩

/-- **The elements that are read are those of the markup.** -/
theorem elementsFrom_lexemes (name : Text) (e? : Option (List Attribute × Markup)) (m : Markup) :
    elementsFrom name (e?.map ofMarkup) (m.flatMap Token.lexemes)
      = (m.elementsFrom name e?).map ofMarkup := by
  induction m generalizing e? with
  | nil => cases e? <;> rfl
  | cons t m ih =>
      cases e? with
      | none =>
          have hnone := ih none
          cases t with
          | start tag attributes | empty tag attributes =>
              have hsome := ih (some (attributes, []))
              cases htag : tag.caseless == name <;>
                simp_all [CivicSite.elementsFrom, Markup.elementsFrom, Token.lexemes,
                  Token.opening?, Lexeme.opening?, ofMarkup]
          | stop n | verbatim s => exact hnone
          | text s | reference s | layout s =>
              exact (elementsFrom_points name _ _).trans hnone
      | some e =>
          obtain ⟨attributes, inner⟩ := e
          have hnone := ih none
          have hsome := ih (some (attributes, inner ++ [t]))
          simp only [Option.map_some, ofMarkup, List.flatMap_append,
            List.flatMap_singleton] at hsome
          cases t with
          | stop n =>
              cases hends : n.caseless == name <;>
                simp_all [CivicSite.elementsFrom, Markup.elementsFrom, Token.lexemes, Token.ends,
                  Lexeme.ends, ofMarkup]
          | start | empty | verbatim => exact hsome
          | text s | reference s | layout s =>
              exact (elementsFrom_inner_points name _ _ _).trans hsome

theorem elements_ofMarkup (name : Text) (e : List Attribute × Markup) :
    (ofMarkup e).elements name = (e.2.elementsFrom name none).map ofMarkup :=
  elementsFrom_lexemes name none e.2

/-- The text of an element that holds a text alone. -/
theorem text_ofMarkup (attributes : List Attribute) (s : Text) :
    (ofMarkup (attributes, [.text s])).text = s := by
  have hpoints : (List.map Lexeme.point (escapeText s)).filterMap Lexeme.point? = escapeText s := by
    rw [List.filterMap_map]
    exact List.filterMap_some
  have hinner : (ofMarkup (attributes, [.text s])).inner = (escapeText s).map .point :=
    List.append_nil _
  rw [text, hinner, hpoints, Text.unescape_escapeText]

end Element

/-- **The elements of a page that is written out are those of its markup.** -/
theorem Text.elements_render {m : Markup} (hm : m.Sound) (name : Text) :
    Text.elements name (render m) = (m.elementsFrom name none).map Element.ofMarkup := by
  have hlexemes := lexemes_render hm []
  rw [List.append_nil] at hlexemes
  rw [Text.elements, hlexemes]
  exact (congrArg _ (List.append_nil _)).trans (Element.elementsFrom_lexemes name none m)

/-! ## Markup that opens certain elements only -/

namespace Token

/-- Whether a token is written soundly, and opens an element with one of the names if any. -/
def isAmong (names : List Text) (t : Token) : Bool :=
  t.isSound && t.opening?.all fun tag => names.contains tag.1.caseless

theorem isSound_of_isAmong {names : List Text} {t : Token} (h : t.isAmong names = true) :
    t.isSound = true := (Bool.and_eq_true_iff.mp h).1

theorem mem_of_isAmong {names : List Text} {t : Token} (h : t.isAmong names = true)
    {tag : Text} {attributes : List Attribute} (ht : t.opening? = some (tag, attributes)) :
    tag.caseless ∈ names := by
  have hnames := (Bool.and_eq_true_iff.mp h).2
  rw [ht, Option.all_some, List.contains_iff_mem] at hnames
  exact hnames

end Token

namespace Markup

variable {α : Type} {names : List Text} {m n : Markup}

/-- No element is opened that has none of the names. -/
def Among (names : List Text) (m : Markup) : Prop := ∀ t ∈ m, t.isAmong names = true

theorem among_of_all (h : m.all (Token.isAmong names) = true) : Among names m :=
  List.all_eq_true.mp h

theorem among_nil : Among names [] := among_of_all rfl

theorem Among.append (hm : Among names m) (hn : Among names n) : Among names (m ++ n) :=
  List.forall_mem_append.mpr ⟨hm, hn⟩

theorem among_flatMap {l : List α} {f : α → Markup} (h : ∀ a ∈ l, Among names (f a)) :
    Among names (l.flatMap f) := List.forall_mem_flatMap.mpr h

theorem Among.sound (hm : Among names m) : m.Sound :=
  fun t ht => Token.isSound_of_isAmong (hm t ht)

/-- Markup is passed over in search of a name that it does not open. -/
theorem Among.elementsFrom {name : Text} (hm : Among names m) (hname : name ∉ names)
    (rest : Markup) :
    Markup.elementsFrom name none (m ++ rest) = Markup.elementsFrom name none rest := by
  induction m with
  | nil => rfl
  | cons t m ih =>
      have hlater := ih fun u hu => hm u (List.mem_cons_of_mem _ hu)
      cases hopen : t.opening? with
      | none => simpa only [List.cons_append, Markup.elementsFrom, hopen] using hlater
      | some tag =>
          have hmem := Token.mem_of_isAmong (hm t List.mem_cons_self) hopen
          have hother : (tag.1.caseless == name) = false :=
            beq_false_of_ne fun heq => hname (heq ▸ hmem)
          simpa only [List.cons_append, Markup.elementsFrom, hopen, hother, Bool.false_eq_true,
            if_false] using hlater

end Markup

/-! ## The frame of a published page -/

/-- The elements that are opened outside the content of a published page. -/
def Page.frameTags : List Text :=
  ["html", "head", "meta", "title", "link", "body", "header", "h1", "p", "nav", "a", "footer",
    "script"]

namespace Block

theorem among_navigation (links : List NavLink) (home : Text) :
    Among Page.frameTags (navigation links home) := by
  unfold navigation
  split
  · exact among_nil
  · refine Among.append (Among.append (Among.append (among_of_all rfl) ?_) ?_) (among_of_all rfl)
    · split <;> exact among_of_all rfl
    · exact among_flatMap fun link _ => among_of_all rfl

theorem among_header (v : Section) (home : Text) : Among Page.frameTags (header v home) := by
  refine Among.append (Among.append (Among.append ?_ (among_navigation v.nav home)) ?_) ?_
  all_goals exact among_of_all rfl

end Block

namespace Page

theorem among_head (frame : Frame) : Among frameTags (head frame) := by
  refine among_of_all ?_
  unfold head
  cases frame.hasMap <;> rfl

theorem among_top (frame : Frame) (views : List Section) : Among frameTags (top frame views) := by
  unfold top
  split
  · exact Block.among_header _ _
  · exact among_nil

theorem among_bottom (views : List Section) : Among frameTags (bottom views) := by
  unfold bottom
  split <;> exact among_of_all rfl

theorem among_foot (frame : Frame) : Among frameTags (foot frame) := by
  refine among_of_all ?_
  unfold foot
  cases frame.hasMap <;> rfl

/-- **A published page is its content between markup of the frame.** -/
theorem framed_split (frame : Frame) (views : List Section) :
    ∃ before after : Markup, Among frameTags before ∧ Among frameTags after
      ∧ ∀ content, framed frame views content = before ++ (content ++ after) := by
  refine ⟨head frame ++ (line 0 [.start "body" [attr "class" ("page-" ++ frame.name)]]
      ++ top frame views), bottom views ++ foot frame,
    (among_head frame).append ((among_of_all rfl).append (among_top frame views)),
    (among_bottom views).append (among_foot frame), fun content => ?_⟩
  rw [framed_eq]
  simp only [List.append_assoc]

end Page

end CivicSite
