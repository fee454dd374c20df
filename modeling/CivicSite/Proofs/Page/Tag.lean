import CivicSite.Proofs.Page.Reading

/-!
# Reading tags

A start tag is read as it was written: the name of its element, and its attributes with their
values, in which references stand for characters (`startTag?_render`). The reader takes any tag that
may stand in a page, with values in either kind of quotes or in none, and does not know how the
pages of a site write theirs. So what it reads off a page are all the links, ids and other values
that are there, and those are the ones that the markup has (`values_render`), provided that its
names are names (`Markup.Legible`).
-/

namespace CivicSite

/-! ## References -/

namespace Text

/-- A text with the references that texts are written with replaced by what they stand for. Any
other ampersand stands for itself. -/
def unescape : Text → Text
  | .char '&' :: .char 'a' :: .char 'm' :: .char 'p' :: .char ';' :: rest =>
    .char '&' :: unescape rest
  | .char '&' :: .char 'l' :: .char 't' :: .char ';' :: rest => .char '<' :: unescape rest
  | .char '&' :: .char 'g' :: .char 't' :: .char ';' :: rest => .char '>' :: unescape rest
  | .char '&' :: .char '#' :: .char '3' :: .char '4' :: .char ';' :: rest =>
    .char '"' :: unescape rest
  | .char '&' :: .char '#' :: .char '3' :: .char '9' :: .char ';' :: rest =>
    .char '\'' :: unescape rest
  | c :: rest => c :: unescape rest
  | [] => []

theorem unescape_cons {c : CodePoint} (h : c ≠ .char '&') (rest : Text) :
    unescape (c :: rest) = c :: unescape rest := by
  conv => lhs; unfold unescape
  split <;> simp_all

theorem unescape_escapePoint (c : CodePoint) (rest : Text) :
    unescape (escapePoint c ++ rest) = c :: unescape rest := by
  unfold escapePoint
  iterate 5
    split
    · rename_i hc
      obtain rfl := beq_iff_eq.mp hc
      rfl
  rename_i hamp _ _ _ _
  exact unescape_cons (fun h => hamp (beq_iff_eq.mpr h)) rest

/-- **What a text is written as is read as the text.** -/
theorem unescape_escapeText (s : Text) : unescape (escapeText s) = s := by
  induction s with
  | nil => rfl
  | cons c rest ih =>
      have hwritten : escapeText (c :: rest) = escapePoint c ++ escapeText rest := rfl
      rw [hwritten, unescape_escapePoint, ih]

end Text

/-! ## The reader -/

/-- Whether a code point separates the parts of a tag. -/
def CodePoint.isSpace (c : CodePoint) : Bool :=
  c == .char ' ' || c == .char '\n' || c == .char '\t' || c == .char '\r' || c == .char '\x0c'

def CodePoint.isLetter : CodePoint → Bool
  | .char c => c.isAlpha
  | .lone _ => false

/-- Where a reader is in a start tag, and what it has read of the attribute that it is at. -/
inductive Spot where
  | between
  | name (read : Text)
  /-- After a name, where an equals sign may still come. -/
  | named (name : Text)
  /-- Before a value. -/
  | value (name : Text)
  | quoted (name : Text) (quote : CodePoint) (read : Text)
  | bare (name read : Text)

namespace Text

/-- The attributes from a spot in a start tag on, nothing if the tag does not end. -/
def attributes? : Spot → Text → Option (List Attribute)
  | _, [] => none
  | .between, c :: rest =>
    if c == .char '>' then some []
    else if c.isSpace || c == .char '/' then attributes? .between rest
    else attributes? (.name [c]) rest
  | .name n, c :: rest =>
    if c == .char '>' then some [(n, none)]
    else if c == .char '=' then attributes? (.value n) rest
    else if c == .char '/' then (attributes? .between rest).map ((n, none) :: ·)
    else if c.isSpace then attributes? (.named n) rest
    else attributes? (.name (n ++ [c])) rest
  | .named n, c :: rest =>
    if c == .char '>' then some [(n, none)]
    else if c == .char '=' then attributes? (.value n) rest
    else if c == .char '/' then (attributes? .between rest).map ((n, none) :: ·)
    else if c.isSpace then attributes? (.named n) rest
    else (attributes? (.name [c]) rest).map ((n, none) :: ·)
  | .value n, c :: rest =>
    if c == .char '>' then some [(n, some [])]
    else if c.isSpace then attributes? (.value n) rest
    else if c == .char '"' || c == .char '\'' then attributes? (.quoted n c []) rest
    else attributes? (.bare n [c]) rest
  | .quoted n quote v, c :: rest =>
    if c == quote then (attributes? .between rest).map ((n, some (unescape v)) :: ·)
    else attributes? (.quoted n quote (v ++ [c])) rest
  | .bare n v, c :: rest =>
    if c == .char '>' then some [(n, some (unescape v))]
    else if c.isSpace then (attributes? .between rest).map ((n, some (unescape v)) :: ·)
    else attributes? (.bare n (v ++ [c])) rest

/-- Whether a code point ends the name of an element. -/
def endsTagName (c : CodePoint) : Bool := c == .char '>' || c == .char '/' || c.isSpace

/-- The start tag that a text begins with: the name of its element, and its attributes. -/
def startTag? : Text → Option (Text × List Attribute)
  | .char '<' :: c :: rest =>
    if c.isLetter then
      let name := (c :: rest).takeWhile fun c => !endsTagName c
      (attributes? .between ((c :: rest).dropWhile fun c => !endsTagName c)).map (name, ·)
    else none
  | _ => none

/-- The values of the attributes with one of the names. -/
def valuesOf (names : List Text) (attributes : List Attribute) : List Text :=
  attributes.filterMap fun a => if names.contains a.1 then a.2 else none

/-- The values of the attributes with one of the names in all start tags of a page, in order. -/
def values (names : List Text) (page : Text) : List Text :=
  (readAll startTag? page).flatMap fun tag => valuesOf names tag.2

/-! ## Reading what is written -/

/-- Whether an attribute can have a name. -/
def isAttributeName (name : Text) : Bool :=
  !name.isEmpty && name.all fun c =>
    !(c == .char '>' || c == .char '=' || c == .char '/' || c.isSpace)

/-- Whether an element can have a name. -/
def isTagName (name : Text) : Bool :=
  name.head?.any (·.isLetter) && name.all fun c => !endsTagName c

theorem attributes?_name {m : Text}
    (h : (m.all fun c => !(c == .char '>' || c == .char '=' || c == .char '/' || c.isSpace)) = true)
    (n s : Text) : attributes? (.name n) (m ++ s) = attributes? (.name (n ++ m)) s := by
  induction m generalizing n with
  | nil => rw [List.nil_append, List.append_nil]
  | cons c m ih =>
      rw [List.all_cons, Bool.and_eq_true] at h
      obtain ⟨hc, hm⟩ := h
      simp only [Bool.not_eq_true', Bool.or_eq_false_iff] at hc
      obtain ⟨⟨⟨hclose, hequals⟩, hslash⟩, hspace⟩ := hc
      simp only [List.cons_append, attributes?, hclose, hequals, hslash, hspace, Bool.false_eq_true,
        if_false]
      rw [ih hm, List.append_assoc, List.singleton_append]

theorem attributes?_quoted {quote : CodePoint} {w : Text} (h : quote ∉ w) (n v s : Text) :
    attributes? (.quoted n quote v) (w ++ quote :: s)
      = (attributes? .between s).map ((n, some (unescape (v ++ w))) :: ·) := by
  induction w generalizing v with
  | nil => simp [attributes?]
  | cons c w ih =>
      obtain ⟨hc, hw⟩ := List.ne_and_not_mem_of_not_mem_cons h
      have hne : (c == quote) = false := beq_false_of_ne hc.symm
      simp only [List.cons_append, attributes?, hne, Bool.false_eq_true, if_false]
      rw [ih hw, List.append_assoc, List.singleton_append]

/-- A name that no equals sign follows is an attribute without a value. -/
theorem attributes?_named {s : Text}
    (h : (s.dropWhile CodePoint.isSpace).head? ≠ some (.char '=')) (n : Text) :
    attributes? (.named n) s = (attributes? .between s).map ((n, none) :: ·) := by
  induction s with
  | nil => rfl
  | cons c s ih =>
      cases hspace : c.isSpace with
      | true =>
          have hc : c ≠ .char '>' ∧ c ≠ .char '=' ∧ c ≠ .char '/' := by
            refine ⟨?_, ?_, ?_⟩ <;> rintro rfl <;> exact absurd hspace (by decide)
          rw [List.dropWhile_cons_of_pos hspace] at h
          simp [attributes?, hspace, hc, ih h]
      | false =>
          rw [List.dropWhile_cons_of_neg (by simp [hspace]), List.head?_cons] at h
          have hequals : (c == .char '=') = false :=
            beq_false_of_ne fun heq => h (congrArg some heq)
          simp only [attributes?, hspace, hequals, Bool.false_or, Bool.false_eq_true, if_false]
          split
          · rfl
          · split <;> rfl

/-- What may come after an attribute: the end of the tag, or a blank that no equals sign follows. -/
structure Follows (s : Text) : Prop where
  begins : s.head? = some (.char '>') ∨ s.head? = some (.char ' ')
  parts : (s.dropWhile CodePoint.isSpace).head? ≠ some (.char '=')

/-- **An attribute is read as it was written.** -/
theorem attributes?_render {a : Attribute} (ha : isAttributeName a.1 = true) {s : Text}
    (hs : Follows s) : attributes? .between (renderAttribute a ++ s)
      = (attributes? .between s).map (a :: ·) := by
  obtain ⟨name, value?⟩ := a
  rw [isAttributeName, Bool.and_eq_true] at ha
  obtain ⟨hne, hname⟩ := ha
  cases name with
  | nil => cases hne
  | cons c m =>
      have hfirst := hname
      rw [List.all_cons, Bool.and_eq_true] at hfirst
      obtain ⟨hc, hm⟩ := hfirst
      simp only [Bool.not_eq_true', Bool.or_eq_false_iff] at hc
      obtain ⟨⟨⟨hclose, hequals⟩, hslash⟩, hspace⟩ := hc
      have hblank : CodePoint.isSpace (.char ' ') = true := by decide
      have hbegin (rest : Text) : attributes? .between (.char ' ' :: (c :: m ++ rest))
          = attributes? (.name (c :: m)) rest := by
        have hread : attributes? .between (.char ' ' :: (c :: m ++ rest))
            = attributes? (.name [c]) (m ++ rest) := by
          simp [attributes?, hclose, hslash, hspace, hblank]
        rw [hread, attributes?_name hm, List.singleton_append]
      cases value? with
      | some value =>
          have hwritten : renderAttribute (c :: m, some value) ++ s
              = .char ' ' :: (c :: m ++ .char '=' :: .char '"' ::
                  (escapeText value ++ .char '"' :: s)) := by
            simp [renderAttribute, ofString, ofChars]
          have hquote : .char '"' ∉ escapeText value := not_mem_escapeText (.inr (.inr rfl)) value
          have hvalue : attributes? (.name (c :: m)) (.char '=' :: .char '"' ::
                (escapeText value ++ .char '"' :: s))
              = attributes? (.quoted (c :: m) (.char '"') [])
                  (escapeText value ++ .char '"' :: s) :=
            rfl
          rw [hwritten, hbegin, hvalue, attributes?_quoted hquote, List.nil_append,
            unescape_escapeText]
      | none =>
          have hwritten : renderAttribute (c :: m, none) ++ s = .char ' ' :: (c :: m ++ s) := by
            simp [renderAttribute, ofString, ofChars]
          rw [hwritten, hbegin]
          cases s with
          | nil => rcases hs.begins with h | h <;> cases h
          | cons d s =>
              -- the name has no value, as no equals sign comes after the blank
              rcases hs.begins with h | h
              · obtain rfl := Option.some.inj h
                rfl
              · obtain rfl := Option.some.inj h
                have hparts := hs.parts
                rw [List.dropWhile_cons_of_pos hblank] at hparts
                have hnamed : attributes? (.name (c :: m)) (.char ' ' :: s)
                    = attributes? (.named (c :: m)) s := rfl
                rw [hnamed, attributes?_named hparts]
                rfl

/-- How a start tag ends. -/
def IsClose (close : Text) : Prop := close = ">" ∨ close = " />"

theorem follows_attributes {attributes : List Attribute}
    (h : (attributes.all fun a => isAttributeName a.1) = true) {close : Text}
    (hclose : IsClose close) (rest : Text) :
    Follows (attributes.flatMap renderAttribute ++ (close ++ rest)) := by
  cases attributes with
  | nil =>
      rcases hclose with rfl | rfl
      · exact ⟨.inl rfl, by simp [ofString, ofChars, CodePoint.isSpace]⟩
      · exact ⟨.inr rfl, by simp [ofString, ofChars, CodePoint.isSpace]⟩
  | cons a attributes =>
      obtain ⟨name, value?⟩ := a
      rw [List.all_cons, Bool.and_eq_true] at h
      obtain ⟨hname, -⟩ := h
      rw [isAttributeName, Bool.and_eq_true] at hname
      cases name with
      | nil => cases hname.1
      | cons c m =>
          have hc := hname.2
          rw [List.all_cons, Bool.and_eq_true] at hc
          have hc := hc.1
          simp only [Bool.not_eq_true', Bool.or_eq_false_iff] at hc
          have hwritten : ∃ s : Text, renderAttribute (c :: m, value?) = .char ' ' :: c :: s := by
            cases value? with
            | none => exact ⟨m, rfl⟩
            | some value => exact ⟨m ++ "=\"" ++ escapeText value ++ "\"", rfl⟩
          obtain ⟨s, hs⟩ := hwritten
          rw [List.flatMap_cons, hs]
          refine ⟨.inr rfl, ?_⟩
          have hequals : c ≠ .char '=' := fun heq => by simp [heq] at hc
          simp [List.dropWhile, show CodePoint.isSpace (.char ' ') = true by decide, hc.2, hequals]

theorem attributes?_tag {attributes : List Attribute}
    (h : (attributes.all fun a => isAttributeName a.1) = true) {close : Text}
    (hclose : IsClose close) (rest : Text) :
    attributes? .between (attributes.flatMap renderAttribute ++ (close ++ rest))
      = some attributes := by
  induction attributes with
  | nil => rcases hclose with rfl | rfl <;> rfl
  | cons a attributes ih =>
      rw [List.all_cons, Bool.and_eq_true] at h
      rw [List.flatMap_cons, List.append_assoc,
        attributes?_render h.1 (follows_attributes h.2 hclose rest), ih h.2]
      rfl

/-- **A start tag is read as it was written**, whatever comes after it. -/
theorem startTag?_render {tag : Text} (htag : isTagName tag = true) {attributes : List Attribute}
    (h : (attributes.all fun a => isAttributeName a.1) = true) {close : Text}
    (hclose : IsClose close) (rest : Text) :
    startTag? (.char '<' :: (tag ++ (attributes.flatMap renderAttribute ++ (close ++ rest))))
      = some (tag, attributes) := by
  rw [isTagName, Bool.and_eq_true] at htag
  obtain ⟨hletter, hplain⟩ := htag
  have hplain : ∀ c ∈ tag, (!endsTagName c) = true := List.all_eq_true.mp hplain
  have hstop : ∃ d s, attributes.flatMap renderAttribute ++ (close ++ rest) = d :: s
      ∧ endsTagName d = true := by
    have hbegins := (follows_attributes h hclose rest).begins
    cases hs : attributes.flatMap renderAttribute ++ (close ++ rest) with
    | nil =>
        rw [hs] at hbegins
        rcases hbegins with h | h <;> cases h
    | cons d s =>
        rw [hs] at hbegins
        refine ⟨d, s, rfl, ?_⟩
        rcases hbegins with h | h <;> obtain rfl := Option.some.inj h <;> decide
  obtain ⟨d, s, hs, hd⟩ := hstop
  have hread := attributes?_tag h hclose rest
  rw [hs] at hread ⊢
  have htake : (tag ++ d :: s).takeWhile (fun c => !endsTagName c) = tag := by
    rw [List.takeWhile_append_of_pos hplain, List.takeWhile_cons_of_neg (by simp [hd]),
      List.append_nil]
  have hdrop : (tag ++ d :: s).dropWhile (fun c => !endsTagName c) = d :: s := by
    rw [List.dropWhile_append_of_pos hplain, List.dropWhile_cons_of_neg (by simp [hd])]
  cases tag with
  | nil => cases hletter
  | cons c tag =>
      have hc : c.isLetter = true := hletter
      rw [List.cons_append] at htake hdrop ⊢
      rw [startTag?, if_pos hc]
      dsimp only
      rw [htake, hdrop, hread]
      rfl

theorem atTags_startTag? : AtTags startTag? where
  opens {s a} h := by
    unfold startTag? at h
    split at h
    · rfl
    · cases h

end Text

/-! ## Legible markup -/

namespace Token

/-- The element that a token opens and its attributes. -/
def opening? : Token → Option (Text × List Attribute)
  | start tag attributes | empty tag attributes => some (tag, attributes)
  | _ => none

/-- Whether a token is taken over as it is. -/
def isVerbatim : Token → Bool
  | verbatim _ => true
  | _ => false

/-- Whether a token is tidy and has names that are names. -/
def isLegible (t : Token) : Bool :=
  t.isTidy && t.opening?.all fun tag =>
    Text.isTagName tag.1 && tag.2.all fun a => Text.isAttributeName a.1

/-- **What is read at a token** is the tag that it is. -/
theorem startTag?_tag {t : Token} (h : t.isLegible = true) (rest : Text) :
    (t.tag?.bind fun tag => Text.startTag? (tag ++ rest)) = t.opening? := by
  rw [isLegible, Bool.and_eq_true] at h
  obtain ⟨htidy, hnames⟩ := h
  cases t with
  | text s => rfl
  | reference name => rfl
  | layout s => rfl
  | stop name => rfl
  | verbatim s =>
      obtain rfl : s = "<!DOCTYPE html>" := beq_iff_eq.mp htidy
      rfl
  | start tag attributes =>
      rw [opening?, Option.all_some, Bool.and_eq_true] at hnames
      have hread := Text.startTag?_render hnames.1 hnames.2 (.inl rfl) rest
      simpa [tag?, render, opening?, Text.ofString, Text.ofChars] using hread
  | empty tag attributes =>
      rw [opening?, Option.all_some, Bool.and_eq_true] at hnames
      have hread := Text.startTag?_render hnames.1 hnames.2 (.inr rfl) rest
      simpa [tag?, render, opening?, Text.ofString, Text.ofChars] using hread

end Token

namespace Markup

variable {α : Type} {m n : Markup}

/-- All tokens are tidy, and names are names. -/
def Legible (m : Markup) : Prop := ∀ t ∈ m, t.isLegible = true

theorem legible_of_all (h : m.all Token.isLegible = true) : m.Legible := List.all_eq_true.mp h

theorem Legible.tidy (h : m.Legible) : m.Tidy :=
  fun t ht => (Bool.and_eq_true_iff.mp (h t ht)).1

theorem legible_append (hm : m.Legible) (hn : n.Legible) : Legible (m ++ n) :=
  List.forall_mem_append.mpr ⟨hm, hn⟩

theorem legible_flatMap {l : List α} {f : α → Markup} (h : ∀ a ∈ l, (f a).Legible) :
    Legible (l.flatMap f) := List.forall_mem_flatMap.mpr h

theorem Legible.line (hm : m.Legible) (depth : Nat) : Legible (line depth m) := by
  have hblanks : (Token.layout (List.replicate (4 * depth) (.char ' '))).isLegible = true := by
    simp [Token.isLegible, Token.isTidy, Token.isPlain, Token.opening?]
  have hindent : Legible [.layout (List.replicate (4 * depth) (.char ' '))] :=
    List.forall_mem_singleton.mpr hblanks
  exact legible_append (legible_append hindent hm) (legible_of_all rfl)

/-- The values of the attributes with one of the names in markup, in order. -/
def values (names : List Text) (m : Markup) : List Text :=
  (m.filterMap Token.opening?).flatMap fun tag => Text.valuesOf names tag.2

theorem values_append (names : List Text) (m n : Markup) :
    values names (m ++ n) = m.values names ++ n.values names := by
  rw [values, List.filterMap_append, List.flatMap_append]
  rfl

theorem values_flatMap (names : List Text) (l : List α) (f : α → Markup) :
    values names (l.flatMap f) = l.flatMap fun a => values names (f a) := by
  rw [values, List.filterMap_flatMap, List.flatMap_assoc]
  rfl

@[simp] theorem values_line (names : List Text) (depth : Nat) (m : Markup) :
    values names (Markup.line depth m) = m.values names := by
  have hline : Markup.line depth m
      = [.layout (List.replicate (4 * depth) (.char ' '))] ++ m ++ [.layout "\n"] := rfl
  rw [hline, values_append, values_append]
  exact List.append_nil _

/-- **The values that are read off a page are those of its markup.** -/
theorem values_render (names : List Text) (hm : m.Legible) :
    Text.values names (render m) = m.values names := by
  have hread : m.readFrom Text.startTag? = m.filterMap Token.opening? := by
    induction m with
    | nil => rfl
    | cons t m ih =>
        rw [readFrom, ih fun u hu => hm u (List.mem_cons_of_mem _ hu),
          Token.startTag?_tag (hm t List.mem_cons_self), List.filterMap_cons]
        cases t.opening? <;> rfl
  rw [Text.values, readAll_render_eq Text.atTags_startTag? hm.tidy, hread, values]

/-- The reader takes tags in whatever way they are written. -/
example :
    Text.values ["href", "src"]
      "<a href=\"#x&amp;\"> <img alt src = 'y' /><a href=z>< a href=w>"
    = (["#x&", "y", "z"] : List Text) := by
  decide +kernel

/-! ## What is taken over verbatim -/

/-- Markup without what is taken over verbatim. -/
def withoutVerbatim (m : Markup) : Markup := m.filter fun t => !t.isVerbatim

/-- What is taken over verbatim has no part in the values of markup. -/
theorem values_withoutVerbatim (names : List Text) (m : Markup) :
    m.withoutVerbatim.values names = m.values names := by
  have hopening : m.withoutVerbatim.filterMap Token.opening? = m.filterMap Token.opening? := by
    rw [withoutVerbatim, List.filterMap_filter]
    refine congrArg (List.filterMap · m) (funext fun t => ?_)
    cases t <;> rfl
  rw [values, values, hopening]

theorem legible_withoutVerbatim (h : ∀ t ∈ m, t.isVerbatim = true ∨ t.isLegible = true) :
    m.withoutVerbatim.Legible := by
  intro t ht
  obtain ⟨hmem, hkept⟩ := List.mem_filter.mp ht
  refine (h t hmem).resolve_left fun hverbatim => ?_
  rw [hverbatim] at hkept
  cases hkept

end Markup

end CivicSite
