import CivicSite.Page.Preview
import CivicSite.Proofs.Page.Reading

/-!
# The elements and blocks of pages

Which elements open in the parts of pages, and which blocks begin there. Three elements belong to a
page as a whole: its body, header and footer. A part that opens none of them is an *inner* one; all
blocks other than header and footer are, whatever texts they show. With that the frame of the
published pages and the preview are taken apart: what comes before the body, and what is in it.
-/

namespace CivicSite

/-! ## Elements -/

/-- The name of the element that a token opens. -/
def Token.opens? : Token → Option Text
  | .start name _ | .empty name _ => some name
  | _ => none

namespace Markup

variable {α : Type} {m n : Markup} {name : Text}

/-- The names of the elements that open in markup, in order. -/
def elements (m : Markup) : List Text := m.filterMap Token.opens?

/-- How many elements open in markup whose name begins as given. -/
def countOf (name : Text) (m : Markup) : Nat := (elements m).countP (name.isPrefixOf ·)

theorem elements_append (m n : Markup) : elements (m ++ n) = m.elements ++ n.elements :=
  List.filterMap_append ..

theorem countOf_append (name : Text) (m n : Markup) :
    countOf name (m ++ n) = countOf name m + countOf name n := by
  rw [countOf, elements_append, List.countP_append]
  rfl

theorem countOf_flatMap_eq_zero {l : List α} {f : α → Markup} (h : ∀ a, countOf name (f a) = 0) :
    countOf name (l.flatMap f) = 0 := by
  induction l with
  | nil => rfl
  | cons a rest ih => rw [List.flatMap_cons, countOf_append, h a, ih]

/-- A name that ends where a tag's name does. -/
def IsName (name : Text) : Prop :=
  name ≠ [] ∧ ∀ c ∈ name, c ≠ .char ' ' ∧ c ≠ .char '>' ∧ c ≠ .char '/' ∧ c ≠ .char '!'

instance : DecidablePred IsName := fun name =>
  inferInstanceAs (Decidable (name ≠ [] ∧ ∀ c ∈ name, _))

/-- What follows a name in a start tag ends the name. -/
theorem isPrefixOf_tag (h : IsName name) (tag : Text) (attributes : List Attribute) {close : Text}
    (hclose : close = ">" ∨ close = " />") :
    name.isPrefixOf (tag ++ attributes.flatMap renderAttribute ++ close) = name.isPrefixOf tag := by
  have hspace : .char ' ' ∉ name := fun hc => (h.2 _ hc).1 rfl
  have hangle : .char '>' ∉ name := fun hc => (h.2 _ hc).2.1 rfl
  cases attributes with
  | nil =>
      rw [List.flatMap_nil, List.append_nil]
      rcases hclose with rfl | rfl
      · exact Text.isPrefixOf_append_cons hangle tag _
      · exact Text.isPrefixOf_append_cons hspace tag _
  | cons a rest =>
      obtain ⟨written, hwritten⟩ : ∃ written : Text,
          renderAttribute a = .char ' ' :: written := by
        obtain ⟨key, value?⟩ := a
        cases value? <;> exact ⟨_, rfl⟩
      rw [List.flatMap_cons, hwritten, List.append_assoc, List.cons_append, List.cons_append]
      exact Text.isPrefixOf_append_cons hspace tag _

/-- A name is found at the tags that open an element of that name. -/
theorem isPrefixOf_render (h : IsName name) {t : Token} (ht : t.isTidy = true) {tag : Text}
    (htag : t.tag? = some tag) :
    List.isPrefixOf (.char '<' :: name) tag = t.opens?.any (name.isPrefixOf ·) := by
  obtain ⟨a, rest, rfl⟩ := List.exists_cons_of_ne_nil h.1
  cases t with
  | text s => cases htag
  | reference s => cases htag
  | layout s => cases htag
  | start element attributes =>
      obtain rfl := Option.some.inj htag
      exact isPrefixOf_tag h element attributes (.inl rfl)
  | empty element attributes =>
      obtain rfl := Option.some.inj htag
      exact isPrefixOf_tag h element attributes (.inr rfl)
  | stop element =>
      obtain rfl := Option.some.inj htag
      have hslash : (a == .char '/') = false := beq_false_of_ne (h.2 a List.mem_cons_self).2.2.1
      have hwritten : (Token.stop element).render
          = .char '<' :: .char '/' :: (element ++ (">" : Text)) := rfl
      rw [hwritten, List.isPrefixOf_cons_cons_self, List.isPrefixOf_cons_cons, hslash,
        Bool.false_and]
      rfl
  | verbatim s =>
      obtain rfl := Option.some.inj htag
      obtain rfl : s = "<!DOCTYPE html>" := beq_iff_eq.mp ht
      have hbang : (a == .char '!') = false := beq_false_of_ne (h.2 a List.mem_cons_self).2.2.2
      have hwritten : (Token.verbatim "<!DOCTYPE html>").render
          = .char '<' :: .char '!' :: "DOCTYPE html>" := rfl
      rw [hwritten, List.isPrefixOf_cons_cons_self, List.isPrefixOf_cons_cons, hbang,
        Bool.false_and]
      rfl

/-- A name is found in a token once if the token opens an element of that name, and else never. -/
theorem length_tags (h : IsName name) {t : Token} (ht : t.isTidy = true) :
    ((tags [t]).filterMap fun tag =>
      if List.isPrefixOf (.char '<' :: name) tag then some () else none).length
        = countOf name [t] := by
  cases htag : t.tag? with
  | none =>
      have hopens : t.opens? = none := by
        cases t <;> first | rfl | cases htag
      rw [tags, countOf, elements, List.filterMap_cons_none htag, List.filterMap_cons_none hopens]
      rfl
  | some tag =>
      have hbegin := isPrefixOf_render h ht htag
      rw [tags, countOf, elements, List.filterMap_cons_some htag, List.filterMap_cons, hbegin]
      cases hopens : t.opens? with
      | none =>
          rw [List.filterMap_cons_none hopens]
          rfl
      | some element =>
          rw [List.filterMap_cons_some hopens, Option.any_some]
          cases hp : name.isPrefixOf element <;> simp [hp]

/-- **A tag stands in a page as often as its element opens.** -/
theorem occurrences_render (h : IsName name) (hm : m.Tidy) :
    Text.occurrences ("<" ++ name) (render m) = countOf name m := by
  have hname : .char '>' ∉ name := fun hc => (h.2 _ hc).2.1 rfl
  rw [Text.occurrences]
  refine (congrArg _ (readAll_render (Text.byTags_start hname) hm)).trans ?_
  induction m with
  | nil => rfl
  | cons t m ih =>
      have hfirst := length_tags h (hm t List.mem_cons_self)
      have htags : tags (t :: m) = tags [t] ++ tags m := tags_append [t] m
      have hcount : countOf name (t :: m) = countOf name [t] + countOf name m :=
        countOf_append name [t] m
      rw [htags, List.filterMap_append, List.length_append, hfirst, hcount,
        ih fun u hu => hm u (List.mem_cons_of_mem _ hu)]

/-! ## Inner parts -/

/-- The elements that a page has as a whole. -/
def frameNames : List Text := ["body", "header", "footer"]

theorem forall_frameNames {P : Text → Prop} (hbody : P "body") (hheader : P "header")
    (hfooter : P "footer") : ∀ name ∈ frameNames, P name := by
  intro name h
  simp only [frameNames, List.mem_cons, List.not_mem_nil, or_false] at h
  rcases h with rfl | rfl | rfl
  · exact hbody
  · exact hheader
  · exact hfooter

/-- A part of a page that opens no element of the frame, and where tags open just where the markup
has them. -/
structure Inner (m : Markup) : Prop where
  tidy : m.Tidy
  outside : ∀ name ∈ frameNames, countOf name m = 0

/-- Whether a token has its place in an inner part. -/
def isInner (t : Token) : Bool :=
  t.isTidy && t.opens?.all fun element => frameNames.all fun name => !name.isPrefixOf element

theorem inner_of_all (h : m.all isInner = true) : Inner m := by
  have hm : ∀ t ∈ m, t.isTidy = true ∧
      (t.opens?.all fun element => frameNames.all fun name => !name.isPrefixOf element) = true :=
    fun t ht => Bool.and_eq_true_iff.mp (List.all_eq_true.mp h t ht)
  refine ⟨fun t ht => (hm t ht).1, fun name hname => ?_⟩
  rw [countOf, List.countP_eq_zero]
  intro element helement
  obtain ⟨t, ht, hopens⟩ := List.mem_filterMap.mp helement
  have hall := (hm t ht).2
  rw [hopens, Option.all_some] at hall
  have hnot := List.all_eq_true.mp hall name hname
  intro hbegin
  rw [hbegin] at hnot
  cases hnot

theorem inner_nil : Inner [] := inner_of_all rfl

theorem Inner.append (hm : m.Inner) (hn : n.Inner) : Inner (m ++ n) where
  tidy := tidy_append hm.tidy hn.tidy
  outside name hname := by rw [countOf_append, hm.outside name hname, hn.outside name hname]

theorem inner_flatMap {l : List α} {f : α → Markup} (h : ∀ a ∈ l, (f a).Inner) :
    Inner (l.flatMap f) := by
  induction l with
  | nil => exact inner_nil
  | cons a rest ih =>
      rw [List.flatMap_cons]
      exact (h a List.mem_cons_self).append (ih fun b hb => h b (List.mem_cons_of_mem _ hb))

/-- A line is inner whatever its depth. -/
theorem Inner.line (hm : m.Inner) (depth : Nat) : Inner (line depth m) := by
  have hblanks : isInner (.layout (List.replicate (4 * depth) (.char ' '))) = true := by
    simp [isInner, Token.isTidy, Token.isPlain, Token.opens?]
  have hindent : Inner [.layout (List.replicate (4 * depth) (.char ' '))] := by
    refine inner_of_all ?_
    rw [List.all_cons, hblanks]
    rfl
  exact (hindent.append hm).append (inner_of_all rfl)

/-! ## Where blocks begin -/

end Markup

/-- The element of a block. -/
def Kind.element : Kind → Text
  | .header => "header"
  | .footer => "footer"
  | _ => "section"

/-- How the block of a kind may begin in a page, up to its alignment. The published page and the
preview name the block of a map differently. -/
def Kind.openings : Kind → List Text
  | .map => ["<section class=\"map ", "<section class=\"map-section "]
  | k => ["<" ++ k.element ++ " class=\"" ++ k.name ++ " "]

/-- Whether a text begins with a block of a kind. -/
def Kind.begins (k : Kind) (s : Text) : Bool := k.openings.any (·.isPrefixOf s)

/-- The kind of the block that a text begins with. -/
def blockAt (s : Text) : Option Kind := Kind.all.find? (·.begins s)

/-- The blocks in the body of a page, in order. -/
def Text.blocks (page : Text) : List Kind := readAll blockAt (body page)

theorem openings_tag (k : Kind) :
    ∀ s ∈ k.openings, s.head? = some (.char '<') ∧ .char '>' ∉ s := by
  cases k <;> decide

theorem Kind.begins_append (k : Kind) {s : Text} (hs : .char '>' ∈ s) (rest : Text) :
    k.begins (s ++ rest) = k.begins s := by
  obtain ⟨inner, after, rfl⟩ := List.append_of_mem hs
  rw [Bool.eq_iff_iff, begins, begins, List.any_eq_true, List.any_eq_true]
  refine exists_congr fun opening => and_congr_right fun hopening => ?_
  have hopen := (openings_tag k opening hopening).2
  rw [List.append_assoc, List.cons_append, Text.isPrefixOf_append_cons hopen,
    Text.isPrefixOf_append_cons hopen]

theorem byTags_blockAt : Text.ByTags blockAt where
  opens {s k} h := by
    have hbegins : k.begins s = true :=
      List.find?_some (p := fun l : Kind => l.begins s) h
    obtain ⟨opening, hopening, hbegin⟩ := List.any_eq_true.mp hbegins
    have hhead := (openings_tag k opening hopening).1
    obtain ⟨rest, rfl⟩ := List.isPrefixOf_iff_prefix.mp hbegin
    rw [List.head?_append, hhead]
    rfl
  closes {s} hs rest :=
    congrArg (Kind.all.find? ·) (funext fun k => k.begins_append hs rest)

namespace Markup

variable {α : Type} {m n : Markup} {name : Text}

/-- The blocks that begin in markup, in order. -/
def blocks (m : Markup) : List Kind := m.tags.filterMap blockAt

theorem blocks_append (m n : Markup) : blocks (m ++ n) = m.blocks ++ n.blocks := by
  rw [blocks, tags_append, List.filterMap_append]
  rfl

@[simp] theorem blocks_line (depth : Nat) (m : Markup) : blocks (line depth m) = m.blocks := by
  have hline : line depth m
      = [.layout (List.replicate (4 * depth) (.char ' '))] ++ m ++ [.layout "\n"] := rfl
  rw [hline, blocks_append, blocks_append]
  exact List.append_nil _

theorem blocks_flatMap (l : List α) (f : α → Markup) :
    blocks (l.flatMap f) = l.flatMap fun a => blocks (f a) := by
  rw [blocks, tags_flatMap, List.filterMap_flatMap]
  rfl

theorem blocks_flatMap_eq_nil {l : List α} {f : α → Markup} (h : ∀ a, blocks (f a) = []) :
    blocks (l.flatMap f) = [] := by
  rw [blocks_flatMap]
  exact List.flatMap_eq_nil_iff.mpr fun a _ => h a

/-! ## The body of a page -/

/-- **The body of a page**, whatever stands before it. -/
theorem body_render (before : Markup) {attributes : List Attribute}
    (hattributes : (attributes.all fun a => Token.isPlain a.1) = true) (hm : m.Tidy)
    (hbody : countOf "body" m = 0) :
    Text.body (render (before ++ (line 0 [.start "body" attributes] ++ m)))
      = render (.start "body" attributes :: .layout "\n" :: m) := by
  have hwritten : render (before ++ (line 0 [.start "body" attributes] ++ m))
      = render before ++ render (.start "body" attributes :: .layout "\n" :: m) := by
    rw [render_append]
    rfl
  have hlater : Text.occurrences "<body" ("body" ++ attributes.flatMap renderAttribute ++ ">"
      ++ render (.layout "\n" :: m)) = 0 := by
    have hplain : .char '<' ∉ ("body" : Text) ++ attributes.flatMap renderAttribute ++ ">" :=
      List.not_mem_append (Token.not_mem_attributes (Bool.and_eq_true_iff.mpr ⟨rfl, hattributes⟩))
        (by decide)
    have hname : .char '>' ∉ ("body" : Text) := by decide
    have hline : Tidy [.layout "\n"] := tidy_of_all rfl
    have htidy : Tidy (.layout "\n" :: m) := tidy_append hline hm
    refine (congrArg List.length (Text.readAll_append_of_not_mem
      (Text.byTags_start hname).toAtTags hplain _)).trans ?_
    exact (occurrences_render (show IsName "body" by decide) htidy).trans hbody
  rw [Text.body, hwritten]
  refine Text.fromLast_append (render before) ?_ (Text.fromLast_eq_nil hlater)
  exact ⟨_, rfl⟩

/-- **The blocks of a page are those of its body.** -/
theorem blocks_render (before : Markup) {attributes : List Attribute}
    (hattributes : (attributes.all fun a => Token.isPlain a.1) = true) (hm : m.Tidy)
    (hbody : countOf "body" m = 0) :
    Text.blocks (render (before ++ (line 0 [.start "body" attributes] ++ m))) = m.blocks := by
  have hopen : Tidy [.start "body" attributes, .layout "\n"] := by
    refine tidy_of_all ?_
    rw [List.all_cons, Token.isTidy, hattributes]
    rfl
  have hread := readAll_render byTags_blockAt (tidy_append hopen hm)
  rw [tags_append, List.filterMap_append] at hread
  rw [Text.blocks, body_render before hattributes hm hbody]
  exact hread

end Markup

end CivicSite
