import CivicSite.Proofs.Page.Blocks
import CivicSite.Proofs.Page.Tag
import Mathlib.Data.List.Basic

/-!
# The text of blocks

A block of a page is what stands between its start tag and the next end tag of its element. It is
read off a page with all that is in it: texts, attributes and the tags of other elements. Markup is
whole if each block that begins in it ends in it (`Markup.Whole`); what is read off whole markup
does not depend on what is written after it, so a page is read part by part.
-/

namespace CivicSite

open Markup

/-! ## Splitting texts -/

namespace Text

/-- A text split at the first place where `needle` stands in it: what comes before and after it. -/
def splitAt? (needle : Text) : Text → Option (Text × Text)
  | [] => none
  | c :: rest =>
    if needle.isPrefixOf (c :: rest) then some ([], (c :: rest).drop needle.length)
    else (splitAt? needle rest).map fun (before, after) => (c :: before, after)

/-- A tag that holds nothing but a name. -/
def bareTag (name : Text) : Text := "<" ++ name ++ ">"

/-- Whether a text begins with a tag is decided where the tag that it begins with is closed. -/
theorem isPrefixOf_concat_append {front : Text} {c : CodePoint} (hc : c ∉ front) {s : Text}
    (hs : c ∈ s) (rest : Text) :
    (front ++ [c]).isPrefixOf (s ++ rest) = (front ++ [c]).isPrefixOf s := by
  induction front generalizing s with
  | nil =>
      cases s with
      | nil => cases hs
      | cons d s => rfl
  | cons a front ih =>
      obtain ⟨hne, hc⟩ := List.ne_and_not_mem_of_not_mem_cons hc
      cases s with
      | nil => cases hs
      | cons d s =>
          rw [List.cons_append, List.cons_append, List.isPrefixOf, List.isPrefixOf]
          by_cases had : a = d
          · have hlater : c ∈ s :=
              (List.mem_cons.mp hs).resolve_left fun h => hne (h.trans had.symm)
            rw [ih hc hlater]
          · rw [beq_false_of_ne had, Bool.false_and, Bool.false_and]

theorem splitAt?_self {needle : Text} (h : needle ≠ []) (rest : Text) :
    splitAt? needle (needle ++ rest) = some ([], rest) := by
  obtain ⟨c, needle, rfl⟩ := List.exists_cons_of_ne_nil h
  have hbegin : List.isPrefixOf (c :: needle) (c :: (needle ++ rest)) = true :=
    List.isPrefixOf_iff_prefix.mpr (List.prefix_append (c :: needle) rest)
  have hdrop : List.drop (c :: needle).length (c :: (needle ++ rest)) = rest :=
    List.drop_left
  rw [List.cons_append, splitAt?, if_pos hbegin, hdrop]

/-- A tag stands nowhere before the next angle bracket. -/
theorem splitAt?_append_of_not_mem {s : Text} (hs : .char '<' ∉ s) (name rest : Text) :
    splitAt? (bareTag name) (s ++ rest)
      = (splitAt? (bareTag name) rest).map fun p => (s ++ p.1, p.2) := by
  induction s with
  | nil =>
      rw [List.nil_append]
      cases splitAt? (bareTag name) rest <;> rfl
  | cons c s ih =>
      obtain ⟨hc, hs⟩ := List.ne_and_not_mem_of_not_mem_cons hs
      have hbegin : ¬(bareTag name).isPrefixOf (c :: (s ++ rest)) = true :=
        fun h => hc (Option.some.inj (head?_of_isPrefixOf h)).symm
      rw [List.cons_append, splitAt?, if_neg hbegin, ih hs, Option.map_map]
      rfl

end Text

/-- Whether a token is tidy, and is not the tag with a name and nothing else. -/
def Token.isApart (name : Text) (t : Token) : Bool :=
  t.isTidy && t.tag?.all fun tag => !(Text.bareTag name).isPrefixOf tag

namespace Markup

variable {α : Type} {name : Text} {m n : Markup}

/-- A tag with a name and nothing else is none of the tags of markup. -/
def Apart (name : Text) (m : Markup) : Prop := ∀ t ∈ m, t.isApart name = true

theorem apart_of_all (h : m.all (Token.isApart name) = true) : Apart name m :=
  List.all_eq_true.mp h

theorem Apart.tidy (h : Apart name m) : m.Tidy :=
  fun t ht => (Bool.and_eq_true_iff.mp (h t ht)).1

theorem apart_append (hm : Apart name m) (hn : Apart name n) : Apart name (m ++ n) :=
  List.forall_mem_append.mpr ⟨hm, hn⟩

theorem apart_flatMap {l : List α} {f : α → Markup} (h : ∀ a ∈ l, Apart name (f a)) :
    Apart name (l.flatMap f) := List.forall_mem_flatMap.mpr h

/-- **A tag that is none of the tags of markup stands nowhere in it.** -/
theorem splitAt?_render (hname : .char '>' ∉ name) (hm : Apart name m) (rest : Text) :
    Text.splitAt? (Text.bareTag name) (render m ++ rest)
      = (Text.splitAt? (Text.bareTag name) rest).map fun p => (render m ++ p.1, p.2) := by
  induction m with
  | nil =>
      have hnil : render [] ++ rest = rest := rfl
      rw [hnil]
      cases Text.splitAt? (Text.bareTag name) rest <;> rfl
  | cons t m ih =>
      obtain ⟨ht, hlater⟩ := List.forall_mem_cons.mp hm
      rw [Token.isApart, Bool.and_eq_true] at ht
      have hrender : render (t :: m) = t.render ++ render m := rfl
      rcases Token.render_of_isTidy ht.1 with ⟨-, hplain⟩ | ⟨inner, htag, hinner, hplain, hclose⟩
      · rw [hrender, List.append_assoc, Text.splitAt?_append_of_not_mem hplain, ih hlater,
          Option.map_map]
        exact congrArg (Option.map · _) (funext fun p => by simp)
      · -- the tag could begin at this angle bracket only, and what begins there is closed first
        have hfront : .char '>' ∉ CodePoint.char '<' :: name :=
          List.not_mem_cons_of_ne_of_not_mem (by decide) hname
        have hthis : (Text.bareTag name).isPrefixOf (.char '<' :: inner) = false := by
          simpa [htag] using ht.2
        have hbegin : (Text.bareTag name).isPrefixOf (.char '<' :: inner ++ (render m ++ rest))
            = false :=
          (Text.isPrefixOf_concat_append hfront (List.mem_cons_of_mem _ hclose) _).trans hthis
        rw [hrender, hinner, List.append_assoc, List.cons_append, Text.splitAt?,
          if_neg (by rw [← List.cons_append, hbegin]; exact Bool.false_ne_true),
          Text.splitAt?_append_of_not_mem hplain, ih hlater, Option.map_map, Option.map_map]
        exact congrArg (Option.map · _) (funext fun p => by simp)

end Markup

/-! ## Blocks -/

/-- The name of the end tag of a block. -/
def Kind.closing (k : Kind) : Text := "/" ++ k.element

/-- The block that a text begins with, up to its end tag. -/
def pieceAt (s : Text) : Option (Kind × Text) :=
  (blockAt s).bind fun k =>
    (Text.splitAt? (Text.bareTag k.closing) s).map fun p => (k, p.1 ++ Text.bareTag k.closing)

theorem atTags_pieceAt : Text.AtTags pieceAt where
  opens h := by
    obtain ⟨k, hk, -⟩ := Option.bind_eq_some_iff.mp h
    exact byTags_blockAt.opens hk

namespace Text

/-- The blocks in the body of a page with what is written in them, in order. -/
def pieces (page : Text) : List (Kind × Text) := readAll pieceAt (body page)

/-- The blocks of one kind in the body of a page, in order. -/
def blocksOf (page : Text) (k : Kind) : List Text :=
  (page.pieces.filter (·.1 == k)).map (·.2)

/-- The heading of a block, as it is written. -/
def heading? (block : Text) : Option Text :=
  (splitAt? (bareTag "h2") block).bind fun p => (splitAt? (bareTag "/h2") p.2).map (·.1)

/-- The id of the element that a text begins with. -/
def id? (block : Text) : Option Text :=
  (startTag? block).bind fun tag => (valuesOf ["id"] tag.2).head?

/-- The heading and the id of a block. -/
def label (block : Text) : Option Text × Option Text := (block.heading?, block.id?)

end Text

namespace Markup

variable {α : Type} {m n : Markup}

/-- The blocks of markup with what is written in them. -/
def pieces (m : Markup) : List (Kind × Text) := m.readFrom pieceAt

/-- Markup in which each block that begins also ends, so that what is written after it does not
matter. -/
structure Whole (m : Markup) : Prop where
  tidy : m.Tidy
  reads : ∀ rest, pieces (m ++ rest) = m.pieces ++ pieces rest

theorem Whole.append (hm : m.Whole) (hn : n.Whole) : Whole (m ++ n) where
  tidy := tidy_append hm.tidy hn.tidy
  reads rest := by
    rw [List.append_assoc, hm.reads, hn.reads, hm.reads, List.append_assoc]

theorem whole_flatMap {l : List α} {f : α → Markup} (h : ∀ a ∈ l, (f a).Whole) :
    Whole (l.flatMap f) ∧ pieces (l.flatMap f) = l.flatMap fun a => pieces (f a) := by
  induction l with
  | nil => exact ⟨⟨nofun, fun _ => rfl⟩, rfl⟩
  | cons a l ih =>
      obtain ⟨hfirst, hlater⟩ := List.forall_mem_cons.mp h
      obtain ⟨hwhole, hpieces⟩ := ih hlater
      rw [List.flatMap_cons, List.flatMap_cons, hfirst.reads, hpieces]
      exact ⟨hfirst.append hwhole, rfl⟩

/-- Where no block begins none is read, whatever follows. -/
theorem pieces_append_of_blocks (hm : m.Tidy) (h : m.blocks = []) (rest : Markup) :
    pieces (m ++ rest) = pieces rest := by
  induction m with
  | nil => rfl
  | cons t m ih =>
      have hthis : blocks [t] ++ blocks m = [] := (blocks_append [t] m).symm.trans h
      obtain ⟨hnone, hlater⟩ := List.append_eq_nil_iff.mp hthis
      have hrest := ih (fun u hu => hm u (List.mem_cons_of_mem _ hu)) hlater
      have hread : (t.tag?.bind fun tag => pieceAt (tag ++ render (m ++ rest))) = none := by
        rcases Token.render_of_isTidy (hm t List.mem_cons_self) with
          ⟨htag, -⟩ | ⟨inner, htag, -, -, hclose⟩
        · rw [htag]
          rfl
        · have hblock : blockAt (.char '<' :: inner) = none := by
            rw [blocks, tags, List.filterMap_cons_some htag] at hnone
            cases hb : blockAt (.char '<' :: inner) with
            | none => rfl
            | some k =>
                rw [List.filterMap_cons_some hb] at hnone
                cases hnone
          rw [htag, Option.bind_some, pieceAt, byTags_blockAt.closes
            (List.mem_cons_of_mem _ hclose), hblock, Option.bind_none]
      rw [List.cons_append, pieces, readFrom, hread]
      exact hrest

theorem whole_of_blocks (hm : m.Tidy) (h : m.blocks = []) : m.Whole ∧ m.pieces = [] := by
  have hnone : m.pieces = [] := by
    have hread := pieces_append_of_blocks hm h []
    rwa [List.append_nil] at hread
  refine ⟨⟨hm, fun rest => ?_⟩, hnone⟩
  rw [pieces_append_of_blocks hm h, hnone, List.nil_append]

/-- A block around markup. -/
def around (k : Kind) (attributes : List Attribute) (inner after : Markup) : Markup :=
  line 1 [.start k.element attributes] ++ inner ++ line 1 [.stop k.element] ++ after

/-- A block up to its end tag. -/
def enclosed (k : Kind) (attributes : List Attribute) (inner : Markup) : Markup :=
  .start k.element attributes :: .layout "\n" :: inner
    ++ [.layout (List.replicate (4 * 1) (.char ' '))]

variable {k : Kind} {attributes : List Attribute} {inner after : Markup}

theorem apart_enclosed {name : Text}
    (hstart : (Token.start k.element attributes).isApart name = true)
    (hinner : Apart name inner) : Apart name (enclosed k attributes inner) := by
  have hopen : Apart name [.start k.element attributes, .layout "\n"] :=
    List.forall_mem_cons.mpr ⟨hstart, apart_of_all rfl⟩
  exact apart_append (apart_append hopen hinner) (apart_of_all rfl)

/-- A block is read up to the first end tag of its element, if that is its own. -/
theorem pieceAt_enclosed (hstart : (Token.start k.element attributes).isApart k.closing = true)
    (hk : blockAt (Token.start k.element attributes).render = some k)
    (hinner : Apart k.closing inner) (rest : Text) :
    let text := render (enclosed k attributes inner) ++ Text.bareTag k.closing
    pieceAt (text ++ rest) = some (k, text) := by
  have hclosing : .char '>' ∉ k.closing := by cases k <;> decide
  have hclosed : .char '>' ∈ (Token.start k.element attributes).render :=
    List.mem_append_right _ (by decide)
  intro text
  have hblock : blockAt (text ++ rest) = some k := by
    have hwritten : text ++ rest = (Token.start k.element attributes).render
        ++ (render (.layout "\n" :: inner ++ [.layout (List.replicate (4 * 1) (.char ' '))])
          ++ Text.bareTag k.closing ++ rest) := by
      simp [text, enclosed, render]
    rw [hwritten, byTags_blockAt.closes hclosed, hk]
  have hsplit : Text.splitAt? (Text.bareTag k.closing) (text ++ rest)
      = some (render (enclosed k attributes inner), rest) := by
    have hself : Text.splitAt? (Text.bareTag k.closing) (Text.bareTag k.closing ++ rest) = _ :=
      Text.splitAt?_self (List.cons_ne_nil _ _) rest
    rw [List.append_assoc, splitAt?_render hclosing (apart_enclosed hstart hinner), hself,
      Option.map_some, List.append_nil]
  rw [pieceAt, hblock, Option.bind_some, hsplit]
  rfl

/-- **A block is read with what is in it**, whatever is written after it. -/
theorem whole_around (hstart : (Token.start k.element attributes).isApart k.closing = true)
    (hk : blockAt (Token.start k.element attributes).render = some k)
    (hinner : Apart k.closing inner) (hblocks : inner.blocks = []) (hafter : after.Tidy)
    (hnone : after.blocks = []) :
    (around k attributes inner after).Whole ∧ (around k attributes inner after).pieces
      = [(k, render (enclosed k attributes inner) ++ Text.bareTag k.closing)] := by
  let text := render (enclosed k attributes inner) ++ Text.bareTag k.closing
  -- after its start tag no block begins, so the block is all that is read
  let following : Markup := [.layout "\n"] ++ inner ++ line 1 [.stop k.element] ++ after
  have htokens : around k attributes inner after
      = .layout (List.replicate (4 * 1) (.char ' ')) :: .start k.element attributes
        :: following := by
    simp [around, following, Markup.line]
  have hfollowing : Tidy following ∧ blocks following = [] := by
    have hstop : Tidy (line 1 [.stop k.element]) ∧ blocks (line 1 [.stop k.element]) = [] := by
      cases k <;> exact ⟨tidy_of_all rfl, rfl⟩
    refine ⟨tidy_append (tidy_append (tidy_append (tidy_of_all rfl) hinner.tidy) hstop.1) hafter,
      ?_⟩
    rw [blocks_append, blocks_append, blocks_append, hblocks, hstop.2, hnone]
    rfl
  have hreads (rest : Markup) : pieces (around k attributes inner after ++ rest)
      = (k, text) :: pieces rest := by
    have hwritten : (Token.start k.element attributes).render ++ render (following ++ rest)
        = text ++ render ([.layout "\n"] ++ after ++ rest) := by
      simp [following, text, enclosed, render, Markup.line, Token.render, Text.bareTag,
        Kind.closing, Text.ofString, Text.ofChars]
    have hpiece : pieceAt ((Token.start k.element attributes).render ++ render (following ++ rest))
        = some (k, text) := by
      rw [hwritten]
      exact pieceAt_enclosed hstart hk hinner _
    have hstep : pieces (around k attributes inner after ++ rest)
        = (pieceAt ((Token.start k.element attributes).render ++ render (following ++ rest))).toList
          ++ pieces (following ++ rest) := by
      rw [htokens]
      rfl
    rw [hstep, hpiece, pieces_append_of_blocks hfollowing.1 hfollowing.2 rest]
    rfl
  have hpieces : (around k attributes inner after).pieces = [(k, text)] := by
    have hread := hreads []
    rwa [List.append_nil] at hread
  have htidy : (around k attributes inner after).Tidy := by
    rw [htokens]
    refine List.forall_mem_cons.mpr ⟨rfl, List.forall_mem_cons.mpr ⟨?_, hfollowing.1⟩⟩
    exact (Bool.and_eq_true_iff.mp hstart).1
  refine ⟨⟨htidy, fun rest => ?_⟩, hpieces⟩
  rw [hreads, hpieces, List.singleton_append]

/-! ## Heading and id -/

/-- The heading of a block is the one that it begins with. -/
theorem heading?_enclosed (hstart : (Token.start k.element attributes).isApart "h2" = true)
    (title : Text) (more : Markup) (rest : Text) :
    Text.heading?
        (render (enclosed k attributes (line 2 (textElement "h2" [] title) ++ more)) ++ rest)
      = some (escapeText title) := by
  let before : Markup := [.start k.element attributes, .layout "\n",
    .layout (List.replicate (4 * 2) (.char ' '))]
  have hbefore : Apart "h2" before := List.forall_mem_cons.mpr ⟨hstart, apart_of_all rfl⟩
  obtain ⟨after, hafter⟩ : ∃ after : Text,
      render (enclosed k attributes (line 2 (textElement "h2" [] title) ++ more)) ++ rest
        = render before ++ (Text.bareTag "h2" ++ (escapeText title
          ++ (Text.bareTag "/h2" ++ after))) :=
    ⟨render ([.layout "\n"] ++ more ++ [.layout (List.replicate (4 * 1) (.char ' '))]) ++ rest, by
      simp [before, enclosed, render, Markup.line, textElement, element, Token.render, Text.bareTag,
        Text.ofString, Text.ofChars]⟩
  have hopen : .char '<' ∉ escapeText title := not_mem_escapeText (.inl rfl) title
  have hname : CodePoint.char '>' ∉ ("h2" : Text) := by decide
  rw [hafter, Text.heading?, splitAt?_render hname hbefore, Text.splitAt?_self (by decide),
    Option.map_some, Option.bind_some, Text.splitAt?_append_of_not_mem hopen,
    Text.splitAt?_self (by decide)]
  simp

/-- The id of a block is that of its element. -/
theorem id?_enclosed (hattributes : (attributes.all fun a => Text.isAttributeName a.1) = true)
    (inner : Markup) (rest : Text) :
    Text.id? (render (enclosed k attributes inner) ++ rest)
      = (Text.valuesOf ["id"] attributes).head? := by
  obtain ⟨after, hafter⟩ : ∃ after : Text, render (enclosed k attributes inner) ++ rest
      = .char '<'
        :: (k.element ++ (attributes.flatMap renderAttribute ++ ((">" : Text) ++ after))) :=
    ⟨render (.layout "\n" :: inner ++ [.layout (List.replicate (4 * 1) (.char ' '))]) ++ rest, by
      simp [enclosed, render, Token.render, Text.ofString, Text.ofChars]⟩
  have hname : Text.isTagName k.element = true := by cases k <;> decide
  rw [hafter, Text.id?, Text.startTag?_render hname hattributes (.inl rfl), Option.bind_some]

/-! ## Parts that are one block -/

/-- Markup that is one block of a kind. -/
structure IsBlock (k : Kind) (m : Markup) : Prop extends Whole m where
  one : ∃ text, m.pieces = [(k, text)]

/-- Markup that is one block of a kind, with the heading and the id that are given. -/
structure IsTitled (k : Kind) (title id : Text) (m : Markup) : Prop extends Whole m where
  one : ∃ text : Text, m.pieces = [(k, text)] ∧ text.label = (some (escapeText title), some id)

theorem IsTitled.isBlock {title id : Text} (h : IsTitled k title id m) : IsBlock k m := by
  obtain ⟨text, htext, -⟩ := h.one
  exact ⟨h.toWhole, text, htext⟩

/-- What is asked of a block: it starts and ends like one of its kind, no other block begins in it,
and its end tag is the first one of its element. -/
theorem whole_of_content {content : Markup}
    (hm : m = content ++ line 1 [.stop k.element] ++ after)
    (hcontent : content = line 1 [.start k.element attributes] ++ inner)
    (hk : blockAt (Token.start k.element attributes).render = some k)
    (hapart : Apart k.closing content) (hblocks : m.blocks = [k])
    (hafter : after = [] ∨ after = blankLine) :
    m.Whole ∧ m.pieces
      = [(k, render (enclosed k attributes inner) ++ Text.bareTag k.closing)] := by
  have htail : after.Tidy ∧ after.blocks = [] := by
    rcases hafter with rfl | rfl <;> exact ⟨tidy_of_all rfl, rfl⟩
  subst hm hcontent
  have hstart : (Token.start k.element attributes).isApart k.closing = true :=
    hapart _ (List.mem_append_left _ (List.mem_cons_of_mem _ List.mem_cons_self))
  have hinner : Apart k.closing inner := fun t ht => hapart t (List.mem_append_right _ ht)
  have hopening : blocks (line 1 [.start k.element attributes]) = [k] := by
    have htag : tags [.start k.element attributes] = [(Token.start k.element attributes).render] :=
      rfl
    rw [blocks_line, blocks, htag, List.filterMap_cons_some hk]
    rfl
  have hnone : inner.blocks = [] := by
    rw [blocks_append, blocks_append, blocks_append, hopening, List.append_assoc,
      List.append_assoc] at hblocks
    have hrest : inner.blocks ++ _ = [] := (List.cons.inj hblocks).2
    exact (List.append_eq_nil_iff.mp hrest).1
  exact whole_around hstart hk hinner hnone htail.1 htail.2

theorem isBlock_of_content {content : Markup}
    (hm : m = content ++ line 1 [.stop k.element] ++ after)
    (hcontent : content = line 1 [.start k.element attributes] ++ inner)
    (hk : blockAt (Token.start k.element attributes).render = some k)
    (hapart : Apart k.closing content) (hblocks : m.blocks = [k])
    (hafter : after = [] ∨ after = blankLine) : IsBlock k m := by
  obtain ⟨hwhole, hpieces⟩ := whole_of_content hm hcontent hk hapart hblocks hafter
  exact ⟨hwhole, _, hpieces⟩

/-- A block with an id that begins with a heading. -/
theorem isTitled_of_content {content more : Markup} {cls id title : Text}
    (hm : m = content ++ line 1 [.stop k.element]) (helement : k.element = "section")
    (hcontent : content = line 1 [.start k.element [attr "class" cls, attr "id" id]]
      ++ (line 2 (textElement "h2" [] title) ++ more))
    (hk : blockAt (Token.start k.element [attr "class" cls, attr "id" id]).render = some k)
    (hapart : Apart k.closing content) (hblocks : m.blocks = [k]) : IsTitled k title id m := by
  have hstart : (Token.start k.element [attr "class" cls, attr "id" id]).isApart "h2" = true := by
    rw [helement]
    rfl
  obtain ⟨hwhole, hpieces⟩ := whole_of_content (hm.trans (List.append_nil _).symm) hcontent hk
    hapart hblocks (.inl rfl)
  refine ⟨hwhole, _, hpieces, ?_⟩
  rw [Text.label, heading?_enclosed hstart title more, id?_enclosed rfl]
  rfl

/-! ## Pages -/

/-- The blocks of a kind on a page are those of its sections of this kind, if each section is a
block of its kind. -/
theorem blocksOf_sections {page : Text} {views : List Section} {f : Section → Markup}
    (hpage : page.pieces = pieces (views.flatMap f)) (h : ∀ v ∈ views, IsBlock v.kind (f v))
    (k : Kind) : page.blocksOf k
      = (views.filter (·.kind == k)).flatMap fun v => (f v).pieces.map (·.2) := by
  rw [Text.blocksOf, hpage, (whole_flatMap fun v hv => (h v hv).toWhole).2]
  clear hpage
  induction views with
  | nil => rfl
  | cons v views ih =>
      obtain ⟨hfirst, hlater⟩ := List.forall_mem_cons.mp h
      obtain ⟨text, htext⟩ := hfirst.one
      rw [List.flatMap_cons, List.filter_append, List.map_append, ih hlater, htext,
        List.filter_singleton, List.filter_cons]
      cases v.kind == k with
      | true => rw [if_pos rfl, List.flatMap_cons, htext, cond_true, List.map_singleton]
      | false => rfl

/-- A page has a block for each section. -/
theorem kinds_sections {views : List Section} {f : Section → Markup}
    (h : ∀ v ∈ views, IsBlock v.kind (f v)) :
    (pieces (views.flatMap f)).map (·.1) = views.map Section.kind := by
  rw [(whole_flatMap fun v hv => (h v hv).toWhole).2, List.map_flatMap, List.map_eq_flatMap]
  refine List.flatMap_congr fun v hv => ?_
  obtain ⟨text, htext⟩ := (h v hv).one
  rw [htext]
  rfl

/-- **The blocks of a page are those of its body**, with what is written in them. -/
theorem pieces_render (before : Markup)
    (hattributes : (attributes.all fun a => Token.isPlain a.1) = true) (hm : m.Tidy)
    (hbody : countOf "body" m = 0) :
    Text.pieces (render (before ++ (line 0 [.start "body" attributes] ++ m))) = m.pieces := by
  have hopen : Tidy [.start "body" attributes, .layout "\n"] :=
    List.forall_mem_cons.mpr ⟨Bool.and_eq_true_iff.mpr ⟨rfl, hattributes⟩, tidy_of_all rfl⟩
  have hread : Text.readAll pieceAt (render ([.start "body" attributes, .layout "\n"] ++ m)) = _ :=
    readAll_render_eq atTags_pieceAt (tidy_append hopen hm)
  rw [Text.pieces, body_render before hattributes hm hbody]
  exact hread.trans (pieces_append_of_blocks hopen rfl m)

end Markup

end CivicSite
