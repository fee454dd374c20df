import CivicSite.Proofs.Page.Order

/-!
# What texts cannot change

The outline of a page is the page with all texts and attribute values emptied. As those are written
without the four characters that open and close tags and quotations, a page has these characters
just where its outline does. And the outline does not depend on any text: it is made of the kinds of
the components, in their order, and the number of posts. So two websites that agree in these have
the same tags and quotations on their pages, whatever is written on them.

Where a page cannot be made at all, a text is to blame as well, but it is always the same one: the
id of a post that has no bytes in UTF-8 cannot become part of a link.
-/

namespace CivicSite

open Component (kinds)

/-! ## Marks -/

namespace Text

/-- The characters that tags and quotations begin and end with. -/
def isMark (c : CodePoint) : Bool := c == '<' || c == '>' || c == '"' || c == '\''

/-- The marks of a text, in order. -/
def marks (s : Text) : Text := s.filter isMark

theorem marks_append (s t : Text) : marks (s ++ t) = marks s ++ marks t := List.filter_append ..

theorem marks_flatMap {α : Type} (l : List α) (f : α → Text) :
    marks (l.flatMap f) = l.flatMap fun a => marks (f a) := by
  induction l with
  | nil => rfl
  | cons a rest ih => rw [List.flatMap_cons, marks_append, ih, List.flatMap_cons]

end Text

open Text (marks marks_append marks_flatMap)

theorem marks_escapePoint (c : CodePoint) : marks (escapePoint c) = [] := by
  unfold escapePoint
  by_cases hamp : (c == '&') = true
  · rw [if_pos hamp]
    decide
  by_cases hless : (c == '<') = true
  · rw [if_neg hamp, if_pos hless]
    decide
  by_cases hgreater : (c == '>') = true
  · rw [if_neg hamp, if_neg hless, if_pos hgreater]
    decide
  by_cases hquote : (c == '"') = true
  · rw [if_neg hamp, if_neg hless, if_neg hgreater, if_pos hquote]
    decide
  by_cases hsingle : (c == '\'') = true
  · rw [if_neg hamp, if_neg hless, if_neg hgreater, if_neg hquote, if_pos hsingle]
    decide
  rw [if_neg hamp, if_neg hless, if_neg hgreater, if_neg hquote, if_neg hsingle]
  refine List.filter_eq_nil_iff.mpr fun d hd => ?_
  obtain rfl := List.mem_singleton.mp hd
  simp [Text.isMark, hless, hgreater, hquote, hsingle]

/-- A text is written without marks. -/
theorem marks_escapeText (s : Text) : marks (escapeText s) = [] := by
  rw [escapeText, marks_flatMap]
  exact List.flatMap_eq_nil_iff.mpr fun c _ => marks_escapePoint c

/-! ## Outlines -/

/-- An attribute with its value emptied. -/
def outlineAttribute : Attribute → Attribute
  | (name, value?) => (name, value?.map fun _ => "")

namespace Token

/-- A token with its texts emptied. -/
def outline : Token → Token
  | start tag attributes => start tag (attributes.map outlineAttribute)
  | empty tag attributes => empty tag (attributes.map outlineAttribute)
  | text _ => text ""
  | t => t

theorem marks_outlineAttribute (a : Attribute) :
    marks (renderAttribute (outlineAttribute a)) = marks (renderAttribute a) := by
  obtain ⟨name, value?⟩ := a
  cases value? with
  | none => rfl
  | some value =>
      have hvalue : marks (escapeText value) = marks (escapeText "") :=
        (marks_escapeText value).trans (marks_escapeText "").symm
      simp only [outlineAttribute, Option.map_some, renderAttribute, marks_append, hvalue]

theorem marks_attributes (attributes : List Attribute) :
    marks ((attributes.map outlineAttribute).flatMap renderAttribute)
      = marks (attributes.flatMap renderAttribute) := by
  rw [marks_flatMap, marks_flatMap, List.flatMap_map]
  exact congrArg (attributes.flatMap ·) (funext marks_outlineAttribute)

theorem marks_outline (t : Token) : marks t.outline.render = marks t.render := by
  cases t with
  | start tag attributes => simp only [outline, render, marks_append, marks_attributes]
  | empty tag attributes => simp only [outline, render, marks_append, marks_attributes]
  | text s => exact (marks_escapeText "").trans (marks_escapeText s).symm
  | stop _ | reference _ | layout _ | verbatim _ => rfl

end Token

namespace Markup

variable {α β : Type}

/-- Markup with its texts emptied. -/
def outline (m : Markup) : Markup := m.map Token.outline

theorem outline_append (m n : Markup) : outline (m ++ n) = m.outline ++ n.outline :=
  List.map_append ..

theorem outline_flatMap (l : List α) (f : α → Markup) :
    outline (l.flatMap f) = l.flatMap fun a => outline (f a) :=
  List.map_flatMap ..

/-- Repeated markup has an outline that does not depend on what it is repeated for. -/
theorem outline_flatMap_const {f : α → Markup} {m : Markup} (h : ∀ a, outline (f a) = m)
    (l : List α) : outline (l.flatMap f) = (List.replicate l.length m).flatten := by
  rw [outline_flatMap]
  simp only [h]
  induction l with
  | nil => rfl
  | cons a rest ih => rw [List.flatMap_cons, ih, List.length_cons, List.replicate_succ,
      List.flatten_cons]

/-- **Pages with the same outline have the same marks.** -/
theorem marks_render_congr {m n : Markup} (h : m.outline = n.outline) :
    marks (render m) = marks (render n) := by
  have houtline (m : Markup) : marks (render m) = marks (render m.outline) := by
    rw [render, render, outline, marks_flatMap, marks_flatMap, List.flatMap_map]
    exact congrArg (m.flatMap ·) (funext fun t => (t.marks_outline).symm)
  rw [houtline m, houtline n, h]

end Markup

open Markup

/-! ## Sections without texts -/

namespace Section

/-- A section without its texts and its alignment. -/
def bare (v : Section) : Section := ⟨"", v.kind, .left, "", "", "", v.anchor, v.nav⟩

/-- The bare section of a component. -/
def ofKind (nav : List NavLink) (k : Kind) : Section :=
  ⟨"", k, .left, "", "", "", k.anchor?, if k == .header then nav else []⟩

/-- The bare sections of a page, which take no more than the kinds. -/
def ofKinds (ks : List Kind) : List Section :=
  keepFirstAnchors [] (ks.map (ofKind (navLinks ks)))

theorem bare_ofComponent (c : Component) (settlement : Text) (year : Int) (nav : List NavLink) :
    (ofComponent c settlement year nav).bare = ofKind nav c.kind := by
  obtain ⟨id, body, position, alignment⟩ := c
  cases body <;> rfl

theorem bare_keepFirstAnchors (seen : List Text) (views : List Section) :
    (keepFirstAnchors seen views).map bare = keepFirstAnchors seen (views.map bare) := by
  induction views generalizing seen with
  | nil => rfl
  | cons v rest ih =>
      obtain ⟨id, kind, alignment, title, subtitle, body, anchor, nav⟩ := v
      cases anchor with
      | none => exact congrArg (_ :: ·) (ih seen)
      | some a =>
          simp only [keepFirstAnchors, List.map_cons, bare]
          split
          · exact congrArg (_ :: ·) (ih seen)
          · exact congrArg (_ :: ·) (ih (a :: seen))

/-- **Without their texts the sections of a page follow from the kinds.** -/
theorem bare_ofComponents (settlement : Text) (cs : List Component) (year : Int) :
    (ofComponents settlement cs year).map bare = ofKinds (kinds (Component.byPosition cs)) := by
  rw [ofComponents, bare_keepFirstAnchors, ofKinds, kinds, List.map_map, List.map_map]
  refine congrArg (keepFirstAnchors []) (List.map_congr_left fun c _ => ?_)
  exact bare_ofComponent c settlement year _

theorem first?_bare (views : List Section) (k : Kind) :
    first? (views.map bare) k = (first? views k).map bare := by
  rw [first?, first?, List.find?_map]
  rfl

end Section

/-! ## Outlines of blocks -/

namespace Block

theorem outline_header (v : Section) (home : Text) :
    (header v home).outline = (header v.bare home).outline := rfl

theorem outline_footer (v : Section) : (footer v).outline = (footer v.bare).outline := rfl

/-- The outline of every card. -/
def cardOutline : Markup := (card ⟨"", "", "", "", "", "", ""⟩).outline

theorem outline_card (c : Card) : (card c).outline = cardOutline := rfl

/-- Of the cards, the outline shows how many there are. -/
theorem outline_cards {cs cs' : List Card} (h : cs.length = cs'.length) (depth : Nat)
    (none : Text) : (cards cs depth none).outline = (cards cs' depth none).outline := by
  have hempty : cs.isEmpty = cs'.isEmpty := by
    rw [Bool.eq_iff_iff, List.isEmpty_iff_length_eq_zero, List.isEmpty_iff_length_eq_zero, h]
  unfold cards
  rw [hempty]
  split
  · rfl
  · rw [outline_flatMap_const outline_card, outline_flatMap_const outline_card, h]

end Block

namespace Page

theorem outline_block (v : Section) : (block v).outline = (block v.bare).outline := by
  obtain ⟨id, kind, alignment, title, subtitle, body, anchor, nav⟩ := v
  cases kind <;> rfl

/-- What is laid out for sections shows as much of them as their bare forms do. -/
theorem outline_views {f g : Section → Markup} (h : ∀ v, (f v).outline = (g v.bare).outline)
    (views : List Section) :
    outline (views.flatMap f) = outline ((views.map Section.bare).flatMap g) := by
  rw [outline_flatMap, outline_flatMap, List.flatMap_map]
  exact congrArg (views.flatMap ·) (funext h)

variable {frame frame' : Frame} {views : List Section} {content content' : Markup}

theorem outline_framed (hhome : frame.home = frame'.home) (hmap : frame.hasMap = frame'.hasMap)
    (hcontent : content.outline = content'.outline) :
    (framed frame views content).outline
      = (framed frame' (views.map Section.bare) content').outline := by
  have htop : (top frame views).outline = (top frame' (views.map Section.bare)).outline := by
    unfold top
    rw [Section.first?_bare]
    cases Section.first? views .header with
    | none => rfl
    | some v => exact hhome ▸ Block.outline_header v frame.home
  have hbottom : (bottom views).outline = (bottom (views.map Section.bare)).outline := by
    unfold bottom
    rw [Section.first?_bare]
    cases Section.first? views .footer with
    | none => rfl
    | some v => exact Block.outline_footer v
  have hhead : (head frame).outline = (head frame').outline := by
    unfold head
    rw [hmap]
    rfl
  have hfoot : (foot frame).outline = (foot frame').outline := by
    unfold foot
    rw [hmap]
  rw [framed_eq, framed_eq]
  simp only [outline_append, hhead, htop, hcontent, hbottom, hfoot]
  rfl

/-- The outline of the first page follows from the kinds of the components. -/
theorem outline_index (settlement : Text) (views : List Section) :
    (index settlement views).outline = (index "" (views.map Section.bare)).outline := by
  refine outline_framed rfl ?_ (outline_views outline_block views)
  rw [Section.first?_bare, Option.isSome_map]

/-- The outline of the listing follows from the kinds of the components and the number of posts. -/
theorem outline_blog (settlement : Text) (views : List Section) {cs cs' : List Card}
    (h : cs.length = cs'.length) :
    (blog settlement views cs).outline = (blog "" (views.map Section.bare) cs').outline := by
  refine outline_framed rfl rfl ?_
  simp only [outline_append, Block.outline_cards h]
  rfl

/-! ## The outline of a preview -/

theorem outline_previewBlog (v : Section) {cs cs' : List Card} (h : cs.length = cs'.length)
    (remaining : Nat) :
    (previewBlog v cs remaining).outline = (previewBlog v.bare cs' remaining).outline := by
  simp only [previewBlog, outline_append, Block.outline_cards h]
  rfl

theorem outline_previewBlock (s s' : Settlement) {cs cs' : List Card} (h : cs.length = cs'.length)
    (remaining : Nat) (v : Section) : (previewBlock s cs remaining v).outline
      = (previewBlock s' cs' remaining v.bare).outline := by
  obtain ⟨id, kind, alignment, title, subtitle, body, anchor, nav⟩ := v
  cases kind with
  | blog => exact outline_previewBlog _ h remaining
  | _ => rfl

theorem length_ofPosts (posts : List Post) : (Card.ofPosts posts).length = posts.length := by
  rw [Card.ofPosts, List.length_map]
  exact List.length_mergeSort _

theorem outline_preview (s s' : Settlement) (views : List Section) {posts posts' : List Post}
    (h : posts.length = posts'.length) (css : Text) (screen : Screen) :
    (preview s views posts css screen).outline
      = (preview s' (views.map Section.bare) posts' css screen).outline := by
  have hsorted : (Post.sorted posts).length = (Post.sorted posts').length := by
    rw [Post.sorted, Post.sorted, List.length_mergeSort, List.length_mergeSort, h]
  have hshown : ((Post.sorted posts).take teaserCount).length
      = ((Post.sorted posts').take teaserCount).length := by
    rw [List.length_take, List.length_take, hsorted]
  have hinside : (previewInside s views posts).outline
      = (previewInside s' (views.map Section.bare) posts').outline := by
    unfold previewInside
    cases views with
    | nil => rfl
    | cons v rest =>
        rw [List.map_cons, List.isEmpty_cons, List.isEmpty_cons, if_neg Bool.false_ne_true,
          if_neg Bool.false_ne_true, hsorted, hshown]
        refine outline_views (fun v => ?_) (v :: rest)
        refine outline_previewBlock s s' ?_ _ v
        rw [length_ofPosts, length_ofPosts, hshown]
  rw [preview_eq, preview_eq, previewBody, previewBody]
  simp only [outline_append, hinside]
  rfl

end Page

/-! ## Two websites of the same make -/

/-- Two contents that agree in what counts for the tags of pages: the kinds of the components in
the order of their positions, how many posts there are, and the styles, which previews take over
verbatim. All else may differ, above all every text. -/
structure SiteContent.Alike (c c' : SiteContent) : Prop where
  kinds : kinds (Component.byPosition c.components) = kinds (Component.byPosition c'.components)
  posts : c.posts.length = c'.posts.length
  css : c.css = c'.css

namespace Site

variable {c c' : SiteContent}

theorem bare_sections (h : c.Alike c') (year year' : Int) :
    (c.sections year).map Section.bare = (c'.sections year').map Section.bare := by
  rw [SiteContent.sections, SiteContent.sections, Section.bare_ofComponents,
    Section.bare_ofComponents, h.kinds]

theorem marks_indexHtml (h : c.Alike c') (o o' : SiteOptions) :
    marks (indexHtml c o) = marks (indexHtml c' o') := by
  refine marks_render_congr ?_
  rw [Page.outline_index, Page.outline_index c'.settlement.name, bare_sections h]

theorem marks_blogPage (h : c.Alike c') (o o' : SiteOptions) :
    marks (blogPage c o) = marks (blogPage c' o') := by
  refine marks_render_congr ?_
  have hcards : (Card.ofPosts c.posts).length = (Card.ofPosts c'.posts).length := by
    rw [Page.length_ofPosts, Page.length_ofPosts, h.posts]
  rw [Page.outline_blog _ _ hcards, Page.outline_blog c'.settlement.name _ rfl, bare_sections h]

/-- The preview of a content on a screen. -/
def previewOn (c : SiteContent) (screen : Page.Screen) (year : Int) : Except Fault Text :=
  Preview.site c.settlement c.components c.posts c.css screen.name year

theorem previewOn_eq (c : SiteContent) (screen : Page.Screen) (year : Int) :
    previewOn c screen year = if Preview.linkable c.components c.posts then
      .ok (render (Page.preview c.settlement (c.sections year) c.posts c.css screen))
    else .error .unencodable :=
  Preview.site_eq ..

theorem marks_preview (h : c.Alike c') (screen : Page.Screen) (year year' : Int) :
    marks (render (Page.preview c.settlement (c.sections year) c.posts c.css screen))
      = marks (render (Page.preview c'.settlement (c'.sections year') c'.posts c'.css screen)) := by
  refine marks_render_congr ?_
  rw [Page.outline_preview _ c.settlement _ h.posts, h.css,
    Page.outline_preview c'.settlement c.settlement _ rfl, bare_sections h]

/-- Which content a page has does not matter for its frame, as long as it is an inner one. -/
theorem inner_listing (settlement : Text) (views : List Section) (cs : List Card) :
    ∃ frame content, Inner content
      ∧ Page.blog settlement views cs = Page.framed frame views content := by
  refine ⟨_, _, ?_, rfl⟩
  refine Inner.append (Inner.append (Inner.append (Inner.append (Inner.append ?_
    (Block.inner_cards cs 4 _)) ?_) ?_) ?_) ?_ <;> exact inner_of_all rfl

theorem firstKind_of_framed {views : List Section} (h : Tree.Framed (views.map Section.kind)) :
    (Page.firstKind views .header).length = 1 ∧ (Page.firstKind views .footer).length = 1 := by
  have hheader : Kind.header ∈ views.map Section.kind :=
    List.count_pos_iff.mp (h.1.symm ▸ Nat.one_pos)
  have hfooter : Kind.footer ∈ views.map Section.kind :=
    List.count_pos_iff.mp (h.2.symm ▸ Nat.one_pos)
  rw [Page.firstKind_eq, Page.firstKind_eq, if_pos hheader, if_pos hfooter]
  exact ⟨rfl, rfl⟩

/-- The header and the footer of a page with components that are framed by them. -/
theorem once_of_framed (h : Tree.Framed (kinds (Component.byPosition c.components)))
    (o : SiteOptions) {page : Text} (hpage : page = indexHtml c o ∨ page = blogPage c o) :
    Text.occurrences "<header" page = 1 ∧ Text.occurrences "<footer" page = 1 := by
  have hviews : Tree.Framed ((c.sections o.year).map Section.kind) := by
    rw [SiteContent.sections, Section.kinds_ofComponents]
    exact h
  obtain ⟨hheader, hfooter⟩ := firstKind_of_framed hviews
  rcases hpage with rfl | rfl
  · have hinner : Inner ((c.sections o.year).flatMap Page.block) :=
      inner_flatMap fun v _ => Page.inner_block v
    obtain ⟨h1, h2⟩ := Page.occurrences_framed hinner
    exact ⟨h1.trans hheader, h2.trans hfooter⟩
  · obtain ⟨frame, content, hinner, heq⟩ :=
      inner_listing c.settlement.name (c.sections o.year) (Card.ofPosts c.posts)
    rw [blogPage, heq]
    obtain ⟨h1, h2⟩ := @Page.occurrences_framed frame _ _ hinner
    exact ⟨h1.trans hheader, h2.trans hfooter⟩

/-- **Texts cannot change the tags of a page.** Two websites of the same make have the same marks
on their first pages, on their listings and in their previews, as far as these can be made: the
first page always, the others just if each post that they link to has an id with bytes in UTF-8. And
the published pages of a tree that has components have one header and one footer, whatever the texts
are. -/
theorem marks_exact (h : c.Alike c') (o o' : SiteOptions) (screen : Page.Screen) :
    marks (indexHtml c o) = marks (indexHtml c' o')
    ∧ (∀ page page', blogListing c o = .ok page → blogListing c' o' = .ok page' →
      marks page = marks page')
    ∧ (∀ page page', previewOn c screen o.year = .ok page →
      previewOn c' screen o'.year = .ok page' → marks page = marks page')
    ∧ ((∃ page, blogListing c o = .ok page) ↔ ∀ p ∈ c.posts, p.id.isEncodable = true)
    ∧ ((∃ page, previewOn c screen o.year = .ok page) ↔
      (.blog ∈ kinds c.components →
        ∀ p ∈ (Post.sorted c.posts).take teaserCount, p.id.isEncodable = true))
    ∧ ∀ cs ids os, c.components = (Tree.runFrom cs ids os).1.components → c.components ≠ [] →
      ∀ page, page = indexHtml c o ∨ blogListing c o = .ok page →
        Text.occurrences "<header" page = 1 ∧ Text.occurrences "<footer" page = 1 := by
  have hlisting {c : SiteContent} {o : SiteOptions} {page : Text}
      (hpage : blogListing c o = .ok page) : page = blogPage c o := by
    unfold blogListing at hpage
    split at hpage
    · exact (Except.ok.inj hpage).symm
    · cases hpage
  have hpreview {c : SiteContent} {year : Int} {page : Text}
      (hpage : previewOn c screen year = .ok page) :
      page = render (Page.preview c.settlement (c.sections year) c.posts c.css screen) := by
    rw [previewOn_eq] at hpage
    split at hpage
    · exact (Except.ok.inj hpage).symm
    · cases hpage
  refine ⟨marks_indexHtml h o o', ?_, ?_, ?_, ?_, ?_⟩
  · intro page page' hpage hpage'
    rw [hlisting hpage, hlisting hpage', marks_blogPage h o o']
  · intro page page' hpage hpage'
    rw [hpreview hpage, hpreview hpage', marks_preview h screen o.year o'.year]
  · rw [← List.all_eq_true (p := fun p : Post => p.id.isEncodable), blogListing]
    cases c.posts.all fun p => p.id.isEncodable
    · refine iff_of_false ?_ Bool.false_ne_true
      rintro ⟨page, hpage⟩
      cases hpage
    · exact iff_of_true ⟨_, rfl⟩ rfl
  · have hlinkable : Preview.linkable c.components c.posts = true ↔
        (.blog ∈ kinds c.components →
          ∀ p ∈ (Post.sorted c.posts).take teaserCount, p.id.isEncodable = true) := by
      rw [Preview.linkable, Tree.any_kind, ← List.all_eq_true]
      by_cases hblog : Kind.blog ∈ kinds c.components <;> simp [hblog]
    rw [previewOn_eq, ← hlinkable]
    cases Preview.linkable c.components c.posts
    · refine iff_of_false ?_ Bool.false_ne_true
      rintro ⟨page, hpage⟩
      cases hpage
    · exact iff_of_true ⟨_, rfl⟩ rfl
  · intro cs ids os hc hne page hpage
    have hw : (Tree.runFrom cs ids os).1.WellFormed :=
      (Tree.wellFormed_ofList cs ids).runAll _ os
    have hframed : Tree.Framed (kinds (Component.byPosition c.components)) := by
      rw [hc, Tree.byPosition_of_numbered hw.numbered]
      exact hw.framed.resolve_left fun hnil => hne (hc.trans hnil)
    exact once_of_framed hframed o (hpage.imp id hlisting)

/-- A website with a blog, and one that tries to write tags and quotations in its texts. -/
theorem marks_exact_quoted :
    let place (text : Text) : Settlement :=
      ⟨text, text, text, .ofRatio false 1 2, .ofRatio false 1 2, false⟩
    let content (id text : Text) : SiteContent :=
      ⟨place text, [⟨id, .header (some text), 0, .left⟩, ⟨id, .blog none, 1, .left⟩,
        ⟨id, .footer, 2, .left⟩], [], "p \x7b\x7d"⟩
    let c := content "h" ""
    let c' := content "\"" "</h1><header class=\"x\" title='y'>"
    c.Alike c' ∧ marks (indexHtml c ⟨.null, 2024⟩) = marks (indexHtml c' ⟨.null, 2025⟩) := by
  intro place content c c'
  have hsorted (id text : Text) : Component.byPosition (content id text).components
      = (content id text).components := by
    refine List.mergeSort_of_pairwise ?_
    simp [content]
  have halike : c.Alike c' := by
    refine ⟨?_, rfl, rfl⟩
    rw [hsorted, hsorted]
    rfl
  exact ⟨halike, (marks_exact halike ⟨.null, 2024⟩ ⟨.null, 2025⟩ .desktop).1⟩

end Site

end CivicSite
