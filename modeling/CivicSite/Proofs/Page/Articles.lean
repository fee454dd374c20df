import CivicSite.Proofs.Page.Snapshots

/-!
# Articles

The listing of posts shows a card for each of them, an article element that holds the whole post in
its attributes and shows a part of it. Whatever the texts of the posts are, the articles that are
read back from the page are the posts, newest first, with all that the cards hold and show of them
(`Site.blogListing_lossless`). What is shown of a content is the content itself or a beginning of
it, which is cut off before it is written, so no reference is cut (`IsPreview`).

The listing is not there at all if it cannot link to each of the posts.
-/

namespace CivicSite

open Markup

/-! ## The reader -/

/-- A post as it is read back from its card. -/
structure Article where
  id : Text
  isoDate : Text
  title : Text
  description : Text
  content : Text
  /-- The texts that are shown as a title. -/
  headings : List Text
  descriptions : List Text
  previews : List Text
  links : List Text
deriving DecidableEq, Repr

namespace Article

/-- The texts of the elements of a name and a class. -/
def textsOf (name style : Text) (e : Element) : List Text :=
  ((e.elements name).filter fun x => Snapshot.value x.attributes "class" == style).map Element.text

def ofElement (e : Element) : Article where
  id := Snapshot.value e.attributes "data-post-id"
  isoDate := Snapshot.value e.attributes "data-date"
  title := Snapshot.value e.attributes "data-title"
  description := Snapshot.value e.attributes "data-description"
  content := Snapshot.value e.attributes "data-content"
  headings := (e.elements "h3").map Element.text
  descriptions := textsOf "p" "blog-post-description" e
  previews := textsOf "p" "blog-post-content" e
  links := (e.elements "a").map fun x => Snapshot.value x.attributes "href"

/-- The address of a post on the page that shows one of them. -/
def linkTo (id : Text) : Text := "post.html?id=" ++ Text.percentEncode id (· == '/')

/-- What a listing has to hold and to show of a post. -/
def ofPost (p : Post) : Article where
  id := p.id
  isoDate := p.date.iso
  title := p.title
  description := p.description
  content := p.content
  headings := [p.title]
  descriptions := [p.description]
  previews := [teaser p.content teaserLength]
  links := [linkTo p.id]

end Article

/-- The articles of a page, in order. -/
def Text.articles (page : Text) : List Article :=
  (Text.elements "article" page).map Article.ofElement

/-! ## Cards -/

namespace Block

/-- The elements that a listing opens outside its cards. -/
def outsideTags : List Text := ["main", "section", "h2", "div", "input"]

/-- The elements that the cards of a listing open. -/
def cardTags : List Text := ["article", "div", "h3", "p", "a"]

/-- The start tag of a card. -/
def cardAttributes (c : Card) : List Attribute := [
  attr "class" "blog-post", attr "data-post-id" c.id, attr "data-date" c.isoDate,
  attr "data-title" c.title, attr "data-description" c.description,
  attr "data-content" c.content]

/-- The elements in a card, each with its text. -/
def cardRows (c : Card) : List (Text × List Attribute × Text) := [
  ("div", [attr "class" "blog-post-date"], c.date),
  ("h3", [], c.title),
  ("p", [attr "class" "blog-post-description"], c.description),
  ("p", [attr "class" "blog-post-content"], c.preview),
  ("a", [attr "class" "blog-post-link", attr "href" (Article.linkTo c.id)], "Citește mai mult")]

/-- What stands in a card. -/
def cardInner (c : Card) : Markup :=
  .layout "\n" :: ((cardRows c).flatMap (fun row => line 3 (textElement row.1 row.2.1 row.2.2))
    ++ [.layout (List.replicate (4 * 2) (.char ' '))])

/-- A card is one article. -/
theorem card_eq (c : Card) : card c
    = .layout (List.replicate (4 * 2) (.char ' '))
      :: (element "article" (cardAttributes c) (cardInner c) ++ [.layout "\n", .layout "\n"]) := by
  simp [card, cardInner, cardRows, cardAttributes, Article.linkTo, element, line, blankLine]

theorem elementsFrom_rows (name : Text) (depth : Nat) (rows : List (Text × List Attribute × Text))
    (rest : Markup) :
    Markup.elementsFrom name none
        (rows.flatMap (fun row => line depth (textElement row.1 row.2.1 row.2.2)) ++ rest)
      = (rows.filter fun row => row.1.caseless == name).map (fun row => (row.2.1, [.text row.2.2]))
        ++ Markup.elementsFrom name none rest := by
  induction rows with
  | nil => rfl
  | cons row rows ih =>
      rw [List.flatMap_cons, List.append_assoc, elementsFrom_line, ih, List.filter_cons]
      by_cases h : row.1.caseless = name
      · rw [if_pos h, if_pos (beq_iff_eq.mpr h)]
        rfl
      · rw [if_neg h, if_neg (fun heq => h (beq_iff_eq.mp heq))]
        rfl

/-- The elements of a name in a card, by their attributes and texts. -/
def rowsOf (name : Text) (c : Card) : List (List Attribute × Text) :=
  ((cardRows c).filter fun row => row.1.caseless == name).map (·.2)

theorem elements_card (name : Text) (c : Card) :
    (Element.ofMarkup (cardAttributes c, cardInner c)).elements name
      = (rowsOf name c).map fun row => .ofMarkup (row.1, [.text row.2]) := by
  have hrows := elementsFrom_rows name 3 (cardRows c) [.layout (List.replicate (4 * 2) (.char ' '))]
  have hinner : Markup.elementsFrom name none (cardInner c)
      = ((cardRows c).filter fun row => row.1.caseless == name).map
        (fun row => (row.2.1, [.text row.2.2])) := hrows.trans (List.append_nil _)
  rw [Element.elements_ofMarkup, hinner, rowsOf, List.map_map, List.map_map]
  rfl

/-- The texts of a name and a class in a card. -/
theorem textsOf_card (name style : Text) (c : Card) :
    Article.textsOf name style (.ofMarkup (cardAttributes c, cardInner c))
      = ((rowsOf name c).filter fun row => Snapshot.value row.1 "class" == style).map (·.2) := by
  rw [Article.textsOf, elements_card, List.filter_map, List.map_map]
  exact List.map_congr_left fun row _ => Element.text_ofMarkup row.1 row.2

/-- **What is read back from a card is the post.** -/
theorem ofElement_card (p : Post) :
    Article.ofElement (.ofMarkup (cardAttributes (.ofPost p), cardInner (.ofPost p)))
      = .ofPost p := by
  have hheadings : rowsOf "h3" (.ofPost p) = [([], p.title)] := rfl
  have hparagraphs : rowsOf "p" (.ofPost p)
      = [([attr "class" "blog-post-description"], p.description),
        ([attr "class" "blog-post-content"], teaser p.content teaserLength)] := rfl
  have hlinks : rowsOf "a" (.ofPost p)
      = [([attr "class" "blog-post-link", attr "href" (Article.linkTo p.id)],
        ("Citește mai mult" : Text))] := rfl
  simp only [Article.ofElement, textsOf_card, elements_card, hheadings, hparagraphs, hlinks,
    List.map_cons, List.map_nil, Element.text_ofMarkup, Article.ofPost, Article.mk.injEq]
  exact ⟨rfl, rfl, rfl, rfl, rfl, trivial, rfl, rfl, rfl⟩

/-! ## Listings -/

theorem among_card (c : Card) : Among cardTags (card c) := among_of_all rfl

theorem among_cards (cs : List Card) (empty : Text) : Among cardTags (cards cs 4 empty) := by
  unfold cards
  split
  · exact among_of_all rfl
  · exact among_flatMap fun c _ => among_card c

theorem elementsFrom_card (c : Card) (rest : Markup) :
    Markup.elementsFrom "article" none (card c ++ rest)
      = (cardAttributes c, cardInner c) :: Markup.elementsFrom "article" none rest := by
  have hinner : ∀ t ∈ cardInner c, t.ends "article" = false := by
    have hall : (cardInner c).all (fun t => !t.ends "article") = true := rfl
    simpa using hall
  have hname : ("article" : Text).caseless = "article" := by decide
  rw [card_eq, List.cons_append, elementsFrom_layout, List.append_assoc,
    elementsFrom_element hname hinner, List.cons_append, elementsFrom_layout, List.cons_append,
    elementsFrom_layout, List.nil_append]

theorem elementsFrom_cards (cs : List Card) (depth : Nat) (empty : Text) (rest : Markup) :
    Markup.elementsFrom "article" none (cards cs depth empty ++ rest)
      = cs.map (fun c => (cardAttributes c, cardInner c))
        ++ Markup.elementsFrom "article" none rest := by
  cases cs with
  | nil =>
      have hother : ("p" : Text).caseless ≠ "article" := by decide
      have hline := elementsFrom_line "article" depth "p" [attr "class" "blog-empty"] empty rest
      rw [if_neg hother] at hline
      exact hline
  | cons c cs =>
      show Markup.elementsFrom "article" none ((c :: cs).flatMap card ++ rest) = _
      induction (c :: cs) with
      | nil => rfl
      | cons c cs ih =>
          rw [List.flatMap_cons, List.append_assoc, elementsFrom_card, ih]
          rfl

end Block

namespace Page

/-- What comes before the cards of a listing. -/
def listingTop (views : List Section) : Markup :=
  let blog := Section.first? views .blog
  let alignment : Text := (blog.map (·.alignment.name)).getD ""
  let title : Text := (blog.map (·.title)).getD ""
  line 1 [.start "main" [attr "class" "blog-page"]] ++
  line 2 [.start "section" [attr "class" ("blog-listing " ++ alignment)]] ++
  line 3 (textElement "h2" [] title) ++
  line 3 [.start "div" [attr "class" "blog-search"]] ++
  line 4 [.start "input" [
    attr "type" "search", attr "id" "blog-search", attr "placeholder" "Caută în postări...",
    attr "aria-label" "Caută în postări"]] ++
  line 3 [.stop "div"] ++
  line 3 [.start "div" [attr "class" "blog-posts", attr "id" "blog-posts-grid"]]

/-- What comes after the cards of a listing. -/
def listingBottom : Markup :=
  line 3 [.stop "div"] ++
  line 3 (element "div" [attr "class" "pagination", attr "id" "blog-pagination"] []) ++
  line 2 [.stop "section"] ++
  line 1 [.stop "main"]

/-- **The articles of a listing are its cards.** -/
theorem elements_blog (settlement : Text) (views : List Section) (posts : List Card) :
    Text.elements "article" (render (blog settlement views posts))
      = posts.map fun c => .ofMarkup (Block.cardAttributes c, Block.cardInner c) := by
  let cards := Block.cards posts 4 "Nu există postări încă."
  obtain ⟨frame, hblog⟩ : ∃ frame, blog settlement views posts
      = framed frame views (listingTop views ++ (cards ++ listingBottom)) :=
    ⟨_, by simp only [blog, listingTop, listingBottom, cards, List.append_assoc]; rfl⟩
  obtain ⟨before, after, hbefore, hafter, hframed⟩ := framed_split frame views
  have htop : Among Block.outsideTags (listingTop views) := among_of_all rfl
  have hbottom : Among Block.outsideTags listingBottom := among_of_all rfl
  have hpage : blog settlement views posts
      = before ++ (listingTop views ++ (cards ++ (listingBottom ++ (after ++ [])))) := by
    rw [hblog, hframed]
    simp only [List.append_assoc, List.append_nil]
  have hsound : (blog settlement views posts).Sound := by
    rw [hpage]
    have hcards := Block.among_cards posts "Nu există postări încă."
    exact List.forall_mem_append.mpr ⟨hbefore.sound, List.forall_mem_append.mpr ⟨htop.sound,
      List.forall_mem_append.mpr ⟨hcards.sound, List.forall_mem_append.mpr ⟨hbottom.sound,
        List.forall_mem_append.mpr ⟨hafter.sound, List.forall_mem_nil _⟩⟩⟩⟩⟩
  have harticles : (blog settlement views posts).elementsFrom "article" none
      = posts.map fun c => (Block.cardAttributes c, Block.cardInner c) := by
    rw [hpage, hbefore.elementsFrom (by decide), htop.elementsFrom (by decide),
      Block.elementsFrom_cards, hbottom.elementsFrom (by decide), hafter.elementsFrom (by decide)]
    exact List.append_nil _
  rw [Text.elements_render hsound, harticles, List.map_map]
  rfl

end Page

/-! ## Previews of contents -/

/-- What is shown of a content: all of it if it is short, or else its beginning, without the blanks
at the end of that and with three dots. -/
inductive IsPreview (content : Text) : Text → Prop where
  | whole (h : content.length ≤ teaserLength) : IsPreview content content
  | cut {kept blanks : Text} (h : teaserLength < content.length)
      (beginning : content.take teaserLength = kept ++ blanks)
      (blank : ∀ c ∈ blanks, Text.isBlank c = true)
      (trimmed : ∀ c ∈ kept.getLast?, Text.isBlank c = false) : IsPreview content (kept ++ "...")

theorem isPreview_teaser (content : Text) : IsPreview content (teaser content teaserLength) := by
  unfold teaser
  by_cases hshort : content.length ≤ teaserLength
  · rw [if_pos (Int.ofNat_le.mpr hshort)]
    exact .whole hshort
  · have hlong : teaserLength < content.length := Nat.lt_of_not_le hshort
    have hslice : slice content 0 teaserLength = content.take teaserLength := by
      have hend : place content.length teaserLength = teaserLength := by
        rw [place, if_neg (by omega), Int.toNat_natCast]
        omega
      rw [slice, hend]
      rfl
    obtain ⟨blanks, hsplit, hblank, hlast⟩ :=
      Text.exists_dropEndWhile Text.isBlank (content.take teaserLength)
    rw [if_neg (fun h => hshort (Int.ofNat_le.mp h)), hslice]
    exact .cut hlong hsplit hblank hlast

namespace Site

/-- **The articles of the listing are the posts.** -/
theorem articles_blogPage (c : SiteContent) (o : SiteOptions) :
    (blogPage c o).articles = (Post.sorted c.posts).map Article.ofPost := by
  rw [Text.articles, blogPage, Page.elements_blog, Card.ofPosts, List.map_map, List.map_map]
  exact List.map_congr_left fun p _ => Block.ofElement_card p

/-- The listing is there just if it can link to all posts. -/
theorem blogListing_eq_ok_iff {c : SiteContent} {o : SiteOptions} {page : Text} :
    blogListing c o = .ok page
      ↔ (∀ p ∈ c.posts, p.id.isEncodable = true) ∧ blogPage c o = page := by
  unfold blogListing
  cases hall : c.posts.all (·.id.isEncodable) with
  | true =>
      have hids := List.all_eq_true.mp hall
      rw [if_pos rfl]
      exact ⟨fun h => ⟨hids, Except.ok.inj h⟩, fun h => congrArg Except.ok h.2⟩
  | false =>
      rw [if_neg Bool.false_ne_true]
      refine ⟨(fun h => nomatch h), fun h => ?_⟩
      exact absurd (hall.symm.trans (List.all_eq_true.mpr h.1)) Bool.false_ne_true

theorem exists_blogListing_iff (c : SiteContent) (o : SiteOptions) :
    (∃ page, blogListing c o = .ok page) ↔ ∀ p ∈ c.posts, p.id.isEncodable = true := by
  simp only [blogListing_eq_ok_iff, exists_and_left, exists_eq', and_true]

/-- **The listing of posts holds the posts as they are**, in their order, and shows a title, a
description and a preview of each. It is there just if it can link to all of them. -/
theorem blogListing_lossless (c : SiteContent) (o : SiteOptions) :
    ((∃ page, blogListing c o = .ok page) ↔ ∀ p ∈ c.posts, p.id.isEncodable = true) ∧
    (∀ fault, blogListing c o = .error fault → fault = .unencodable) ∧
    (∀ page, blogListing c o = .ok page →
      page.articles = (Post.sorted c.posts).map Article.ofPost) ∧
    ∀ content, IsPreview content (teaser content teaserLength) := by
  refine ⟨exists_blogListing_iff c o, fun fault h => ?_, fun page h => ?_, isPreview_teaser⟩
  · unfold blogListing at h
    split at h
    · cases h
    · exact (Except.error.inj h).symm
  · obtain ⟨-, rfl⟩ := blogListing_eq_ok_iff.mp h
    exact articles_blogPage c o

end Site

end CivicSite
