import CivicSite.Proofs.Listing.Pages
import CivicSite.Proofs.Listing.Search
import CivicSite.Proofs.Page.Cards
import CivicSite.Proofs.Page.Order
import CivicSite.Proofs.Post.Order

/-!
# Views of the posts

The posts are shown in the published listing, as teasers in the preview of a website, and page by
page in the preview of the listing. Each view sorts the posts it is given before it shows them, and
those that the last two are given come from a sorted list already. A part of a list in order is in
order, so the second sort leaves it as it is (`Post.sorted_of_sublist`), whichever posts have the
same date or id. All views therefore show cards of the published listing, in its order
(`Site.views_agree`).
-/

namespace CivicSite

open Markup

/-! ## What is sorted already -/

/-- **Posts that are taken from a sorted list stay in their order** when they are sorted again. -/
theorem Post.sorted_of_sublist {posts l : List Post} (h : l.Sublist (sorted posts)) :
    sorted l = l :=
  List.mergeSort_of_pairwise ((pairwise_sorted posts).sublist h)

/-- The card of a post as it is read. -/
def Element.ofPost (p : Post) : Element := .ofMarkup (Block.cardElement (.ofPost p))

theorem Article.ofElement_ofPost (p : Post) : Article.ofElement (.ofPost p) = .ofPost p :=
  Block.ofElement_card p

/-- What is shown of posts that are taken from a sorted list. -/
theorem elements_ofPosts {posts l : List Post} (h : l.Sublist (Post.sorted posts)) :
    ((Card.ofPosts l).map Block.cardElement).map Element.ofMarkup = l.map Element.ofPost := by
  rw [Card.ofPosts, Post.sorted_of_sublist h, List.map_map, List.map_map]
  rfl

/-! ## The published listing -/

theorem Site.cards_blogPage (c : SiteContent) (o : SiteOptions) :
    Text.cards (blogPage c o) = (Post.sorted c.posts).map Element.ofPost := by
  rw [blogPage, Page.cards_blog, Card.ofPosts, List.map_map, List.map_map]
  rfl

/-! ## Teasers -/

namespace Preview

/-- The same for each blog among the components. -/
def perBlog {α : Type} (components : List Component) (xs : List α) : List α :=
  (Component.byPosition components).flatMap fun c => if c.kind = .blog then xs else []

variable {components : List Component}

theorem map_perBlog {α β : Type} (f : α → β) (xs : List α) :
    (perBlog components xs).map f = perBlog components (xs.map f) := by
  rw [perBlog, List.map_flatMap]
  refine List.flatMap_congr fun c _ => ?_
  split
  · rfl
  · rfl

/-- What a preview holds is what each blog in it holds. -/
theorem styled_site {name style : Text} {es : List (List Attribute × Markup)}
    (hplain : ∀ m : Markup, m.Plain → Holds name style m []) {posts : List Post}
    (hblog : ∀ v : Section, Holds name style
      (Page.previewBlog v (Card.ofPosts ((Post.sorted posts).take teaserCount))
        (posts.length - teaserCount)) es)
    (s : Settlement) (css : Text) (screen : Page.Screen) (year : Int) :
    Text.styled name style (render
        (Page.preview s (Section.ofComponents s.name components year) posts css screen))
      = perBlog components (es.map Element.ofMarkup) := by
  have hremaining : (Post.sorted posts).length - ((Post.sorted posts).take teaserCount).length
      = posts.length - teaserCount := by
    rw [List.length_take, (Post.sorted_perm posts).length_eq]
    omega
  rw [← hremaining] at hblog
  have hinside : Holds name style
      (Page.previewInside s (Section.ofComponents s.name components year) posts)
      (perBlog components es) := by
    have hviews := Page.holds_previewInside (s := s) hplain hblog
      (Section.ofComponents s.name components year)
    rw [Section.kinds_ofComponents, Component.kinds, List.flatMap_map] at hviews
    exact hviews
  rw [Page.styled_preview hplain hinside, map_perBlog]

variable (s : Settlement) (posts : List Post) (css : Text) (screen : Page.Screen) (year : Int)

/-- **The teasers are the first cards**, in each blog. -/
theorem cards_site : Text.cards (render
      (Page.preview s (Section.ofComponents s.name components year) posts css screen))
    = perBlog components (((Post.sorted posts).take teaserCount).map Element.ofPost) := by
  refine (styled_site (fun _ h => h.cardless) (fun v => Page.cards_previewBlog v) s css screen
    year).trans ?_
  rw [elements_ofPosts (List.take_sublist ..)]

/-- **The note says how many posts are not shown**, if there are any. -/
theorem notes_site : Text.notes (render
      (Page.preview s (Section.ofComponents s.name components year) posts css screen))
    = perBlog components (if teaserCount < posts.length
        then [Page.moreNote (posts.length - teaserCount)] else []) := by
  have htext : ∀ note, Element.text (.ofMarkup (Page.noteElement note)) = note :=
    fun note => Element.text_ofMarkup _ note
  rw [Text.notes, styled_site (fun _ h => h.noteless) (fun v => Page.notes_previewBlog v),
    map_perBlog, List.map_map, List.map_map]
  simp only [Function.comp_def, htext, List.map_id', Page.moreNotes]
  refine congrArg (perBlog components) ?_
  split
  · next hnone => rw [if_neg (by omega)]
  · next hsome => rw [if_pos (by omega)]

end Preview

/-! ## Pages of the listing -/

/-- Whether a query occurs in one of the texts of an article, small and capital letters alike. -/
def Article.isFound (query : Text) (a : Article) : Bool :=
  [a.title, a.description, a.content].any fun s =>
    Text.occursIn (Text.lower (Text.trim query)) (Text.lower s)

theorem Article.isFound_ofPost (query : Text) (p : Post) :
    (ofPost p).isFound query = decide (Post.Shows (Text.lower (Text.trim query)) p.lowered) := by
  rw [Bool.eq_iff_iff, decide_eq_true_iff]
  simp only [isFound, ofPost, List.any_cons, List.any_nil, Bool.or_false, Bool.or_eq_true,
    Text.occursIn_iff]
  rfl

/-- **The cards of the posts that are found are the cards that are found.** -/
theorem cards_search (posts : List Post) (query : Text) :
    (Post.search posts query).map Element.ofPost
      = (posts.map Element.ofPost).filter fun e => (Article.ofElement e).isFound query := by
  rw [Post.search_eq, List.filter_map]
  refine congrArg (List.map Element.ofPost) (List.filter_congr fun p _ => ?_)
  rw [Function.comp_apply, Article.ofElement_ofPost, Article.isFound_ofPost]

namespace Preview

variable {posts : List Post}

/-- The page of the listing that is asked for, after a search. -/
def windowOf (posts : List Post) (query : Text) (page : Int) : Listing :=
  Listing.pageOf (Post.search (Post.sorted posts) query) page pageSize

theorem search_sublist (posts : List Post) (query : Text) :
    (Post.search posts query).Sublist posts := by
  rw [Post.search_eq]
  exact List.filter_sublist

theorem window_sublist (posts : List Post) (query : Text) (page : Int) :
    (windowOf posts query page).posts.Sublist (Post.sorted posts) :=
  (slice_sublist _ _ _).trans (search_sublist _ query)

theorem length_search_lt (hposts : posts.length < 2 ^ 53) (query : Text) :
    (Post.search (Post.sorted posts) query).length < 2 ^ 53 := by
  have hle := (search_sublist (Post.sorted posts) query).length_le
  rw [(Post.sorted_perm posts).length_eq] at hle
  omega

theorem search_window (hposts : posts.length < 2 ^ 53) (query : Text) (page : Int) :
    Listing.search (Post.sorted posts) query page pageSize = .ok (windowOf posts query page) :=
  Listing.paginate_eq (length_search_lt hposts query) (by decide)

/-- A page is shown if it can link to its posts. -/
theorem listing_of_window {query view : Text} {page : Int} {l : Listing} {numbers : List Int}
    (hsearch : Listing.search (Post.sorted posts) query page pageSize = .ok l)
    (hnumbers : l.numbers = .ok numbers) (hlinks : l.posts.all (·.id.isEncodable) = true)
    (hview : render (Page.listingPreview (Text.trim query) l numbers) = view) :
    listing posts query page = .ok view := by
  unfold listing
  rw [hsearch]
  show Except.bind l.numbers _ = _
  rw [hnumbers]
  show (if !l.posts.all (·.id.isEncodable) then _ else _) = _
  rw [hlinks]
  exact congrArg Except.ok hview

/-- **The preview of a page of the listing shows the posts of the page.** -/
theorem exists_listing (hposts : posts.length < 2 ^ 53)
    (hids : ∀ p ∈ posts, p.id.isEncodable = true) (query : Text) (page : Int) :
    ∃ view, listing posts query page = .ok view
      ∧ Text.cards view = (windowOf posts query page).posts.map Element.ofPost := by
  have hlinks : (windowOf posts query page).posts.all (·.id.isEncodable) = true := by
    refine List.all_eq_true.mpr fun p hp => hids p ?_
    exact (Post.sorted_perm posts).mem_iff.mp ((window_sublist posts query page).subset hp)
  obtain ⟨numbers, hnumbers⟩ : ∃ numbers, (windowOf posts query page).numbers = .ok numbers :=
    ⟨_, Listing.numbers_pageOf (length_search_lt hposts query) (by decide)⟩
  have hcards := Page.cards_listingPreview (Text.trim query) (windowOf posts query page) numbers
  rw [elements_ofPosts (window_sublist posts query page)] at hcards
  exact ⟨_, listing_of_window (search_window hposts query page) hnumbers hlinks rfl, hcards⟩

end Preview

namespace Site

/-- **The views of the posts agree.** The published listing is there just if it can link to all
posts. If it is, the previews of the website and of each page of the listing are there too, and the
cards on them are cards of the listing: the first five in each blog, with a note of how many more
there are, and on the pages those that are found, in their order. -/
theorem views_agree (c : SiteContent) (o : SiteOptions) :
    ((∃ page, blogListing c o = .ok page) ↔ ∀ p ∈ c.posts, p.id.isEncodable = true) ∧
    ∀ page, blogListing c o = .ok page →
      (∀ screen : Page.Screen, ∃ preview,
        Preview.site c.settlement c.components c.posts c.css screen.name o.year = .ok preview
        ∧ Text.cards preview = Preview.perBlog c.components ((Text.cards page).take 5)
        ∧ Text.notes preview = Preview.perBlog c.components
          (if 5 < c.posts.length then [Page.moreNote (c.posts.length - 5)] else []))
      ∧ (c.posts.length < 2 ^ 53 → ∀ query, ∃ count, ∃ window : Int → Listing, ∃ view : Int → Text,
        (∀ n, Listing.search (Post.sorted c.posts) query n pageSize = .ok (window n)
          ∧ (window n).pageCount = count
          ∧ Preview.listing c.posts query n = .ok (view n)
          ∧ (Text.cards (view n)).map Article.ofElement = (window n).posts.map Article.ofPost)
        ∧ (numbersTo count).flatMap (fun n => Text.cards (view n))
          = (Text.cards page).filter fun e => (Article.ofElement e).isFound query) := by
  refine ⟨exists_blogListing_iff c o, fun page hpage => ?_⟩
  obtain ⟨hids, rfl⟩ := blogListing_eq_ok_iff.mp hpage
  rw [cards_blogPage]
  refine ⟨fun screen => ?teasers, fun hposts query => ?pages⟩
  case teasers =>
    have hlinkable : Preview.linkable c.components c.posts = true := by
      refine Bool.or_eq_true_iff.mpr (.inr (List.all_eq_true.mpr fun p hp => hids p ?_))
      exact (Post.sorted_perm c.posts).mem_iff.mp (List.mem_of_mem_take hp)
    rw [Preview.site_eq, if_pos hlinkable, ← List.map_take]
    exact ⟨_, rfl, Preview.cards_site .., Preview.notes_site ..⟩
  case pages =>
    choose view hview using Preview.exists_listing hposts hids query
    refine ⟨_, Preview.windowOf c.posts query, view, fun n => ⟨?_, rfl, (hview n).1, ?_⟩, ?_⟩
    · exact Preview.search_window hposts query n
    · rw [(hview n).2, List.map_map]
      exact List.map_congr_left fun p _ => Article.ofElement_ofPost p
    · rw [← cards_search, List.flatMap_congr fun n _ => (hview n).2, ← List.map_flatMap]
      exact congrArg _ (Listing.posts_pages _ (by decide))

/-- A website with a blog and six posts that are alike: five teasers, and all six on one page. -/
theorem views_agree_alike :
    let p : Post := ⟨"1", "", "", "", "", default⟩
    let c : SiteContent :=
      ⟨⟨"s1", "", "", default, default, true⟩, [⟨"c1", .blog none, 0, .center⟩],
        List.replicate 6 p, ""⟩
    let o : SiteOptions := ⟨.null, 2024⟩
    ∃ page teased shown, blogListing c o = .ok page
      ∧ Preview.site c.settlement c.components c.posts c.css "desktop" o.year = .ok teased
      ∧ Text.cards teased = (Text.cards page).take 5
      ∧ Text.notes teased = [("... și încă 1 postări" : Text)]
      ∧ Preview.listing c.posts "" 1 = .ok shown
      ∧ (Text.cards shown).map Article.ofElement = c.posts.map Article.ofPost := by
  intro p c o
  obtain ⟨hthere, hagree⟩ := views_agree c o
  have hids : ∀ q ∈ c.posts, q.id.isEncodable = true := by decide
  obtain ⟨page, hpage⟩ := hthere.mpr hids
  obtain ⟨hteased, hshown⟩ := hagree page hpage
  obtain ⟨teased, hsite, hcards, hnotes⟩ := hteased .desktop
  obtain ⟨count, window, view, hview, -⟩ := hshown (by decide) ""
  obtain ⟨hsearch, -, hlisting, harticles⟩ := hview 1
  have hblog : ∀ {α : Type} (xs : List α), Preview.perBlog c.components xs = xs := by
    intro α xs
    rw [Preview.perBlog, Component.byPosition, List.mergeSort_singleton, List.flatMap_singleton]
    rfl
  have hwindow : (window 1).posts = c.posts := by
    have hsorted : Post.sorted c.posts = c.posts :=
      List.mergeSort_of_pairwise (List.pairwise_replicate.mpr (.inr (by decide +kernel)))
    have hone : pagesFor c.posts.length pageSize = 1 := pagesFor_of_le (by decide) (by decide)
    have hpages : (numbersTo (pagesFor c.posts.length pageSize)).flatMap
        (fun n => (Listing.pageOf c.posts n pageSize).posts) = c.posts :=
      Listing.posts_pages c.posts (by decide)
    have hsame := hsearch.symm.trans (Preview.search_window (by decide) "" 1)
    rw [hone] at hpages
    rw [Except.ok.inj hsame, Preview.windowOf, Post.search_of_blank rfl, hsorted]
    exact (List.append_nil _).symm.trans hpages
  have hnote : Page.moreNote (c.posts.length - 5) = "... și încă 1 postări" := by decide
  rw [hblog] at hcards
  rw [hblog, if_pos (by decide), hnote] at hnotes
  rw [hwindow] at harticles
  exact ⟨page, teased, view 1, hpage, hsite, hcards, hnotes, hlisting, harticles⟩

end Site

end CivicSite
