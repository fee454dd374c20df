import CivicSite.Page.Preview
import CivicSite.Proofs.Post.Order
import CivicSite.Proofs.Tree.Repair
import CivicSite.Site

/-!
# What the order of the input cannot change

Components come with positions and posts with dates and ids, so the order in which lists hold them
should not matter. Whatever is made of the components goes through their order by position, or only
asks whether there is one of a kind; whatever is made of the posts goes through their order by date
and id, or only asks something of all of them. Both orders are the only ones there are, as long as
positions and ids are distinct. So all pages, files and previews are the same texts for every order
of the input, and where one cannot be made, it cannot be made for any.
-/

namespace CivicSite

/-- **Components at distinct positions have one order**, whatever order they are given in. -/
theorem Component.byPosition_congr {cs cs' : List Component} (hpositions : (cs.map position).Nodup)
    (h : cs.Perm cs') : byPosition cs = byPosition cs' := by
  have hperm : (byPosition cs).Perm (byPosition cs') :=
    (byPosition_perm cs).trans (h.trans (byPosition_perm cs').symm)
  have hnodup : ((byPosition cs).map position).Nodup :=
    ((byPosition_perm cs).map position).nodup_iff.mpr hpositions
  refine eq_of_pairwise_of_perm ?_ (pairwise_byPosition cs) (pairwise_byPosition cs') hnodup hperm
  intro a b hab hba
  exact Int.le_antisymm hab hba

theorem Section.ofComponents_congr {cs cs' : List Component}
    (h : Component.byPosition cs = Component.byPosition cs') (settlement : Text) (year : Int) :
    ofComponents settlement cs year = ofComponents settlement cs' year := by
  rw [ofComponents, ofComponents, h]

theorem Card.ofPosts_congr {posts posts' : List Post}
    (h : Post.sorted posts = Post.sorted posts') : ofPosts posts = ofPosts posts' := by
  rw [ofPosts, ofPosts, h]

/-! ## Contents in another order -/

namespace SiteContent

/-- The same content, its components and posts in any order. -/
structure Rearranged (c c' : SiteContent) : Prop where
  settlement : c.settlement = c'.settlement
  components : c.components.Perm c'.components
  posts : c.posts.Perm c'.posts
  css : c.css = c'.css

/-- A content in which positions tell components apart and ids tell posts apart. -/
structure Distinct (c : SiteContent) : Prop where
  positions : (c.components.map Component.position).Nodup
  ids : (c.posts.map Post.id).Nodup

variable {c c' : SiteContent}

theorem Rearranged.has (h : c.Rearranged c') (kind : Kind) : c.has kind = c'.has kind :=
  h.components.any_eq

theorem Rearranged.isLinkable (h : c.Rearranged c') : c.isLinkable = c'.isLinkable := by
  rw [SiteContent.isLinkable, SiteContent.isLinkable, h.has, h.posts.all_eq]

theorem Rearranged.sections (h : c.Rearranged c') (hd : c.Distinct) (year : Int) :
    c.sections year = c'.sections year := by
  rw [SiteContent.sections, SiteContent.sections, h.settlement]
  exact Section.ofComponents_congr (Component.byPosition_congr hd.positions h.components) _ _

theorem Rearranged.sorted (h : c.Rearranged c') (hd : c.Distinct) :
    Post.sorted c.posts = Post.sorted c'.posts :=
  Post.sorted_congr hd.ids h.posts

end SiteContent

/-! ## Files and previews -/

variable {c c' : SiteContent}

theorem Site.generate_rearranged (h : c.Rearranged c') (hd : c.Distinct) (o : SiteOptions) :
    generate c o = generate c' o := by
  have hsections := h.sections hd o.year
  have hcards := Card.ofPosts_congr (h.sorted hd)
  have hindex : indexHtml c o = indexHtml c' o := by
    rw [indexHtml, indexHtml, h.settlement, hsections]
  have hscript : script c o = script c' o := by
    rw [script, script, h.settlement, h.has, h.has]
  have hblog : blogPage c o = blogPage c' o := by
    rw [blogPage, blogPage, h.settlement, hsections, hcards]
  have hpost : postPage c o = postPage c' o := by
    rw [postPage, postPage, h.settlement, hsections, hcards]
  rw [generate, generate, hindex, hscript, hblog, hpost, h.has, h.css]

namespace Preview

theorem site_rearranged (h : c.Rearranged c') (hd : c.Distinct) (screen : Text) (year : Int) :
    site c.settlement c.components c.posts c.css screen year
      = site c'.settlement c'.components c'.posts c'.css screen year := by
  have hviews := h.sections hd year
  have hsorted := h.sorted hd
  have hblog : c.components.any (·.kind == .blog) = c'.components.any (·.kind == .blog) :=
    h.has .blog
  rw [SiteContent.sections, SiteContent.sections] at hviews
  have hpage (s : Page.Screen) :
      Page.preview c.settlement (Section.ofComponents c.settlement.name c.components year) c.posts
          c.css s
        = Page.preview c'.settlement (Section.ofComponents c'.settlement.name c'.components year)
            c'.posts c'.css s := by
    rw [hviews, h.settlement, h.css, Page.preview, Page.preview, hsorted]
  unfold site
  simp only [hpage, hblog, hsorted]

/-- A page of the listing is made of the posts in their order. -/
theorem listing_rearranged {posts posts' : List Post} (h : Post.sorted posts = Post.sorted posts')
    (query : Text) (page : Int) : listing posts query page = listing posts' query page := by
  rw [listing, listing, h]

end Preview

/-- **The order of the input does not matter.** If no two components have the same position and no
two posts the same id, then all files of the website, its preview on every screen and every page of
the listing, for every query, are the same in whatever order components and posts are given; and
what cannot be made fails with the same fault. -/
theorem Site.rearranged_exact (hd : c.Distinct) (h : c.Rearranged c') :
    (∀ o : SiteOptions, ofContent c o = ofContent c' o)
    ∧ (∀ (screen : Text) (year : Int),
        Preview.site c.settlement c.components c.posts c.css screen year
          = Preview.site c'.settlement c'.components c'.posts c'.css screen year)
    ∧ ∀ (query : Text) (page : Int),
        Preview.listing c.posts query page = Preview.listing c'.posts query page := by
  refine ⟨fun o => ?_, Preview.site_rearranged h hd, Preview.listing_rearranged (h.sorted hd)⟩
  rw [ofContent, ofContent, h.isLinkable, generate_rearranged h hd]

/-- A website with components out of their order and two posts of one moment, and the same website
read backwards: both are made, and both are the same. -/
theorem Site.rearranged_exact_reversed :
    let post (id : Text) : Post := ⟨id, "Anunț", "Pe scurt", "Pe larg", "1", default⟩
    let c : SiteContent := ⟨⟨"1", "Iași", "is", .nan, .nan, false⟩,
      [⟨"b", .blog none, 5, .left⟩, ⟨"h", .header none, -2, .center⟩, ⟨"f", .footer, 7, .center⟩],
      [post "x", post "y"], ""⟩
    let c' : SiteContent := { c with components := c.components.reverse, posts := c.posts.reverse }
    c.Distinct ∧ c.Rearranged c'
      ∧ (∀ o, ∃ site, Site.ofContent c o = .ok site ∧ Site.ofContent c' o = .ok site)
      ∧ Preview.listing c.posts "anunț" 1 = Preview.listing c'.posts "anunț" 1 := by
  intro post c c'
  have hd : c.Distinct := ⟨by decide, by decide⟩
  have h : c.Rearranged c' :=
    ⟨rfl, (List.reverse_perm _).symm, (List.reverse_perm _).symm, rfl⟩
  obtain ⟨hsite, -, hlisting⟩ := Site.rearranged_exact hd h
  refine ⟨hd, h, fun o => ?_, hlisting "anunț" 1⟩
  have hmade : Site.ofContent c o = .ok (Site.generate c o) := if_pos (by decide)
  exact ⟨_, hmade, (hsite o).symm.trans hmade⟩

end CivicSite
