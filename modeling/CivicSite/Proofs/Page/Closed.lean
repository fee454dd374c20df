import CivicSite.Proofs.Page.Links

/-!
# Closed websites

A website is closed under its own links: every relative address on one of its pages leads to one of
its files, and a fragment to an id of the first page. That is so although links, anchors and files
are decided apart: which kinds the navigation links to, which section keeps an anchor, and whether
there are pages for a blog.

What a page links to is read off the page as it is written. The contents of the posts on the page
for a single post are taken over verbatim, so what they link to is left out.
-/

namespace CivicSite

open Markup
open Component (kinds)

namespace SiteContent

variable {c : SiteContent}

theorem has_iff {k : Kind} (year : Int) :
    c.has k = true ↔ k ∈ (c.sections year).map Section.kind := by
  have hperm : (Component.byPosition c.components).Perm c.components := List.mergeSort_perm _ _
  rw [sections, Section.kinds_ofComponents, kinds, (hperm.map Component.kind).mem_iff, has,
    List.any_eq_true, List.mem_map]
  exact exists_congr fun v => and_congr_right fun _ => beq_iff_eq

end SiteContent

namespace Site

/-! ## Where addresses lead -/

/-- A relative address on the named page leads to a file of the website and, if it points to a place
in it, to an id of the first page. -/
def Leads (site : Site) (page address : Text) : Prop :=
  address.target page ∈ site.files.map (·.1)
    ∧ ∀ f, address.fragment? = some f → address.target page = "index.html" ∧ f ∈ site.html.ids

/-- The relative addresses that are read off the named page lead somewhere. -/
def IsClosed (site : Site) (name page : Text) : Prop :=
  ∀ a ∈ page.addresses, a.isRelative = true → site.Leads name a

variable {c : SiteContent} {o : SiteOptions} {name : Text}

theorem leads_of_fragment? {site : Site} {a : Text} (hfile : a.target name ∈ site.files.map (·.1))
    (hnone : a.fragment? = none) : site.Leads name a :=
  ⟨hfile, fun _ hf => absurd (hnone.symm.trans hf) nofun⟩

/-- The files that every website has. -/
theorem mem_names {file : Text}
    (h : file ∈ (["index.html", "styles.css", "script.js"] : List Text)) :
    file ∈ (generate c o).files.map (·.1) := by
  have halways : ∀ blog, ∀ n ∈ (["index.html", "styles.css", "script.js"] : List Text),
      n ∈ fileNames blog blog := by decide
  rw [names_generate]
  exact halways _ file h

/-- The files that a website with a blog has. -/
theorem mem_names_of_blog (hblog : c.has .blog = true) {file : Text}
    (h : file ∈ (["blog.html", "post.html"] : List Text)) :
    file ∈ (generate c o).files.map (·.1) := by
  rw [names_generate]
  exact (mem_fileNames _ file h).mpr hblog

theorem leads_blog (hblog : c.has .blog = true) : (generate c o).Leads name "blog.html" := by
  have htarget : Text.target "blog.html" name = "blog.html" := rfl
  refine leads_of_fragment? ?_ rfl
  rw [htarget]
  exact mem_names_of_blog hblog (by decide)

theorem leads_card (hblog : c.has .blog = true) (id : Text) :
    (generate c o).Leads name ("post.html?id=" ++ Text.percentEncode id (· == '/')) := by
  have htarget : Text.target ("post.html?id=" ++ Text.percentEncode id (· == '/')) name
      = "post.html" := rfl
  refine leads_of_fragment? ?_ (Text.fragment?_post id)
  rw [htarget]
  exact mem_names_of_blog hblog (by decide)

/-- The files that every page may name. -/
theorem leads_file {file : Text}
    (h : file ∈ (["index.html", "styles.css", "script.js"] : List Text)) :
    (generate c o).Leads name file := by
  have hplain : ∀ n ∈ (["index.html", "styles.css", "script.js"] : List Text),
      n.path = n ∧ n.path.isEmpty = false ∧ n.fragment? = none := by decide
  obtain ⟨hpath, hnonempty, hnone⟩ := hplain file h
  refine leads_of_fragment? ?_ hnone
  rw [Text.target, hnonempty, if_neg Bool.false_ne_true, hpath]
  exact mem_names h

/-! ## The first page -/

section Single

variable (hsingle : Tree.Single (kinds (Component.byPosition c.components)))
include hsingle

theorem ids_html : (generate c o).html.ids
    = (c.sections o.year).flatMap fun v => v.anchor.toList ++ v.kind.slot?.toList := by
  have hids : (indexHtml c o).ids = _ := ids_render (Page.legible_index _ _)
  exact hids.trans (Page.ids_index _ fun v hv => Section.anchored_of_mem hsingle hv)

/-- Every anchor is an id of the first page. -/
theorem leads_anchor {anchor : Text} (h : anchor ∈ Section.anchors (c.sections o.year))
    {home : Text} (hhome : home = "index.html" ∨ home = "" ∧ name = "index.html") :
    (generate c o).Leads name (home ++ "#" ++ anchor) := by
  have hid : anchor ∈ (generate c o).html.ids := by
    obtain ⟨v, hv, ha⟩ := List.mem_filterMap.mp h
    rw [ids_html hsingle, List.mem_flatMap]
    exact ⟨v, hv, List.mem_append_left _ (Option.mem_toList.mpr ha)⟩
  have hindex : ("index.html" : Text) ∈ (generate c o).files.map (·.1) :=
    mem_names List.mem_cons_self
  have hleads {a : Text} (htarget : a.target name = "index.html")
      (hfragment : a.fragment? = some anchor) : (generate c o).Leads name a := by
    refine ⟨htarget ▸ hindex, fun f hf => ⟨htarget, ?_⟩⟩
    obtain rfl := Option.some.inj (hfragment.symm.trans hf)
    exact hid
  rcases hhome with rfl | ⟨rfl, rfl⟩
  · exact hleads rfl rfl
  · exact hleads rfl rfl

/-! ## All pages -/

/-- A published page leads to files and ids of the website if its content does. -/
theorem leads_framed {frame : Page.Frame}
    (hhome : frame.home = "index.html" ∨ frame.home = "" ∧ name = "index.html") {content : Markup}
    (hcontent : ∀ a ∈ content.addresses, (generate c o).Leads name a) {a : Text}
    (ha : a ∈ (Page.framed frame (c.sections o.year) content).addresses)
    (hrelative : a.isRelative = true) : (generate c o).Leads name a := by
  rcases Page.mem_addresses_framed ha with
    h | rfl | rfl | ⟨rfl, hpage⟩ | ⟨v, hv, link, hlink, rfl⟩ | h
  · rw [h] at hrelative
    cases hrelative
  · exact leads_file (by decide)
  · exact leads_file (by decide)
  · rcases hhome with h | ⟨h, -⟩
    · rw [h]
      exact leads_file (by decide)
    · rw [h] at hpage
      cases hpage
  · exact leads_anchor hsingle (Section.anchor_of_nav hv hlink) hhome
  · exact hcontent a h

theorem isClosed_index : (generate c o).IsClosed "index.html" (generate c o).html := by
  intro a ha
  have hread : (indexHtml c o).addresses = _ := addresses_render (Page.legible_index _ _)
  have ha : a ∈ (indexHtml c o).addresses := ha
  rw [hread] at ha
  refine leads_framed hsingle (.inr ⟨rfl, rfl⟩) (fun b hb => ?_) ha
  rw [addresses_flatMap] at hb
  obtain ⟨v, hv, hb⟩ := List.mem_flatMap.mp hb
  rw [Page.addresses_block] at hb
  split at hb
  · rename_i hk
    obtain rfl := List.mem_singleton.mp hb
    exact leads_blog ((SiteContent.has_iff o.year).mpr (hk ▸ List.mem_map_of_mem hv))
  · cases hb

theorem nodup_ids_html : (generate c o).html.ids.Nodup := by
  rw [ids_html hsingle]
  exact Section.nodup_ids hsingle

theorem isClosed_blogPage (hblog : c.has .blog = true) :
    (generate c o).IsClosed "blog.html" (blogPage c o) ∧ (blogPage c o).ids.Nodup := by
  obtain ⟨frame, content, hpage, hhome, hlegible, haddresses, hids⟩ :=
    Page.blog_eq c.settlement.name (c.sections o.year) (Card.ofPosts c.posts)
  have hlegible : (Page.framed frame (c.sections o.year) content).Legible :=
    Page.legible_framed hlegible
  rw [blogPage, hpage]
  constructor
  · intro a ha
    rw [addresses_render hlegible] at ha
    refine leads_framed hsingle (.inl hhome) (fun b hb => ?_) ha
    rw [haddresses] at hb
    obtain ⟨card, -, rfl⟩ := List.mem_map.mp hb
    exact leads_card hblog card.id
  · rw [ids_render hlegible, Page.ids_framed, hids]
    decide

theorem isClosed_postPage (hblog : c.has .blog = true) :
    let page := Page.post c.settlement.name (c.sections o.year) (Card.ofPosts c.posts)
    (generate c o).IsClosed "post.html" (render (withoutVerbatim page))
      ∧ ∀ t ∈ page, t.isVerbatim = true →
        t = .verbatim "<!DOCTYPE html>" ∨ ∃ p ∈ c.posts, t = .verbatim p.content := by
  intro page
  obtain ⟨frame, content, hpage, hhome, hcontent, haddresses⟩ :=
    Page.post_eq c.settlement.name (c.sections o.year) (Card.ofPosts c.posts)
  have hpage : page = Page.framed frame (c.sections o.year) content := hpage
  have hmem : ∀ t ∈ page, t.isLegible = true ∨ ∃ p ∈ c.posts, t = .verbatim p.content := by
    intro t ht
    rw [hpage] at ht
    rcases Page.isLegible_of_mem_framed ht with h | h
    · exact .inl h
    · rcases hcontent t h with h | ⟨card, hcard, rfl⟩
      · exact .inl h
      · obtain ⟨p, hp, rfl⟩ := List.mem_map.mp hcard
        exact .inr ⟨p, (List.mergeSort_perm _ _).mem_iff.mp hp, rfl⟩
  constructor
  · have hlegible : page.withoutVerbatim.Legible := by
      refine legible_withoutVerbatim fun t ht => ?_
      rcases hmem t ht with h | ⟨p, -, rfl⟩
      · exact .inr h
      · exact .inl rfl
    intro a ha
    rw [addresses_render hlegible, addresses, values_withoutVerbatim] at ha
    rw [hpage] at ha
    refine leads_framed hsingle (.inl hhome) (fun b hb => ?_) ha
    rw [haddresses] at hb
    obtain rfl := List.mem_singleton.mp hb
    exact leads_blog hblog
  · intro t ht hverbatim
    rcases hmem t ht with h | h
    · cases t with
      | verbatim s =>
          have htidy := (Bool.and_eq_true_iff.mp h).1
          exact .inl (congrArg Token.verbatim (beq_iff_eq.mp htidy))
      | _ => cases hverbatim
    · exact .inr h

end Single

/-- A website is closed under its links, and no id stands twice on its first page or in its listing.
On the page for a single post the contents of the posts are left out, and besides them only the type
of the document. -/
structure Linked (c : SiteContent) (o : SiteOptions) (site : Site) : Prop where
  index : site.IsClosed "index.html" site.html
  indexIds : site.html.ids.Nodup
  blog : ∀ page, site.blogHtml = some page → site.IsClosed "blog.html" page ∧ page.ids.Nodup
  post : ∀ page, site.postHtml = some page →
    let markup := Page.post c.settlement.name (c.sections o.year) (Card.ofPosts c.posts)
    page = markup.render
      ∧ site.IsClosed "post.html" (render markup.withoutVerbatim)
      ∧ ∀ t ∈ markup, t.isVerbatim = true →
        t = .verbatim "<!DOCTYPE html>" ∨ ∃ p ∈ c.posts, t = .verbatim p.content

theorem linked_generate (hsingle : Tree.Single (kinds (Component.byPosition c.components))) :
    (generate c o).Linked c o where
  index := isClosed_index hsingle
  indexIds := nodup_ids_html hsingle
  blog page hpage := by
    have hpage : (if c.has .blog then some (blogPage c o) else none) = some page := hpage
    split at hpage
    · rename_i hblog
      obtain rfl := Option.some.inj hpage
      exact isClosed_blogPage hsingle hblog
    · cases hpage
  post page hpage := by
    have hpage : (if c.has .blog then some (postPage c o) else none) = some page := hpage
    split at hpage
    · rename_i hblog
      obtain rfl := Option.some.inj hpage
      exact ⟨rfl, isClosed_postPage hsingle hblog⟩
    · cases hpage

end Site

/-- **The fragments in a preview are ids of it.** -/
theorem Page.fragments_preview {s : Settlement} {cs : List Component} {year : Int}
    {posts : List Post} {css : Text} {screen : Screen}
    (hsingle : Tree.Single (kinds (Component.byPosition cs))) :
    let body := Text.body
      (render (preview s (Section.ofComponents s.name cs year) posts css screen))
    ∀ a ∈ body.addresses, ∀ f, a.fragment? = some f → f ∈ body.ids := by
  intro body a ha f hf
  obtain ⟨haddresses, hids⟩ : body.addresses = _ ∧ body.ids = _ := read_body_preview
  rw [haddresses] at ha
  rw [hids, ids_previewInside fun v hv => Section.anchored_of_mem hsingle hv]
  rcases nav_of_mem_previewInside ha with ⟨v, hv, link, hlink, rfl⟩ | hnone
  · obtain rfl : link.anchor = f := Option.some.inj hf
    exact Section.anchor_of_nav hv hlink
  · rw [hnone] at hf
    cases hf

namespace Tree

/-- **Links lead somewhere.** After any operations on a tree, the website that is made of it is
closed under its links, and the ids of its first page and of its listing are distinct; and in every
preview the fragments of links are ids of the preview. If there is no website or no preview, it is
because there is a post that cannot be linked to. -/
theorem links_lead (cs : List Component) (ids : Supply) (os : List Operation) (s : Settlement)
    (posts : List Post) (css : Text) (o : SiteOptions) :
    let t := (runFrom cs ids os).1
    let c : SiteContent := ⟨s, t.components, posts, css⟩
    (match Site.ofContent c o with
    | .ok site => site.Linked c o
    | .error _ => c.isLinkable = false)
    ∧ ∀ screen : Page.Screen, match Preview.site s t.components posts css screen.name o.year with
      | .ok page => ∀ a ∈ page.body.addresses, ∀ f, a.fragment? = some f → f ∈ page.body.ids
      | .error _ => Preview.linkable t.components posts = false := by
  intro t c
  have hw : t.WellFormed := (wellFormed_ofList cs ids).runAll _ os
  have hsingle : Single (kinds (Component.byPosition t.components)) := by
    rw [byPosition_of_numbered hw.numbered]
    exact hw.single
  refine ⟨?_, fun screen => ?_⟩
  · rw [Site.ofContent]
    cases hlinkable : c.isLinkable with
    | true => exact Site.linked_generate hsingle
    | false => exact rfl
  · rw [Preview.site_eq]
    cases hlinkable : Preview.linkable t.components posts with
    | true => exact Page.fragments_preview hsingle
    | false => exact rfl

end Tree

end CivicSite
