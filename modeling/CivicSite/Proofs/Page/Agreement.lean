import CivicSite.Proofs.Page.Anchors
import CivicSite.Proofs.Page.Piece

/-!
# Previews agree with the website

A preview and the first page of the website are put together apart: one shows all its blocks in the
order of the components, the other has header and footer in its frame. Still each block of a preview
is the block that the first page has for the same component, letter by letter. Only the blocks of a
blog and of a map hold something else, and those agree in their heading and their id.

Both pages are read as the blocks of the same sections, each section by a function of its own
(`Page.pieces_preview`, `Page.pieces_index`), and then compared section by section.
-/

namespace CivicSite

open Markup
open Component (kinds)

/-! ## Shared blocks -/

namespace Block

theorem apart_navigation (links : List NavLink) (home : Text) :
    Apart Kind.header.closing (navigation links home) := by
  unfold navigation
  split
  · exact apart_of_all rfl
  · refine apart_append (apart_append (apart_append (apart_of_all rfl) ?_) ?_) (apart_of_all rfl)
    · split <;> exact apart_of_all rfl
    · exact apart_flatMap fun link _ => apart_of_all rfl

theorem apart_cards (cs : List Card) (none : Text) :
    Apart Kind.blog.closing (cards cs 3 none) := by
  unfold cards
  split
  · exact apart_of_all rfl
  · exact apart_flatMap fun c _ => apart_of_all rfl

theorem isBlock_header (v : Section) (home : Text) : IsBlock .header (header v home) :=
  isBlock_of_content (k := .header) rfl rfl rfl
    (apart_append (apart_of_all rfl) (apart_navigation v.nav home)) (blocks_header v home)
    (.inr rfl)

theorem isBlock_footer (v : Section) : IsBlock .footer (footer v) :=
  isBlock_of_content (k := .footer) rfl rfl rfl (apart_of_all rfl) rfl (.inr rfl)

theorem isBlock_hero (v : Section) : IsBlock .hero (hero v) :=
  isBlock_of_content (k := .hero) (List.append_nil _).symm rfl rfl (apart_of_all rfl) rfl
    (.inl rfl)

theorem isBlock_prose (v : Section)
    (h : v.kind = .about ∨ v.kind = .services ∨ v.kind = .contact) : IsBlock v.kind (prose v) := by
  have hblocks := blocks_prose v h
  unfold prose at hblocks ⊢
  rcases h with h | h | h <;> rw [h] at hblocks ⊢ <;> cases v.anchor
  all_goals
    exact isBlock_of_content (List.append_nil _).symm rfl rfl (apart_of_all rfl) rfl (.inl rfl)

end Block

namespace Page

variable {s : Settlement} {teasers : List Card} {remaining : Nat} {v : Section} {a : Text}

theorem idOf_eq (ha : v.anchor = some a) : Block.idOf v = attr "id" a := by
  rw [Block.idOf, ha]
  rfl

theorem isTitled_blogBlock (ha : v.anchor = some a) :
    IsTitled .blog v.title a (blogBlock v) := by
  unfold blogBlock
  rw [idOf_eq ha]
  exact isTitled_of_content (k := .blog) rfl rfl rfl rfl (apart_of_all rfl) rfl

theorem isTitled_mapBlock (ha : v.anchor = some a) : IsTitled .map v.title a (mapBlock v) := by
  unfold mapBlock
  rw [idOf_eq ha]
  exact isTitled_of_content (k := .map) rfl rfl rfl rfl (apart_of_all rfl) rfl

theorem isTitled_previewMap (ha : v.anchor = some a) :
    IsTitled .map v.title a (previewMap v s) := by
  unfold previewMap
  rw [idOf_eq ha]
  exact isTitled_of_content (k := .map) rfl rfl rfl rfl (apart_of_all rfl) rfl

theorem isTitled_previewBlog (ha : v.anchor = some a) :
    IsTitled .blog v.title a (previewBlog v teasers remaining) := by
  have hblocks := @blocks_previewBlog teasers remaining v
  have hcards := Block.apart_cards teasers "Nu există postări încă."
  unfold previewBlog at hblocks ⊢
  rw [idOf_eq ha] at hblocks ⊢
  refine isTitled_of_content (k := .blog) rfl rfl rfl rfl ?_ hblocks
  refine apart_append (apart_append (apart_append (apart_of_all rfl) hcards) ?_) (apart_of_all rfl)
  split <;> exact apart_of_all rfl

/-! ## Blocks of sections -/

/-- The block that a section has on the first page, header and footer included. -/
def publishedBlock (v : Section) : Markup :=
  match v.kind with
  | .header => Block.header v ""
  | .footer => Block.footer v
  | _ => block v

/-- Whether the block of a kind is made for the preview alone. -/
def isAdapted (k : Kind) : Bool := k == .blog || k == .map

/-- **All but two kinds of sections have the same block in a preview.** -/
theorem previewBlock_eq (h : isAdapted v.kind = false) :
    previewBlock s teasers remaining v = publishedBlock v := by
  unfold previewBlock publishedBlock block
  cases hk : v.kind with
  | blog | map => rw [hk] at h; cases h
  | _ => rfl

theorem isTitled_publishedBlock (ha : v.anchor = some a) (hk : isAdapted v.kind = true) :
    IsTitled v.kind v.title a (publishedBlock v) := by
  unfold publishedBlock block
  cases hv : v.kind with
  | blog => exact isTitled_blogBlock ha
  | map => exact isTitled_mapBlock ha
  | _ => rw [hv] at hk; cases hk

theorem isTitled_previewBlock (ha : v.anchor = some a) (hk : isAdapted v.kind = true) :
    IsTitled v.kind v.title a (previewBlock s teasers remaining v) := by
  unfold previewBlock
  cases hv : v.kind with
  | blog => exact isTitled_previewBlog ha
  | map => exact isTitled_previewMap ha
  | _ => rw [hv] at hk; cases hk

/-- The sections of blogs and maps do not repeat, so they have an anchor. -/
theorem anchor_of_isAdapted (h : v.Anchored) (hk : isAdapted v.kind = true) :
    ∃ a, v.anchor = some a := by
  cases hv : v.kind with
  | blog | map => exact ⟨_, (h.single (by rw [hv]; rfl)).trans (congrArg Kind.anchor? hv)⟩
  | _ => rw [hv] at hk; cases hk

theorem isBlock_publishedBlock (h : v.Anchored) : IsBlock v.kind (publishedBlock v) := by
  cases hadapted : isAdapted v.kind with
  | true =>
      obtain ⟨a, ha⟩ := anchor_of_isAdapted h hadapted
      exact (isTitled_publishedBlock ha hadapted).isBlock
  | false =>
      unfold publishedBlock block
      cases hv : v.kind with
      | header => exact Block.isBlock_header v ""
      | hero => exact Block.isBlock_hero v
      | footer => exact Block.isBlock_footer v
      | blog | map => rw [hv] at hadapted; cases hadapted
      | about | services | contact =>
          have hprose := Block.isBlock_prose v (by simp [hv])
          rwa [hv] at hprose

theorem isBlock_previewBlock (h : v.Anchored) :
    IsBlock v.kind (previewBlock s teasers remaining v) := by
  cases hadapted : isAdapted v.kind with
  | true =>
      obtain ⟨a, ha⟩ := anchor_of_isAdapted h hadapted
      exact (isTitled_previewBlock ha hadapted).isBlock
  | false =>
      rw [previewBlock_eq hadapted]
      exact isBlock_publishedBlock h

/-! ## Both pages -/

section Pages

variable {views : List Section} {posts : List Post} {css : Text} {screen : Screen}

/-- The blocks of a preview are those of its sections. -/
theorem pieces_preview (h : ∀ v ∈ views, v.Anchored) :
    ∃ teasers remaining, Text.pieces (render (preview s views posts css screen))
      = pieces (views.flatMap (previewBlock s teasers remaining)) := by
  let shown := (Post.sorted posts).take teaserCount
  let f := previewBlock s (Card.ofPosts shown) ((Post.sorted posts).length - shown.length)
  have hf : ∀ v ∈ views, IsBlock v.kind (f v) := fun v hv => isBlock_previewBlock (h v hv)
  obtain ⟨hwhole, hpieces⟩ : (previewInside s views posts).Whole
      ∧ (previewInside s views posts).pieces = pieces (views.flatMap f) := by
    unfold previewInside
    cases views with
    | nil => exact ⟨(whole_of_blocks (tidy_of_all rfl) rfl).1, rfl⟩
    | cons v rest =>
        rw [List.isEmpty_cons, if_neg Bool.false_ne_true]
        exact ⟨(whole_flatMap fun v hv => (hf v hv).toWhole).1, rfl⟩
  obtain ⟨htidy, hcount⟩ := @bodyless_previewBody s views posts screen
  have hopen : Tidy (line 0 [.start "div" [attr "class" "preview-frame",
      attr "style" ("max-width: " ++ screen.width ++ ";")]]) := tidy_of_all rfl
  refine ⟨_, _, Eq.trans ?_ hpieces⟩
  rw [preview_eq, pieces_render (previewHead s css) rfl htidy hcount, previewBody,
    List.append_assoc, pieces_append_of_blocks hopen rfl, hwhole.reads]
  exact List.append_nil _

/-- The sections as the first page has them: the header on top and the footer at the bottom. -/
def framedOrder (views : List Section) : List Section :=
  views.filter (·.kind == .header) ++ views.filter (!inFrame ·.kind)
    ++ views.filter (·.kind == .footer)

/-- The sections of one kind keep their order. -/
theorem filter_framedOrder (views : List Section) (k : Kind) :
    (framedOrder views).filter (·.kind == k) = views.filter (·.kind == k) := by
  have hpart (p : Kind → Bool) : views.filter (fun v => v.kind == k && p v.kind)
      = if p k then views.filter (·.kind == k) else [] := by
    cases hp : p k with
    | true =>
        refine List.filter_congr fun v _ => ?_
        cases hv : v.kind == k with
        | true => rw [beq_iff_eq.mp hv, hp]; rfl
        | false => rfl
    | false =>
        refine List.filter_eq_nil_iff.mpr fun v _ hv => ?_
        obtain ⟨hkind, hkept⟩ := Bool.and_eq_true_iff.mp hv
        rw [beq_iff_eq.mp hkind, hp] at hkept
        cases hkept
  rw [framedOrder, List.filter_append, List.filter_append, List.filter_filter, List.filter_filter,
    List.filter_filter, hpart (· == .header), hpart (!inFrame ·), hpart (· == .footer)]
  cases k <;> simp [inFrame]

/-- If no two sections have a kind, looking for the first one finds all of them. -/
theorem filter_eq_first? {k : Kind} (h : (views.map Section.kind).count k ≤ 1) :
    views.filter (·.kind == k) = (Section.first? views k).toList := by
  induction views with
  | nil => rfl
  | cons v rest ih =>
      rw [List.map_cons, List.count_cons] at h
      rw [List.filter_cons, Section.first?, List.find?_cons]
      cases hv : v.kind == k with
      | true =>
          rw [hv, if_pos rfl] at h
          have hnone : rest.filter (·.kind == k) = [] := by
            refine List.filter_eq_nil_iff.mpr fun w hw hk => ?_
            have hpos : 0 < (rest.map Section.kind).count k :=
              List.count_pos_iff.mpr (beq_iff_eq.mp hk ▸ List.mem_map_of_mem hw)
            omega
          rw [if_pos rfl, hnone]
          rfl
      | false => exact ih (by omega)

/-- The first page shows the block of each section. -/
theorem inside_index (hsingle : Tree.Single (views.map Section.kind)) {frame : Frame}
    (hhome : frame.home = "") : top frame views ++ views.flatMap block ++ bottom views
      = (framedOrder views).flatMap publishedBlock := by
  have htop : top frame views = (views.filter (·.kind == .header)).flatMap publishedBlock := by
    rw [filter_eq_first? (hsingle .header rfl), top, hhome]
    cases hfirst : Section.first? views .header with
    | none => rfl
    | some v =>
        have hk : v.kind = .header := beq_iff_eq.mp (List.find?_some hfirst :)
        rw [Option.toList_some, List.flatMap_singleton, publishedBlock, hk]
  have hbottom : bottom views = (views.filter (·.kind == .footer)).flatMap publishedBlock := by
    rw [filter_eq_first? (hsingle .footer rfl), bottom]
    cases hfirst : Section.first? views .footer with
    | none => rfl
    | some v =>
        have hk : v.kind = .footer := beq_iff_eq.mp (List.find?_some hfirst :)
        rw [Option.toList_some, List.flatMap_singleton, publishedBlock, hk]
  -- header and footer have no block among the content, so it is that of the other sections
  have hblock (v : Section) : block v = if inFrame v.kind then [] else publishedBlock v := by
    unfold publishedBlock block
    cases v.kind <;> rfl
  have hcontent :
      views.flatMap block = (views.filter (!inFrame ·.kind)).flatMap publishedBlock := by
    clear hsingle htop hbottom
    induction views with
    | nil => rfl
    | cons v rest ih =>
        rw [List.flatMap_cons, List.filter_cons, ih, hblock]
        cases inFrame v.kind <;> rfl
  rw [framedOrder, List.flatMap_append, List.flatMap_append, htop, hcontent, hbottom]

/-- The blocks of the first page are those of its sections, in its own order. -/
theorem pieces_index (h : ∀ v ∈ views, v.Anchored) (hsingle : Tree.Single (views.map Section.kind))
    (settlement : Text) :
    (∀ v ∈ framedOrder views, IsBlock v.kind (publishedBlock v))
      ∧ Text.pieces (render (index settlement views))
        = pieces ((framedOrder views).flatMap publishedBlock) := by
  have hblocks : ∀ v ∈ framedOrder views, IsBlock v.kind (publishedBlock v) := by
    intro v hv
    rw [framedOrder, List.mem_append, List.mem_append] at hv
    rcases hv with (hv | hv) | hv <;> exact isBlock_publishedBlock (h v (List.mem_filter.mp hv).1)
  have hinner : Inner (views.flatMap block) := inner_flatMap fun v _ => inner_block v
  have hwhole := (whole_flatMap fun v hv => (hblocks v hv).toWhole).1
  refine ⟨hblocks, ?_⟩
  rw [index, framed_eq,
    pieces_render _ rfl (tidy_inside hinner) (countOf_inside hinner (by decide)),
    inside_index hsingle rfl, hwhole.reads,
    (whole_of_blocks (inner_foot _).tidy (blocks_foot _)).2, List.append_nil]

/-- What the blocks of a blog or a map are labelled with. -/
theorem labels_sections {f : Section → Markup} {k : Kind} (h : ∀ v ∈ views, v.Anchored)
    (hk : isAdapted k = true)
    (hf : ∀ v a, v.anchor = some a → isAdapted v.kind = true → IsTitled v.kind v.title a (f v)) :
    ((views.filter (·.kind == k)).flatMap fun v => (f v).pieces.map (·.2)).map Text.label
      = (views.filter (·.kind == k)).map fun v => (some (escapeText v.title), k.anchor?) := by
  rw [List.map_flatMap, List.map_eq_flatMap]
  refine List.flatMap_congr fun v hv => ?_
  obtain ⟨hmem, hkind⟩ := List.mem_filter.mp hv
  have hkind : v.kind = k := beq_iff_eq.mp hkind
  have hadapted : isAdapted v.kind = true := hkind ▸ hk
  obtain ⟨a, ha⟩ := anchor_of_isAdapted (h v hmem) hadapted
  obtain ⟨text, htext, hlabel⟩ := (hf v a ha hadapted).one
  rw [htext, List.map_singleton, List.map_singleton, hlabel, ← hkind, (h v hmem).proper a ha]

/-- What a preview and the first page have in common. Blocks are compared kind by kind, and those of
one kind in their order on each page. -/
structure Agree (page index : Text) : Prop where
  /-- Most blocks are the same, letter by letter. -/
  shared : ∀ k, isAdapted k = false → page.blocksOf k = index.blocksOf k
  /-- The blocks of blogs and maps have the same heading and the same id. -/
  labels : ∀ k, isAdapted k = true →
    (page.blocksOf k).map Text.label = (index.blocksOf k).map Text.label
  /-- They do have a heading, and their id is the anchor of their kind. -/
  labelled : ∀ k, isAdapted k = true →
    ∀ block ∈ page.blocksOf k, block.heading?.isSome = true ∧ block.id? = k.anchor?

/-- **A preview and the first page agree** in what they show of the same sections, and the preview
shows a block for each section. -/
theorem agree_preview (h : ∀ v ∈ views, v.Anchored) (hsingle : Tree.Single (views.map Section.kind))
    (settlement : Text) :
    let page := render (preview s views posts css screen)
    page.pieces.map (·.1) = views.map Section.kind
      ∧ Agree page (render (index settlement views)) := by
  intro page
  obtain ⟨teasers, remaining, hpage⟩ : ∃ teasers remaining,
      page.pieces = pieces (views.flatMap (previewBlock s teasers remaining)) := pieces_preview h
  have hblocks : ∀ v ∈ views, IsBlock v.kind (previewBlock s teasers remaining v) :=
    fun v hv => isBlock_previewBlock (h v hv)
  obtain ⟨hpublished, hindex⟩ := pieces_index h hsingle settlement
  have hfirst (k : Kind) : Text.blocksOf (render (index settlement views)) k
      = (views.filter (·.kind == k)).flatMap fun v => (publishedBlock v).pieces.map (·.2) := by
    rw [← filter_framedOrder]
    exact blocksOf_sections hindex hpublished k
  have hlabels (k : Kind) (hk : isAdapted k = true) := labels_sections h hk fun v a ha hv =>
    @isTitled_previewBlock s teasers remaining v a ha hv
  refine ⟨by rw [hpage, kinds_sections hblocks], fun k hk => ?_, fun k hk => ?_, fun k hk => ?_⟩
  · rw [blocksOf_sections hpage hblocks, hfirst]
    refine List.flatMap_congr fun v hv => ?_
    have hkind : v.kind = k := beq_iff_eq.mp (List.mem_filter.mp hv).2
    rw [previewBlock_eq (hkind ▸ hk)]
  · rw [blocksOf_sections hpage hblocks, hfirst, hlabels k hk]
    exact (labels_sections h hk fun v a ha hv => isTitled_publishedBlock ha hv).symm
  · intro block hblock
    have hlabel : block.label ∈ (page.blocksOf k).map Text.label := List.mem_map_of_mem hblock
    rw [blocksOf_sections hpage hblocks, hlabels k hk] at hlabel
    obtain ⟨v, -, hv⟩ := List.mem_map.mp hlabel
    obtain ⟨hheading, hid⟩ := Prod.mk.inj hv
    exact ⟨by rw [← hheading]; rfl, hid.symm⟩

end Pages

end Page

namespace Tree

/-- **Previews agree with the website.** After any operations on a tree its preview has a block for
each component, in their order, and each of them is the block that the first page has for it; only
those of a blog and of a map may differ, but not in their heading and their id. If there is no
preview, it is because there is a post that cannot be linked to. -/
theorem preview_agrees (cs : List Component) (ids : Supply) (os : List Operation) (s : Settlement)
    (posts : List Post) (css : Text) (o : SiteOptions) (screen : Page.Screen) :
    let t := (runFrom cs ids os).1
    match Preview.site s t.components posts css screen.name o.year with
    | .ok page => page.pieces.map (·.1) = kinds t.components
        ∧ Page.Agree page (Site.indexHtml ⟨s, t.components, posts, css⟩ o)
    | .error _ => Preview.linkable t.components posts = false := by
  intro t
  have hw : t.WellFormed := (wellFormed_ofList cs ids).runAll _ os
  have hordered : Component.byPosition t.components = t.components :=
    byPosition_of_numbered hw.numbered
  let views := Section.ofComponents s.name t.components o.year
  have hkinds : views.map Section.kind = kinds t.components :=
    (Section.kinds_ofComponents s.name t.components o.year).trans (congrArg kinds hordered)
  have hviews : ∀ v ∈ views, v.Anchored := fun v hv =>
    Section.anchored_of_mem (hordered.symm ▸ hw.single) hv
  rw [Preview.site_eq]
  cases hlinkable : Preview.linkable t.components posts with
  | false => exact rfl
  | true =>
      rw [← hkinds]
      exact Page.agree_preview hviews (hkinds.symm ▸ hw.single) s.name

end Tree

end CivicSite
