import CivicSite.Proofs.Page.Frame
import CivicSite.Proofs.Tree.Run
import CivicSite.Site

/-!
# The order of blocks

A preview shows its blocks in the order of the components' positions. The first page of the website
does so with all blocks but two: its header is on top and its footer at the bottom, wherever they
stand among the components. Moves can take them anywhere, so the two pages agree just as long as the
header is the first component and the footer the last one.
-/

namespace CivicSite

open Component (kinds)

/-! ## Kinds of sections -/

namespace Section

theorem kind_ofComponent (c : Component) (settlement : Text) (year : Int) (nav : List NavLink) :
    (ofComponent c settlement year nav).kind = c.kind := by
  unfold ofComponent
  cases c.body <;> rfl

theorem kinds_keepFirstAnchors (seen : List Text) (views : List Section) :
    (keepFirstAnchors seen views).map kind = views.map kind := by
  induction views generalizing seen with
  | nil => rfl
  | cons v rest ih =>
      unfold keepFirstAnchors
      cases v.anchor with
      | none => exact congrArg (v.kind :: ·) (ih seen)
      | some a =>
          dsimp only
          split
          · exact congrArg (v.kind :: ·) (ih seen)
          · exact congrArg (v.kind :: ·) (ih (a :: seen))

/-- **There is a section for each component**, in the order of the positions. -/
theorem kinds_ofComponents (settlement : Text) (cs : List Component) (year : Int) :
    (ofComponents settlement cs year).map kind = kinds (Component.byPosition cs) := by
  rw [ofComponents, kinds_keepFirstAnchors, List.map_map]
  exact List.map_congr_left fun c _ => kind_ofComponent c settlement year _

theorem isSome_first? (views : List Section) (k : Kind) :
    (first? views k).isSome = true ↔ k ∈ views.map kind := by
  rw [first?, List.find?_isSome, List.mem_map]
  exact exists_congr fun v => and_congr_right fun _ => beq_iff_eq

end Section

/-! ## The first page -/

namespace Page

theorem firstKind_eq (views : List Section) (k : Kind) :
    firstKind views k = if k ∈ views.map Section.kind then [k] else [] := by
  unfold firstKind
  have hsome := Section.isSome_first? views k
  cases hfirst : Section.first? views k with
  | none =>
      rw [hfirst] at hsome
      rw [if_neg fun hmem => Bool.false_ne_true (hsome.mpr hmem)]
      rfl
  | some v =>
      rw [hfirst] at hsome
      rw [if_pos (hsome.mp rfl)]
      rfl

/-- The blocks of the first page for components of the given kinds: the header, the blocks that do
not belong to the frame, and the footer. -/
def published (ks : List Kind) : List Kind :=
  (if .header ∈ ks then [.header] else []) ++ ks.filter (!inFrame ·)
    ++ if .footer ∈ ks then [.footer] else []

theorem blocks_index (settlement : Text) (views : List Section) :
    Text.blocks (Markup.render (index settlement views)) = published (views.map Section.kind) := by
  have hinner : Markup.Inner (views.flatMap block) := Markup.inner_flatMap fun v _ => inner_block v
  have hcontent : Markup.blocks (views.flatMap block)
      = (views.map Section.kind).filter (!inFrame ·) := by
    rw [Markup.blocks_flatMap]
    induction views with
    | nil => rfl
    | cons v rest ih =>
        rw [List.flatMap_cons, blocks_block,
          ih (Markup.inner_flatMap fun v _ => inner_block v), List.map_cons, List.filter_cons]
        cases inFrame v.kind <;> rfl
  rw [index, blocks_framed hinner, hcontent, firstKind_eq, firstKind_eq]
  rfl

/-! ## Both orders -/

section Published

variable {ks : List Kind}

theorem published_of_framed (h : Tree.Framed ks) :
    published ks = .header :: ks.filter (!inFrame ·) ++ [.footer] := by
  have hheader : Kind.header ∈ ks := List.count_pos_iff.mp (by rw [h.1]; exact Nat.one_pos)
  have hfooter : Kind.footer ∈ ks := List.count_pos_iff.mp (by rw [h.2]; exact Nat.one_pos)
  rw [published, if_pos hheader, if_pos hfooter]
  rfl

/-- Between a header and a footer, which are the only ones, nothing belongs to the frame. -/
theorem filter_between {middle : List Kind}
    (h : Tree.Framed (Kind.header :: middle ++ [Kind.footer])) :
    (Kind.header :: middle ++ [Kind.footer]).filter (!inFrame ·) = middle := by
  obtain ⟨hheader, hfooter⟩ := h
  simp only [List.cons_append, List.count_cons, List.count_append, List.count_nil]
    at hheader hfooter
  have hnone : ∀ k ∈ middle, (!inFrame k) = true := by
    intro k hk
    have hpos := List.count_pos_iff.mpr hk
    cases k with
    | header => simp at hheader; omega
    | footer => simp at hfooter; omega
    | _ => rfl
  rw [List.cons_append, List.filter_cons_of_neg (by decide), List.filter_append,
    List.filter_eq_self.mpr hnone]
  exact List.append_nil middle

/-- **The orders agree just if the header comes first and the footer last.** -/
theorem published_eq_iff (h : Tree.Framed ks) :
    published ks = ks ↔ ks.head? = some .header ∧ ks.getLast? = some .footer := by
  constructor
  · intro heq
    rw [published_of_framed h] at heq
    rw [← heq]
    exact ⟨rfl, List.getLast?_concat⟩
  · rintro ⟨hhead, hlast⟩
    obtain ⟨rest, rfl⟩ := List.head?_eq_some_iff.mp hhead
    obtain ⟨front, hfront⟩ := List.getLast?_eq_some_iff.mp hlast
    cases front with
    | nil => cases hfront
    | cons k middle =>
        obtain ⟨rfl, rfl⟩ := List.cons.inj hfront
        rw [published_of_framed h]
        exact congrArg (fun l => Kind.header :: l ++ [.footer]) (filter_between h)

end Published

end Page

/-! ## Previews that are made -/

namespace Preview

/-- Whether a preview can link to the posts that it shows. -/
def linkable (components : List Component) (posts : List Post) : Bool :=
  !components.any (·.kind == .blog) ||
    ((Post.sorted posts).take teaserCount).all (·.id.isEncodable)

theorem ofName?_name (screen : Page.Screen) : Page.Screen.ofName? screen.name = some screen := by
  cases screen <;> decide

/-- A preview on a screen that there is fails just if there is a post that it cannot link to. -/
theorem site_eq (s : Settlement) (components : List Component) (posts : List Post) (css : Text)
    (screen : Page.Screen) (year : Int) :
    site s components posts css screen.name year =
      if linkable components posts then
        .ok (Markup.render
          (Page.preview s (Section.ofComponents s.name components year) posts css screen))
      else .error .unencodable := by
  rw [site, ofName?_name, linkable]
  dsimp only
  cases components.any (·.kind == .blog) <;>
    cases ((Post.sorted posts).take teaserCount).all (·.id.isEncodable) <;> rfl

end Preview

/-! ## The order on both pages -/

namespace Tree

/-- **The order of blocks.** After any operations on a tree, a preview shows the blocks of its
components in the order of their positions. The first page shows the header, the other blocks in
that order, and the footer; so the two agree just if the header comes first and the footer last,
or there are no components. -/
theorem page_order (cs : List Component) (ids : Supply) (os : List Operation) (s : Settlement)
    (posts : List Post) (css : Text) (o : SiteOptions) :
    let t := (runFrom cs ids os).1
    let order := kinds (Component.byPosition t.components)
    let index := Site.indexHtml ⟨s, t.components, posts, css⟩ o
    (∀ screen : Page.Screen, Preview.linkable t.components posts = true →
      ∃ page, Preview.site s t.components posts css screen.name o.year = .ok page
        ∧ page.blocks = order)
    ∧ index.blocks
        = (if t.isEmpty then [] else .header :: order.filter (!Page.inFrame ·) ++ [.footer])
    ∧ (index.blocks = order ↔
        t.isEmpty = true ∨ order.head? = some .header ∧ order.getLast? = some .footer) := by
  intro t order index
  have hw : t.WellFormed := (wellFormed_ofList cs ids).runAll _ os
  have hindex : index.blocks = Page.published order := by
    have hblocks := Page.blocks_index s.name (Section.ofComponents s.name t.components o.year)
    rw [Section.kinds_ofComponents] at hblocks
    exact hblocks
  have horder : order = kinds t.components :=
    congrArg kinds (byPosition_of_numbered hw.numbered)
  refine ⟨fun screen hlinkable => ?_, ?_⟩
  · rw [Preview.site_eq, if_pos hlinkable]
    refine ⟨_, rfl, ?_⟩
    rw [Page.blocks_preview]
    exact Section.kinds_ofComponents s.name t.components o.year
  · rw [hindex]
    rcases hw.framed with hnil | hframed
    · have hempty : t.isEmpty = true := by rw [isEmpty, hnil]; rfl
      rw [horder, hnil, if_pos hempty]
      exact ⟨rfl, iff_of_true rfl (.inl hempty)⟩
    · have hempty : t.isEmpty = false := by
        cases hcs : t.components with
        | nil =>
            rw [hcs] at hframed
            cases hframed.1
        | cons c rest => rw [isEmpty, hcs]; rfl
      rw [← horder] at hframed
      rw [hempty, if_neg Bool.false_ne_true]
      refine ⟨Page.published_of_framed hframed, ?_⟩
      rw [Page.published_eq_iff hframed]
      exact (or_iff_right Bool.false_ne_true).symm

/-- A header can be moved from its place. -/
example : kinds (runFrom [] (.ofSequence fun n => List.replicate n 'c')
    [.edit (.seed "Iași"), .edit (.move "" "down")]).1.components = [.hero, .header, .footer] := by
  decide +kernel

end Tree

end CivicSite
