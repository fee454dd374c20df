import CivicSite.Proofs.Page.Frame
import CivicSite.Proofs.Script.Encodable
import CivicSite.Site

/-!
# Websites that have bytes

A website can be written to files if all its texts have UTF-8. Pages add only characters to the
texts that they are given, so the files of a website have UTF-8 if the texts that it shows have
(`SiteContent.Encodable.isEncodable_files`). What goes into the script as a literal may even hold
halves of surrogate pairs, as they are escaped there.
-/

namespace CivicSite

open Text (isEncodable_append isEncodable_ofString isEncodable_ofChars isEncodable_flatMap)

/-! ## Escapes -/

/-- Percent encoding leaves characters only. -/
theorem Text.isEncodable_percentEncode (s : Text) (keep : Char → Bool) :
    (percentEncode s keep).isEncodable = true := by
  refine isEncodable_flatMap.mpr fun c _ => ?_
  unfold percentPoint
  split
  · cases c with
    | char ch => exact isEncodable_ofChars [ch]
    | lone half => rename_i h; cases h
  · exact isEncodable_ofChars _

theorem isEncodable_escapeText {s : Text} (h : s.isEncodable = true) :
    (escapeText s).isEncodable = true := by
  refine isEncodable_flatMap.mpr fun c hc => ?_
  unfold escapePoint
  iterate 5
    split
    · exact isEncodable_ofString _
  obtain ⟨ch, rfl⟩ := Text.isEncodable_iff_forall.mp h c hc
  exact isEncodable_ofChars [ch]

/-! ## Markup -/

def Attribute.Encodable (a : Attribute) : Prop :=
  a.1.isEncodable = true ∧ ∀ v ∈ a.2, v.isEncodable = true

@[simp] theorem encodable_attr {name value : Text} : (attr name value).Encodable
    ↔ name.isEncodable = true ∧ value.isEncodable = true :=
  and_congr_right fun _ => ⟨fun h => h value rfl, fun h _ hv => Option.some.inj hv ▸ h⟩

@[simp] theorem encodable_flag {name : Text} :
    (flag name).Encodable ↔ name.isEncodable = true :=
  and_iff_left nofun

/-- The texts of a token have UTF-8. -/
def Token.Encodable : Token → Prop
  | start tag attributes | empty tag attributes =>
    tag.isEncodable = true ∧ ∀ a ∈ attributes, a.Encodable
  | stop s | text s | reference s | layout s | verbatim s => s.isEncodable = true

theorem isEncodable_renderAttribute {a : Attribute} (h : a.Encodable) :
    (renderAttribute a).isEncodable = true := by
  obtain ⟨name, _ | value⟩ := a
  · exact isEncodable_append.mpr ⟨isEncodable_ofString _, h.1⟩
  · have hvalue := isEncodable_escapeText (h.2 value rfl)
    have hname : name.isEncodable = true := h.1
    simp only [renderAttribute, isEncodable_append, isEncodable_ofString, hname, hvalue, and_self]

theorem Token.isEncodable_render {t : Token} (h : t.Encodable) : t.render.isEncodable = true := by
  have hattributes {attributes : List Attribute} (h : ∀ a ∈ attributes, a.Encodable) :
      Text.isEncodable (attributes.flatMap renderAttribute) = true :=
    isEncodable_flatMap.mpr fun a ha => isEncodable_renderAttribute (h a ha)
  cases t with
  | start tag attributes =>
      have hinside := hattributes h.2
      have htag : tag.isEncodable = true := h.1
      simp only [render, isEncodable_append, isEncodable_ofString, htag, hinside, and_self]
  | empty tag attributes =>
      have hinside := hattributes h.2
      have htag : tag.isEncodable = true := h.1
      simp only [render, isEncodable_append, isEncodable_ofString, htag, hinside, and_self]
  | stop s | reference s =>
      have hs : s.isEncodable = true := h
      simp only [render, isEncodable_append, isEncodable_ofString, hs, and_self]
  | text s => exact isEncodable_escapeText h
  | layout s | verbatim s => exact h

namespace Markup

/-- The texts of all tokens have UTF-8. -/
def Encodable (m : Markup) : Prop := ∀ t ∈ m, t.Encodable

variable {m n : Markup}

theorem Encodable.isEncodable_render (h : m.Encodable) : m.render.isEncodable = true :=
  isEncodable_flatMap.mpr fun t ht => Token.isEncodable_render (h t ht)

@[simp] theorem encodable_nil : Encodable [] := nofun

@[simp] theorem encodable_cons {t : Token} :
    Encodable (t :: m) ↔ t.Encodable ∧ m.Encodable := List.forall_mem_cons

@[simp] theorem encodable_append : Encodable (m ++ n) ↔ m.Encodable ∧ n.Encodable :=
  List.forall_mem_append

theorem encodable_flatMap {α : Type} {l : List α} {f : α → Markup} (h : ∀ a ∈ l, (f a).Encodable) :
    Encodable (l.flatMap f) := by
  intro t ht
  obtain ⟨a, ha, ht⟩ := List.mem_flatMap.mp ht
  exact h a ha t ht

@[simp] theorem encodable_line {depth : Nat} : Encodable (line depth m) ↔ m.Encodable := by
  have hmargin : (Token.layout (List.replicate (4 * depth) ' ')).Encodable :=
    Text.isEncodable_iff_forall.mpr fun c hc => ⟨' ', List.eq_of_mem_replicate hc⟩
  have hend : Encodable [.layout "\n"] :=
    encodable_cons.mpr ⟨isEncodable_ofString _, encodable_nil⟩
  rw [line, encodable_append, encodable_cons]
  exact ⟨fun h => h.1.2, fun h => ⟨⟨hmargin, h⟩, hend⟩⟩

@[simp] theorem encodable_blankLine : Encodable blankLine :=
  encodable_cons.mpr ⟨isEncodable_ofString _, encodable_nil⟩

@[simp] theorem encodable_element {tag : Text} {attributes : List Attribute} :
    Encodable (element tag attributes m)
      ↔ tag.isEncodable = true ∧ (∀ a ∈ attributes, a.Encodable) ∧ m.Encodable := by
  rw [element, encodable_append, encodable_cons, encodable_cons, Token.Encodable, Token.Encodable]
  exact ⟨fun h => ⟨h.1.1.1, h.1.1.2, h.1.2⟩, fun h => ⟨⟨⟨h.1, h.2.1⟩, h.2.2⟩, h.1, encodable_nil⟩⟩

@[simp] theorem encodable_textElement {tag s : Text} {attributes : List Attribute} :
    Encodable (textElement tag attributes s)
      ↔ tag.isEncodable = true ∧ (∀ a ∈ attributes, a.Encodable) ∧ s.isEncodable = true := by
  rw [textElement, encodable_element, encodable_cons, Token.Encodable]
  exact ⟨fun h => ⟨h.1, h.2.1, h.2.2.1⟩, fun h => ⟨h.1, h.2.1, h.2.2, encodable_nil⟩⟩

end Markup

/-! ## Sections and cards -/

theorem isEncodable_alignment (a : Alignment) : a.name.isEncodable = true := by
  cases a <;> exact isEncodable_ofString _

theorem isEncodable_kind (k : Kind) : k.name.isEncodable = true := by
  cases k <;> exact isEncodable_ofString _

/-- The texts of a section have UTF-8. -/
structure Section.Encodable (v : Section) : Prop where
  title : v.title.isEncodable = true
  subtitle : v.subtitle.isEncodable = true
  body : v.body.isEncodable = true
  anchor : ∀ a ∈ v.anchor, a.isEncodable = true
  nav : ∀ l ∈ v.nav, l.text.isEncodable = true ∧ l.anchor.isEncodable = true

/-- The texts of a card have UTF-8. -/
structure Card.Encodable (c : Card) : Prop where
  id : c.id.isEncodable = true
  title : c.title.isEncodable = true
  description : c.description.isEncodable = true
  content : c.content.isEncodable = true
  preview : c.preview.isEncodable = true
  date : c.date.isEncodable = true
  isoDate : c.isoDate.isEncodable = true

namespace Block

open Markup

variable {v : Section}

theorem encodable_classOf {name : Text} (h : name.isEncodable = true) (v : Section) :
    (classOf name v).Encodable := by
  simp only [classOf, encodable_attr, isEncodable_append, isEncodable_ofString,
    isEncodable_alignment, h, and_self]

theorem encodable_navigation {links : List NavLink} {home : Text}
    (h : ∀ l ∈ links, l.text.isEncodable = true ∧ l.anchor.isEncodable = true)
    (hhome : home.isEncodable = true) : (navigation links home).Encodable := by
  unfold navigation
  split
  · exact encodable_nil
  · have hlinks : Encodable (links.flatMap fun link =>
        line 3 (textElement "a" [attr "href" (home ++ "#" ++ link.anchor)] link.text)) :=
      encodable_flatMap fun l hl => by
        simp [hhome, h l hl]
    have hback : Encodable (if home.isEmpty then []
        else line 3 (textElement "a" [attr "href" home] "Acasă")) := by
      split
      · exact encodable_nil
      · simp [hhome]
    simp only [encodable_append, encodable_line, encodable_cons, Token.Encodable,
      isEncodable_ofString, encodable_nil, and_true, true_and]
    exact ⟨⟨List.forall_mem_nil _, hback⟩, hlinks⟩

theorem encodable_header (h : v.Encodable) {home : Text} (hhome : home.isEncodable = true) :
    (header v home).Encodable := by
  simp [header, Token.Encodable, encodable_classOf, h.title, h.subtitle,
    encodable_navigation h.nav hhome]

theorem encodable_footer (h : v.Encodable) : (footer v).Encodable := by
  simp [footer, Token.Encodable, encodable_classOf, h.body]

theorem encodable_hero (h : v.Encodable) : (hero v).Encodable := by
  simp [hero, Token.Encodable, encodable_classOf, h.title, h.subtitle]

theorem encodable_prose (h : v.Encodable) : (prose v).Encodable := by
  have hattributes : ∀ a ∈ classOf v.kind.name v :: (v.anchor.map (attr "id")).toList,
      a.Encodable := by
    refine List.forall_mem_cons.mpr ⟨encodable_classOf (isEncodable_kind v.kind) v, fun a ha => ?_⟩
    obtain ⟨s, hs, rfl⟩ := Option.map_eq_some_iff.mp (Option.mem_toList.mp ha)
    exact encodable_attr.mpr ⟨isEncodable_ofString _, h.anchor s hs⟩
  have hopen : Token.Encodable (.start "section" (classOf v.kind.name v
      :: (v.anchor.map (attr "id")).toList)) := ⟨isEncodable_ofString _, hattributes⟩
  have hclose : Token.Encodable (.stop "section") := isEncodable_ofString _
  simp [prose, hopen, hclose, h.title, h.body]

theorem encodable_idOf (h : v.Encodable) : (idOf v).Encodable := by
  refine encodable_attr.mpr ⟨isEncodable_ofString _, ?_⟩
  cases hanchor : v.anchor with
  | none => exact isEncodable_ofString _
  | some a => exact h.anchor a hanchor

theorem encodable_card {c : Card} (h : c.Encodable) : (card c).Encodable := by
  simp [card, Token.Encodable, Text.isEncodable_percentEncode, h.id, h.title, h.description,
    h.content, h.preview, h.date, h.isoDate]

theorem encodable_cards {cs : List Card} (h : ∀ c ∈ cs, c.Encodable) (depth : Nat) {none : Text}
    (hnone : none.isEncodable = true) : (cards cs depth none).Encodable := by
  unfold cards
  split
  · simp [hnone]
  · exact encodable_flatMap fun c hc => encodable_card (h c hc)

end Block

/-! ## Pages -/

namespace Page

open Markup Block

variable {views : List Section} {posts : List Card} {settlement : Text}

theorem encodable_top {frame : Frame} (hhome : frame.home.isEncodable = true)
    (hviews : ∀ v ∈ views, v.Encodable) : (top frame views).Encodable := by
  unfold top
  cases hv : Section.first? views .header with
  | none => exact encodable_nil
  | some v => exact encodable_header (hviews v (List.mem_of_find?_eq_some hv)) hhome

theorem encodable_bottom (hviews : ∀ v ∈ views, v.Encodable) : (bottom views).Encodable := by
  unfold bottom
  cases hv : Section.first? views .footer with
  | none => exact encodable_nil
  | some v => exact encodable_footer (hviews v (List.mem_of_find?_eq_some hv))

theorem encodable_framed {frame : Frame} (htitle : frame.title.isEncodable = true)
    (hname : frame.name.isEncodable = true) (hhome : frame.home.isEncodable = true)
    (hviews : ∀ v ∈ views, v.Encodable) {content : Markup} (hcontent : content.Encodable) :
    (framed frame views content).Encodable := by
  have hhead : (head frame).Encodable := by
    unfold head
    cases frame.hasMap <;>
      simp [doctype, viewport, leafletCss, Token.Encodable, htitle]
  have hfoot : (foot frame).Encodable := by
    unfold foot
    cases frame.hasMap <;> simp [leafletJs, Token.Encodable]
  simp [framed_eq, hhead, hfoot, encodable_top hhome hviews, encodable_bottom hviews, hcontent,
    Token.Encodable, hname]

theorem encodable_block {v : Section} (h : v.Encodable) : (block v).Encodable := by
  unfold block
  split
  · exact encodable_nil
  · exact encodable_nil
  · exact encodable_hero h
  · exact encodable_prose h
  · exact encodable_prose h
  · exact encodable_prose h
  · simp [blogBlock, Token.Encodable, encodable_classOf, encodable_idOf h, h.title]
  · simp [mapBlock, Token.Encodable, encodable_classOf, encodable_idOf h, h.title]

theorem encodable_index (hsettlement : settlement.isEncodable = true)
    (hviews : ∀ v ∈ views, v.Encodable) : (index settlement views).Encodable := by
  refine encodable_framed ?_ (isEncodable_ofString _) (isEncodable_ofString _) hviews
    (encodable_flatMap fun v hv => encodable_block (hviews v hv))
  dsimp only
  split
  · exact isEncodable_ofString _
  · exact hsettlement

theorem isEncodable_ofFirst {f : Section → Text} (hf : ∀ v ∈ views, (f v).isEncodable = true)
    (k : Kind) (default : String) :
    (((Section.first? views k).map f).getD (default : Text)).isEncodable = true := by
  cases hv : Section.first? views k with
  | none => exact isEncodable_ofString _
  | some v => exact hf v (List.mem_of_find?_eq_some hv)

theorem encodable_blog (hsettlement : settlement.isEncodable = true)
    (hviews : ∀ v ∈ views, v.Encodable) (hposts : ∀ c ∈ posts, c.Encodable) :
    (blog settlement views posts).Encodable := by
  have htitle := isEncodable_ofFirst (fun v hv => (hviews v hv).title) .blog
  have halignment :=
    isEncodable_ofFirst (fun v (_ : v ∈ views) => isEncodable_alignment v.alignment) .blog
  have hcards := encodable_cards hposts 4 (isEncodable_ofString "Nu există postări încă.")
  refine encodable_framed ?_ (isEncodable_ofString _) (isEncodable_ofString _) hviews ?_
  · simp only [isEncodable_append, isEncodable_ofString, htitle, hsettlement, and_self]
  · simp [Token.Encodable, htitle, halignment, hcards]

theorem encodable_post (hsettlement : settlement.isEncodable = true)
    (hviews : ∀ v ∈ views, v.Encodable) (hposts : ∀ c ∈ posts, c.Encodable) :
    (post settlement views posts).Encodable := by
  have hsnapshots : Encodable (posts.flatMap snapshot) := by
    refine encodable_flatMap fun c hc => ?_
    have hcard := hposts c hc
    simp [snapshot, Token.Encodable, hcard.id, hcard.isoDate, hcard.title, hcard.description,
      hcard.content]
  refine encodable_framed ?_ (isEncodable_ofString _) (isEncodable_ofString _) hviews ?_
  · simp only [isEncodable_append, isEncodable_ofString, hsettlement, and_self]
  · simp [Token.Encodable, hsnapshots]

end Page

/-! ## Contents -/

/-- The texts of a component have UTF-8. -/
def Body.Encodable (b : Body) : Prop := ∀ f, ∀ s ∈ b.value? f, s.isEncodable = true

/-- The texts of a post have UTF-8. -/
structure Post.Encodable (p : Post) : Prop where
  id : p.id.isEncodable = true
  title : p.title.isEncodable = true
  description : p.description.isEncodable = true
  content : p.content.isEncodable = true

/-- The texts that a website shows have UTF-8. Posts count if there is a blog. -/
structure SiteContent.Encodable (c : SiteContent) : Prop where
  settlement : c.settlement.name.isEncodable = true
  components : ∀ x ∈ c.components, x.body.Encodable
  posts : c.has .blog = true → ∀ p ∈ c.posts, p.Encodable
  css : c.css.isEncodable = true

instance Body.decidableEncodable (b : Body) : Decidable b.Encodable :=
  decidable_of_iff (∀ f ∈ Field.all, ∀ s ∈ b.value? f, s.isEncodable = true)
    ⟨fun h f => h f (by cases f <;> decide), fun h f _ => h f⟩

instance Post.decidableEncodable (p : Post) : Decidable p.Encodable :=
  decidable_of_iff (p.id.isEncodable = true ∧ p.title.isEncodable = true
      ∧ p.description.isEncodable = true ∧ p.content.isEncodable = true)
    ⟨fun ⟨h₁, h₂, h₃, h₄⟩ => ⟨h₁, h₂, h₃, h₄⟩, fun ⟨h₁, h₂, h₃, h₄⟩ => ⟨h₁, h₂, h₃, h₄⟩⟩

instance SiteContent.decidableEncodable (c : SiteContent) :
    Decidable c.Encodable :=
  decidable_of_iff (c.settlement.name.isEncodable = true ∧ (∀ x ∈ c.components, x.body.Encodable)
      ∧ (c.has .blog = true → ∀ p ∈ c.posts, p.Encodable) ∧ c.css.isEncodable = true)
    ⟨fun ⟨h₁, h₂, h₃, h₄⟩ => ⟨h₁, h₂, h₃, h₄⟩, fun ⟨h₁, h₂, h₃, h₄⟩ => ⟨h₁, h₂, h₃, h₄⟩⟩

theorem isEncodable_orDefault {s : Option Text} {default : Text}
    (hs : ∀ t ∈ s, t.isEncodable = true) (hdefault : default.isEncodable = true) :
    (orDefault s default).isEncodable = true := by
  unfold orDefault
  split
  · split
    · exact hdefault
    · exact hs _ rfl
  · exact hdefault

theorem isEncodable_getD {s : Option Text} {default : Text}
    (hs : ∀ t ∈ s, t.isEncodable = true) (hdefault : default.isEncodable = true) :
    (s.getD default).isEncodable = true := by
  cases s with
  | none => exact hdefault
  | some t => exact hs t rfl

theorem isEncodable_anchor (k : Kind) : ∀ a ∈ k.anchor?, a.isEncodable = true := by
  intro a ha
  cases k <;> first | cases ha; exact isEncodable_ofString _ | cases ha

theorem isEncodable_navLinks (kinds : List Kind) :
    ∀ l ∈ navLinks kinds, l.text.isEncodable = true ∧ l.anchor.isEncodable = true := by
  intro l hl
  obtain ⟨⟨k, name⟩, hmem, hlink⟩ := List.mem_filterMap.mp hl
  have hname : name.isEncodable = true := by
    simp only [navOrder, List.mem_cons, Prod.mk.injEq, List.not_mem_nil, or_false] at hmem
    rcases hmem with ⟨-, rfl⟩ | ⟨-, rfl⟩ | ⟨-, rfl⟩
    all_goals exact isEncodable_ofString _
  dsimp only at hlink
  split at hlink
  · obtain ⟨a, ha, rfl⟩ := Option.map_eq_some_iff.mp hlink
    exact ⟨hname, isEncodable_anchor k a ha⟩
  · cases hlink

namespace Section

theorem encodable_ofComponent {c : Component} (hc : c.body.Encodable) {settlement : Text}
    (hsettlement : settlement.isEncodable = true) (year : Int) {nav : List NavLink}
    (hnav : ∀ l ∈ nav, l.text.isEncodable = true ∧ l.anchor.isEncodable = true) :
    (ofComponent c settlement year nav).Encodable := by
  obtain ⟨id, body, position, alignment⟩ := c
  have hanchor := isEncodable_anchor body.kind
  have htext (s : String) := isEncodable_ofString s
  cases body with
  | header t =>
      refine ⟨isEncodable_orDefault (hc .title) ?_, htext _, htext _, hanchor, hnav⟩
      exact isEncodable_append.mpr ⟨htext _, hsettlement⟩
  | hero t s =>
      exact ⟨isEncodable_getD (hc .title) (htext _), isEncodable_getD (hc .subtitle) (htext _),
        htext _, hanchor, nofun⟩
  | about t d | services t d | contact t d =>
      exact ⟨isEncodable_orDefault (hc .title) (htext _), htext _,
        isEncodable_orDefault (hc .description) (htext _), hanchor, nofun⟩
  | blog t | map t =>
      exact ⟨isEncodable_orDefault (hc .title) (htext _), htext _, htext _, hanchor, nofun⟩
  | footer =>
      refine ⟨htext _, htext _, ?_, hanchor, nofun⟩
      simp only [ofComponent, footerText, isEncodable_append, htext, hsettlement, and_self]

theorem encodable_keepFirstAnchors {views : List Section} (h : ∀ v ∈ views, v.Encodable)
    (seen : List Text) : ∀ v ∈ keepFirstAnchors seen views, v.Encodable := by
  induction views generalizing seen with
  | nil => exact nofun
  | cons v rest ih =>
      obtain ⟨hv, hrest⟩ := List.forall_mem_cons.mp h
      unfold keepFirstAnchors
      split
      · exact List.forall_mem_cons.mpr ⟨hv, ih hrest seen⟩
      · split
        · exact List.forall_mem_cons.mpr ⟨{ hv with anchor := nofun }, ih hrest seen⟩
        · exact List.forall_mem_cons.mpr ⟨hv, ih hrest _⟩

end Section

theorem SiteContent.Encodable.sections {c : SiteContent} (h : c.Encodable) (year : Int) :
    ∀ v ∈ c.sections year, v.Encodable := by
  refine Section.encodable_keepFirstAnchors (fun v hv => ?_) []
  obtain ⟨x, hx, rfl⟩ := List.mem_map.mp hv
  have hx : x ∈ c.components := List.mem_mergeSort.mp hx
  exact Section.encodable_ofComponent (h.components x hx) h.settlement year (isEncodable_navLinks _)

/-! ## Cards -/

theorem Text.dropEndWhile_subset (drop : CodePoint → Bool) (s : Text) :
    dropEndWhile drop s ⊆ s := by
  induction s with
  | nil => exact List.Subset.refl _
  | cons c rest ih =>
      rw [dropEndWhile, List.foldr_cons, ← dropEndWhile]
      split
      · exact List.nil_subset _
      · exact List.cons_subset_cons c ih

theorem isEncodable_teaser {content : Text} (h : content.isEncodable = true) (limit : Int) :
    (teaser content limit).isEncodable = true := by
  unfold teaser
  split
  · exact h
  · have hcut : Text.isEncodable (slice content 0 limit) = true :=
      Text.isEncodable_of_subset h (slice_sublist content 0 limit).subset
    exact isEncodable_append.mpr
      ⟨Text.isEncodable_of_subset hcut (Text.dropEndWhile_subset _ _), isEncodable_ofString _⟩

theorem isEncodable_dateText (t : Timestamp) : (dateText t).isEncodable = true := by
  have hmonths : ∀ name ∈ monthNames, name.isEncodable = true := by
    simp only [monthNames, List.forall_mem_cons, isEncodable_ofString, true_and]
    exact List.forall_mem_nil _
  have hmonth : (monthNames.getD (t.month - 1) "").isEncodable = true := by
    rw [List.getD_eq_getElem?_getD]
    exact isEncodable_getD (fun s hs => hmonths s (List.mem_of_getElem? hs))
      (isEncodable_ofString _)
  simp only [dateText, isEncodable_append, isEncodable_ofString, hmonth, and_self]

theorem Card.encodable_ofPosts {posts : List Post} (h : ∀ p ∈ posts, p.Encodable) :
    ∀ c ∈ ofPosts posts, c.Encodable := by
  intro c hc
  obtain ⟨p, hp, rfl⟩ := List.mem_map.mp hc
  have hp := h p (List.mem_mergeSort.mp hp)
  exact ⟨hp.id, hp.title, hp.description, hp.content, isEncodable_teaser hp.content _,
    isEncodable_dateText _, isEncodable_ofChars _⟩

/-! ## Websites -/

theorem Stylesheet.isEncodable_custom {styles : Text} (h : styles.isEncodable = true) :
    (custom styles).isEncodable = true := by
  unfold custom
  split
  · exact isEncodable_ofString _
  · simp only [isEncodable_append, isEncodable_ofString, h, and_self]

/-- **The files of a website have UTF-8 if the texts that it shows have**, whatever address its
posts are read from. -/
theorem SiteContent.Encodable.isEncodable_files {c : SiteContent} (h : c.Encodable)
    (o : SiteOptions) : ∀ f ∈ (Site.generate c o).files, f.2.isEncodable = true := by
  have hsections := h.sections o.year
  have hindex : (Site.indexHtml c o).isEncodable = true :=
    (Page.encodable_index h.settlement hsections).isEncodable_render
  have halways : ∀ f ∈ ([("index.html", Site.indexHtml c o),
      ("styles.css", Stylesheet.custom c.css), ("script.js", Site.script c o)] : Entries Text),
      f.2.isEncodable = true := by
    simp only [List.forall_mem_cons, hindex, Stylesheet.isEncodable_custom h.css, Site.script,
      Script.isEncodable_site, true_and]
    exact List.forall_mem_nil _
  simp only [Site.files, Site.generate, List.forall_mem_append]
  cases hblog : c.has .blog with
  | false => exact ⟨⟨halways, List.forall_mem_nil _⟩, List.forall_mem_nil _⟩
  | true =>
      have hposts := Card.encodable_ofPosts (h.posts hblog)
      have hlisting := (Page.encodable_blog h.settlement hsections hposts).isEncodable_render
      have hpost := (Page.encodable_post h.settlement hsections hposts).isEncodable_render
      exact ⟨⟨halways, List.forall_mem_singleton.mpr hlisting⟩, List.forall_mem_singleton.mpr hpost⟩

end CivicSite
