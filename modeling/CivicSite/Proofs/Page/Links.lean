import CivicSite.Proofs.Page.Anchors
import CivicSite.Proofs.Page.Tag
import CivicSite.Proofs.Store.Export
import Mathlib.Data.List.Nodup
import Mathlib.Data.List.Perm.Basic

/-!
# Links

What pages link to, and what can be linked to in them. A relative address leads to a file, and its
fragment to an id there. This file goes through the parts of pages: the addresses and the ids of
each block, those of the frame of the published pages (`Page.mem_addresses_framed`), and those of a
preview (`Page.read_body_preview`). All names in those parts are names, so what they have is what is
read off the pages.

The ids of the first page come from two tables that know nothing of each other: the anchors of its
sections, and the places that scripts fill. No id stands twice in it (`Section.nodup_ids`).
-/

namespace CivicSite

open Markup
open Component (kinds)

/-! ## Addresses -/

namespace Text

/-- Whether an address begins with a scheme. -/
def hasScheme (address : Text) : Bool :=
  (address.takeWhile fun c => !(c == .char '/' || c == .char '?' || c == .char '#')).contains
    (.char ':')

/-- Whether an address is relative to the page that it stands on. -/
def isRelative (address : Text) : Bool :=
  !address.hasScheme && !("//" : Text).isPrefixOf address

/-- An address without its query and its fragment. -/
def path (address : Text) : Text := address.takeWhile fun c => !(c == .char '?' || c == .char '#')

/-- What an address points to in a page. -/
def fragment? (address : Text) : Option Text :=
  match address.dropWhile (· != .char '#') with
  | [] => none
  | _ :: fragment => some fragment

/-- The name of the file that a relative address leads to from the named page. -/
def target (address page : Text) : Text :=
  if address.path.isEmpty then page else address.path

/-- The addresses of a page, in order. -/
def addresses (page : Text) : List Text := page.values ["href", "src"]

/-- The ids of a page, in order. -/
def ids (page : Text) : List Text := page.values ["id"]

/-- Percent encoding leaves unreserved characters, those that are kept, and percent signs. -/
theorem mem_percentEncode {s : Text} {keep : Char → Bool} {c : CodePoint}
    (h : c ∈ percentEncode s keep) :
    ∃ a, c = .char a ∧ (isUnreserved a || keep a || a == '%') = true := by
  have hdigit : ∀ n : Fin 16, isUnreserved (hexCapital n) = true := by decide
  obtain ⟨d, -, hd⟩ := List.mem_flatMap.mp h
  unfold percentPoint at hd
  split at hd
  · rename_i hkept
    obtain rfl := List.mem_singleton.mp hd
    cases c with
    | lone half => cases hkept
    | char a => exact ⟨a, rfl, Bool.or_eq_true_iff.mpr (.inl hkept)⟩
  · obtain ⟨a, ha, rfl⟩ := List.mem_map.mp hd
    obtain ⟨b, -, hb⟩ := List.mem_flatMap.mp ha
    refine ⟨a, rfl, ?_⟩
    have hhigh := hdigit ⟨b.toNat / 16, by have := b.toNat_lt; omega⟩
    have hlow := hdigit ⟨b.toNat % 16, by omega⟩
    simp only [percentByte, List.mem_cons, List.not_mem_nil, or_false] at hb
    rcases hb with rfl | rfl | rfl
    · simp
    · simp only [hhigh, Bool.true_or]
    · simp only [hlow, Bool.true_or]

/-- The link to a post points to a page, and to no place in it. -/
theorem fragment?_post (id : Text) :
    fragment? ("post.html?id=" ++ percentEncode id (· == '/')) = none := by
  have hpage : ∀ c ∈ ("post.html?id=" : Text), (c != .char '#') = true := by decide
  have hid : ∀ c ∈ percentEncode id (· == '/'), (c != .char '#') = true := by
    intro c hc
    obtain ⟨a, rfl, ha⟩ := mem_percentEncode hc
    refine bne_iff_ne.mpr fun heq => ?_
    obtain rfl : a = '#' := by injection heq
    exact absurd ha (by decide)
  have hnone : (("post.html?id=" : Text) ++ percentEncode id (· == '/')).dropWhile
      (· != .char '#') = [] := by
    rw [List.dropWhile_append_of_pos hpage, ← List.append_nil (percentEncode id _),
      List.dropWhile_append_of_pos hid, List.dropWhile_nil]
  rw [fragment?, hnone]

end Text

namespace Markup

def addresses (m : Markup) : List Text := m.values ["href", "src"]

def ids (m : Markup) : List Text := m.values ["id"]

variable {α : Type}

theorem addresses_render {m : Markup} (hm : m.Legible) : Text.addresses (render m) = m.addresses :=
  values_render _ hm

theorem ids_render {m : Markup} (hm : m.Legible) : Text.ids (render m) = m.ids :=
  values_render _ hm

@[simp] theorem addresses_append (m n : Markup) :
    addresses (m ++ n) = m.addresses ++ n.addresses := values_append _ m n

@[simp] theorem addresses_flatMap (l : List α) (f : α → Markup) :
    addresses (l.flatMap f) = l.flatMap fun a => addresses (f a) := values_flatMap _ l f

@[simp] theorem addresses_line (depth : Nat) (m : Markup) :
    addresses (line depth m) = m.addresses := values_line _ depth m

@[simp] theorem addresses_stop (name : Text) : addresses [.stop name] = [] := rfl

@[simp] theorem ids_append (m n : Markup) : ids (m ++ n) = m.ids ++ n.ids := values_append _ m n

@[simp] theorem ids_flatMap (l : List α) (f : α → Markup) :
    ids (l.flatMap f) = l.flatMap fun a => ids (f a) := values_flatMap _ l f

@[simp] theorem ids_line (depth : Nat) (m : Markup) : ids (line depth m) = m.ids :=
  values_line _ depth m

end Markup

/-! ## Parts of blocks -/

namespace Block

theorem legible_navigation (links : List NavLink) (home : Text) :
    (navigation links home).Legible := by
  unfold navigation
  split
  · exact legible_of_all rfl
  · refine legible_append (legible_append (legible_append (legible_of_all rfl) ?_) ?_)
      (legible_of_all rfl)
    · split <;> exact legible_of_all rfl
    · exact legible_flatMap fun link _ => legible_of_all rfl

/-- A navigation leads to its page, unless it is on it, and to places in that page. -/
theorem addresses_navigation (links : List NavLink) (home : Text) :
    (navigation links home).addresses
      = (if home.isEmpty then [] else [home])
        ++ links.map fun link => home ++ "#" ++ link.anchor := by
  unfold navigation
  have hlink (link : NavLink) : addresses (textElement "a"
      [attr "href" (home ++ "#" ++ link.anchor)] link.text) = [home ++ "#" ++ link.anchor] := rfl
  have hhome : addresses (textElement "a" [attr "href" home] "Acasă") = [home] := rfl
  cases hempty : links.isEmpty && home.isEmpty with
  | true =>
      obtain ⟨hlinks, hhome⟩ := Bool.and_eq_true_iff.mp hempty
      rw [List.isEmpty_iff.mp hlinks, hhome]
      rfl
  | false =>
      have hstart : addresses [Token.start "nav" []] = [] := rfl
      rw [if_neg Bool.false_ne_true]
      simp only [addresses_append, addresses_line, addresses_flatMap, hlink, hstart, addresses_stop,
        List.nil_append, List.append_nil, ← List.map_eq_flatMap]
      split
      · rfl
      · rw [addresses_line, hhome]

theorem ids_navigation (links : List NavLink) (home : Text) : (navigation links home).ids = [] := by
  unfold navigation
  have hlinks : ids (links.flatMap fun link =>
      line 3 (textElement "a" [attr "href" (home ++ "#" ++ link.anchor)] link.text)) = [] := by
    rw [ids_flatMap]
    exact List.flatMap_eq_nil_iff.mpr fun _ _ => rfl
  split
  · rfl
  · rw [ids_append, ids_append, hlinks]
    split <;> rfl

theorem legible_header (v : Section) (home : Text) : (header v home).Legible := by
  refine legible_append (legible_append (legible_append ?_ (legible_navigation v.nav home)) ?_) ?_
  all_goals exact legible_of_all rfl

theorem addresses_header (v : Section) (home : Text) : (header v home).addresses
    = (if home.isEmpty then [] else [home])
      ++ v.nav.map fun link => home ++ "#" ++ link.anchor := by
  rw [← addresses_navigation, header, addresses_append, addresses_append, addresses_append]
  exact (List.append_nil _).trans (List.append_nil _)

theorem ids_header (v : Section) (home : Text) : (header v home).ids = [] := by
  rw [header, ids_append, ids_append, ids_append, ids_navigation]
  rfl

theorem legible_prose (v : Section) : (prose v).Legible := by
  refine legible_of_all ?_
  unfold prose
  cases v.anchor <;> rfl

theorem addresses_prose (v : Section) : (prose v).addresses = [] := by
  unfold prose
  cases v.anchor <;> rfl

theorem ids_prose (v : Section) : (prose v).ids = v.anchor.toList := by
  unfold prose
  cases v.anchor <;> rfl

theorem legible_cards (cs : List Card) (depth : Nat) (none : Text) :
    (cards cs depth none).Legible := by
  unfold cards
  split
  · exact (legible_of_all rfl).line depth
  · exact legible_flatMap fun c _ => legible_of_all rfl

/-- Each card leads to its post. -/
theorem addresses_cards (cs : List Card) (depth : Nat) (none : Text) :
    (cards cs depth none).addresses
      = cs.map fun c => "post.html?id=" ++ Text.percentEncode c.id (· == '/') := by
  unfold cards
  cases cs with
  | nil => rw [List.isEmpty_nil, if_pos rfl, addresses_line]; rfl
  | cons c cs =>
      rw [List.isEmpty_cons, if_neg Bool.false_ne_true, addresses_flatMap, List.map_eq_flatMap]
      rfl

theorem ids_cards (cs : List Card) (depth : Nat) (none : Text) :
    (cards cs depth none).ids = [] := by
  unfold cards
  split
  · exact ids_line depth _
  · rw [ids_flatMap]
    exact List.flatMap_eq_nil_iff.mpr fun _ _ => rfl

end Block

/-! ## The published pages -/

/-- The id of the place in a block that a script fills. -/
def Kind.slot? : Kind → Option Text
  | .blog => some "blog-posts-container"
  | .map => some "map"
  | _ => none

namespace Page

variable {frame : Frame} {views : List Section} {content : Markup}

theorem legible_block (v : Section) : (block v).Legible := by
  unfold block
  cases v.kind with
  | header | footer | hero | blog | map => exact legible_of_all rfl
  | about | services | contact => exact Block.legible_prose v

/-- The block of a blog leads to the listing of posts, and no other one leads anywhere. -/
theorem addresses_block (v : Section) :
    (block v).addresses = if v.kind = .blog then ["blog.html"] else [] := by
  unfold block
  cases v.kind with
  | header | footer | hero | blog | map => rfl
  | about | services | contact => exact Block.addresses_prose v

/-- The ids of a block: its anchor, and the place that a script fills. -/
theorem ids_block {v : Section} (h : v.Anchored) :
    (block v).ids = v.anchor.toList ++ v.kind.slot?.toList := by
  unfold block
  cases hk : v.kind with
  | header | footer | hero =>
      rw [h.anchor_eq_none (by rw [hk]; rfl)]
      rfl
  | blog | map =>
      have hsome := (h.single (by rw [hk]; rfl)).trans (congrArg Kind.anchor? hk)
      simp only [blogBlock, mapBlock, Block.idOf, hsome]
      rfl
  | about | services | contact => exact (Block.ids_prose v).trans (List.append_nil _).symm

/-- Only the content of a page can be illegible. -/
theorem isLegible_of_mem_framed {t : Token} (h : t ∈ framed frame views content) :
    t.isLegible = true ∨ t ∈ content := by
  have hhead : (head frame).Legible := by
    refine legible_of_all ?_
    unfold head
    cases frame.hasMap <;> rfl
  have hbody : Legible (line 0 [.start "body" [attr "class" ("page-" ++ frame.name)]]) :=
    legible_of_all rfl
  have htop : (top frame views).Legible := by
    unfold top
    split
    · exact Block.legible_header _ _
    · exact legible_of_all rfl
  have hbottom : (bottom views).Legible := by
    unfold bottom
    split <;> exact legible_of_all rfl
  have hfoot : (foot frame).Legible := by
    refine legible_of_all ?_
    unfold foot
    cases frame.hasMap <;> rfl
  rw [framed_eq] at h
  simp only [List.mem_append] at h
  rcases h with h | h | ((h | h) | h) | h
  · exact .inl (hhead t h)
  · exact .inl (hbody t h)
  · exact .inl (htop t h)
  · exact .inr h
  · exact .inl (hbottom t h)
  · exact .inl (hfoot t h)

theorem legible_framed (hc : content.Legible) : (framed frame views content).Legible :=
  fun t ht => (isLegible_of_mem_framed ht).elim id (hc t)

theorem ids_top : (top frame views).ids = [] := by
  unfold top
  split
  · exact Block.ids_header _ _
  · rfl

theorem addresses_bottom : (bottom views).addresses = [] := by
  unfold bottom
  split <;> rfl

theorem ids_bottom : (bottom views).ids = [] := by
  unfold bottom
  split <;> rfl

/-- There are no ids in the frame of a page. -/
theorem ids_framed : (framed frame views content).ids = content.ids := by
  have hhead : (head frame).ids = [] := by
    unfold head
    cases frame.hasMap <;> rfl
  have hbody : ids (line 0 [.start "body" [attr "class" ("page-" ++ frame.name)]]) = [] := rfl
  have hfoot : (foot frame).ids = [] := by
    unfold foot
    cases frame.hasMap <;> rfl
  simp only [framed_eq, ids_append, hhead, hbody, ids_top, ids_bottom, hfoot, List.nil_append,
    List.append_nil]

/-- What a page links to, besides what its content does: the map library, the styles and the script
of the website, the first page, and what the navigation leads to. -/
theorem mem_addresses_framed {a : Text} (h : a ∈ (framed frame views content).addresses) :
    a.isRelative = false ∨ a = "styles.css" ∨ a = "script.js"
      ∨ (a = frame.home ∧ frame.home.isEmpty = false)
      ∨ (∃ v ∈ views, ∃ link ∈ v.nav, a = frame.home ++ "#" ++ link.anchor)
      ∨ a ∈ content.addresses := by
  have hlibrary : leafletCss.isRelative = false ∧ leafletJs.isRelative = false := by decide
  have hhead : (head frame).addresses
      = (if frame.hasMap then [leafletCss] else []) ++ [("styles.css" : Text)] := by
    unfold head
    cases frame.hasMap <;> rfl
  have hbody : addresses (line 0 [.start "body" [attr "class" ("page-" ++ frame.name)]]) = [] :=
    rfl
  have hfoot : (foot frame).addresses
      = (if frame.hasMap then [leafletJs] else []) ++ [("script.js" : Text)] := by
    unfold foot
    cases frame.hasMap <;> rfl
  simp only [framed_eq, addresses_append, hhead, hbody, addresses_bottom, hfoot, List.mem_append,
    List.mem_singleton, List.not_mem_nil, false_or, or_false] at h
  rcases h with (h | h) | (h | h) | h | h
  · split at h
    · obtain rfl := List.mem_singleton.mp h
      exact .inl hlibrary.1
    · cases h
  · exact .inr (.inl h)
  · unfold top at h
    split at h
    · rename_i v hv
      rw [Block.addresses_header] at h
      rcases List.mem_append.mp h with h | h
      · split at h
        · cases h
        · rename_i hhome
          refine .inr (.inr (.inr (.inl ⟨List.mem_singleton.mp h, ?_⟩)))
          simpa using hhome
      · obtain ⟨link, hlink, rfl⟩ := List.mem_map.mp h
        refine .inr (.inr (.inr (.inr (.inl ⟨v, ?_, link, hlink, rfl⟩))))
        exact List.mem_of_find?_eq_some hv
    · cases h
  · exact .inr (.inr (.inr (.inr (.inr h))))
  · split at h
    · obtain rfl := List.mem_singleton.mp h
      exact .inl hlibrary.2
    · cases h
  · exact .inr (.inr (.inl h))

/-! ## The content of each page -/

theorem legible_index (settlement : Text) (views : List Section) :
    (index settlement views).Legible :=
  legible_framed (legible_flatMap fun v _ => legible_block v)

theorem ids_index (settlement : Text) (h : ∀ v ∈ views, v.Anchored) :
    (index settlement views).ids
      = views.flatMap fun v => v.anchor.toList ++ v.kind.slot?.toList := by
  rw [index, ids_framed, ids_flatMap]
  exact List.flatMap_congr fun v hv => ids_block (h v hv)

/-- The listing of posts is a page with a card for each post. -/
theorem blog_eq (settlement : Text) (views : List Section) (posts : List Card) :
    ∃ frame content, blog settlement views posts = framed frame views content
      ∧ frame.home = "index.html" ∧ content.Legible
      ∧ content.addresses
        = posts.map (fun c => "post.html?id=" ++ Text.percentEncode c.id (· == '/'))
      ∧ content.ids = (["blog-search", "blog-posts-grid", "blog-pagination"] : List Text) := by
  have hcards := Block.legible_cards posts 4 "Nu există postări încă."
  refine ⟨_, _, rfl, rfl, ?_, ?_, ?_⟩
  · refine legible_append (legible_append (legible_append (legible_append (legible_append ?_
      hcards) ?_) ?_) ?_) ?_
    all_goals exact legible_of_all rfl
  · simp only [addresses_append, addresses_line, Block.addresses_cards, addresses_stop,
      List.append_nil]
    exact List.append_nil _
  · simp only [ids_append, ids_line, Block.ids_cards]
    rfl

/-- The page for a single post takes over the contents of the posts, and nothing else. -/
theorem post_eq (settlement : Text) (views : List Section) (posts : List Card) :
    ∃ frame content, post settlement views posts = framed frame views content
      ∧ frame.home = "index.html"
      ∧ (∀ t ∈ content, t.isLegible = true ∨ ∃ c ∈ posts, t = .verbatim c.content)
      ∧ content.addresses = [("blog.html" : Text)] := by
  refine ⟨_, _, rfl, rfl, fun t ht => ?_, ?_⟩
  · rcases List.mem_append.mp ht with ht | ht
    · rcases List.mem_append.mp ht with ht | ht
      · exact .inl (legible_of_all rfl t ht)
      · obtain ⟨c, hc, ht⟩ := List.mem_flatMap.mp ht
        have hwhole : snapshot c
            = [.layout (List.replicate (4 * 2) (.char ' ')), .start "template" [
                attr "class" "post-snapshot", attr "data-post-id" c.id,
                attr "data-date" c.isoDate, attr "data-title" c.title,
                attr "data-description" c.description],
              .verbatim c.content, .stop "template", .layout "\n"] := rfl
        simp only [hwhole, List.mem_cons, List.not_mem_nil, or_false] at ht
        rcases ht with rfl | rfl | rfl | rfl | rfl
        · exact .inl rfl
        · exact .inl rfl
        · exact .inr ⟨c, hc, rfl⟩
        · exact .inl rfl
        · exact .inl rfl
    · exact .inl (legible_of_all rfl t ht)
  · have hsnapshots : addresses (posts.flatMap snapshot) = [] := by
      rw [addresses_flatMap]
      exact List.flatMap_eq_nil_iff.mpr fun _ _ => rfl
    simp only [addresses_append, hsnapshots, addresses_line, addresses_stop, List.append_nil]
    rfl

/-! ## The preview -/

section Preview

variable {s : Settlement} {teasers : List Card} {remaining : Nat}

theorem legible_previewBlock (v : Section) :
    (previewBlock s teasers remaining v).Legible := by
  unfold previewBlock
  cases v.kind with
  | header => exact Block.legible_header v ""
  | blog =>
      have hcards := Block.legible_cards teasers 3 "Nu există postări încă."
      refine legible_append (legible_append (legible_append (legible_append (legible_of_all rfl)
        hcards) ?_) (legible_of_all rfl)) (legible_of_all rfl)
      split <;> exact legible_of_all rfl
  | hero | map | footer => exact legible_of_all rfl
  | about | services | contact => exact Block.legible_prose v

/-- The only id of a block in a preview is its anchor. -/
theorem ids_previewBlock {v : Section} (h : v.Anchored) :
    (previewBlock s teasers remaining v).ids = v.anchor.toList := by
  unfold previewBlock
  cases hk : v.kind with
  | header =>
      rw [h.anchor_eq_none (by rw [hk]; rfl)]
      exact Block.ids_header v ""
  | hero | footer =>
      rw [h.anchor_eq_none (by rw [hk]; rfl)]
      rfl
  | blog =>
      have hsome := (h.single (by rw [hk]; rfl)).trans (congrArg Kind.anchor? hk)
      simp only [previewBlog, Block.idOf, hsome, ids_append, ids_line, Block.ids_cards]
      split <;> rfl
  | map =>
      have hsome := (h.single (by rw [hk]; rfl)).trans (congrArg Kind.anchor? hk)
      simp only [previewMap, Block.idOf, hsome]
      rfl
  | about | services | contact => exact Block.ids_prose v

/-- A block of a preview points to a place in a page only in its navigation. -/
theorem nav_of_mem_previewBlock {v : Section} {a : Text}
    (h : a ∈ (previewBlock s teasers remaining v).addresses) :
    (∃ link ∈ v.nav, a = "#" ++ link.anchor) ∨ a.fragment? = none := by
  unfold previewBlock at h
  cases hk : v.kind with
  | header =>
      simp only [hk, Block.addresses_header] at h
      obtain ⟨link, hlink, rfl⟩ := List.mem_map.mp h
      exact .inl ⟨link, hlink, rfl⟩
  | hero | map | footer =>
      rw [hk] at h
      cases h
  | blog =>
      have hmore : addresses (if remaining = 0 then [] else line 3 (textElement "p"
          [attr "class" "preview-more"] ("... și încă " ++ toString remaining ++ " postări")))
          = [] := by
        split <;> rfl
      simp only [hk, previewBlog, addresses_append, addresses_line, Block.addresses_cards, hmore,
        addresses_stop, List.append_nil] at h
      obtain ⟨c, -, rfl⟩ := List.mem_map.mp h
      exact .inr (Text.fragment?_post c.id)
  | about | services | contact =>
      simp only [hk, Block.addresses_prose] at h
      cases h

variable {posts : List Post} {css : Text} {screen : Screen}

theorem legible_previewBody : (previewBody s views posts screen).Legible := by
  refine legible_append (legible_append (legible_of_all rfl) ?_) (legible_of_all rfl)
  unfold previewInside
  split
  · exact legible_of_all rfl
  · exact legible_flatMap fun v _ => legible_previewBlock v

/-- What is read off the body of a preview is what its blocks have, whatever its styles are. -/
theorem read_body_preview :
    let body := Text.body (render (preview s views posts css screen))
    body.addresses = (previewInside s views posts).addresses
      ∧ body.ids = (previewInside s views posts).ids := by
  let opening : Markup :=
    [.start "body" [attr "class" ("preview preview-" ++ screen.name)], .layout "\n"]
  have hopening : opening.Legible := legible_of_all rfl
  have hbody : Text.body (render (preview s views posts css screen))
      = render (opening ++ previewBody s views posts screen) := body_preview
  have haddresses : (previewBody s views posts screen).addresses
      = (previewInside s views posts).addresses := by
    rw [previewBody, addresses_append, addresses_append]
    exact List.append_nil _
  have hids : (previewBody s views posts screen).ids = (previewInside s views posts).ids := by
    rw [previewBody, ids_append, ids_append]
    exact List.append_nil _
  dsimp only
  rw [hbody, addresses_render (legible_append hopening legible_previewBody),
    ids_render (legible_append hopening legible_previewBody), ids_append, addresses_append, hids,
    haddresses]
  exact ⟨rfl, rfl⟩

theorem ids_previewInside (h : ∀ v ∈ views, v.Anchored) :
    (previewInside s views posts).ids = Section.anchors views := by
  unfold previewInside
  cases views with
  | nil => rfl
  | cons v rest =>
      rw [List.isEmpty_cons, if_neg Bool.false_ne_true, ids_flatMap, Section.anchors,
        List.filterMap_eq_flatMap_toList]
      exact List.flatMap_congr fun v hv => ids_previewBlock (h v hv)

theorem nav_of_mem_previewInside {a : Text} (h : a ∈ (previewInside s views posts).addresses) :
    (∃ v ∈ views, ∃ link ∈ v.nav, a = "#" ++ link.anchor) ∨ a.fragment? = none := by
  unfold previewInside at h
  cases hviews : views.isEmpty with
  | true =>
      rw [hviews] at h
      cases h
  | false =>
      simp only [hviews, Bool.false_eq_true, if_false, addresses_flatMap] at h
      obtain ⟨v, hv, h⟩ := List.mem_flatMap.mp h
      exact (nav_of_mem_previewBlock h).imp_left fun hlink => ⟨v, hv, hlink⟩

end Preview

end Page

/-! ## Ids -/

theorem Kind.eq_of_slot? {k k' : Kind} {a : Text} (h : k.slot? = some a) (h' : k'.slot? = some a) :
    k = k' := by
  have hinj : ∀ k k' : Kind, k.slot?.isSome = true → k.slot? = k'.slot? → k = k' := by
    intro k k'
    cases k <;> cases k' <;> decide
  exact hinj k k' (by rw [h]; rfl) (h.trans h'.symm)

namespace Section

/-- Kinds that do not repeat have distinct places for scripts. -/
theorem nodup_slots {ks : List Kind} (h : Tree.Single ks) : (ks.filterMap Kind.slot?).Nodup := by
  have hsingle : (ks.filter fun k => !k.isRepeatable).Nodup := by
    refine List.nodup_iff_count_le_one.mpr fun k => ?_
    cases hk : k.isRepeatable with
    | true =>
        rw [List.count_eq_zero_of_not_mem fun hmem => ?_]
        · exact Nat.zero_le 1
        · have hkept := (List.mem_filter.mp hmem).2
          rw [hk] at hkept
          cases hkept
    | false => exact Nat.le_trans (List.filter_sublist.count_le k) (h k hk)
  have hslots : ks.filterMap Kind.slot?
      = (ks.filter fun k => !k.isRepeatable).filterMap Kind.slot? := by
    rw [List.filterMap_filter]
    refine congrArg (List.filterMap · ks) (funext fun k => ?_)
    cases k <;> rfl
  rw [hslots]
  exact List.Nodup.filterMap (fun k k' a hk hk' => Kind.eq_of_slot? hk hk') hsingle

variable {settlement : Text} {cs : List Component} {year : Int}

/-- **The ids of the first page are distinct**: the anchors are, no two scripts fill the same place,
and no place is named like an anchor. -/
theorem nodup_ids (hsingle : Tree.Single (kinds (Component.byPosition cs))) :
    ((ofComponents settlement cs year).flatMap fun v =>
      v.anchor.toList ++ v.kind.slot?.toList).Nodup := by
  have happart : ∀ k k' : Kind, k.anchor?.isSome = true → k'.slot? ≠ k.anchor? := by
    intro k k'
    cases k <;> cases k' <;> decide
  -- the anchors and the places are looked at apart
  refine (List.flatMap_append_perm _ _ _).nodup_iff.mp ?_
  rw [← List.filterMap_eq_flatMap_toList, ← List.filterMap_eq_flatMap_toList]
  refine List.nodup_append.mpr ⟨nodup_anchors settlement cs year, ?_, ?_⟩
  · have hslots := nodup_slots hsingle
    rwa [← kinds_ofComponents settlement cs year, List.filterMap_map] at hslots
  · intro a ha b hb
    obtain ⟨k, -, hk⟩ := mem_anchors_iff.mp ha
    obtain ⟨v, -, hv⟩ := List.mem_filterMap.mp hb
    rintro rfl
    exact happart k v.kind (by rw [hk]; rfl) (hv.trans hk.symm)

end Section

end CivicSite
