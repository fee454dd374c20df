import CivicSite.Proofs.Page.Blocks

/-!
# Taking pages apart

Every published page is a frame around its content, and what is in the frame is the same on all of
them: one header on top and one footer at the bottom, if there are any. A preview has no such frame;
its header and footer stand among the other blocks.
-/

namespace CivicSite

open Markup

/-! ## Parts of blocks -/

namespace Block

theorem inner_navigation (links : List NavLink) (home : Text) : (navigation links home).Inner := by
  unfold navigation
  split
  · exact inner_nil
  · refine Inner.append (Inner.append (Inner.append (inner_of_all rfl) ?_) ?_) (inner_of_all rfl)
    · split
      · exact inner_nil
      · exact inner_of_all rfl
    · exact inner_flatMap fun link _ => inner_of_all rfl

theorem blocks_navigation (links : List NavLink) (home : Text) :
    (navigation links home).blocks = [] := by
  unfold navigation
  split
  · rfl
  · rw [blocks_append, blocks_append, blocks_append, blocks_flatMap_eq_nil fun _ => rfl]
    split <;> rfl

theorem inner_cards (cs : List Card) (depth : Nat) (none : Text) :
    (cards cs depth none).Inner := by
  unfold cards
  split
  · exact (inner_of_all rfl).line depth
  · exact inner_flatMap fun c _ => inner_of_all rfl

theorem blocks_cards (cs : List Card) (depth : Nat) (none : Text) :
    (cards cs depth none).blocks = [] := by
  unfold cards
  split
  · exact blocks_line depth _
  · exact blocks_flatMap_eq_nil fun _ => rfl

theorem inner_prose (v : Section) : (prose v).Inner := by
  refine inner_of_all ?_
  unfold prose
  cases v.anchor <;> rfl

theorem blocks_prose (v : Section) (h : v.kind = .about ∨ v.kind = .services ∨ v.kind = .contact) :
    (prose v).blocks = [v.kind] := by
  unfold prose
  rcases h with h | h | h <;> rw [h] <;> rfl

end Block

/-! ## Header and footer -/

namespace Markup

/-- A part of a page that opens one element of the frame, once. -/
structure Opens (element : Text) (m : Markup) : Prop where
  tidy : m.Tidy
  counts : ∀ name ∈ frameNames, countOf name m = if name = element then 1 else 0

theorem Opens.around {element : Text} {m inner after : Markup} (hm : Opens element m)
    (hinner : inner.Inner) (hafter : after.Inner) : Opens element (m ++ inner ++ after) where
  tidy := tidy_append (tidy_append hm.tidy hinner.tidy) hafter.tidy
  counts name hname := by
    rw [countOf_append, countOf_append, hm.counts name hname, hinner.outside name hname,
      hafter.outside name hname]
    rfl

end Markup

namespace Block

theorem opens_header (v : Section) (home : Text) : Opens "header" (header v home) := by
  have hopen : Opens "header" (line 1 [.start "header" [classOf "header" v]] ++
      line 2 (textElement "h1" [] v.title) ++
      line 2 (textElement "p" [attr "class" "header-subtitle"] v.subtitle)) :=
    ⟨tidy_of_all rfl, forall_frameNames rfl rfl rfl⟩
  have hclose : Inner (line 1 [.stop "header"] ++ blankLine) := inner_of_all rfl
  have hheader := hopen.around (inner_navigation v.nav home) hclose
  rw [← List.append_assoc] at hheader
  exact hheader

theorem opens_footer (v : Section) : Opens "footer" (footer v) :=
  ⟨tidy_of_all rfl, forall_frameNames rfl rfl rfl⟩

theorem blocks_header (v : Section) (home : Text) : (header v home).blocks = [.header] := by
  unfold header
  simp only [blocks_append, blocks_navigation]
  rfl

end Block

/-! ## The published pages -/

namespace Page

theorem inner_block (v : Section) : (block v).Inner := by
  unfold block
  cases v.kind with
  | header | footer => exact inner_nil
  | hero | blog | map => exact inner_of_all rfl
  | about | services | contact => exact Block.inner_prose v

/-- Whether a block belongs to the frame of the published pages. -/
def inFrame (k : Kind) : Bool := k == .header || k == .footer

theorem blocks_block (v : Section) :
    (block v).blocks = if inFrame v.kind then [] else [v.kind] := by
  unfold block
  cases h : v.kind with
  | header | footer | hero | blog | map => rfl
  | about | services | contact =>
      have hprose := Block.blocks_prose v (by simp [h])
      rw [h] at hprose
      exact hprose

/-- What comes before the body of a published page. -/
def head (frame : Frame) : Markup :=
  doctype ++ viewport ++ line 1 (textElement "title" [] frame.title) ++
  (if frame.hasMap then
    line 1 [.empty "link" [attr "rel" "stylesheet", attr "href" leafletCss]]
  else []) ++
  line 1 [.start "link" [attr "rel" "stylesheet", attr "href" "styles.css"]] ++
  line 0 [.stop "head"]

/-- The header of a published page. -/
def top (frame : Frame) (views : List Section) : Markup :=
  match Section.first? views .header with
  | some v => Block.header v frame.home
  | none => []

/-- The footer of a published page. -/
def bottom (views : List Section) : Markup :=
  match Section.first? views .footer with
  | some v => Block.footer v
  | none => []

/-- What comes after the blocks of a published page. -/
def foot (frame : Frame) : Markup :=
  (if frame.hasMap then line 1 (element "script" [attr "src" leafletJs] []) else []) ++
  line 1 (element "script" [attr "src" "script.js"] []) ++
  line 0 [.stop "body"] ++ [.stop "html"]

/-- A published page: its head, and a body with header, content and footer. -/
theorem framed_eq (frame : Frame) (views : List Section) (content : Markup) :
    framed frame views content
      = head frame ++ (line 0 [.start "body" [attr "class" ("page-" ++ frame.name)]] ++
        (top frame views ++ content ++ bottom views ++ foot frame)) := by
  unfold framed head top bottom foot
  cases Section.first? views .header <;> cases Section.first? views .footer
  all_goals simp only [List.append_assoc]

theorem inner_head (frame : Frame) : (head frame).Inner := by
  refine inner_of_all ?_
  unfold head
  cases frame.hasMap <;> rfl

theorem inner_foot (frame : Frame) : (foot frame).Inner := by
  refine inner_of_all ?_
  unfold foot
  cases frame.hasMap <;> rfl

theorem blocks_foot (frame : Frame) : (foot frame).blocks = [] := by
  unfold foot
  cases frame.hasMap <;> rfl

/-- The kind as often as there is a first section of it. -/
def firstKind (views : List Section) (k : Kind) : List Kind :=
  (Section.first? views k).toList.map fun _ => k

theorem blocks_top (frame : Frame) (views : List Section) :
    (top frame views).blocks = firstKind views .header := by
  unfold top firstKind
  cases Section.first? views .header with
  | none => rfl
  | some v => exact Block.blocks_header v frame.home

theorem blocks_bottom (views : List Section) :
    (bottom views).blocks = firstKind views .footer := by
  unfold bottom firstKind
  cases Section.first? views .footer with
  | none => rfl
  | some v => rfl

theorem tidy_top (frame : Frame) (views : List Section) : (top frame views).Tidy := by
  unfold top
  cases Section.first? views .header with
  | none => exact tidy_of_all rfl
  | some v => exact (Block.opens_header v frame.home).tidy

theorem tidy_bottom (views : List Section) : (bottom views).Tidy := by
  unfold bottom
  cases Section.first? views .footer with
  | none => exact tidy_of_all rfl
  | some v => exact (Block.opens_footer v).tidy

theorem countOf_top (frame : Frame) (views : List Section) {name : Text} (h : name ∈ frameNames) :
    countOf name (top frame views)
      = if name = "header" then (firstKind views .header).length else 0 := by
  unfold top firstKind
  cases Section.first? views .header with
  | none => exact (ite_self 0).symm
  | some v => exact (Block.opens_header v frame.home).counts name h

theorem countOf_bottom (views : List Section) {name : Text} (h : name ∈ frameNames) :
    countOf name (bottom views)
      = if name = "footer" then (firstKind views .footer).length else 0 := by
  unfold bottom firstKind
  cases Section.first? views .footer with
  | none => exact (ite_self 0).symm
  | some v => exact (Block.opens_footer v).counts name h

variable {frame : Frame} {views : List Section} {content : Markup}

theorem tidy_inside (hc : content.Inner) :
    Tidy (top frame views ++ content ++ bottom views ++ foot frame) :=
  tidy_append (tidy_append (tidy_append (tidy_top frame views) hc.tidy) (tidy_bottom views))
    (inner_foot frame).tidy

theorem countOf_inside (hc : content.Inner) {name : Text} (h : name ∈ frameNames) :
    countOf name (top frame views ++ content ++ bottom views ++ foot frame)
      = (if name = "header" then (firstKind views .header).length else 0)
        + if name = "footer" then (firstKind views .footer).length else 0 := by
  rw [countOf_append, countOf_append, countOf_append, countOf_top frame views h,
    countOf_bottom views h, hc.outside name h, (inner_foot frame).outside name h, Nat.add_zero,
    Nat.add_zero]

theorem tidy_framed (hc : content.Inner) : (framed frame views content).Tidy := by
  rw [framed_eq]
  exact tidy_append (inner_head frame).tidy (tidy_append (tidy_of_all rfl) (tidy_inside hc))

/-- **A published page has the header and the footer once each**, if there are any, whatever its
texts are. -/
theorem occurrences_framed (hc : content.Inner) :
    Text.occurrences "<header" (render (framed frame views content))
        = (firstKind views .header).length
      ∧ Text.occurrences "<footer" (render (framed frame views content))
        = (firstKind views .footer).length := by
  have hcount : ∀ name ∈ frameNames, name ≠ "body" → countOf name (framed frame views content)
      = (if name = "header" then (firstKind views .header).length else 0)
        + if name = "footer" then (firstKind views .footer).length else 0 := by
    intro name hname hne
    have hline :
        countOf name (line 0 [.start "body" [attr "class" ("page-" ++ frame.name)]]) = 0 := by
      revert name
      exact forall_frameNames (fun hne => absurd rfl hne) (fun _ => rfl) fun _ => rfl
    rw [framed_eq, countOf_append, countOf_append, (inner_head frame).outside name hname, hline,
      countOf_inside hc hname, Nat.zero_add, Nat.zero_add]
  refine ⟨(occurrences_render (show IsName "header" by decide) (tidy_framed hc)).trans ?_,
    (occurrences_render (show IsName "footer" by decide) (tidy_framed hc)).trans ?_⟩
  · exact (hcount "header" (by decide) (by decide)).trans (Nat.add_zero _)
  · exact (hcount "footer" (by decide) (by decide)).trans (Nat.zero_add _)

/-- **A published page has its header on top and its footer at the bottom.** -/
theorem blocks_framed (hc : content.Inner) :
    Text.blocks (render (framed frame views content))
      = firstKind views .header ++ content.blocks ++ firstKind views .footer := by
  have hcount := @countOf_inside frame views content hc "body" (by decide)
  rw [framed_eq, blocks_render (head frame) rfl (tidy_inside hc) hcount, blocks_append,
    blocks_append, blocks_append, blocks_top, blocks_bottom, blocks_foot, List.append_nil]

/-! ## The preview -/

section Preview

variable {s : Settlement} {teasers : List Card} {remaining : Nat}

theorem inner_previewBlog (v : Section) : (previewBlog v teasers remaining).Inner := by
  unfold previewBlog
  refine Inner.append (Inner.append (Inner.append (Inner.append (inner_of_all rfl)
    (Block.inner_cards teasers 3 _)) ?_) (inner_of_all rfl)) (inner_of_all rfl)
  split <;> exact inner_of_all rfl

theorem blocks_previewBlog (v : Section) : (previewBlog v teasers remaining).blocks = [.blog] := by
  have hmore : blocks (if remaining = 0 then [] else line 3 (textElement "p"
      [attr "class" "preview-more"]
      ("... și încă " ++ toString remaining ++ " postări"))) = [] := by
    split <;> rfl
  rw [previewBlog, blocks_append, blocks_append, blocks_append, blocks_append, hmore,
    Block.blocks_cards]
  rfl

/-- **Every component has its own block in a preview.** -/
theorem blocks_previewBlock (v : Section) :
    (previewBlock s teasers remaining v).blocks = [v.kind] := by
  unfold previewBlock
  cases h : v.kind with
  | header => exact Block.blocks_header v ""
  | blog => exact blocks_previewBlog v
  | hero | map | footer => rfl
  | about | services | contact =>
      have hprose := Block.blocks_prose v (by simp [h])
      rw [h] at hprose
      exact hprose

/-- A block of a preview opens no body. -/
theorem bodyless_previewBlock (v : Section) : (previewBlock s teasers remaining v).Tidy
    ∧ countOf "body" (previewBlock s teasers remaining v) = 0 := by
  have hinner {m : Markup} (hm : m.Inner) : m.Tidy ∧ countOf "body" m = 0 :=
    ⟨hm.tidy, hm.outside "body" (by decide)⟩
  unfold previewBlock
  cases v.kind with
  | header => exact ⟨(Block.opens_header v "").tidy, (Block.opens_header v "").counts _ (by decide)⟩
  | footer => exact ⟨(Block.opens_footer v).tidy, (Block.opens_footer v).counts _ (by decide)⟩
  | blog => exact hinner (inner_previewBlog v)
  | hero | map => exact hinner (inner_of_all rfl)
  | about | services | contact => exact hinner (Block.inner_prose v)

variable {views : List Section} {posts : List Post} {css : Text} {screen : Screen}

/-- What comes before the body of a preview. The styles in it may be any text. -/
def previewHead (s : Settlement) (css : Text) : Markup :=
  doctype ++ viewport ++
  line 1 (textElement "title" [] ("Preview - " ++ s.name)) ++
  previewStyles ++
  (if css.isEmpty then [] else styleElement ["/* Custom Styles */", css]) ++
  line 0 [.stop "head"]

/-- What is in the frame of a preview: a block for each section, or a remark that there are none. -/
def previewInside (s : Settlement) (views : List Section) (posts : List Post) : Markup :=
  let ordered := Post.sorted posts
  let shown := ordered.take teaserCount
  if views.isEmpty then
    line 1 (textElement "p" [attr "class" "preview-empty"]
      "Preview-ul va apărea aici după ce adaugi componente")
  else views.flatMap (previewBlock s (Card.ofPosts shown) (ordered.length - shown.length))

def previewBody (s : Settlement) (views : List Section) (posts : List Post) (screen : Screen) :
    Markup :=
  line 0 [.start "div" [
    attr "class" "preview-frame", attr "style" ("max-width: " ++ screen.width ++ ";")]] ++
  previewInside s views posts ++
  (line 0 [.stop "div"] ++ line 0 [.stop "body"] ++ [.stop "html"])

theorem preview_eq : preview s views posts css screen
    = previewHead s css
      ++ (line 0 [.start "body" [attr "class" ("preview preview-" ++ screen.name)]]
        ++ previewBody s views posts screen) := by
  simp only [preview, previewHead, previewBody, previewInside, List.append_assoc]

theorem blocks_previewInside : (previewInside s views posts).blocks = views.map Section.kind := by
  unfold previewInside
  cases views with
  | nil => rfl
  | cons v rest =>
      rw [List.isEmpty_cons, if_neg Bool.false_ne_true, blocks_flatMap]
      simp only [blocks_previewBlock]
      exact (List.map_eq_flatMap ..).symm

theorem bodyless_previewInside : (previewInside s views posts).Tidy
    ∧ countOf "body" (previewInside s views posts) = 0 := by
  unfold previewInside
  cases views with
  | nil => exact ⟨tidy_of_all rfl, rfl⟩
  | cons v rest =>
      rw [List.isEmpty_cons, if_neg Bool.false_ne_true]
      refine ⟨tidy_flatMap fun v _ => (bodyless_previewBlock v).1, ?_⟩
      exact countOf_flatMap_eq_zero fun v => (bodyless_previewBlock v).2

/-- Nothing in a preview opens another body. -/
theorem bodyless_previewBody : (previewBody s views posts screen).Tidy
    ∧ countOf "body" (previewBody s views posts screen) = 0 := by
  obtain ⟨htidy, hcount⟩ := @bodyless_previewInside s views posts
  refine ⟨tidy_append (tidy_append (tidy_of_all (by cases screen <;> rfl)) htidy)
    (tidy_of_all rfl), ?_⟩
  rw [previewBody, countOf_append, countOf_append, hcount]
  rfl

/-- The body of a preview, whatever styles stand before it. -/
theorem body_preview : Text.body (render (preview s views posts css screen))
    = render (.start "body" [attr "class" ("preview preview-" ++ screen.name)] :: .layout "\n"
        :: previewBody s views posts screen) := by
  obtain ⟨htidy, hcount⟩ := @bodyless_previewBody s views posts screen
  rw [preview_eq]
  exact body_render (previewHead s css) rfl htidy hcount

/-- **A preview has a block for each section, in their order.** -/
theorem blocks_preview :
    Text.blocks (render (preview s views posts css screen)) = views.map Section.kind := by
  obtain ⟨htidy, hcount⟩ := @bodyless_previewBody s views posts screen
  rw [preview_eq, blocks_render (previewHead s css) rfl htidy hcount, previewBody, blocks_append,
    blocks_append, blocks_previewInside]
  exact List.append_nil _

end Preview

end Page

end CivicSite
