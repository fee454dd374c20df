import CivicSite.Proofs.Json.Encodable
import CivicSite.Script.Site

/-!
# Scripts have bytes

The script of a website is made of fixed program text and of literals. A literal is written with
escapes for all that is not a character, so the script of every website has UTF-8
(`Script.isEncodable_site`).
-/

namespace CivicSite

open Text (isEncodable_append isEncodable_ofString isEncodable_ofChars isEncodable_flatMap)

/-! ## Program text -/

namespace Code

mutual

/-- The texts of a piece have UTF-8. -/
def Encodable : Code → Prop
  | line s => s.isEncodable = true
  | deeper body => AllEncodable body
  | block head body tail =>
    head.isEncodable = true ∧ AllEncodable body ∧ tail.isEncodable = true
  | twoBlocks head body middle second tail =>
    head.isEncodable = true ∧ AllEncodable body ∧ middle.isEncodable = true
      ∧ AllEncodable second ∧ tail.isEncodable = true

def AllEncodable : List Code → Prop
  | [] => True
  | c :: rest => c.Encodable ∧ AllEncodable rest

end

theorem allEncodable_append {cs ds : List Code} :
    AllEncodable (cs ++ ds) ↔ AllEncodable cs ∧ AllEncodable ds := by
  induction cs with
  | nil => simp only [List.nil_append, AllEncodable, true_and]
  | cons c rest ih => rw [List.cons_append, AllEncodable, AllEncodable, ih, and_assoc]

theorem allEncodable_flatMap {α : Type} {l : List α} {f : α → List Code}
    (h : ∀ a ∈ l, AllEncodable (f a)) : AllEncodable (l.flatMap f) := by
  induction l with
  | nil => trivial
  | cons a rest ih =>
      obtain ⟨ha, hrest⟩ := List.forall_mem_cons.mp h
      exact allEncodable_append.mpr ⟨ha, ih hrest⟩

theorem isEncodable_indented {s : Text} (h : s.isEncodable = true) (depth : Nat) :
    (indented depth s).isEncodable = true := by
  unfold indented
  split
  · rfl
  · refine isEncodable_append.mpr ⟨Text.isEncodable_iff_forall.mpr fun c hc => ?_, h⟩
    exact ⟨' ', List.eq_of_mem_replicate hc⟩

mutual

theorem isEncodable_lines {c : Code} (h : c.Encodable) (depth : Nat) :
    ∀ s ∈ lines depth c, s.isEncodable = true := by
  cases c with
  | line s =>
      rw [Encodable] at h
      exact List.forall_mem_singleton.mpr (isEncodable_indented h depth)
  | deeper body =>
      rw [Encodable] at h
      exact isEncodable_linesOf h (depth + 1)
  | block head body tail =>
      rw [Encodable] at h
      obtain ⟨hhead, hbody, htail⟩ := h
      have hopen := isEncodable_append.mpr ⟨hhead, isEncodable_ofString "\x7b"⟩
      have hclose := isEncodable_append.mpr ⟨isEncodable_ofString "\x7d", htail⟩
      simp only [lines, List.forall_mem_append, List.forall_mem_cons]
      exact ⟨⟨isEncodable_indented hopen depth, isEncodable_linesOf hbody (depth + 1)⟩,
        isEncodable_indented hclose depth, List.forall_mem_nil _⟩
  | twoBlocks head body middle second tail =>
      rw [Encodable] at h
      obtain ⟨hhead, hbody, hmiddle, hsecond, htail⟩ := h
      have hopen := isEncodable_append.mpr ⟨hhead, isEncodable_ofString "\x7b"⟩
      have hbetween := isEncodable_append.mpr
        ⟨isEncodable_append.mpr ⟨isEncodable_ofString "\x7d", hmiddle⟩, isEncodable_ofString "\x7b"⟩
      have hclose := isEncodable_append.mpr ⟨isEncodable_ofString "\x7d", htail⟩
      simp only [lines, List.forall_mem_append, List.forall_mem_cons]
      exact ⟨⟨⟨isEncodable_indented hopen depth, isEncodable_linesOf hbody (depth + 1)⟩,
        isEncodable_indented hbetween depth, isEncodable_linesOf hsecond (depth + 1)⟩,
        isEncodable_indented hclose depth, List.forall_mem_nil _⟩

theorem isEncodable_linesOf {cs : List Code} (h : AllEncodable cs) (depth : Nat) :
    ∀ s ∈ linesOf depth cs, s.isEncodable = true := by
  cases cs with
  | nil => exact nofun
  | cons c rest =>
      rw [AllEncodable] at h
      rw [linesOf, List.forall_mem_append]
      exact ⟨isEncodable_lines h.1 depth, isEncodable_linesOf h.2 depth⟩

end

theorem isEncodable_text {cs : List Code} (h : AllEncodable cs) : (text cs).isEncodable = true :=
  Text.isEncodable_intercalate (isEncodable_ofString _) (isEncodable_linesOf h 0)

end Code

/-! ## The script -/

namespace Script

open Code (AllEncodable allEncodable_append allEncodable_flatMap)

theorem isEncodable_literal (v : Json) : (literal v).isEncodable = true := by
  have hascii : (Json.write .ascii 0 v.sortKeys).isEncodable = true :=
    Json.isEncodable_write_ascii rfl v.sortKeys 0
  refine isEncodable_flatMap.mpr fun c hc => ?_
  unfold literalPoint
  split
  · exact Json.isEncodable_unitEscape _
  · obtain ⟨ch, rfl⟩ := Text.isEncodable_iff_forall.mp hascii c hc
    exact isEncodable_ofChars [ch]

theorem allEncodable_settings (apiUrl : Json) (s : Settlement) (hasBlog hasMap : Bool) :
    AllEncodable (settings apiUrl s hasBlog hasMap) := by
  simp only [settings, settlementConstants, blogConstants, mapConstants, constant, location]
  cases hasBlog <;> cases hasMap <;>
    simp only [List.cons_append, List.nil_append, List.append_nil, AllEncodable, Code.Encodable,
      isEncodable_append, isEncodable_ofString, isEncodable_literal, and_self, if_true, if_false,
      Bool.false_eq_true]

theorem allEncodable_pageFunctions : ∀ part ∈ pageFunctions, AllEncodable part := by
  simp only [pageFunctions, escapeHtml, smoothScroll, scrollAnimations, List.forall_mem_cons,
    AllEncodable, Code.Encodable, isEncodable_ofString, and_self, true_and]
  exact List.forall_mem_nil _

theorem allEncodable_mapFunctions : ∀ part ∈ mapFunctions, AllEncodable part := by
  simp only [mapFunctions, mapInstance, initMap, List.forall_mem_cons, AllEncodable,
    Code.Encodable, isEncodable_append, isEncodable_ofString, and_self, true_and]
  exact List.forall_mem_nil _

theorem allEncodable_blogFunctions : ∀ part ∈ blogFunctions, AllEncodable part := by
  simp only [blogFunctions, truncate, formatDate, sortNewestFirst, renderTeaser, fetchPosts,
    loadBlogTeasers, blogState, readSnapshotPosts, pageCount, applySearch, goToPage, renderBlogPage,
    renderPagination, initBlogPage, fetchPost, readSnapshotPost, showPost, initPostPage,
    List.forall_mem_cons, AllEncodable, Code.Encodable, isEncodable_append, isEncodable_ofString,
    and_self, true_and]
  exact List.forall_mem_nil _

theorem allEncodable_start (hasBlog hasMap : Bool) : AllEncodable (start hasBlog hasMap) := by
  simp only [start, startBlog, startMap]
  cases hasBlog <;> cases hasMap <;>
    simp only [List.cons_append, List.nil_append, List.append_nil, AllEncodable, Code.Encodable,
      isEncodable_ofString, and_self, reduceIte, Bool.false_eq_true]

/-- **The script of a website is made of characters**, whatever the website is about. -/
theorem isEncodable_site (apiUrl : Json) (s : Settlement) (hasBlog hasMap : Bool) :
    (site apiUrl s hasBlog hasMap).isEncodable = true := by
  refine Code.isEncodable_text (allEncodable_append.mpr ⟨allEncodable_settings .., ?_⟩)
  refine allEncodable_flatMap fun part hpart => ⟨isEncodable_ofString "", ?_⟩
  simp only [parts, List.mem_append, List.mem_singleton] at hpart
  rcases hpart with ((hpart | hpart) | hpart) | rfl
  · exact allEncodable_pageFunctions part hpart
  · split at hpart
    · exact allEncodable_blogFunctions part hpart
    · cases hpart
  · split at hpart
    · exact allEncodable_mapFunctions part hpart
    · cases hpart
  · exact allEncodable_start hasBlog hasMap

end Script

end CivicSite
