import CivicSite.Proofs.Page.Anchors
import CivicSite.Proofs.Post.Order

/-!
# The sections of a page

Sections stand in the order of the components' positions, and components with equal positions stay
in their order. What is seen when the anchor of a section is decided are the anchors before it
(`Section.getElem?_keepFirstAnchors`), and sections have the same anchor only if they are of the
same kind. So a section has the anchor of its kind just if it is the first one of the kind
(`Section.getElem?_ofComponents`), and the links of the navigation, which are found by kinds, lead
to one section each.
-/

namespace CivicSite

open Component (kinds)

/-! ## Equal positions -/

/-- Components with equal positions keep their order. -/
theorem Component.filter_byPosition (cs : List Component) (n : Int) :
    (byPosition cs).filter (·.position == n) = cs.filter (·.position == n) := by
  refine filter_mergeSort (fun a b c hab hbc => ?_) (fun a b => ?_) (fun a b ha hb => ?_) cs
  · simp only [decide_eq_true_eq] at hab hbc ⊢
    exact Int.le_trans hab hbc
  · simp only [Bool.or_eq_true, decide_eq_true_eq]
    exact Int.le_total a.position b.position
  · rw [beq_iff_eq] at ha hb
    exact decide_eq_true (Int.le_of_eq (ha.trans hb.symm))

namespace Section

/-! ## The anchor of each section -/

/-- **An anchor stays where it comes first**: a section loses it if it was seen or stands before the
section. -/
theorem getElem?_keepFirstAnchors (seen : List Text) (views : List Section) (i : Nat) :
    (keepFirstAnchors seen views)[i]? = views[i]?.map fun v =>
      { v with anchor := v.anchor.filter fun a => a ∉ seen ∧ a ∉ anchors (views.take i) } := by
  induction views generalizing seen i with
  | nil => rfl
  | cons v rest ih =>
      obtain ⟨id, kind, alignment, title, subtitle, body, anchor, nav⟩ := v
      cases anchor with
      | none =>
          cases i with
          | zero => rfl
          | succ i =>
              simp only [keepFirstAnchors, List.getElem?_cons_succ, List.take_succ_cons, ih]
              rfl
      | some a =>
          by_cases hseen : a ∈ seen
          · simp only [keepFirstAnchors, if_pos (List.contains_iff_mem.mpr hseen)]
            cases i with
            | zero =>
                have hdropped : (some a).filter (fun b => b ∉ seen ∧ b ∉ anchors []) = none := by
                  rw [Option.filter_some, if_neg fun h => (of_decide_eq_true h).1 hseen]
                exact congrArg
                  (fun o => some (Section.mk id kind alignment title subtitle body o nav))
                  hdropped.symm
            | succ i =>
                -- the anchor is seen already, so it adds nothing to what the later ones must avoid
                have hsame (b : Text) : (b ∉ seen ∧ b ∉ anchors (rest.take i))
                    ↔ (b ∉ seen ∧ b ∉ a :: anchors (rest.take i)) := by
                  rw [List.mem_cons, not_or]
                  exact and_congr_right fun hb =>
                    (and_iff_right fun heq : b = a => hb (heq ▸ hseen)).symm
                simp only [List.getElem?_cons_succ, List.take_succ_cons, ih, hsame]
                rfl
          · simp only [keepFirstAnchors, if_neg fun h => hseen (List.contains_iff_mem.mp h)]
            cases i with
            | zero =>
                have hkept : (some a).filter (fun b => b ∉ seen ∧ b ∉ anchors []) = some a := by
                  rw [Option.filter_some, if_pos (decide_eq_true ⟨hseen, List.not_mem_nil⟩)]
                exact congrArg
                  (fun o => some (Section.mk id kind alignment title subtitle body o nav))
                  hkept.symm
            | succ i =>
                have hsame (b : Text) : (b ∉ a :: seen ∧ b ∉ anchors (rest.take i))
                    ↔ (b ∉ seen ∧ b ∉ a :: anchors (rest.take i)) := by
                  rw [List.mem_cons, List.mem_cons, not_or, not_or, and_assoc, and_left_comm]
                simp only [List.getElem?_cons_succ, List.take_succ_cons, ih, hsame]
                rfl

/-- What a section takes over from its component; the navigation belongs to headers. -/
theorem head_ofComponent (c : Component) (settlement : Text) (year : Int) (nav : List NavLink) :
    (ofComponent c settlement year nav).id = c.id
      ∧ (ofComponent c settlement year nav).alignment = c.alignment
      ∧ (ofComponent c settlement year nav).nav = if c.kind = .header then nav else [] := by
  unfold ofComponent Component.kind
  cases c.body <;> exact ⟨rfl, rfl, rfl⟩

/-- **Each section, by its place.** It is the section of the component at that place; its anchor is
that of its kind, unless the kind stands before it. -/
theorem getElem?_ofComponents (settlement : Text) (cs : List Component) (year : Int) (i : Nat) :
    (ofComponents settlement cs year)[i]? = (Component.byPosition cs)[i]?.map fun c =>
      { ofComponent c settlement year (navLinks (kinds (Component.byPosition cs))) with
        anchor := if c.kind ∈ kinds ((Component.byPosition cs).take i) then none
          else c.kind.anchor? } := by
  rw [ofComponents, getElem?_keepFirstAnchors, List.getElem?_map, Option.map_map, ← List.map_take]
  refine congrArg (Option.map · _) (funext fun c => ?_)
  simp only [Function.comp, anchor_ofComponent, mem_anchors_map, List.not_mem_nil,
    not_false_eq_true, true_and]
  congr 1
  cases hk : c.kind.anchor? with
  | none => rw [ite_self]; rfl
  | some a =>
      have hbefore : (∃ k ∈ kinds ((Component.byPosition cs).take i), k.anchor? = some a)
          ↔ c.kind ∈ kinds ((Component.byPosition cs).take i) := by
        constructor
        · rintro ⟨k, hmem, ha⟩
          exact Kind.eq_of_anchor? hk ha ▸ hmem
        · exact fun hmem => ⟨c.kind, hmem, hk⟩
      by_cases hmem : c.kind ∈ kinds ((Component.byPosition cs).take i)
      · rw [if_pos hmem, Option.filter_some, if_neg]
        exact fun h => of_decide_eq_true h (hbefore.mpr hmem)
      · rw [if_neg hmem, Option.filter_some, if_pos]
        exact decide_eq_true (mt hbefore.mp hmem)

/-! ## The navigation -/

/-- The links of the navigation, with the kinds that they are there for. -/
theorem navLinks_eq (ks : List Kind) :
    navLinks ks = ([(Kind.about, NavLink.mk "Despre" "despre"), (.blog, ⟨"Noutăți", "noutati"⟩),
      (.contact, ⟨"Contact", "contact"⟩)].filter fun e => e.1 ∈ ks).map Prod.snd := by
  simp only [navLinks, navOrder, List.filterMap_cons, List.filterMap_nil, List.filter_cons,
    List.filter_nil, List.contains_iff_mem, decide_eq_true_eq]
  by_cases habout : Kind.about ∈ ks <;> by_cases hblog : Kind.blog ∈ ks <;>
    by_cases hcontact : Kind.contact ∈ ks <;>
    simp only [if_pos, if_neg, habout, hblog, hcontact, not_false_eq_true] <;> rfl

/-! ## The page as a whole -/

variable {settlement : Text} {cs : List Component} {year : Int}

/-- Each section tells which component it shows. -/
theorem heads_ofComponents :
    (ofComponents settlement cs year).map (fun v => (v.id, v.kind, v.alignment))
      = (Component.byPosition cs).map fun c => (c.id, c.kind, c.alignment) := by
  refine List.ext_getElem? fun i => ?_
  rw [List.getElem?_map, List.getElem?_map, getElem?_ofComponents, Option.map_map]
  refine congrArg (Option.map · _) (funext fun c => ?_)
  obtain ⟨hid, halignment, -⟩ := head_ofComponent c settlement year
    (navLinks (kinds (Component.byPosition cs)))
  simp only [Function.comp, kind_ofComponent, hid, halignment]

/-- Where a kind stands before a section, its anchor is taken. -/
theorem anchor_of_getElem? {i : Nat} {v : Section}
    (h : (ofComponents settlement cs year)[i]? = some v) :
    v.anchor = if v.kind ∈ ((ofComponents settlement cs year).take i).map kind then none
      else v.kind.anchor? := by
  rw [List.map_take, kinds_ofComponents, kinds, ← List.map_take]
  rw [getElem?_ofComponents] at h
  obtain ⟨c, -, rfl⟩ := Option.map_eq_some_iff.mp h
  simp only [kind_ofComponent]
  rfl

theorem nav_of_mem {v : Section} (h : v ∈ ofComponents settlement cs year) :
    v.nav = if v.kind = .header then navLinks (kinds (Component.byPosition cs)) else [] := by
  obtain ⟨i, hi⟩ := List.mem_iff_getElem?.mp h
  rw [getElem?_ofComponents] at hi
  obtain ⟨c, -, rfl⟩ := Option.map_eq_some_iff.mp hi
  simp only [kind_ofComponent]
  exact (head_ofComponent c settlement year _).2.2

/-- An anchor that is on the page is on one section of it. -/
theorem count_anchor {a : Text} (h : a ∈ anchors (ofComponents settlement cs year)) :
    ((ofComponents settlement cs year).map anchor).count (some a) = 1 := by
  have hcount (views : List Section) :
      (views.map anchor).count (some a) = (anchors views).count a := by
    rw [anchors, List.count, List.count, List.countP_map, List.countP_filterMap]
    refine congrArg (List.countP · views) (funext fun v => ?_)
    rw [Function.comp]
    cases v.anchor <;> rfl
  rw [hcount]
  exact List.count_eq_one_of_mem (nodup_anchors settlement cs year) h

/-- **The sections of a page.** There is one for each component, by position and in stable order. No
two of them have the same anchor: a kind that has an anchor has it on its first section, and on no
later one. The navigation of every header lists those of the three kinds in its order that occur
among the components, and each of its links leads to the anchor of exactly one section. -/
theorem ofComponents_exact (settlement : Text) (cs : List Component) (year : Int) :
    let order := Component.byPosition cs
    let views := ofComponents settlement cs year
    (order.Perm cs ∧ order.Pairwise (fun c d => c.position ≤ d.position)
      ∧ ∀ n, order.filter (·.position == n) = cs.filter (·.position == n))
    ∧ views.map (fun v => (v.id, v.kind, v.alignment))
        = order.map (fun c => (c.id, c.kind, c.alignment))
    ∧ views.Pairwise (fun v w => ∀ a, v.anchor = some a → w.anchor ≠ some a)
    ∧ (∀ i v, views[i]? = some v →
        v.anchor = if v.kind ∈ (views.take i).map kind then none else v.kind.anchor?)
    ∧ (∀ v ∈ views, v.nav = if v.kind = .header then
          ([(Kind.about, NavLink.mk "Despre" "despre"), (.blog, ⟨"Noutăți", "noutati"⟩),
            (.contact, ⟨"Contact", "contact"⟩)].filter fun e => e.1 ∈ kinds cs).map Prod.snd
        else [])
    ∧ ∀ v ∈ views, ∀ link ∈ v.nav, (views.map anchor).count (some link.anchor) = 1 := by
  intro order views
  have hperm : order.Perm cs := Component.byPosition_perm cs
  refine ⟨⟨hperm, Component.pairwise_byPosition cs, Component.filter_byPosition cs⟩,
    heads_ofComponents, ?_, fun i v hv => anchor_of_getElem? hv, fun v hv => ?_,
    fun v hv link hlink => count_anchor (anchor_of_nav hv hlink)⟩
  · refine (List.pairwise_filterMap.mp (nodup_anchors settlement cs year)).imp ?_
    exact fun hne a ha hb => hne a ha a hb rfl
  · have hkinds (k : Kind) : k ∈ kinds order ↔ k ∈ kinds cs := (hperm.map Component.kind).mem_iff
    rw [nav_of_mem hv, navLinks_eq]
    simp only [hkinds, order]

end Section

end CivicSite
