import CivicSite.Proofs.Page.Order

/-!
# Anchors

Which sections of a page can be linked to. Sections of one kind have one anchor, and only the first
of them keeps it, so all anchors of a page are distinct (`Section.nodup_anchors`), and there is one
for every kind among the components that has an anchor at all (`Section.mem_anchors_iff`). The
navigation links to kinds that are there, so its links lead to anchors (`Section.anchor_of_nav`).
-/

namespace CivicSite

open Component (kinds)

theorem Kind.eq_of_anchor? {k k' : Kind} {a : Text} (h : k.anchor? = some a)
    (h' : k'.anchor? = some a) : k = k' := by
  have hinj : ∀ k k' : Kind, k.anchor?.isSome = true → k.anchor? = k'.anchor? → k = k' := by
    intro k k'
    cases k <;> cases k' <;> decide
  exact hinj k k' (by rw [h]; rfl) (h.trans h'.symm)

/-- What occurs once in a list, as seen by a function, is one element of it. -/
theorem eq_of_count_le_one {α β : Type} [DecidableEq β] {f : α → β} {l : List α} {b : β}
    (hcount : (l.map f).count b ≤ 1) {x y : α} (hx : x ∈ l) (hy : y ∈ l) (hfx : f x = b)
    (hfy : f y = b) : x = y := by
  induction l with
  | nil => cases hx
  | cons a l ih =>
      have hlater {z : α} (hz : z ∈ l) (hfz : f z = b) : 0 < (l.map f).count b :=
        List.count_pos_iff.mpr (hfz ▸ List.mem_map_of_mem hz)
      rw [List.map_cons, List.count_cons] at hcount
      by_cases ha : f a = b
      · rw [if_pos (beq_iff_eq.mpr ha)] at hcount
        rcases List.mem_cons.mp hx with rfl | hx
        · rcases List.mem_cons.mp hy with rfl | hy
          · rfl
          · have hpos := hlater hy hfy
            omega
        · have hpos := hlater hx hfx
          omega
      · have hx : x ∈ l := (List.mem_cons.mp hx).resolve_left fun h => ha (h ▸ hfx)
        have hy : y ∈ l := (List.mem_cons.mp hy).resolve_left fun h => ha (h ▸ hfy)
        exact ih (by omega) hx hy

namespace Section

/-- The anchors of sections, in order. -/
def anchors (views : List Section) : List Text := views.filterMap anchor

/-- What is kept are the anchors that were not seen before, each of them once. -/
theorem anchors_keepFirstAnchors (seen : List Text) (views : List Section) :
    (anchors (keepFirstAnchors seen views)).Nodup
      ∧ ∀ a, a ∈ anchors (keepFirstAnchors seen views) ↔ a ∈ anchors views ∧ a ∉ seen := by
  induction views generalizing seen with
  | nil => exact ⟨List.nodup_nil, by simp [keepFirstAnchors, anchors]⟩
  | cons v rest ih =>
      cases hv : v.anchor with
      | none =>
          obtain ⟨hnodup, hmem⟩ := ih seen
          simp only [keepFirstAnchors, hv, anchors, List.filterMap_cons_none hv]
          exact ⟨hnodup, hmem⟩
      | some a =>
          simp only [keepFirstAnchors, hv, anchors, List.filterMap_cons_some hv, List.mem_cons]
          -- an anchor that was seen is dropped, and one that is new is seen from here on
          by_cases hseen : a ∈ seen
          · obtain ⟨hnodup, hmem⟩ := ih seen
            rw [if_pos (List.contains_iff_mem.mpr hseen), List.filterMap_cons_none rfl]
            refine ⟨hnodup, fun b => (hmem b).trans (and_congr_left fun hb => ?_)⟩
            have hne : b ≠ a := fun heq => hb (heq ▸ hseen)
            exact (or_iff_right hne).symm
          · obtain ⟨hnodup, hmem⟩ := ih (a :: seen)
            rw [if_neg (fun h => hseen (List.contains_iff_mem.mp h)), List.filterMap_cons_some hv]
            refine ⟨List.nodup_cons.mpr ⟨fun h => ?_, hnodup⟩, fun b => ?_⟩
            · exact ((hmem a).mp h).2 List.mem_cons_self
            · rw [List.mem_cons, show b ∈ List.filterMap anchor (keepFirstAnchors (a :: seen) rest)
                ↔ _ from hmem b, List.mem_cons, not_or]
              by_cases hba : b = a
              · simp [hba, hseen]
              · simp [hba, anchors]

/-- Nothing but the anchor of a section is taken away. -/
theorem mem_keepFirstAnchors {seen : List Text} {views : List Section} {v : Section}
    (h : v ∈ keepFirstAnchors seen views) :
    ∃ w ∈ views, v = w ∨ v = { w with anchor := none } := by
  induction views generalizing seen with
  | nil => cases h
  | cons w rest ih =>
      have hlater {seen : List Text} (h : v ∈ keepFirstAnchors seen rest) :
          ∃ w' ∈ w :: rest, v = w' ∨ v = { w' with anchor := none } := by
        obtain ⟨w', hw', hv⟩ := ih h
        exact ⟨w', List.mem_cons_of_mem _ hw', hv⟩
      unfold keepFirstAnchors at h
      split at h
      · rcases List.mem_cons.mp h with rfl | h
        · exact ⟨v, List.mem_cons_self, .inl rfl⟩
        · exact hlater h
      · split at h
        · rcases List.mem_cons.mp h with rfl | h
          · exact ⟨w, List.mem_cons_self, .inr rfl⟩
          · exact hlater h
        · rcases List.mem_cons.mp h with rfl | h
          · exact ⟨v, List.mem_cons_self, .inl rfl⟩
          · exact hlater h

theorem anchor_ofComponent (c : Component) (settlement : Text) (year : Int) (nav : List NavLink) :
    (ofComponent c settlement year nav).anchor = c.kind.anchor? := by
  unfold ofComponent
  cases c.body <;> rfl

/-- The anchors of sections that were not looked at together are those of their kinds. -/
theorem mem_anchors_map {order : List Component} {settlement : Text} {year : Int}
    {nav : List NavLink} {a : Text} :
    a ∈ anchors (order.map fun c => ofComponent c settlement year nav)
      ↔ ∃ k ∈ kinds order, k.anchor? = some a := by
  rw [anchors, List.filterMap_map, List.mem_filterMap, kinds]
  simp only [Function.comp, anchor_ofComponent, List.mem_map]
  constructor
  · rintro ⟨c, hc, ha⟩
    exact ⟨c.kind, ⟨c, hc, rfl⟩, ha⟩
  · rintro ⟨k, ⟨c, hc, rfl⟩, ha⟩
    exact ⟨c, hc, ha⟩

theorem nav_ofComponent (c : Component) (settlement : Text) (year : Int) (nav : List NavLink) :
    ∀ link ∈ (ofComponent c settlement year nav).nav, link ∈ nav := by
  intro link hlink
  unfold ofComponent at hlink
  cases hbody : c.body with
  | header t =>
      rw [hbody] at hlink
      exact hlink
  | _ =>
      rw [hbody] at hlink
      cases hlink

variable {settlement : Text} {cs : List Component} {year : Int} {v : Section} {a : Text}

/-- Where a section of a page comes from. -/
theorem mem_ofComponents (h : v ∈ ofComponents settlement cs year) :
    (v.anchor = v.kind.anchor? ∨ v.anchor = none)
      ∧ ∀ link ∈ v.nav, link ∈ navLinks ((ofComponents settlement cs year).map kind) := by
  rw [kinds_ofComponents]
  obtain ⟨w, hw, hv⟩ := mem_keepFirstAnchors h
  obtain ⟨c, -, rfl⟩ := List.mem_map.mp hw
  have hanchor := anchor_ofComponent c settlement year
    (navLinks ((Component.byPosition cs).map Component.kind))
  have hkind := kind_ofComponent c settlement year
    (navLinks ((Component.byPosition cs).map Component.kind))
  rcases hv with rfl | rfl
  · exact ⟨.inl (by rw [hanchor, hkind]), nav_ofComponent c settlement year _⟩
  · exact ⟨.inr rfl, nav_ofComponent c settlement year _⟩

theorem kind_of_anchor (h : v ∈ ofComponents settlement cs year) (ha : v.anchor = some a) :
    v.kind.anchor? = some a := by
  rcases (mem_ofComponents h).1 with hv | hv
  · exact hv.symm.trans ha
  · rw [hv] at ha
    cases ha

/-- **The anchors of a page are distinct.** -/
theorem nodup_anchors (settlement : Text) (cs : List Component) (year : Int) :
    (anchors (ofComponents settlement cs year)).Nodup :=
  (anchors_keepFirstAnchors [] _).1

/-- **Every kind that has an anchor has it on the page**, if there is a section of the kind. -/
theorem mem_anchors_iff : a ∈ anchors (ofComponents settlement cs year)
    ↔ ∃ k ∈ (ofComponents settlement cs year).map kind, k.anchor? = some a := by
  have hkept := (anchors_keepFirstAnchors [] ((Component.byPosition cs).map fun c =>
    ofComponent c settlement year (navLinks ((Component.byPosition cs).map Component.kind)))).2 a
  rw [kinds_ofComponents]
  refine hkept.trans ?_
  rw [and_iff_left List.not_mem_nil]
  exact mem_anchors_map

/-- **The navigation leads to anchors.** -/
theorem anchor_of_nav (h : v ∈ ofComponents settlement cs year) {link : NavLink}
    (hlink : link ∈ v.nav) : link.anchor ∈ anchors (ofComponents settlement cs year) := by
  have hnav := (mem_ofComponents h).2 link hlink
  obtain ⟨⟨k, text⟩, -, hk⟩ := List.mem_filterMap.mp hnav
  dsimp only at hk
  split at hk
  · rename_i hpresent
    obtain ⟨a, ha, rfl⟩ := Option.map_eq_some_iff.mp hk
    exact mem_anchors_iff.mpr ⟨k, List.contains_iff_mem.mp hpresent, ha⟩
  · cases hk

/-- The only section of a kind has its anchor. -/
theorem anchor_of_single (h : v ∈ ofComponents settlement cs year)
    (hsingle : ((ofComponents settlement cs year).map kind).count v.kind ≤ 1) :
    v.anchor = v.kind.anchor? := by
  cases hk : v.kind.anchor? with
  | none =>
      rcases (mem_ofComponents h).1 with hv | hv
      · exact hv.trans hk
      · exact hv
  | some a =>
      have hmem := mem_anchors_iff.mpr ⟨v.kind, List.mem_map_of_mem h, hk⟩
      obtain ⟨w, hw, ha⟩ := List.mem_filterMap.mp hmem
      have hkind : w.kind = v.kind := Kind.eq_of_anchor? (kind_of_anchor hw ha) hk
      obtain rfl : v = w := eq_of_count_le_one hsingle h hw rfl hkind
      exact ha

/-- A section has the anchor of its kind or none, and it has it for sure if its kind does not
repeat. -/
structure Anchored (v : Section) : Prop where
  proper : ∀ a, v.anchor = some a → v.kind.anchor? = some a
  single : v.kind.isRepeatable = false → v.anchor = v.kind.anchor?

theorem Anchored.anchor_eq_none (h : v.Anchored) (hk : v.kind.anchor? = none) :
    v.anchor = none := by
  cases ha : v.anchor with
  | none => rfl
  | some a => exact absurd (hk.symm.trans (h.proper a ha)) nofun

theorem anchored_of_mem (hsingle : Tree.Single (kinds (Component.byPosition cs)))
    (h : v ∈ ofComponents settlement cs year) : v.Anchored where
  proper _ ha := kind_of_anchor h ha
  single hk := anchor_of_single h (kinds_ofComponents settlement cs year ▸ hsingle v.kind hk)

end Section

end CivicSite
