import CivicSite.Proofs.Draft.RoundTrip

/-!
# What restoring a tree keeps

A tree that is made of any list of components keeps all that it can. Two components *conflict* if
they have the same id, or the same kind and that kind may not repeat. Of the components in the
order of their positions, one is left out only if it conflicts with one that is kept and stands
before it; a component that is itself left out stands in nobody's way (`Thinned`,
`exists_thinned`). What is added is a header in front and a footer at the end, each only if none
was kept (`lacking`).

A tree in good order has nothing to leave out and nothing to add, and its positions tell the order
of its components. So any permutation of them makes the same tree (`rebuilding_identity`).
-/

namespace CivicSite

open Component (kinds)

namespace Component

/-- Two components that one page cannot have both. -/
def Conflict (a b : Component) : Prop :=
  a.id = b.id ∨ a.kind = b.kind ∧ b.kind.isRepeatable = false

/-- A component without its position. -/
def unplaced (c : Component) : Component := { c with position := 0 }

end Component

namespace Tree

/-! ## What is left out -/

/-- How a list of components is thinned out: at which places they are kept. No two that are kept
conflict, and whatever is left out conflicts with one that is kept before it. -/
structure Thinned (cs : List Component) (places : List Nat) (kept : List Component) : Prop where
  ascending : places.Pairwise (· < ·)
  standing : places.map (cs[·]?) = kept.map some
  apart : kept.Pairwise fun a b => ¬a.Conflict b
  covered : ∀ (j : Nat) (c : Component), cs[j]? = some c → j ∉ places →
    ∃ i ∈ places, ∃ b, i < j ∧ cs[i]? = some b ∧ b.Conflict c

/-- A component that conflicts with what was seen: ids, and kinds that may not repeat. -/
def Blocked (seen : List Text) (ks : List Kind) (c : Component) : Prop :=
  c.id ∈ seen ∨ c.kind ∈ ks ∧ c.kind.isRepeatable = false

theorem blocked_iff {seen : List Text} {ks : List Kind} {c : Component} :
    (seen.contains c.id || (!c.kind.isRepeatable && ks.contains c.kind)) = true
      ↔ Blocked seen ks c := by
  simp [Blocked, and_comm]

theorem blocked_cons {seen : List Text} {ks : List Kind} {b c : Component} :
    Blocked (b.id :: seen) (b.kind :: ks) c ↔ b.Conflict c ∨ Blocked seen ks c := by
  simp only [Blocked, Component.Conflict, List.mem_cons, eq_comm (a := c.id), eq_comm (a := c.kind)]
  tauto

theorem dropDuplicates_of_blocked {seen : List Text} {ks : List Kind} {c : Component}
    (h : Blocked seen ks c) (cs : List Component) :
    dropDuplicates seen ks (c :: cs) = dropDuplicates seen ks cs := by
  rw [dropDuplicates, if_pos (blocked_iff.mpr h)]

theorem dropDuplicates_of_not_blocked {seen : List Text} {ks : List Kind} {c : Component}
    (h : ¬Blocked seen ks c) (cs : List Component) :
    dropDuplicates seen ks (c :: cs) = c :: dropDuplicates (c.id :: seen) (c.kind :: ks) cs := by
  rw [dropDuplicates, if_neg (mt blocked_iff.mp h)]

theorem not_blocked_of_mem {cs : List Component} {c : Component} : ∀ {seen : List Text}
    {ks : List Kind}, c ∈ dropDuplicates seen ks cs → ¬Blocked seen ks c := by
  induction cs with
  | nil => exact fun h => (List.not_mem_nil h).elim
  | cons d rest ih =>
      intro seen ks h
      by_cases hd : Blocked seen ks d
      · rw [dropDuplicates_of_blocked hd] at h
        exact ih h
      · rw [dropDuplicates_of_not_blocked hd] at h
        rcases List.mem_cons.mp h with rfl | h
        · exact hd
        · exact fun hc => ih h (blocked_cons.mpr (Or.inr hc))

theorem apart_dropDuplicates (cs : List Component) : ∀ (seen : List Text) (ks : List Kind),
    (dropDuplicates seen ks cs).Pairwise fun a b => ¬a.Conflict b := by
  induction cs with
  | nil => exact fun _ _ => List.Pairwise.nil
  | cons d rest ih =>
      intro seen ks
      by_cases hd : Blocked seen ks d
      · rw [dropDuplicates_of_blocked hd]
        exact ih seen ks
      · rw [dropDuplicates_of_not_blocked hd]
        refine List.pairwise_cons.mpr ⟨fun c hc hconflict => ?_, ih _ _⟩
        exact not_blocked_of_mem hc (blocked_cons.mpr (Or.inl hconflict))

/-- Places of a list in the list with one more in front. -/
theorem map_places_succ (c : Component) (cs : List Component) (places : List Nat) :
    (places.map (· + 1)).map ((c :: cs)[·]?) = places.map (cs[·]?) := by
  rw [List.map_map]
  exact List.map_congr_left fun i _ => List.getElem?_cons_succ

/-- The places at which components are kept. What is left out was blocked from the start, or it
conflicts with one that is kept before it. -/
theorem exists_places (cs : List Component) : ∀ (seen : List Text) (ks : List Kind),
    ∃ places : List Nat, places.Pairwise (· < ·)
      ∧ places.map (cs[·]?) = (dropDuplicates seen ks cs).map some
      ∧ ∀ (j : Nat) (c : Component), cs[j]? = some c → j ∉ places → Blocked seen ks c
        ∨ ∃ i ∈ places, ∃ b, i < j ∧ cs[i]? = some b ∧ b.Conflict c := by
  induction cs with
  | nil => exact fun _ _ => ⟨[], List.Pairwise.nil, rfl, fun _ _ h => nomatch h⟩
  | cons d rest ih =>
      intro seen ks
      by_cases hd : Blocked seen ks d
      · obtain ⟨places, hascending, hkept, hcovered⟩ := ih seen ks
        refine ⟨places.map (· + 1), ?_, ?_, fun j c hj hout => ?_⟩
        · exact List.pairwise_map.mpr (hascending.imp Nat.succ_lt_succ)
        · rw [map_places_succ, dropDuplicates_of_blocked hd, hkept]
        · cases j with
          | zero => exact Or.inl (Option.some.inj hj ▸ hd)
          | succ j =>
              have hout : j ∉ places := fun h => hout (List.mem_map_of_mem h)
              rcases hcovered j c hj hout with hc | ⟨i, hi, b, hij, hb, hconflict⟩
              · exact Or.inl hc
              · exact Or.inr ⟨i + 1, List.mem_map_of_mem hi, b, Nat.succ_lt_succ hij, hb, hconflict⟩
      · obtain ⟨places, hascending, hkept, hcovered⟩ := ih (d.id :: seen) (d.kind :: ks)
        refine ⟨0 :: places.map (· + 1), ?_, ?_, fun j c hj hout => ?_⟩
        · refine List.pairwise_cons.mpr ⟨fun j hj => ?_, ?_⟩
          · obtain ⟨i, -, rfl⟩ := List.mem_map.mp hj
            exact Nat.succ_pos i
          · exact List.pairwise_map.mpr (hascending.imp Nat.succ_lt_succ)
        · rw [List.map_cons, map_places_succ, dropDuplicates_of_not_blocked hd, hkept]
          rfl
        · cases j with
          | zero => exact absurd List.mem_cons_self hout
          | succ j =>
              have hout : j ∉ places :=
                fun h => hout (List.mem_cons_of_mem _ (List.mem_map_of_mem h))
              rcases hcovered j c hj hout with hc | ⟨i, hi, b, hij, hb, hconflict⟩
              · rcases blocked_cons.mp hc with hconflict | hc
                · exact Or.inr ⟨0, List.mem_cons_self, d, Nat.succ_pos j, rfl, hconflict⟩
                · exact Or.inl hc
              · exact Or.inr ⟨i + 1, List.mem_cons_of_mem _ (List.mem_map_of_mem hi), b,
                  Nat.succ_lt_succ hij, hb, hconflict⟩

/-- Nothing is left out of a list but what conflicts. -/
theorem exists_thinned (cs : List Component) :
    ∃ places, Thinned cs places (dropDuplicates [] [] cs) := by
  obtain ⟨places, hascending, hkept, hcovered⟩ := exists_places cs [] []
  refine ⟨places, hascending, hkept, apart_dropDuplicates cs [] [], fun j c hj hout => ?_⟩
  refine (hcovered j c hj hout).resolve_left fun hblocked => ?_
  rcases hblocked with hid | ⟨hkind, -⟩
  · exact List.not_mem_nil hid
  · exact List.not_mem_nil hkind

/-! ## What is added -/

/-- A new component with a body whose kind a list lacks: none if the list is empty or has one. -/
def lacking (body : Body) (cs : List Component) (s : Supply) : List Component :=
  if cs = [] ∨ body.kind ∈ kinds cs then [] else [⟨s.item s.taken, body, 0, .center⟩]

theorem lacking_of_mem (body : Body) {cs : List Component} (h : body.kind ∈ kinds cs) (s : Supply) :
    lacking body cs s = [] :=
  if_pos (Or.inr h)

theorem lacking_of_not_mem (body : Body) {cs : List Component} (hne : cs ≠ [])
    (h : body.kind ∉ kinds cs) (s : Supply) :
    lacking body cs s = [⟨s.item s.taken, body, 0, .center⟩] :=
  if_neg (not_or.mpr ⟨hne, h⟩)

theorem kind_of_mem_lacking {body : Body} {cs : List Component} {s : Supply} {c : Component}
    (h : c ∈ lacking body cs s) : c.kind = body.kind := by
  unfold lacking at h
  split at h
  · exact absurd h List.not_mem_nil
  · rw [List.mem_singleton.mp h]
    rfl

theorem frame_eq_lacking {cs : List Component} (h : cs ≠ []) (s : Supply) :
    let front := lacking (.header none) cs s
    let back := lacking .footer cs (s.skip front.length)
    frame cs s = (front ++ cs ++ back, s.skip (front.length + back.length)) := by
  intro front back
  have hfront : ensureHeader cs s = (front ++ cs, s.skip front.length) := by
    rw [ensureHeader_eq]
    by_cases hheader : Kind.header ∈ kinds cs
    · have hnil : front = [] := lacking_of_mem (.header none) hheader s
      rw [if_pos hheader, hnil]
      rfl
    · have hone : front = [⟨s.item s.taken, .header none, 0, .center⟩] :=
        lacking_of_not_mem (.header none) h hheader s
      rw [if_neg hheader, hone]
      rfl
  have hfooter : Kind.footer ∈ kinds (front ++ cs) ↔ Kind.footer ∈ kinds cs := by
    have hnot : Kind.footer ∉ kinds front := by
      intro hmem
      obtain ⟨c, hc, hkind⟩ := List.mem_map.mp hmem
      rw [kind_of_mem_lacking hc] at hkind
      cases hkind
    rw [kinds, List.map_append, List.mem_append]
    exact or_iff_right hnot
  rw [frame, hfront, ensureFooter_eq]
  by_cases hmem : Kind.footer ∈ kinds cs
  · have hnil : back = [] := lacking_of_mem .footer hmem _
    rw [if_pos (hfooter.mpr hmem), hnil, List.append_nil]
    rfl
  · let s' := s.skip front.length
    have hone : back = [⟨s'.item s'.taken, .footer, 0, .center⟩] :=
      lacking_of_not_mem .footer h hmem s'
    rw [if_neg (mt hfooter.mp hmem), hone, Supply.skip_skip]
    rfl

theorem complete_eq_lacking {cs : List Component} (h : cs ≠ []) (s : Supply) :
    let front := lacking (.header none) cs s
    let back := lacking .footer cs (s.skip front.length)
    complete cs s = (⟨renumber (front ++ cs ++ back)⟩, s.skip (front.length + back.length)) := by
  intro front back
  rw [complete_eq, frame_eq_lacking h s]

/-- Something is kept of every list but the empty one. -/
theorem kept_eq_nil_iff {cs : List Component} : kept cs = [] ↔ cs = [] := by
  have hnil : Component.byPosition cs = [] ↔ cs = [] := by
    rw [← List.length_eq_zero_iff, (Component.byPosition_perm cs).length_eq,
      List.length_eq_zero_iff]
  rw [← hnil, kept]
  cases Component.byPosition cs with
  | nil => exact iff_of_true rfl rfl
  | cons c rest =>
      have hfree : ¬Blocked [] [] c := by simp [Blocked]
      rw [dropDuplicates_of_not_blocked hfree]
      exact iff_of_false (List.cons_ne_nil _ _) (List.cons_ne_nil _ _)

theorem map_unplaced_renumber (cs : List Component) :
    (renumber cs).map Component.unplaced = cs.map Component.unplaced :=
  map_renumber cs fun _ _ => rfl

/-- **Restoring drops only what conflicts.** Of any list of components, in the order of their
positions, the tree has those that conflict with none that is kept before them, and else no more
than a header in front and a footer at the end, if none was kept. -/
theorem restoring_exact (cs : List Component) (s : Supply) :
    let restored := ofList cs s
    ∃ ordered places kept, Component.Restores cs ordered ∧ Thinned ordered places kept
      ∧ kept.Sublist ordered ∧ (kept = [] ↔ cs = [])
      ∧ ∃ front back, front = lacking (.header none) kept s
        ∧ back = lacking .footer kept (s.skip front.length)
        ∧ restored.1.components.map Component.unplaced
          = (front ++ kept ++ back).map Component.unplaced
        ∧ Numbered restored.1.components
        ∧ restored.2 = s.skip (front.length + back.length) := by
  intro restored
  obtain ⟨places, hthinned⟩ := exists_thinned (Component.byPosition cs)
  refine ⟨Component.byPosition cs, places, kept cs, Component.restores_byPosition cs, hthinned,
    dropDuplicates_sublist _ [] [], kept_eq_nil_iff, _, _, rfl, rfl, ?_⟩
  have hnumbered : Numbered restored.1.components := (wellFormed_ofList cs s).numbered
  by_cases h : cs = []
  · have hrestored : restored = (empty, s) := by rw [← ofList_nil s, ← h]
    have hlacking (body : Body) (s : Supply) : lacking body (kept cs) s = [] :=
      if_pos (Or.inl (kept_eq_nil_iff.mpr h))
    rw [hlacking, hlacking, kept_eq_nil_iff.mpr h, hrestored]
    exact ⟨rfl, wellFormed_empty.numbered, rfl⟩
  · have hrestored : restored = _ :=
      (ofList_of_ne_nil h s).trans (complete_eq_lacking (mt kept_eq_nil_iff.mp h) s)
    refine ⟨?_, hnumbered, congrArg Prod.snd hrestored⟩
    rw [hrestored, map_unplaced_renumber]

/-! ## Rebuilding -/

/-- Sorting undoes a permutation of components that are numbered. -/
theorem byPosition_of_perm {cs ds : List Component} (h : Numbered cs) (hp : ds.Perm cs) :
    Component.byPosition ds = cs := by
  have hordered : cs.Pairwise fun a b => a.position ≤ b.position :=
    byPosition_of_numbered h ▸ Component.pairwise_byPosition cs
  have hdistinct : (cs.map Component.position).Nodup := by
    refine List.pairwise_map.mpr (List.pairwise_iff_getElem.mpr fun i j hi hj hij => ?_)
    rw [h i hi, h j hj]
    omega
  have hperm : (Component.byPosition ds).Perm cs := (Component.byPosition_perm ds).trans hp
  have hdistinct' : ((Component.byPosition ds).map Component.position).Nodup :=
    (hperm.map Component.position).nodup_iff.mpr hdistinct
  have hantisymm : ∀ a b : Component, a.position ≤ b.position → b.position ≤ a.position →
      a.position = b.position := fun a b hab hba => Int.le_antisymm hab hba
  exact eq_of_pairwise_of_perm hantisymm (Component.pairwise_byPosition ds) hordered hdistinct'
    hperm

theorem ofList_congr {cs ds : List Component}
    (h : Component.byPosition cs = Component.byPosition ds) (s : Supply) :
    ofList cs s = ofList ds s := by
  rw [ofList, ofList, h]

/-- **Rebuilding is the identity.** Any permutation of the components that a tree has after a run
makes the same tree again, and draws nothing. The ids that the run drew were new: to the tree, and
to those that the same operation had drawn before. -/
theorem rebuilding_identity {cs : List Component} {s : Supply} {os : List Operation}
    (h : Fresh cs s os) {ds : List Component} (hp : ds.Perm (runFrom cs s os).1.components)
    (s' : Supply) : ofList ds s' = ((runFrom cs s os).1, s') := by
  have hw : (ofList cs s).1.WellFormed := wellFormed_ofList cs s
  have hwellFormed : (runFrom cs s os).1.WellFormed := hw.runAll _ os
  have hnodup : (runFrom cs s os).1.ids.Nodup :=
    nodup_runAll hw ((gathers_ofList cs s).nodup (nodup_kept cs) h.1) h.2
  have hsorted : Component.byPosition ds
      = Component.byPosition (runFrom cs s os).1.components := by
    rw [byPosition_of_perm hwellFormed.numbered hp, byPosition_of_numbered hwellFormed.numbered]
  rw [ofList_congr hsorted, ofList_components hwellFormed hnodup]

/-- A website with a blog that was moved up, made anew from back to front. -/
theorem rebuilding_identity_reversed :
    let s : Supply := .ofSequence fun n => List.replicate n 'c'
    let os : List Operation := [.edit (.seed "Iași"), .edit (.add "blog"), .edit (.move "ccc" "up")]
    let t := (runFrom [] s os).1
    Fresh [] s os ∧ ofList t.components.reverse s = (t, s) := by
  intro s os t
  have hinj : ∀ m n, s.item m = s.item n → m = n := fun m n h => by
    simpa [s, Supply.ofSequence] using congrArg List.length h
  have hfresh : Fresh [] s os := Fresh.of_injective hinj (fun _ _ => List.not_mem_nil) os
  exact ⟨hfresh, rebuilding_identity hfresh (List.reverse_perm _) s⟩

/-- Where the header and the hero of a new website were given the same id, though the tree held
neither of them by then, the hero is lost when the tree is made anew. -/
theorem unheld_not_rebuilt :
    let s : Supply := .ofSequence fun n => List.replicate (n / 2 + 1) 'c'
    let os : List Operation := [.edit (.seed "Iași")]
    let t := (runFrom [] s os).1
    Unheld [] s os ∧ Component.kinds t.components = [.header, .hero, .footer]
      ∧ Component.kinds (ofList t.components s).1.components = [.header, .footer] := by
  intro s os t
  have ht := components_seed s "Iași"
  refine ⟨unheld_seed (by decide) "Iași", ?_, ?_⟩
  · show Component.kinds (runFrom [] s os).1.components = _
    rw [ht]
    decide
  · show Component.kinds (ofList (runFrom [] s os).1.components s).1.components = _
    rw [ht, ofList, byPosition_of_numbered (numbered_renumber _)]
    decide

end Tree

end CivicSite
