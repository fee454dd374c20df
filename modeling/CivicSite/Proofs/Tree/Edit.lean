import CivicSite.Proofs.Tree.Repair

/-!
# What one edit does to a tree

An edit either leaves the tree and the supply as they were, or does one of four things to the
components: it completes a list that it put together (`seed`, `add`), leaves out a component that
is not mandatory (`delete`), exchanges two (`move`) or changes one in place (`align`, `edit`). Each
operation gets one lemma that says so; that a well-formed tree stays well formed, and where its
ids come from, is read off these lemmas.
-/

namespace CivicSite

namespace Tree

open Component (kinds)

/-! ## Edits -/

/-- An operation on a tree that answers with a change. -/
inductive Edit where
  | seed (settlement : Text)
  | add (name : Text)
  | delete (id : Text)
  | move (id direction : Text)
  | align (id name : Text)
  | edit (id : Text) (patch : Entries (Option Text))

/-- The outcome of an edit, the tree after it and the supply after it. -/
def Edit.run (t : Tree) (s : Supply) : Edit → Change × Tree × Supply
  | .seed settlement => t.seed settlement s
  | .add name => t.add name s
  | .delete id => ((t.delete id).1, (t.delete id).2, s)
  | .move id direction => ((t.move id direction).1, (t.move id direction).2, s)
  | .align id name => ((t.align id name).1, (t.align id name).2, s)
  | .edit id patch => ((t.edit id patch).1, (t.edit id patch).2, s)

/-! ## Looking up -/

theorem get?_eq_place? (t : Tree) (id : Text) :
    t.get? id = (t.place? id).bind fun i => t.components[i]? := by
  cases h : t.place? id with
  | none =>
      have hnone := List.findIdx?_eq_none_iff.mp h
      rw [get?, List.find?_eq_none.mpr fun c hc => by simp [hnone c hc]]
      rfl
  | some i =>
      obtain ⟨hi, hid, hfirst⟩ := List.findIdx?_eq_some_iff_getElem.mp h
      rw [get?, Option.bind_some, List.getElem?_eq_getElem hi]
      refine List.find?_eq_some_iff_getElem.mpr ⟨hid, i, hi, rfl, fun j hj => ?_⟩
      rw [Bool.not_eq_true']
      exact Bool.eq_false_iff.mpr (hfirst j hj)

theorem get?_of_place? {t : Tree} {id : Text} {i : Nat} (h : t.place? id = some i) :
    ∃ hi : i < t.components.length, t.get? id = some t.components[i] := by
  obtain ⟨hi, -⟩ := List.findIdx?_eq_some_iff_getElem.mp h
  refine ⟨hi, ?_⟩
  rw [get?_eq_place?, h, Option.bind_some, List.getElem?_eq_getElem hi]

theorem mem_of_get? {t : Tree} {id : Text} {c : Component} (h : t.get? id = some c) :
    c ∈ t.components :=
  List.mem_of_find?_eq_some h

theorem id_of_get? {t : Tree} {id : Text} {c : Component} (h : t.get? id = some c) : c.id = id :=
  beq_iff_eq.mp (List.find?_some (p := fun c : Component => c.id == id) h)

/-! ## The effect of each operation -/

/-- The header that a website starts with. -/
def startHeader (settlement : Text) (s : Supply) : Component :=
  ⟨s.item s.taken, .header (some (Text.trimEnd ("Primăria " ++ settlement))), 0, .center⟩

/-- The hero that a website starts with. -/
def startHero (s : Supply) : Component :=
  ⟨s.item (s.taken + 1), .hero (some "Bine ați venit") (some "Portal oficial"), 0, .center⟩

theorem seed_cases (t : Tree) (settlement : Text) (s : Supply) :
    (∃ r, t.seed settlement s = (.rejected r, t, s))
    ∨ t.components = []
      ∧ t.seed settlement s
        = (.accepted (startHeader settlement s),
          complete [startHeader settlement s, startHero s] (s.skip 2)) := by
  cases h : t.isEmpty with
  | false => exact Or.inl ⟨.notEmpty, by simp [seed, h]⟩
  | true =>
      refine Or.inr ⟨List.isEmpty_iff.mp h, ?_⟩
      simp [seed, h, make, Supply.draw, startHeader, startHero, Supply.skip]

/-- The component that is added for a kind. -/
def newComponent (kind : Kind) (s : Supply) : Component :=
  ⟨s.item s.taken, .initial kind, 0, .center⟩

@[simp] theorem kind_newComponent (kind : Kind) (s : Supply) :
    (newComponent kind s).kind = kind :=
  Body.kind_ofFields kind _

theorem add_cases (t : Tree) (name : Text) (s : Supply) :
    (∃ r, t.add name s = (.rejected r, t, s))
    ∨ ∃ kind c, Kind.ofName? name = some kind
      ∧ (kind.isRepeatable = false → kind ∉ kinds t.components)
      ∧ t.add name s = (.accepted c,
        complete (t.components.insertIdx (placeFor t.components kind) (newComponent kind s))
          (s.skip 1)) := by
  cases hkind : Kind.ofName? name with
  | none => exact Or.inl ⟨.unknownType name, by simp [add, hkind]⟩
  | some kind =>
      cases hpresent : !kind.isRepeatable && t.has kind with
      | true => exact Or.inl ⟨.present kind, by simp [add, hkind, hpresent]⟩
      | false =>
          refine Or.inr ⟨kind, ?component, rfl, ?new, ?result⟩
          case new =>
            intro hsingle hmem
            rw [has, any_kind, hsingle, decide_eq_true hmem] at hpresent
            cases hpresent
          case result =>
            simp only [add, hkind, hpresent]
            exact rfl

theorem delete_cases (t : Tree) (id : Text) :
    (∃ r, t.delete id = (.rejected r, t))
    ∨ ∃ c, t.get? id = some c ∧ c.kind.isMandatory = false
      ∧ t.delete id = (.accepted c, ⟨renumber (t.components.eraseP (·.id == id))⟩) := by
  cases hget : t.get? id with
  | none => exact Or.inl ⟨.noSuch id, by simp [delete, hget]⟩
  | some c =>
      cases hm : c.kind.isMandatory with
      | true => exact Or.inl ⟨.mandatory c.kind, by simp [delete, hget, hm]⟩
      | false => exact Or.inr ⟨c, rfl, hm, by simp [delete, hget, hm]⟩

theorem move_cases (t : Tree) (id direction : Text) :
    (∃ change, change.isAccepted = false ∧ t.move id direction = (change, t))
    ∨ ∃ i j c, t.place? id = some i ∧ j < t.components.length
      ∧ t.move id direction = (.accepted c, ⟨renumber (swap t.components i j)⟩) := by
  unfold move
  split
  · exact Or.inl ⟨_, rfl, rfl⟩
  · split
    · exact Or.inl ⟨_, rfl, rfl⟩
    · rename_i i hi
      split
      · exact Or.inl ⟨_, rfl, rfl⟩
      · generalize hj : (if direction == "up" then i - 1 else i + 1) = j
        simp only
        cases hc : (renumber (swap t.components i j))[j]? with
        | none => exact Or.inl ⟨_, rfl, rfl⟩
        | some c =>
            refine Or.inr ⟨i, j, c, hi, ?_, rfl⟩
            obtain ⟨hlt, -⟩ := List.getElem?_eq_some_iff.mp hc
            rw [length_renumber] at hlt
            unfold swap at hlt
            split at hlt
            · rwa [List.length_set, List.length_set] at hlt
            · exact hlt

theorem update_cases (t : Tree) (id : Text) (f : Component → Component) :
    t.update id f = (.rejected (.noSuch id), t)
    ∨ ∃ (i : Nat) (hi : i < t.components.length), t.place? id = some i
      ∧ t.update id f = (.accepted (f t.components[i]), ⟨t.components.modify i f⟩) := by
  unfold update
  cases hplace : t.place? id with
  | none => exact Or.inl rfl
  | some i =>
      obtain ⟨hi, -⟩ := get?_of_place? hplace
      refine Or.inr ⟨i, hi, rfl, ?_⟩
      have hc : (t.components.modify i f)[i]? = some (f t.components[i]) := by
        rw [List.getElem?_modify_eq, List.getElem?_eq_getElem hi]
        rfl
      simp only [hc]

theorem kind_patched (b : Body) (patch : Entries (Option Text)) :
    (patched b patch).kind = b.kind :=
  Body.kind_ofFields b.kind _

/-- A change of a component that leaves its id, kind and position. -/
structure InPlace (f : Component → Component) : Prop where
  id : ∀ c, (f c).id = c.id
  kind : ∀ c, (f c).kind = c.kind
  position : ∀ c, (f c).position = c.position

theorem align_cases (t : Tree) (id name : Text) :
    (∃ r, t.align id name = (.rejected r, t))
    ∨ ∃ f, InPlace f ∧ t.align id name = t.update id f := by
  cases halign : Alignment.ofName? name with
  | none => exact Or.inl ⟨.badAlignment name, by simp [align, halign]⟩
  | some a =>
      refine Or.inr ⟨fun c => { c with alignment := a }, ?_, by rw [align, halign]⟩
      exact ⟨fun _ => rfl, fun _ => rfl, fun _ => rfl⟩

theorem edit_cases (t : Tree) (id : Text) (patch : Entries (Option Text)) :
    (∃ r, t.edit id patch = (.rejected r, t))
    ∨ ∃ f, InPlace f ∧ t.edit id patch = t.update id f := by
  cases hget : t.get? id with
  | none => exact Or.inl ⟨.noSuch id, by simp [edit, hget]⟩
  | some c =>
      cases hbad : badFields c.kind patch with
      | cons n names => exact Or.inl ⟨.badFields c.kind (n :: names), by simp [edit, hget, hbad]⟩
      | nil =>
          refine Or.inr ⟨fun c => { c with body := patched c.body patch }, ?_, ?_⟩
          · exact ⟨fun _ => rfl, fun c => kind_patched c.body patch, fun _ => rfl⟩
          · simp only [edit, hget, hbad]

/-! ## Rearranged components -/

theorem placeFor_le (cs : List Component) (kind : Kind) : placeFor cs kind ≤ cs.length := by
  unfold placeFor
  split
  · exact Nat.zero_le _
  · split
    · exact Nat.sub_le ..
    · exact Nat.le_refl _

theorem swap_perm (cs : List Component) (i j : Nat) : (swap cs i j).Perm cs := by
  unfold swap
  split
  · rename_i a b ha hb
    obtain ⟨hi, rfl⟩ := List.getElem?_eq_some_iff.mp ha
    obtain ⟨hj, rfl⟩ := List.getElem?_eq_some_iff.mp hb
    exact List.set_set_perm hi hj
  · exact List.Perm.refl _

theorem eraseP_perm {t : Tree} {id : Text} {c : Component} (h : t.get? id = some c) :
    t.components.Perm (c :: t.components.eraseP (·.id == id)) := by
  obtain ⟨hid, l, l', hl, hfirst⟩ := List.find?_eq_some_iff_append.mp h
  have hnot : ∀ b ∈ l, ¬ (b.id == id) = true := fun b hb => by simpa using hfirst b hb
  have hcut : (c :: l').eraseP (·.id == id) = l' := by
    rw [List.eraseP_cons, hid, cond_true]
  rw [hl, List.eraseP_append_right _ hnot, hcut]
  exact List.perm_middle

/-- A change in place shows in nothing that does not depend on it. -/
theorem map_modify {β : Type} {f : Component → Component} {g : Component → β} (i : Nat)
    (cs : List Component) (h : ∀ c, g (f c) = g c) : (cs.modify i f).map g = cs.map g := by
  refine List.ext_getElem? fun j => ?_
  rw [List.getElem?_map, List.getElem?_map, List.getElem?_modify]
  cases cs[j]? with
  | none => rfl
  | some c =>
      show some (g (if i = j then f c else c)) = some (g c)
      split
      · rw [h]
      · rfl

theorem Numbered.modify {f : Component → Component} {cs : List Component} (h : Numbered cs)
    (hf : InPlace f) (i : Nat) : Numbered (cs.modify i f) := by
  intro j hj
  have hj' : j < cs.length := by rwa [List.length_modify] at hj
  rw [List.getElem_modify]
  split
  · rw [hf.position, h j hj']
  · exact h j hj'

/-! ## Trees stay well formed -/

theorem WellFormed.complete_cons {t : Tree} (h : t.WellFormed) {c : Component}
    {cs : List Component} (hp : cs.Perm (c :: t.components))
    (hnew : c.kind.isRepeatable = false → c.kind ∉ kinds t.components) (s : Supply) :
    (complete cs s).1.WellFormed := by
  refine wellFormed_complete (Single.of_perm ?_ (hp.map Component.kind)) s
  intro k hk
  show (c.kind :: kinds t.components).count k ≤ 1
  rw [List.count_cons]
  by_cases hck : c.kind = k
  · subst hck
    have hcount := List.count_eq_zero_of_not_mem (hnew hk)
    rw [beq_self_eq_true, if_pos rfl]
    omega
  · rw [if_neg (by simpa using hck)]
    exact h.single k hk

theorem WellFormed.seed {t : Tree} (h : t.WellFormed) (settlement : Text) (s : Supply) :
    (t.seed settlement s).2.1.WellFormed := by
  rcases seed_cases t settlement s with ⟨r, hr⟩ | ⟨-, ha⟩
  · rw [hr]
    exact h
  · rw [ha]
    refine wellFormed_complete (fun k _ => ?_) _
    show [Kind.header, Kind.hero].count k ≤ 1
    cases k <;> decide

theorem WellFormed.add {t : Tree} (h : t.WellFormed) (name : Text) (s : Supply) :
    (t.add name s).2.1.WellFormed := by
  rcases add_cases t name s with ⟨r, hr⟩ | ⟨kind, c, -, hnew, ha⟩
  · rw [hr]
    exact h
  · rw [ha]
    refine h.complete_cons (List.perm_insertIdx _ _ (placeFor_le _ kind)) ?_ _
    rw [kind_newComponent]
    exact hnew

theorem WellFormed.delete {t : Tree} (h : t.WellFormed) (id : Text) :
    (t.delete id).2.WellFormed := by
  rcases delete_cases t id with ⟨r, hr⟩ | ⟨c, hget, hm, ha⟩
  · rw [hr]
    exact h
  · rw [ha]
    have hp : (kinds t.components).Perm (c.kind :: kinds (t.components.eraseP (·.id == id))) :=
      (eraseP_perm hget).map Component.kind
    have hframed : Framed (kinds t.components) := by
      refine h.framed.resolve_left fun hnil => ?_
      have hmem := mem_of_get? hget
      rw [hnil] at hmem
      cases hmem
    refine wellFormed_renumber (Or.inr ?_) ?_
    · obtain ⟨hheader, hfooter⟩ := hframed
      rw [hp.count_eq, List.count_cons_of_ne (fun hc => by rw [hc] at hm; cases hm)] at hheader
      rw [hp.count_eq, List.count_cons_of_ne (fun hc => by rw [hc] at hm; cases hm)] at hfooter
      exact ⟨hheader, hfooter⟩
    · exact h.single.of_sublist (List.eraseP_sublist.map Component.kind)

theorem WellFormed.move {t : Tree} (h : t.WellFormed) (id direction : Text) :
    (t.move id direction).2.WellFormed := by
  rcases move_cases t id direction with ⟨change, -, hr⟩ | ⟨i, j, c, -, -, ha⟩
  · rw [hr]
    exact h
  · rw [ha]
    have hp := swap_perm t.components i j
    refine wellFormed_renumber ?_ (h.single.of_perm (hp.map Component.kind))
    rcases h.framed with hnil | hf
    · rw [hnil] at hp ⊢
      exact Or.inl hp.eq_nil
    · exact Or.inr (hf.of_perm (hp.map Component.kind))

theorem WellFormed.update {t : Tree} (h : t.WellFormed) (id : Text) {f : Component → Component}
    (hf : InPlace f) : (t.update id f).2.WellFormed := by
  rcases update_cases t id f with hr | ⟨i, hi, -, ha⟩
  · rw [hr]
    exact h
  · rw [ha]
    have hkinds : kinds (t.components.modify i f) = kinds t.components := map_modify i _ hf.kind
    refine ⟨h.numbered.modify hf i, Or.inr ?_, ?_, fun c _ => c.proper⟩
    · rw [hkinds]
      exact h.framed.resolve_left fun hnil => Nat.not_lt_zero i (by rwa [hnil] at hi)
    · rw [hkinds]
      exact h.single

/-- Every edit keeps trees well formed. -/
theorem WellFormed.run {t : Tree} (h : t.WellFormed) (s : Supply) (e : Edit) :
    (e.run t s).2.1.WellFormed := by
  cases e with
  | seed settlement => exact h.seed settlement s
  | add name => exact h.add name s
  | delete id => exact h.delete id
  | move id direction => exact h.move id direction
  | align id name =>
      rcases align_cases t id name with ⟨r, hr⟩ | ⟨f, hf, ha⟩
      · simp only [Edit.run, hr]
        exact h
      · simp only [Edit.run, ha]
        exact h.update id hf
  | edit id patch =>
      rcases edit_cases t id patch with ⟨r, hr⟩ | ⟨f, hf, ha⟩
      · simp only [Edit.run, hr]
        exact h
      · simp only [Edit.run, ha]
        exact h.update id hf

/-! ## Where ids come from -/

theorem gathers_seed (t : Tree) (settlement : Text) (s : Supply) :
    Gathers t.ids s (t.seed settlement s).2.1.components (t.seed settlement s).2.2 := by
  rcases seed_cases t settlement s with ⟨r, hr⟩ | ⟨hnil, ha⟩
  · rw [hr]
    exact Gathers.of_perm s (List.Perm.refl _)
  · rw [ha]
    have hstart : Gathers t.ids s [startHeader settlement s, startHero s] (s.skip 2) := by
      refine ⟨2, s.next 2, rfl, ?_, List.Perm.refl _⟩
      rw [ids, hnil]
      exact List.Sublist.refl _
    exact hstart.trans (gathers_complete _ _)

theorem gathers_add (t : Tree) (name : Text) (s : Supply) :
    Gathers t.ids s (t.add name s).2.1.components (t.add name s).2.2 := by
  rcases add_cases t name s with ⟨r, hr⟩ | ⟨kind, c, -, -, ha⟩
  · rw [hr]
    exact Gathers.of_perm s (List.Perm.refl _)
  · rw [ha]
    have hp := List.perm_insertIdx (newComponent kind s) _ (placeFor_le t.components kind)
    exact (Gathers.of_draw s (hp.map Component.id)).trans (gathers_complete _ _)

theorem ids_update (t : Tree) (id : Text) {f : Component → Component} (hf : InPlace f) :
    (t.update id f).2.ids = t.ids := by
  rcases update_cases t id f with hr | ⟨i, hi, -, ha⟩
  · rw [hr]
  · rw [ha]
    exact map_modify i _ hf.id

/-- Every edit leaves some of the ids that were there and some that were drawn. -/
theorem gathers_run (t : Tree) (s : Supply) (e : Edit) :
    Gathers t.ids s (e.run t s).2.1.components (e.run t s).2.2 := by
  cases e with
  | seed settlement => exact gathers_seed t settlement s
  | add name => exact gathers_add t name s
  | delete id =>
      refine Gathers.of_sublist s ?_
      rcases delete_cases t id with ⟨r, hr⟩ | ⟨c, -, -, ha⟩
      · simp only [Edit.run, hr]
        exact List.Sublist.refl _
      · simp only [Edit.run, ha, ids_renumber]
        exact List.eraseP_sublist.map Component.id
  | move id direction =>
      refine Gathers.of_perm s ?_
      rcases move_cases t id direction with ⟨change, -, hr⟩ | ⟨i, j, c, -, -, ha⟩
      · simp only [Edit.run, hr]
        exact List.Perm.refl _
      · simp only [Edit.run, ha, ids_renumber]
        exact (swap_perm t.components i j).map Component.id
  | align id name =>
      refine Gathers.of_perm s (List.Perm.of_eq ?_)
      rcases align_cases t id name with ⟨r, hr⟩ | ⟨f, hf, ha⟩
      · simp only [Edit.run, hr]
        rfl
      · simp only [Edit.run, ha]
        exact ids_update t id hf
  | edit id patch =>
      refine Gathers.of_perm s (List.Perm.of_eq ?_)
      rcases edit_cases t id patch with ⟨r, hr⟩ | ⟨f, hf, ha⟩
      · simp only [Edit.run, hr]
        rfl
      · simp only [Edit.run, ha]
        exact ids_update t id hf

/-! ## Edits that are not accepted -/

/-- An edit that is not accepted leaves the tree and draws no id. -/
theorem run_of_not_accepted {t : Tree} {s : Supply} {e : Edit}
    (h : (e.run t s).1.isAccepted = false) : (e.run t s).2 = (t, s) := by
  cases e with
  | seed settlement =>
      rcases seed_cases t settlement s with ⟨r, hr⟩ | ⟨-, ha⟩
      · simp only [Edit.run, hr]
      · simp only [Edit.run, ha] at h
        cases h
  | add name =>
      rcases add_cases t name s with ⟨r, hr⟩ | ⟨kind, c, -, -, ha⟩
      · simp only [Edit.run, hr]
      · simp only [Edit.run, ha] at h
        cases h
  | delete id =>
      rcases delete_cases t id with ⟨r, hr⟩ | ⟨c, -, -, ha⟩
      · simp only [Edit.run, hr]
      · simp only [Edit.run, ha] at h
        cases h
  | move id direction =>
      rcases move_cases t id direction with ⟨change, -, hr⟩ | ⟨i, j, c, -, -, ha⟩
      · simp only [Edit.run, hr]
      · simp only [Edit.run, ha] at h
        cases h
  | align id name =>
      rcases align_cases t id name with ⟨r, hr⟩ | ⟨f, -, ha⟩
      · simp only [Edit.run, hr]
      · rcases update_cases t id f with hr | ⟨i, hi, -, ha'⟩
        · simp only [Edit.run, ha, hr]
        · simp only [Edit.run, ha, ha'] at h
          cases h
  | edit id patch =>
      rcases edit_cases t id patch with ⟨r, hr⟩ | ⟨f, -, ha⟩
      · simp only [Edit.run, hr]
      · rcases update_cases t id f with hr | ⟨i, hi, -, ha'⟩
        · simp only [Edit.run, ha, hr]
        · simp only [Edit.run, ha, ha'] at h
          cases h

end Tree

end CivicSite
