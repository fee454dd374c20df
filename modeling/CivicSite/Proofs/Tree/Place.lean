import CivicSite.Proofs.Tree.Edit

/-!
# Where edits put components

An accepted edit names the component that it concerned. What the window shows after an edit goes by
the place of that component: a component that was added or moved stands at the position that it has
(`add_placed`, `move_placed`), and one whose texts were changed stands where it stood
(`edit_accepted`).
-/

namespace CivicSite

namespace Tree

variable {t t' : Tree} {id : Text} {i : Nat} {c : Component} {s s' : Supply}

/-! ## In place -/

theorem place?_eq (t : Tree) (id : Text) : t.place? id = t.ids.findIdx? (· == id) := by
  rw [ids, Component.ids, List.findIdx?_map]
  rfl

/-- Another component with the same id leaves the ids. -/
theorem ids_set (h : t.place? id = some i) (hid : c.id = id) :
    (⟨t.components.set i c⟩ : Tree).ids = t.ids := by
  obtain ⟨hi, hget⟩ := get?_of_place? h
  have hold : t.components[i].id = c.id := (id_of_get? hget).trans hid.symm
  rw [ids, ids, Component.ids, List.map_set, ← hold, ← List.getElem_map (f := Component.id)
    (h := by rwa [List.length_map]), List.set_getElem_self]
  rfl

theorem get?_set (h : t.place? id = some i) (hid : c.id = id) :
    (⟨t.components.set i c⟩ : Tree).get? id = some c := by
  obtain ⟨hi, -⟩ := get?_of_place? h
  rw [get?_eq_place?, place?_eq, ids_set h hid, ← place?_eq, h, Option.bind_some,
    List.getElem?_set_self hi]

/-- An accepted edit replaces the first component with the id. -/
theorem edit_accepted {patch : Entries (Option Text)} (h : (t.edit id patch).1 = .accepted c) :
    ∃ i, t.place? id = some i ∧ c.id = id ∧ (t.edit id patch).2 = ⟨t.components.set i c⟩ := by
  rcases edit_cases t id patch with ⟨r, hr⟩ | ⟨f, hf, hupdate⟩
  · rw [hr] at h
    cases h
  · rw [hupdate] at h ⊢
    rcases update_cases t id f with hr | ⟨i, hi, hplace, ha⟩
    · rw [hr] at h
      cases h
    · rw [ha] at h ⊢
      obtain rfl := Change.accepted.inj h
      obtain ⟨_, hget⟩ := get?_of_place? hplace
      refine ⟨i, hplace, (hf.id _).trans (id_of_get? hget), congrArg Tree.mk ?_⟩
      refine List.ext_getElem? fun j => ?_
      by_cases hij : i = j
      · subst hij
        rw [List.getElem?_modify_eq, List.getElem?_set_self hi, List.getElem?_eq_getElem hi]
        rfl
      · rw [List.getElem?_modify_ne f _ hij, List.getElem?_set_ne hij]

/-! ## At a position -/

/-- A component of a list stands at the position that numbering gives it. -/
theorem position_renumber {cs : List Component} (h : (renumber cs)[i]? = some c) :
    c.position.toNat = i := by
  rw [getElem?_renumber] at h
  obtain ⟨b, -, rfl⟩ := Option.map_eq_some_iff.mp h
  exact Int.toNat_natCast i

/-- A frame moves what is framed by the header that it puts in front. -/
theorem getElem?_frame {cs : List Component} (h : cs[i]? = some c) :
    (frame cs s).1[if .header ∈ Component.kinds cs then i else i + 1]? = some c := by
  have hfooter (cs : List Component) (j : Nat) (s : Supply) (hj : cs[j]? = some c) :
      (ensureFooter cs s).1[j]? = some c := by
    rw [ensureFooter_eq]
    split
    · exact hj
    · exact (List.getElem?_append_left (List.getElem?_eq_some_iff.mp hj).1).trans hj
  refine hfooter _ _ _ ?_
  rw [ensureHeader_eq]
  split
  · exact h
  · exact h

theorem getElem?_complete {cs : List Component} (h : cs[i]? = some c) :
    let place := if .header ∈ Component.kinds cs then i else i + 1
    (complete cs s).1.components[place]? = some { c with position := (place : Int) } := by
  intro place
  rw [complete_eq, getElem?_renumber, getElem?_frame h]
  rfl

/-- The answer to an addition is the new component at its place: where it was inserted, or one
further on if a header was put in front of it. -/
theorem add_answer {name : Text} (h : t.add name s = (.accepted c, t', s')) :
    ∃ (kind : Kind) (place : Nat), Kind.ofName? name = some kind
      ∧ (kind.isRepeatable = false → kind ∉ Component.kinds t.components)
      ∧ complete (t.components.insertIdx (placeFor t.components kind) (newComponent kind s))
          (s.skip 1) = (t', s')
      ∧ c = { newComponent kind s with position := (place : Int) }
      ∧ t'.components[place]? = some c := by
  unfold add at h
  cases hkind : Kind.ofName? name with
  | none =>
      rw [hkind] at h
      cases h
  | some kind =>
      rw [hkind] at h
      dsimp only at h
      split at h
      · cases h
      · rename_i hpresent
        let cs := t.components.insertIdx (placeFor t.components kind) (newComponent kind s)
        let place := if .header ∈ Component.kinds cs then placeFor t.components kind
          else placeFor t.components kind + 1
        have habsent : kind.isRepeatable = false → kind ∉ Component.kinds t.components := by
          intro hsingle hmem
          rw [has, any_kind, hsingle, decide_eq_true hmem] at hpresent
          exact hpresent rfl
        have hnew : cs[placeFor t.components kind]? = some (newComponent kind s) := by
          rw [List.getElem?_insertIdx_self, if_pos (placeFor_le t.components kind)]
        have hframed : (complete cs (s.skip 1)).1.components[place]?
            = some { newComponent kind s with position := (place : Int) } :=
          getElem?_complete hnew
        have hanswer : (Change.accepted ((complete cs (s.skip 1)).1.components.getD
              (if cs.any (·.kind == .header) then placeFor t.components kind
                else placeFor t.components kind + 1) (newComponent kind s)),
            complete cs (s.skip 1)) = (.accepted c, t', s') := h
        have hplace : (if cs.any (·.kind == .header) then placeFor t.components kind
            else placeFor t.components kind + 1) = place := by
          rw [any_kind]
          simp only [decide_eq_true_eq]
          rfl
        rw [hplace, List.getD_eq_getElem?_getD, hframed] at hanswer
        obtain ⟨hc, htree⟩ := Prod.mk.inj hanswer
        obtain rfl := Change.accepted.inj hc
        rw [htree] at hframed
        exact ⟨kind, place, rfl, habsent, htree, rfl, hframed⟩

/-- **A component that is added stands at its position**, under the next id. -/
theorem add_placed {name : Text} (h : t.add name s = (.accepted c, t', s')) :
    t'.components[c.position.toNat]? = some c ∧ c.id = s.item s.taken := by
  obtain ⟨kind, place, -, -, -, rfl, hplaced⟩ := add_answer h
  exact ⟨hplaced, rfl⟩

/-- What a swap brings to a place comes from the other one. -/
theorem eq_of_swap {cs : List Component} {j : Nat} {a b : Component} (hi : cs[i]? = some a)
    (hj : (swap cs i j)[j]? = some b) : b = a := by
  unfold swap at hj
  rw [hi] at hj
  cases hb : cs[j]? with
  | none =>
      rw [hb] at hj
      cases hb.symm.trans hj
  | some b' =>
      have hlt : j < (cs.set i b').length := by
        rw [List.length_set]
        exact (List.getElem?_eq_some_iff.mp hb).1
      rw [hb] at hj
      dsimp only at hj
      rw [List.getElem?_set_self hlt] at hj
      exact (Option.some.inj hj).symm

/-- **A component that is moved stands at its position**. -/
theorem move_placed {direction : Text} (h : t.move id direction = (.accepted c, t')) :
    t'.components[c.position.toNat]? = some c ∧ c.id = id := by
  unfold move at h
  split at h
  · cases h
  · cases hplace : t.place? id with
    | none =>
        rw [hplace] at h
        cases h
    | some i =>
        rw [hplace] at h
        dsimp only at h
        split at h
        · cases h
        · generalize (if direction == "up" then i - 1 else i + 1) = j at h
          cases hmoved : (renumber (swap t.components i j))[j]? with
          | none =>
              rw [hmoved] at h
              cases h
          | some a =>
              rw [hmoved] at h
              obtain ⟨hc, rfl⟩ := Prod.mk.inj h
              obtain rfl := Change.accepted.inj hc
              rw [position_renumber hmoved]
              obtain ⟨hi, hget⟩ := get?_of_place? hplace
              have hswap := hmoved
              rw [getElem?_renumber] at hswap
              obtain ⟨b, hb, rfl⟩ := Option.map_eq_some_iff.mp hswap
              refine ⟨hmoved, ?_⟩
              rw [eq_of_swap (List.getElem?_eq_getElem hi) hb]
              exact (id_of_get? hget : t.components[i].id = id)

/-! ## The ids of what stands there -/

/-- Every id was there before, or it was drawn. -/
theorem Gathers.mem {held : List Text} {cs : List Component} (h : Gathers held s cs s')
    (hid : id ∈ Component.ids cs) : id ∈ held ∨ id ∈ s.drawn s' := by
  obtain ⟨n, l, rfl, hl, hp⟩ := h
  rw [Supply.drawn_skip]
  exact List.mem_append.mp (hl.subset (hp.subset hid))

end Tree

end CivicSite
