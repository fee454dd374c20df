import CivicSite.Proofs.Tree.Effect

/-!
# Edits that undo each other

A tree in order is determined by its components in page order without their positions, since the
positions only count (`renumber_of_bare`). So two edits undo each other if together they leave
that order as it was. An edit leaves what it did not name around the component that it did name
(`exists_around_of_bare`), and the next edit can name it again: a component that was just added is
deleted from between the same neighbours, and one that was moved finds the neighbour that it changed
places with on its other side.

The frame does not get in the way: a tree that is not empty has its header and its footer, so an
addition adds nothing else, and what it adds is neither of them.
-/

namespace CivicSite

open Component (kinds bare)

namespace Tree

variable {t t' : Tree} {id name direction : Text} {s s' : Supply} {b c c' : Component}
variable {before after cs ds : List Component}

/-! ## The order without the positions -/

/-- Numbering does not look at the positions that are there. -/
theorem renumber_congr (h : bare cs = bare ds) : renumber cs = renumber ds := by
  refine List.ext_getElem? fun i => ?_
  have hi : cs[i]?.map Component.unplaced = ds[i]?.map Component.unplaced := by
    rw [← List.getElem?_map, ← List.getElem?_map]
    exact congrArg (·[i]?) h
  have hplace (o : Option Component) : o.map (fun c => { c with position := (i : Int) })
      = (o.map Component.unplaced).map fun c => { c with position := (i : Int) } := by
    rw [Option.map_map]
    rfl
  rw [getElem?_renumber, getElem?_renumber, hplace, hi, ← hplace]

/-- A tree in order is what numbering makes of its components in page order. -/
theorem renumber_of_bare (hw : t.WellFormed) (h : bare cs = bare t.components) :
    (⟨renumber cs⟩ : Tree) = t := by
  rw [renumber_congr h, renumber_of_numbered hw.numbered]

theorem id_of_unplaced (h : b.unplaced = c.unplaced) : b.id = c.id := by
  have hid := congrArg Component.id h
  exact hid

theorem kind_of_unplaced (h : b.unplaced = c.unplaced) : b.kind = c.kind := by
  have hkind := congrArg Component.kind h
  exact hkind

theorem bare_append (cs ds : List Component) : bare (cs ++ ds) = bare cs ++ bare ds :=
  List.map_append

theorem bare_cons (c : Component) (cs : List Component) : bare (c :: cs) = c.unplaced :: bare cs :=
  rfl

theorem ids_bare (cs : List Component) : Component.ids (bare cs) = Component.ids cs := by
  rw [Component.ids, bare, List.map_map]
  rfl

/-! ## The component that was named -/

/-- What stood around a component before the positions were counted anew stands around it after
that. -/
theorem exists_around_of_bare (h : bare t'.components = bare (before ++ c :: after))
    (hothers : ∀ b ∈ before ++ after, b.id ≠ c.id) :
    ∃ before' c' after', Around t' c.id before' c' after' ∧ bare before' = bare before
      ∧ c'.unplaced = c.unplaced ∧ bare after' = bare after := by
  rw [bare_append, bare_cons] at h
  obtain ⟨before', rest, hcs, hbefore, hrest⟩ := List.map_eq_append_iff.mp h
  obtain ⟨c', after', rfl, hc, hafter⟩ := List.map_eq_cons_iff.mp hrest
  have hid : c'.id = c.id := id_of_unplaced hc
  have hids : Component.ids (before' ++ after') = Component.ids (before ++ after) := by
    rw [← ids_bare, ← ids_bare (before ++ after), bare_append, bare_append]
    exact congrArg Component.ids (congr (congrArg _ hbefore) hafter)
  refine ⟨before', c', after', ⟨hcs, hid, fun b hb heq => ?_⟩, hbefore, hc, hafter⟩
  have hmem : c.id ∈ Component.ids (before ++ after) := by
    rw [← hids, ← heq]
    exact List.mem_map_of_mem hb
  obtain ⟨d, hd, hdid⟩ := List.mem_map.mp hmem
  exact hothers d hd hdid

/-- The component with the id is the one that an edit answers with, if that has the id too. -/
theorem Around.eq_of_mem (h : Around t id before c after) (hmem : c' ∈ t.components)
    (hid : c'.id = id) : c' = c := by
  rw [h.components] at hmem
  rcases List.mem_append.mp hmem with hbefore | hcons
  · exact absurd hid (h.others c' (List.mem_append_left _ hbefore))
  · rcases List.mem_cons.mp hcons with rfl | hafter
    · rfl
    · exact absurd hid (h.others c' (List.mem_append_right _ hafter))

/-! ## Adding and deleting -/

/-- What is added to a tree that is not empty is no part of its frame. -/
theorem not_isMandatory_of_add (hw : t.WellFormed) (hne : t.components ≠ []) {kind : Kind}
    (hnew : kind.isRepeatable = false → kind ∉ kinds t.components) : kind.isMandatory = false := by
  obtain ⟨hheader, hfooter⟩ := hw.framed.resolve_left hne
  have hmem (k : Kind) (hk : (kinds t.components).count k = 1) : k ∈ kinds t.components :=
    List.count_pos_iff.mp (Nat.lt_of_lt_of_eq Nat.zero_lt_one hk.symm)
  cases kind with
  | header => exact absurd (hmem _ hheader) (hnew rfl)
  | footer => exact absurd (hmem _ hfooter) (hnew rfl)
  | hero | about | services | blog | map | contact => rfl

/-- **Deleting what was just added restores the tree.** -/
theorem delete_add (hw : t.WellFormed) (hne : t.components ≠ [])
    (h : t.add name s = (.accepted c, t', s')) (hnew : c.id ∉ t.ids) :
    t'.delete c.id = (.accepted c, t) := by
  obtain ⟨kind, -, hkind, habsent, -, -, -⟩ := add_answer h
  have heffect := add_effect (c := c) hw (congrArg Prod.fst h)
  rw [h] at heffect
  cases heffect with
  | addFirst _ hempty => exact absurd hempty hne
  | @add _ kind' before after _ _ hkind' _ hsplit _ hshape hanswer hplaced =>
      obtain rfl : kind' = kind := Option.some.inj (hkind'.symm.trans hkind)
      have hid : c.id = (newComponent kind' s).id := id_of_unplaced hanswer
      have hothers : ∀ b ∈ before ++ after, b.id ≠ (newComponent kind' s).id := by
        intro b hb heq
        refine hnew ?_
        rw [hid, ← heq, ids, hsplit]
        exact List.mem_map_of_mem hb
      obtain ⟨before', c', after', haround, hbefore, hc', hafter⟩ :=
        exists_around_of_bare hshape hothers
      obtain ⟨i, -, hi⟩ := hplaced
      obtain rfl : c = c' := haround.eq_of_mem (List.mem_of_getElem? hi) hid
      have hkindc : c.kind = kind' :=
        (kind_of_unplaced hanswer).trans (kind_newComponent kind' s)
      have hfree : c.kind.isMandatory = false := by
        rw [hkindc]
        exact not_isMandatory_of_add hw hne habsent
      have hback : bare (before' ++ after') = bare t.components := by
        rw [hsplit, bare_append, bare_append, hbefore, hafter]
      rw [hid, haround.delete hfree, renumber_of_bare hw hback]

/-! ## Moving there and back -/

/-- A direction and the one that leads back. -/
inductive Opposite : Text → Text → Prop where
  | up : Opposite "up" "down"
  | down : Opposite "down" "up"

/-- **Moving a component back restores the tree.** -/
theorem move_move {back : Text} (hw : t.WellFormed) (hn : t.ids.Nodup)
    (hd : Opposite direction back) (h : t.move id direction = (.accepted c, t')) :
    ∃ c', t.get? id = some c' ∧ t'.move id back = (.accepted c', t) := by
  have heffect := move_effect (s := Supply.ofSequence fun _ => []) hn (congrArg Prod.fst h)
  rw [h] at heffect
  suffices hrestored : ∃ c', t'.move id back = (.accepted c', t) by
    obtain ⟨c', hc'⟩ := hrestored
    obtain ⟨hplace, hid⟩ := move_placed hc'
    have hmem : c' ∈ t.components := List.mem_of_getElem? hplace
    cases heffect with
    | moveUp haround => exact ⟨c', haround.eq_of_mem hmem hid ▸ haround.get?, hc'⟩
    | moveDown haround => exact ⟨c', haround.eq_of_mem hmem hid ▸ haround.get?, hc'⟩
  cases hd with
  | up =>
      cases heffect with
      | @moveUp _ before after b c _ _ haround hshape =>
          have hid : c.id = id := haround.named
          have hothers : ∀ d ∈ before ++ b :: after, d.id ≠ c.id := by
            intro d hd
            rw [hid]
            refine haround.others d ?_
            rw [List.append_assoc]
            exact hd
          obtain ⟨before', c', rest, haround', hbefore, hc', hrest⟩ :=
            exists_around_of_bare hshape hothers
          obtain ⟨b', after', rfl, hb', (hafter : bare after' = bare after)⟩ :=
            List.map_eq_cons_iff.mp hrest
          have hback : bare (before' ++ b' :: c' :: after') = bare t.components := by
            rw [haround.components, List.append_assoc, bare_append, bare_append, hbefore,
              bare_cons, bare_cons, hc', hb', hafter]
            rfl
          rw [← hid, haround'.move_down, renumber_of_bare hw hback]
          exact ⟨_, rfl⟩
  | down =>
      cases heffect with
      | @moveDown _ before after b c _ _ haround hshape =>
          have hid : c.id = id := haround.named
          have hshape' : bare t'.components = bare ((before ++ [b]) ++ c :: after) := by
            rw [hshape, List.append_assoc]
            rfl
          have hothers : ∀ d ∈ (before ++ [b]) ++ after, d.id ≠ c.id := by
            intro d hd
            rw [hid]
            refine haround.others d ?_
            rw [List.append_assoc] at hd
            exact hd
          obtain ⟨front, c', after', haround', hfront, hc', hafter⟩ :=
            exists_around_of_bare hshape' hothers
          rw [bare_append] at hfront
          obtain ⟨before', last, rfl, (hbefore : bare before' = bare before), hlast⟩ :=
            List.map_eq_append_iff.mp hfront
          obtain ⟨b', rest, rfl, hb', hrest⟩ := List.map_eq_cons_iff.mp hlast
          obtain rfl := List.map_eq_nil_iff.mp hrest
          have hback : bare (before' ++ c' :: b' :: after') = bare t.components := by
            rw [haround.components, bare_append, bare_append, bare_cons, bare_cons, bare_cons,
              bare_cons, hc', hb', hafter, hbefore]
          rw [← hid, haround'.move_up, renumber_of_bare hw hback]
          exact ⟨_, rfl⟩

/-! ## Undoing -/

/-- **Edits can be undone**, in every tree that a run leads to and whose ids are distinct: an
addition to a tree that is not empty by a deletion, if the id was new, and a move by a move in the
opposite direction. Nothing is left of the two edits, not in the positions either. -/
theorem edits_undone {cs : List Component} {s : Supply} {os : List Operation}
    (hn : (runFrom cs s os).1.ids.Nodup) :
    let t := (runFrom cs s os).1
    (t.components ≠ [] → ∀ (name : Text) (before : Supply) (c : Component) (t' : Tree)
        (after : Supply), t.add name before = (.accepted c, t', after) → c.id ∉ t.ids →
      t'.delete c.id = (.accepted c, t))
    ∧ ∀ (id direction back : Text) (c : Component) (t' : Tree), Opposite direction back →
      t.move id direction = (.accepted c, t') →
      ∃ c', t.get? id = some c' ∧ t'.move id back = (.accepted c', t) := by
  intro t
  have hw : t.WellFormed := (wellFormed_ofList cs s).runAll _ os
  refine ⟨?added, ?moved⟩
  case added =>
    intro hne name before c t' after h hnew
    exact delete_add hw hne h hnew
  case moved =>
    intro id direction back c t' hd h
    exact move_move hw hn hd h

/-- A blog that is added to a new website and deleted, and its hero that is moved down past the
footer and up again. -/
theorem edits_undone_hero :
    let s : Supply := .ofSequence fun n => List.replicate n 'c'
    let t := (runFrom [] s [.edit (.seed "Iași")]).1
    (∃ c t' s', t.add "blog" (s.skip 3) = (.accepted c, t', s')
      ∧ t'.delete c.id = (.accepted c, t))
    ∧ ∃ c t' c', t.move "c" "down" = (.accepted c, t') ∧ t'.move "c" "up" = (.accepted c', t) := by
  intro s t
  have ht : t = (seed empty "Iași" s).2.1 := by
    show (runFrom [] s [.edit (.seed "Iași")]).1 = _
    rw [runFrom, ofList_nil]
    rfl
  have hn : t.ids.Nodup := by
    rw [ht]
    decide
  have hne : t.components ≠ [] := by
    rw [ht]
    decide
  obtain ⟨hadded, hmoved⟩ := edits_undone hn
  have hadd : ∃ c t' s', t.add "blog" (s.skip 3) = (.accepted c, t', s') ∧ c.id ∉ t.ids := by
    rw [ht]
    exact ⟨_, _, _, rfl, by decide⟩
  have hmove : ∃ c t', t.move "c" "down" = (.accepted c, t') := by
    rw [ht]
    exact ⟨_, _, rfl⟩
  obtain ⟨c, t', s', ha, hnew⟩ := hadd
  obtain ⟨d, u, hm⟩ := hmove
  obtain ⟨d', -, hback⟩ := hmoved _ _ _ _ _ .down hm
  exact ⟨⟨c, t', s', ha, hadded hne _ _ _ _ _ ha hnew⟩, d, u, d', hm, hback⟩

end Tree

end CivicSite
