import CivicSite.Proofs.Tree.Edit
import Mathlib.Data.List.InsertIdx

/-!
# Edits and changes of texts commute

A retouch gives components other texts, by their ids, and touches nothing else: not the kinds, not
the order, not the alignments. No edit but that of texts looks at texts, so it does not matter
whether a tree is edited before or after it is retouched (`Retouch.run`). All it takes is that the
retouch leaves alone what the edit itself adds.
-/

namespace CivicSite

open Component (kinds)
open CivicSite.Tree

/-- Whether an edit changes texts. -/
def Tree.Edit.isRewording : Edit → Bool
  | .edit .. => true
  | _ => false

/-! ## Retouching -/

/-- Other texts for components, by their ids and of the same kinds. -/
structure Retouch where
  body : Text → Body → Body
  kind : ∀ id b, (body id b).kind = b.kind

namespace Retouch

/-- The component with its other texts. -/
def component (r : Retouch) (c : Component) : Component := { c with body := r.body c.id c.body }

/-- The tree with the other texts. -/
def tree (r : Retouch) (t : Tree) : Tree := ⟨t.components.map r.component⟩

/-- The retouch leaves components with these ids alone. -/
def Spares (r : Retouch) (ids : List Text) : Prop := ∀ id ∈ ids, ∀ b, r.body id b = b

theorem inPlace (r : Retouch) : InPlace r.component :=
  ⟨fun _ => rfl, fun c => r.kind c.id c.body, fun _ => rfl⟩

theorem component_of_spares {r : Retouch} {ids : List Text} (h : r.Spares ids) {c : Component}
    (hc : c.id ∈ ids) : r.component c = c := by
  simp only [component, h c.id hc]

theorem spares_append {r : Retouch} {ids ids' : List Text} :
    r.Spares (ids ++ ids') ↔ r.Spares ids ∧ r.Spares ids' :=
  List.forall_mem_append

variable (r : Retouch)

@[simp] theorem kinds_map (cs : List Component) : kinds (cs.map r.component) = kinds cs := by
  rw [kinds, List.map_map]
  exact List.map_congr_left fun c _ => r.inPlace.kind c

@[simp] theorem ids_tree (t : Tree) : (r.tree t).ids = t.ids := by
  rw [Tree.ids, Component.ids, tree, List.map_map]
  rfl

/-! ## What looks at no texts -/

theorem get?_tree (t : Tree) (id : Text) : (r.tree t).get? id = (t.get? id).map r.component := by
  rw [get?, get?, tree, List.find?_map]
  rfl

theorem place?_tree (t : Tree) (id : Text) : (r.tree t).place? id = t.place? id := by
  rw [place?, place?, tree, List.findIdx?_map]
  rfl

theorem has_tree (t : Tree) (k : Kind) : (r.tree t).has k = t.has k := by
  rw [has, has, any_kind, any_kind, tree, kinds_map]

theorem placeFor_map (cs : List Component) (k : Kind) :
    placeFor (cs.map r.component) k = placeFor cs k := by
  have hlast :
      (cs.map r.component).getLast?.map Component.kind = cs.getLast?.map Component.kind := by
    rw [List.getLast?_map, Option.map_map]
    exact congrArg (Option.map · _) (funext r.inPlace.kind)
  rw [placeFor, placeFor, hlast, List.length_map]

/-! ## What moves components about -/

theorem renumber_map (cs : List Component) :
    renumber (cs.map r.component) = (renumber cs).map r.component := by
  refine List.ext_getElem? fun i => ?_
  rw [getElem?_renumber, List.getElem?_map, List.getElem?_map, getElem?_renumber]
  cases cs[i]? with
  | none => rfl
  | some c => rfl

theorem eraseP_map (cs : List Component) (id : Text) :
    (cs.map r.component).eraseP (·.id == id) = (cs.eraseP (·.id == id)).map r.component :=
  List.eraseP_map ..

theorem swap_map (cs : List Component) (i j : Nat) :
    swap (cs.map r.component) i j = (swap cs i j).map r.component := by
  unfold swap
  rw [List.getElem?_map, List.getElem?_map]
  cases cs[i]? with
  | none => rfl
  | some a =>
      cases cs[j]? with
      | none => rfl
      | some b =>
          show ((cs.map r.component).set i (r.component b)).set j (r.component a) = _
          rw [List.map_set, List.map_set]

theorem modify_map {f : Component → Component} (cs : List Component) (i : Nat)
    (hf : ∀ c, f (r.component c) = r.component (f c)) :
    (cs.map r.component).modify i f = (cs.modify i f).map r.component := by
  refine List.ext_getElem? fun j => ?_
  rw [List.getElem?_modify, List.getElem?_map, List.getElem?_map, List.getElem?_modify]
  cases cs[j]? with
  | none => rfl
  | some c =>
      show some (if i = j then f (r.component c) else r.component c)
        = some (r.component (if i = j then f c else c))
      split
      · rw [hf]
      · rfl

/-! ## What adds components -/

theorem ensureHeader_map {cs : List Component} {s : Supply}
    (h : r.Spares (s.drawn (ensureHeader cs s).2)) :
    ensureHeader (cs.map r.component) s
      = ((ensureHeader cs s).1.map r.component, (ensureHeader cs s).2) := by
  rw [ensureHeader_eq] at h
  rw [ensureHeader_eq, ensureHeader_eq, kinds_map]
  split
  · rfl
  · rename_i hmissing
    rw [if_neg hmissing, Supply.drawn_skip] at h
    rw [List.map_cons, component_of_spares h List.mem_cons_self]

theorem ensureFooter_map {cs : List Component} {s : Supply}
    (h : r.Spares (s.drawn (ensureFooter cs s).2)) :
    ensureFooter (cs.map r.component) s
      = ((ensureFooter cs s).1.map r.component, (ensureFooter cs s).2) := by
  rw [ensureFooter_eq] at h
  rw [ensureFooter_eq, ensureFooter_eq, kinds_map]
  split
  · rfl
  · rename_i hmissing
    rw [if_neg hmissing, Supply.drawn_skip] at h
    rw [List.map_append, List.map_singleton, component_of_spares h List.mem_cons_self]

/-- Draws one after the other. -/
theorem drawn_append {held held' : List Text} {s s' s'' : Supply} {cs cs' : List Component}
    (h : Gathers held s cs s') (h' : Gathers held' s' cs' s'') :
    s.drawn s'' = s.drawn s' ++ s'.drawn s'' := by
  obtain ⟨m, -, rfl, -⟩ := h
  obtain ⟨n, -, rfl, -⟩ := h'
  rw [Supply.drawn_skip, Supply.drawn_skip, Supply.skip_skip, Supply.drawn_skip, Supply.next_add]

theorem complete_map {cs : List Component} {s : Supply}
    (h : r.Spares (s.drawn (complete cs s).2)) :
    complete (cs.map r.component) s = (r.tree (complete cs s).1, (complete cs s).2) := by
  have hdrawn : s.drawn (complete cs s).2 = _ :=
    drawn_append (gathers_ensureHeader cs s) (gathers_ensureFooter _ _)
  rw [hdrawn, spares_append] at h
  have hfooter : ensureFooter ((ensureHeader cs s).1.map r.component) (ensureHeader cs s).2 = _ :=
    r.ensureFooter_map h.2
  rw [complete_eq, complete_eq, frame, frame, r.ensureHeader_map h.1, hfooter, renumber_map]
  rfl

/-! ## Edits -/

theorem seed {t : Tree} {s : Supply} {settlement : Text}
    (h : r.Spares (s.drawn (t.seed settlement s).2.2)) :
    ((r.tree t).seed settlement s).2
      = (r.tree (t.seed settlement s).2.1, (t.seed settlement s).2.2) := by
  cases hempty : t.components with
  | nil =>
      have htree : r.tree t = t := by rw [tree, hempty, List.map_nil, ← hempty]
      rcases seed_cases t settlement s with ⟨reason, hr⟩ | ⟨-, ha⟩
      · rw [htree, hr, htree]
      · rw [ha] at h
        have hnew : Gathers [] s [startHeader settlement s, startHero s] (s.skip 2) :=
          ⟨2, s.next 2, rfl, List.Sublist.refl _, List.Perm.refl _⟩
        rw [drawn_append hnew (gathers_complete _ _), spares_append, Supply.drawn_skip] at h
        have hstart : [startHeader settlement s, startHero s].map r.component
            = [startHeader settlement s, startHero s] := by
          rw [List.map_cons, List.map_singleton, component_of_spares h.1 List.mem_cons_self,
            component_of_spares h.1 (List.mem_cons_of_mem _ List.mem_cons_self)]
        have hcomplete := r.complete_map h.2
        rw [hstart] at hcomplete
        rw [htree, ha]
        exact hcomplete
  | cons c rest =>
      have hfull : t.isEmpty = false := by rw [Tree.isEmpty, hempty]; rfl
      have hfull' : (r.tree t).isEmpty = false := by rw [Tree.isEmpty, tree, hempty]; rfl
      simp only [Tree.seed, hfull, hfull', Bool.not_false, if_true]

theorem add {t : Tree} {s : Supply} {name : Text}
    (h : r.Spares (s.drawn (t.add name s).2.2)) :
    ((r.tree t).add name s).2 = (r.tree (t.add name s).2.1, (t.add name s).2.2) := by
  unfold Tree.add at h ⊢
  cases hkind : Kind.ofName? name with
  | none => rfl
  | some kind =>
      simp only [hkind, has_tree] at h ⊢
      cases hpresent : !kind.isRepeatable && t.has kind with
      | true => rfl
      | false =>
          rw [hpresent, if_neg Bool.false_ne_true] at h
          have hdraw : Gathers [] s [newComponent kind s] (s.skip 1) :=
            ⟨1, s.next 1, rfl, List.Sublist.refl _, List.Perm.refl _⟩
          replace h : r.Spares (s.drawn (complete (t.components.insertIdx
            (placeFor t.components kind) (newComponent kind s)) (s.skip 1)).2) := h
          rw [drawn_append hdraw (gathers_complete _ _), spares_append, Supply.drawn_skip] at h
          have hinsert : (r.tree t).components.insertIdx (placeFor (r.tree t).components kind)
              (newComponent kind s)
              = (t.components.insertIdx (placeFor t.components kind) (newComponent kind s)).map
                r.component := by
            rw [tree, placeFor_map, List.map_insertIdx,
              component_of_spares h.1 (c := newComponent kind s) List.mem_cons_self]
          show complete ((r.tree t).components.insertIdx (placeFor (r.tree t).components kind)
            (newComponent kind s)) (s.skip 1) = _
          rw [hinsert, r.complete_map h.2]
          rfl

theorem delete (t : Tree) (id : Text) : ((r.tree t).delete id).2 = r.tree (t.delete id).2 := by
  unfold Tree.delete
  rw [get?_tree]
  cases t.get? id with
  | none => rfl
  | some c =>
      dsimp only [Option.map_some]
      rw [r.inPlace.kind c]
      split
      · rfl
      · rw [tree, eraseP_map, renumber_map]
        rfl

theorem move (t : Tree) (id direction : Text) :
    ((r.tree t).move id direction).2 = r.tree (t.move id direction).2 := by
  unfold Tree.move
  split
  · rfl
  · rw [place?_tree]
    cases t.place? id with
    | none => rfl
    | some i =>
        dsimp only
        split
        · rfl
        · generalize (if direction == "up" then i - 1 else i + 1) = j
          have hmoved : renumber (swap (r.tree t).components i j)
              = (renumber (swap t.components i j)).map r.component := by
            rw [tree, swap_map, renumber_map]
          rw [hmoved, List.getElem?_map]
          cases (renumber (swap t.components i j))[j]? with
          | none => rfl
          | some c => rfl

theorem update {f : Component → Component} (t : Tree) (id : Text)
    (hf : ∀ c, f (r.component c) = r.component (f c)) :
    ((r.tree t).update id f).2 = r.tree (t.update id f).2 := by
  unfold Tree.update
  rw [place?_tree]
  cases t.place? id with
  | none => rfl
  | some i =>
      dsimp only
      rw [tree, r.modify_map _ i hf, List.getElem?_map]
      cases (t.components.modify i f)[i]? with
      | none => rfl
      | some c => rfl

theorem align (t : Tree) (id name : Text) :
    ((r.tree t).align id name).2 = r.tree (t.align id name).2 := by
  unfold Tree.align
  cases Alignment.ofName? name with
  | none => rfl
  | some a => exact r.update t id fun _ => rfl

/-- **An edit may come before or after.** -/
theorem run {t : Tree} {s : Supply} {e : Edit} (he : e.isRewording = false)
    (h : r.Spares (s.drawn (e.run t s).2.2)) :
    (e.run (r.tree t) s).2 = (r.tree (e.run t s).2.1, (e.run t s).2.2) := by
  cases e with
  | seed settlement => exact r.seed h
  | add name => exact r.add h
  | delete id => exact congrArg (·, s) (r.delete t id)
  | move id direction => exact congrArg (·, s) (r.move t id direction)
  | align id name => exact congrArg (·, s) (r.align t id name)
  | edit id patch => cases he

end Retouch

end CivicSite
