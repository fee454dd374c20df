import CivicSite.Proofs.Tree.Retouch
import CivicSite.Window.Gesture
import Mathlib.Data.List.Nodup

/-!
# What is being written

While a text waits in the form, the website that the user sees written is not the one of the
session. The manuscript is: the session's tree with the texts of the form laid over the component
that the form was filled from, and the styles as they stand in their editor. Laying the form over
a tree is a retouch, so edits of the tree commute with it; taking the form over into the session
is the same edit made for good, after which nothing is left to lay over.
-/

namespace CivicSite

open CivicSite.Tree

/-! ## Texts of one component -/

namespace Retouch

/-- The retouch of the component with one id, if there is one. -/
def only (id? : Option Text) (g : Body → Body) (hg : ∀ b, (g b).kind = b.kind) : Retouch where
  body id b := if id? = some id then g b else b
  kind id b := by
    split
    · exact hg b
    · rfl

variable {id : Text} {g : Body → Body} {hg : ∀ b, (g b).kind = b.kind} {t : Tree}

theorem tree_eq_self {r : Retouch} (h : ∀ c ∈ t.components, r.body c.id c.body = c.body) :
    r.tree t = t := by
  have hmap : t.components.map r.component = t.components := by
    refine (List.map_congr_left fun c hc => ?_).trans (List.map_id _)
    simp only [component, h c hc, id_eq]
  rw [tree, hmap]

theorem only_none : (only none g hg).tree t = t := by
  refine tree_eq_self fun c _ => ?_
  simp only [only, reduceCtorEq, if_false]

theorem only_of_absent (h : t.get? id = none) : (only (some id) g hg).tree t = t := by
  refine tree_eq_self fun c hc => if_neg fun hid => ?_
  have := List.find?_eq_none.mp h c hc
  simp [Option.some.inj hid] at this

/-- Among distinct ids, a component is the one that its id is looked up by. -/
theorem eq_of_get? (hn : t.ids.Nodup) {c c' : Component} (h : t.get? id = some c)
    (hc' : c' ∈ t.components) (hid : c'.id = id) : c' = c :=
  List.inj_on_of_nodup_map hn hc' (mem_of_get? h) (hid.trans (id_of_get? h).symm)

/-- It is the texts that the component gets that count. -/
theorem only_congr {k : Body → Body} (hk : ∀ b, (k b).kind = b.kind) (hn : t.ids.Nodup)
    {c : Component} (h : t.get? id = some c) (hbody : g c.body = k c.body) :
    (only (some id) g hg).tree t = (only (some id) k hk).tree t := by
  refine congrArg Tree.mk (List.map_congr_left fun c' hc' => ?_)
  simp only [component, only]
  split
  · rename_i hid
    rw [eq_of_get? hn h hc' (Option.some.inj hid).symm, hbody]
  · rfl

theorem only_of_fixed (hn : t.ids.Nodup) {c : Component} (h : t.get? id = some c)
    (hfixed : g c.body = c.body) : (only (some id) g hg).tree t = t := by
  rw [only_congr (k := fun b => b) (fun _ => rfl) hn h hfixed]
  refine tree_eq_self fun c' _ => ?_
  simp only [only, ite_self]

theorem only_only {g' : Body → Body} {hg' : ∀ b, (g' b).kind = b.kind} :
    (only (some id) g' hg').tree ((only (some id) g hg).tree t)
      = (only (some id) (fun b => g' (g b)) fun b => (hg' (g b)).trans (hg b)).tree t := by
  simp only [tree, List.map_map]
  refine congrArg Tree.mk (List.map_congr_left fun c _ => ?_)
  simp only [Function.comp_apply, component, only]
  split
  · rfl
  · rfl

/-- Changing the texts of the component with an id is the retouch of that component. -/
theorem update_eq_only (hg : ∀ b, (g b).kind = b.kind) (hn : t.ids.Nodup) {c : Component}
    (h : t.get? id = some c) :
    t.update id (fun c => { c with body := g c.body })
      = (.accepted { c with body := g c.body }, (only (some id) g hg).tree t) := by
  cases hplace : t.place? id with
  | none =>
      rw [get?_eq_place?, hplace] at h
      cases h
  | some i =>
      obtain ⟨hi, hget⟩ := get?_of_place? hplace
      obtain rfl : c = t.components[i] := Option.some.inj (h.symm.trans hget)
      have hid : t.components[i].id = id := id_of_get? h
      have htree : t.components.modify i (fun c => { c with body := g c.body })
          = t.components.map (only (some id) g hg).component := by
        refine List.ext_getElem (by rw [List.length_modify, List.length_map]) fun j hj hj' => ?_
        rw [List.length_map] at hj'
        rw [List.getElem_modify, List.getElem_map]
        by_cases hij : i = j
        · subst hij
          rw [if_pos rfl]
          simp only [component, only, hid, if_true]
        · have hne : some id ≠ some t.components[j].id := by
            intro heq
            have hc : t.components[j] = t.components[i] :=
              eq_of_get? hn h (List.getElem_mem hj') (Option.some.inj heq).symm
            have hids := (List.Nodup.of_map Component.id hn).getElem_inj_iff.mp hc
            exact hij hids.symm
          rw [if_neg hij]
          simp only [component, only, if_neg hne]
      unfold Tree.update
      rw [hplace]
      dsimp only
      rw [List.getElem?_modify_eq, List.getElem?_eq_getElem hi]
      simp only [htree]
      rfl

/-- A patch of fields that the component has retouches it. -/
theorem edit_eq_only (hg : ∀ b, (g b).kind = b.kind) (hn : t.ids.Nodup) {c : Component}
    (h : t.get? id = some c) {patch : Entries (Option Text)} (hfields : badFields c.kind patch = [])
    (hbody : patched c.body patch = g c.body) :
    ∃ c', t.edit id patch = (.accepted c', (only (some id) g hg).tree t) := by
  refine ⟨{ c with body := patched c.body patch }, ?_⟩
  have hpatched : ∀ b, (patched b patch).kind = b.kind := fun b => kind_patched b patch
  rw [Tree.edit, h]
  simp only [hfields]
  rw [update_eq_only (g := fun b => patched b patch) hpatched hn h, only_congr hg hn h hbody]

end Retouch

/-! ## The form -/

/-- The text that typing leaves in a field: what is typed, if that is another text than the
component shows there. -/
def Body.typed (b : Body) (f : Field) (text : Text) : Option Text :=
  if text == (b.value? f).getD "" then b.value? f else some text

namespace Form

/-- The component that the form is laid over. The empty id stands for none. -/
def target? (form : Form) : Option Text := form.component?.filter fun id => !id.isEmpty

/-- The texts of a component with those of the form put in. -/
def written (form : Form) (b : Body) : Body :=
  .ofFields b.kind fun f => b.typed f (form.input f).text

theorem kind_written (form : Form) (b : Body) : (form.written b).kind = b.kind :=
  Body.kind_ofFields b.kind _

/-- The form, laid over the component that it was filled from. -/
def overlay (form : Form) : Retouch := .only form.target? form.written form.kind_written

theorem value?_written (form : Form) {b : Body} {f : Field} (hf : f ∈ b.kind.fields) :
    (form.written b).value? f = b.typed f (form.input f).text :=
  Body.value?_ofFields _ hf

/-- Laying the form over a second time changes nothing. -/
theorem written_written (form : Form) (b : Body) :
    form.written (form.written b) = form.written b := by
  rw [written, kind_written, written]
  refine Body.ofFields_congr fun f hf => ?_
  have hvalue := form.value?_written hf
  unfold written at hvalue
  rw [Body.typed, hvalue]
  unfold Body.typed
  by_cases htext : ((form.input f).text == (b.value? f).getD "") = true
  · rw [if_pos htext, if_pos htext]
  · rw [if_neg htext, Option.getD_some, if_pos (beq_self_eq_true _)]

theorem overlay_overlay (form : Form) (t : Tree) :
    form.overlay.tree (form.overlay.tree t) = form.overlay.tree t := by
  unfold overlay
  cases form.target? with
  | none => rw [Retouch.only_none]
  | some id =>
      rw [Retouch.only_only]
      simp only [written_written]

/-! ## Taking the form over -/

theorem name_injective {f g : Field} (h : f.name = g.name) : f = g := by
  revert h
  cases f <;> cases g <;> decide

end Form

open Form (name_injective)

/-- What a patch of fields says about one of them. -/
theorem get?_filterMap_name (v : Field → Option (Option Text)) (fs : List Field) (g : Field) :
    Entries.get? (fs.filterMap fun f => (v f).map fun x => (f.name, x)) g.name
      = if g ∈ fs then v g else none := by
  induction fs with
  | nil => rfl
  | cons f rest ih =>
      by_cases hfg : f = g
      · subst hfg
        cases hv : v f with
        | none =>
            rw [List.filterMap_cons_none (by rw [hv]; rfl), ih, if_pos List.mem_cons_self]
            split
            · exact hv
            · rfl
        | some x =>
            rw [List.filterMap_cons_some (b := (f.name, x)) (by rw [hv]; rfl), Entries.get?_cons,
              if_pos (beq_self_eq_true _), if_pos List.mem_cons_self]
      · have hmem : g ∈ f :: rest ↔ g ∈ rest := by simp [Ne.symm hfg]
        simp only [hmem, ← ih]
        cases hv : v f with
        | none => rw [List.filterMap_cons_none (by rw [hv]; rfl)]
        | some x =>
            have hname : ¬ (f.name == g.name) = true := fun h =>
              hfg (name_injective (beq_iff_eq.mp h))
            rw [List.filterMap_cons_some (b := (f.name, x)) (by rw [hv]; rfl), Entries.get?_cons,
              if_neg hname]

namespace Window

/-- The patch for a component says about each field what typing does to it. -/
theorem patchFor_eq (form : Form) (c : Component) :
    patchFor form c = c.kind.fields.filterMap fun f =>
      (if (form.input f).text == (c.body.value? f).getD "" then none
        else some (some (form.input f).text)).map fun x => (f.name, x) := by
  unfold patchFor
  refine List.filterMap_congr fun f _ => ?_
  dsimp only
  split
  · rfl
  · rfl

theorem patched_patchFor (form : Form) (c : Component) :
    patched c.body (patchFor form c) = form.written c.body := by
  refine Body.ofFields_congr fun f hf => ?_
  have hf : f ∈ c.kind.fields := hf
  rw [patchFor_eq, get?_filterMap_name, if_pos hf, Body.typed]
  split
  · rfl
  · rfl

theorem badFields_patchFor (form : Form) (c : Component) :
    badFields c.kind (patchFor form c) = [] := by
  have hnone : ((patchFor form c).map (·.1)).filter
      (fun n => !(c.kind.fields.any (·.name == n))) = [] := by
    refine List.filter_eq_nil_iff.mpr fun n hn => ?_
    obtain ⟨e, he, rfl⟩ := List.mem_map.mp hn
    obtain ⟨f, hf, hentry⟩ := List.mem_filterMap.mp he
    have hname : f.name = e.1 := by
      revert hentry
      dsimp only
      split
      · intro h
        cases h
      · intro h
        cases h
        rfl
    rw [Bool.not_eq_true, Bool.not_eq_false', List.any_eq_true]
    exact ⟨f, hf, beq_iff_eq.mpr hname⟩
  rw [badFields, hnone, List.mergeSort_nil]

/-- A form in which no text differs has nothing to put in. -/
theorem written_of_patchFor_nil {form : Form} {c : Component} (h : patchFor form c = []) :
    form.written c.body = c.body := by
  rw [← patched_patchFor, h]
  exact Body.ofFields_value? c.body

/-! ## The manuscript -/

/-- A website as it is written. -/
structure Manuscript where
  tree : Tree
  css : Text

/-- The website of the session. -/
def draft? (w : Window) : Option Manuscript := w.session?.map fun s => ⟨s.tree, s.css⟩

/-- The website that is being written. -/
def manuscript? (w : Window) : Option Manuscript :=
  w.session?.map fun s => ⟨w.form.overlay.tree s.tree, w.css⟩

variable {w : Window} {s : Session}

theorem manuscript?_of_session (h : w.session? = some s) :
    w.manuscript? = some ⟨w.form.overlay.tree s.tree, w.css⟩ := by
  rw [manuscript?, h]
  rfl

theorem draft?_of_session (h : w.session? = some s) : w.draft? = some ⟨s.tree, s.css⟩ := by
  rw [draft?, h]
  rfl

/-! ## The form in the window -/

theorem formComponent?_eq (h : w.session? = some s) :
    w.formComponent? = w.form.target?.bind s.tree.get? := by
  unfold formComponent? Form.target?
  cases w.form.component? with
  | none => rfl
  | some id =>
      rw [Option.bind_some, component?, h, Option.filter_some]
      cases id.isEmpty with
      | true => rfl
      | false => rfl

/-- A form whose component the session does not have is laid over nothing. -/
theorem overlay_of_absent (h : w.session? = some s) (hc : w.formComponent? = none) :
    w.form.overlay.tree s.tree = s.tree := by
  rw [formComponent?_eq h] at hc
  unfold Form.overlay
  cases htarget : w.form.target? with
  | none => exact Retouch.only_none
  | some id =>
      rw [htarget] at hc
      exact Retouch.only_of_absent hc

/-- The component of the form, where it is and how the form is laid over it. -/
theorem target?_of_formComponent? (h : w.session? = some s) {c : Component}
    (hc : w.formComponent? = some c) :
    w.form.target? = some c.id ∧ s.tree.get? c.id = some c := by
  rw [formComponent?_eq h] at hc
  obtain ⟨id, htarget, hget⟩ := Option.bind_eq_some_iff.mp hc
  obtain rfl : c.id = id := id_of_get? hget
  exact ⟨htarget, hget⟩

theorem overlay_eq_only {c : Component} (h : w.form.target? = some c.id) :
    w.form.overlay = .only (some c.id) w.form.written w.form.kind_written := by
  rw [Form.overlay, h]

/-- A form in which no text differs is laid over in vain. -/
theorem overlay_of_patchFor_nil (h : w.session? = some s) (hn : s.tree.ids.Nodup) {c : Component}
    (hc : w.formComponent? = some c) (hpatch : patchFor w.form c = []) :
    w.form.overlay.tree s.tree = s.tree := by
  obtain ⟨htarget, hget⟩ := target?_of_formComponent? h hc
  rw [overlay_eq_only htarget]
  exact Retouch.only_of_fixed hn hget (written_of_patchFor_nil hpatch)

/-- **Taking the form over into the tree is laying it over for good.** -/
theorem edit_patchFor (h : w.session? = some s) (hn : s.tree.ids.Nodup) {c : Component}
    (hc : w.formComponent? = some c) :
    ∃ c', s.tree.edit c.id (patchFor w.form c) = (.accepted c', w.form.overlay.tree s.tree) := by
  obtain ⟨htarget, hget⟩ := target?_of_formComponent? h hc
  rw [overlay_eq_only htarget]
  exact Retouch.edit_eq_only w.form.kind_written hn hget (badFields_patchFor w.form c)
    (patched_patchFor w.form c)

/-- A form that was just filled shows what its component has. -/
theorem overlay_formOf (h : w.session? = some s) (hn : s.tree.ids.Nodup) :
    (formOf w.current?).overlay.tree s.tree = s.tree := by
  unfold Form.overlay
  cases hcurrent : w.current? with
  | none => exact Retouch.only_none
  | some c =>
      obtain ⟨id, -, hcomponent⟩ := Option.bind_eq_some_iff.mp hcurrent
      unfold component? at hcomponent
      cases hid : id.isEmpty with
      | true =>
          rw [hid] at hcomponent
          cases hcomponent
      | false =>
          rw [hid, if_neg Bool.false_ne_true, h, Option.bind_some] at hcomponent
          obtain rfl : c.id = id := id_of_get? hcomponent
          have htarget : (formOf (some c)).target? = some c.id := by
            rw [Form.target?, formOf, Option.map_some, Option.filter_some, hid]
            rfl
          rw [htarget]
          refine Retouch.only_of_fixed hn hcomponent ?_
          refine (Body.ofFields_congr fun f _ => ?_).trans (Body.ofFields_value? c.body)
          exact if_pos (beq_self_eq_true _)

theorem text_setText (w : Window) (f g : Field) (text : Text) :
    ((w.setText f text).form.input g).text = if g = f then text else (w.form.input g).text := by
  show (if g = f then { w.form.input g with text := text } else w.form.input g).text = _
  split
  · rfl
  · rfl

/-- A text in a field that the component does not have is not looked at. -/
theorem written_setText_of_not_mem {b : Body} {f : Field} (hf : f ∉ b.kind.fields) (text : Text) :
    (w.setText f text).form.written b = w.form.written b := by
  refine Body.ofFields_congr fun g hg => ?_
  have hgf : g ≠ f := fun heq => hf (heq ▸ hg)
  rw [text_setText, if_neg hgf]

theorem written_setText {b : Body} {f : Field} (text : Text) :
    patched (w.form.written b) [(f.name, b.typed f text)] = (w.setText f text).form.written b := by
  rw [patched, w.form.kind_written]
  refine Body.ofFields_congr fun g hg => ?_
  rw [Entries.get?_cons, Entries.get?_nil, text_setText, w.form.value?_written hg]
  by_cases hgf : g = f
  · subst hgf
    rw [if_pos (beq_self_eq_true _), if_pos rfl, Option.getD_some]
  · have hname : ¬ (f.name == g.name) = true := fun h =>
      hgf (name_injective (beq_iff_eq.mp h)).symm
    rw [if_neg hname, if_neg hgf, Option.getD_none]

theorem badFields_single {k : Kind} {f : Field} (hf : f ∈ k.fields) (v : Option Text) :
    badFields k [(f.name, v)] = [] := by
  have hany : (k.fields.any (·.name == f.name)) = true :=
    List.any_eq_true.mpr ⟨f, hf, beq_self_eq_true _⟩
  simp [badFields, hany]

theorem badFields_single_ne_nil {k : Kind} {f : Field} (hf : f ∉ k.fields) (v : Option Text) :
    badFields k [(f.name, v)] ≠ [] := by
  have hany : (k.fields.any (·.name == f.name)) = false := by
    refine Bool.eq_false_iff.mpr fun h => ?_
    obtain ⟨g, hg, hname⟩ := List.any_eq_true.mp h
    exact hf (name_injective (beq_iff_eq.mp hname) ▸ hg)
  simp [badFields, hany]

/-- **Typing in a field of the form edits that field of its component.** -/
theorem overlay_setText (h : w.session? = some s) (hn : s.tree.ids.Nodup) {c : Component}
    (hc : w.formComponent? = some c) (f : Field) (text : Text) :
    (w.setText f text).form.overlay.tree s.tree
      = ((w.form.overlay.tree s.tree).edit c.id [(f.name, c.body.typed f text)]).2 := by
  obtain ⟨htarget, hget⟩ := target?_of_formComponent? h hc
  have htarget' : (w.setText f text).form.target? = some c.id := htarget
  have hn' : (w.form.overlay.tree s.tree).ids.Nodup := by
    rw [Retouch.ids_tree]
    exact hn
  have hget' : (w.form.overlay.tree s.tree).get? c.id = some (w.form.overlay.component c) := by
    rw [Retouch.get?_tree, hget]
    rfl
  have hbody : (w.form.overlay.component c).body = w.form.written c.body := by
    rw [overlay_eq_only htarget]
    exact if_pos rfl
  have hkind : (w.form.overlay.component c).kind = c.kind := w.form.overlay.inPlace.kind c
  have hoverlay : (w.setText f text).form.overlay
      = .only (some c.id) (w.setText f text).form.written (w.setText f text).form.kind_written := by
    rw [Form.overlay, htarget']
  by_cases hf : f ∈ c.kind.fields
  · obtain ⟨c', hedit⟩ := Retouch.edit_eq_only
      (g := fun b => patched b [(f.name, c.body.typed f text)]) (fun b => kind_patched b _) hn'
      hget' (by rw [hkind]; exact badFields_single hf _) rfl
    rw [hedit, hoverlay, overlay_eq_only htarget, Retouch.only_only]
    exact Retouch.only_congr _ hn hget (written_setText text).symm
  · have hrejected : ((w.form.overlay.tree s.tree).edit c.id [(f.name, c.body.typed f text)]).2
        = w.form.overlay.tree s.tree := by
      rw [Tree.edit, hget']
      dsimp only
      rw [hkind]
      cases hbad : badFields c.kind [(f.name, c.body.typed f text)] with
      | nil => exact absurd hbad (badFields_single_ne_nil hf _)
      | cons n names => rfl
    rw [hrejected, hoverlay, overlay_eq_only htarget]
    exact Retouch.only_congr _ hn hget (written_setText_of_not_mem hf text)

end Window

end CivicSite
