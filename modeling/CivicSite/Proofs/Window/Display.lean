import CivicSite.Proofs.Session.Rejection
import CivicSite.Proofs.Tree.Place
import CivicSite.Proofs.Window.Flush

/-!
# Showing the session

What the window shows of its session is spread over the list, the form, the preview, the code and
the buttons. Each of them is brought up to date by its own handler, and some of these flush on the
way, which changes the session in the middle. This file says what each of them shows once it has
answered:

- flushing brings the rows up to date with the texts that it takes over, and the preview and the
  code if it took over any (`ensures_flush`);
- filling the list shows the rows and the form, whatever was shown before (`ensures_showList`);
- showing the preview shows preview and code (`ensures_showPreview`).

Ids need not be distinct for that. A row is found by the id of its component, and a flush changes
the first component with the id of the form and the first row with that id alike.
-/

namespace CivicSite

/-! ## Edits of the session -/

namespace Session

variable {σ : Type}

theorem edit_eq {cache : Option (Store σ)} {id : Text} {patch : Entries (Option Text)}
    {c : Change} {s s' : Session} {d d' : Desk σ}
    (h : s.edit cache id patch d = (.ok c, s', d')) :
    (s.tree.edit id patch).1 = c ∧ s'.tree = (s.tree.edit id patch).2 := apply_answer h

theorem edit_rejected {cache : Option (Store σ)} {id : Text} {patch : Entries (Option Text)}
    {c : Change} {s s' : Session} {d d' : Desk σ} (h : s.edit cache id patch d = (.ok c, s', d'))
    (hc : c.isAccepted = false) : s' = s ∧ d' = d := by
  have hrun : ((Tree.Edit.edit id patch).run s.tree d.ids).1 = c := (edit_eq h).1
  have hkept := @Operation.runEdit_rejected _ cache _ _ _ (hrun ▸ hc)
  have hedit : Operation.runEdit cache s d (.edit id patch) = s.edit cache id patch d := rfl
  rw [hedit, h] at hkept
  exact Prod.mk.inj (Prod.mk.inj hkept).2

/-- Edits and styles leave the settlement and the posts. -/
theorem edit_source (cache : Option (Store σ)) (id : Text) (patch : Entries (Option Text))
    (s : Session) (d : Desk σ) : (s.edit cache id patch d).2.1.settlement = s.settlement
      ∧ (s.edit cache id patch d).2.1.posts = s.posts := by
  unfold edit
  dsimp only
  rw [apply_session]
  exact ⟨rfl, rfl⟩

theorem setCss_source (cache : Option (Store σ)) (text : Text) (s : Session) (d : Desk σ) :
    (s.setCss cache text d).2.1.settlement = s.settlement
      ∧ (s.setCss cache text d).2.1.posts = s.posts := by
  unfold setCss save
  split
  · exact ⟨rfl, rfl⟩
  · cases cache <;> exact ⟨rfl, rfl⟩

end Session

namespace Window

variable {α β γ : Type} {w v : Window} {s : Session}

/-! ## When a handler answers -/

/-- Whenever a handler answers, its answer and the window it leaves are as they should be. -/
def Ensures (w : Window) (h : Handler α) (P : α → Window → Prop) : Prop :=
  ∀ a v, w.handle h = (.ok a, v) → P a v

section Rules

variable {P : α → Window → Prop} {Q : β → Window → Prop} {h : Handler α}

theorem Ensures.mono {P' : α → Window → Prop} (hh : w.Ensures h P)
    (himp : ∀ a v, P a v → P' a v) : w.Ensures h P' :=
  fun a v hv => himp a v (hh a v hv)

theorem ensures_pure {a : α} (ha : P a w) : w.Ensures (pure a) P := by
  intro b v hv
  cases hv
  exact ha

theorem ensures_throw (e : Fault) : w.Ensures (throw e : Handler α) P := by
  intro a v hv
  have hne : (Except.error e, w) = ((.ok a, v) : Except Fault α × Window) := hv
  cases hne

theorem ensures_bind {k : α → Handler β} (hh : w.Ensures h P)
    (hk : ∀ a v, P a v → v.Ensures (k a) Q) : w.Ensures (h >>= k) Q := by
  intro b v hv
  rw [handle_bind] at hv
  rcases hr : w.handle h with ⟨e | a, u⟩
  · rw [hr] at hv
    cases hv
  · rw [hr] at hv
    exact hk a u (hh a u hr) b v hv

theorem ensures_get_bind {k : Window → Handler β} (hk : w.Ensures (k w) Q) :
    w.Ensures (get >>= k) Q := hk

theorem ensures_set {P : Unit → Window → Prop} (h : P () v) : w.Ensures (set v) P := by
  intro a u hu
  cases hu
  exact h

theorem ensures_modify {P : Unit → Window → Prop} {f : Window → Window} (h : P () (f w)) :
    w.Ensures (modify f) P := by
  intro a u hu
  cases hu
  exact h

theorem ensures_lift {r : Except Fault α} (h : ∀ a, r = .ok a → P a w) :
    w.Ensures (liftM r : Handler α) P := by
  intro a v hv
  obtain ⟨ha, rfl⟩ := of_handle_lift hv
  exact h a ha

/-- A handler leaves what it fixes. -/
theorem Fixes.ensures {f : Window → γ} (hf : w.Fixes f h) : w.Ensures h fun _ v => f v = f w := by
  intro a v hv
  rw [Fixes, hv] at hf
  exact hf

theorem Ensures.and {P' : α → Window → Prop} (hh : w.Ensures h P) (hh' : w.Ensures h P') :
    w.Ensures h fun a v => P a v ∧ P' a v := fun a v hv => ⟨hh a v hv, hh' a v hv⟩

end Rules

/-! ## Preview and code -/

/-- The views of the code page for the files of a website. Files that it does not have are empty. -/
def viewsOf (site : Site) : Entries Text :=
  codeFiles.map fun name => (name, (site.files.get? name).getD "")

/-- Preview and code show a session. -/
structure Pictures (w : Window) (s : Session) : Prop where
  preview : ∃ html, w.previewOf s = .ok html ∧ w.pane.document? = some ⟨html, some "about:blank"⟩
  code : w.tab = .code → ∃ site, s.bundle w.options = .ok site ∧ w.code = viewsOf site

theorem handle_showCode (hs : w.session? = some s) :
    w.handle showCode = if w.tab == .code then
        match s.bundle w.options with
        | .error e => (.error e, w)
        | .ok site => (.ok (), { w with code := viewsOf site })
      else (.ok (), w) := by
  unfold showCode
  rw [handle_get_bind, hs]
  dsimp only
  split
  · rw [handle_bind, handle_lift]
    cases s.bundle w.options <;> rfl
  · rfl

theorem ensures_showCode (hs : w.session? = some s)
    (hpreview : ∃ html, w.previewOf s = .ok html
      ∧ w.pane.document? = some ⟨html, some "about:blank"⟩) :
    w.Ensures showCode fun _ v => v.Pictures s := by
  intro a v hv
  rw [handle_showCode hs] at hv
  split at hv
  · cases hsite : s.bundle w.options with
    | error e =>
        rw [hsite] at hv
        cases hv
    | ok site =>
        rw [hsite] at hv
        cases hv
        exact ⟨hpreview, fun _ => ⟨site, hsite, rfl⟩⟩
  · rename_i htab
    cases hv
    exact ⟨hpreview, fun hcode => absurd (beq_iff_eq.mpr hcode) htab⟩

/-- **Showing the preview shows preview and code.** -/
theorem ensures_showPreview (hs : w.session? = some s) :
    w.Ensures showPreview fun _ v => v.Pictures s := by
  unfold showPreview
  refine ensures_get_bind ?_
  rw [hs]
  refine ensures_bind (P := fun html v => v = w ∧ w.previewOf s = .ok html)
    (ensures_lift fun html hhtml => ⟨rfl, hhtml⟩) ?_
  rintro html v ⟨rfl, hhtml⟩
  refine ensures_bind (P := fun _ u => u = v.display ⟨html, some "about:blank"⟩)
    (ensures_modify rfl) ?_
  rintro _ u rfl
  exact ensures_showCode hs ⟨html, hhtml, rfl⟩

/-! ## The list -/

/-- The list shows a session, and its current row is one of the rows. -/
structure Lists (w : Window) (s : Session) : Prop where
  rows : w.rows = s.tree.components.map Row.ofComponent
  row : ∀ i, w.row? = some i → i < w.rows.length

theorem ids_rows (cs : List Component) :
    (cs.map Row.ofComponent).map Row.id = Component.ids cs := List.map_map ..

theorem Lists.currentId? (h : w.Lists s) : w.currentId? = w.row?.bind fun i => s.tree.ids[i]? := by
  rw [Window.currentId?, h.rows]
  cases w.row? with
  | none => rfl
  | some i =>
      rw [Option.bind_some, Option.bind_some, Tree.ids, ← ids_rows, List.getElem?_map (f := Row.id)]

/-- There is a current component just if there is a current row. -/
theorem Lists.currentId?_eq_none (h : w.Lists s) : w.currentId? = none ↔ w.row? = none := by
  rw [Window.currentId?, Option.map_eq_none_iff]
  cases hrow : w.row? with
  | none => exact iff_of_true rfl rfl
  | some i =>
      rw [Option.bind_some, List.getElem?_eq_none_iff]
      exact iff_of_false (Nat.not_le.mpr (h.row i hrow)) nofun

/-- No component has the empty id, which stands for none. -/
def Named (s : Session) : Prop := ∀ id ∈ s.tree.ids, id ≠ []

theorem component?_eq (hs : w.session? = some s) {id : Text} (hid : id ≠ []) :
    w.component? id = s.tree.get? id := by
  unfold component?
  rw [if_neg fun hempty => hid (List.isEmpty_iff.mp hempty), hs]
  rfl

/-- **The current component is the one of the current row.** -/
theorem Lists.current? (h : w.Lists s) (hs : w.session? = some s) (hn : Named s) :
    w.current?.map Component.id = w.currentId? := by
  unfold Window.current?
  cases hid : w.currentId? with
  | none => rfl
  | some id =>
      have hmem : id ∈ s.tree.ids := by
        rw [h.currentId?] at hid
        obtain ⟨i, -, hi⟩ := Option.bind_eq_some_iff.mp hid
        exact List.mem_of_getElem? hi
      obtain ⟨c, hc, hcid⟩ := List.mem_map.mp hmem
      rw [Option.bind_some, component?_eq hs (hn id hmem)]
      cases hget : s.tree.get? id with
      | none =>
          have hnone := List.find?_eq_none.mp hget c hc
          exact absurd (beq_iff_eq.mpr hcid) hnone
      | some c' => exact congrArg some (Tree.id_of_get? hget)

/-! ## Taking over the form -/

/-- Replacing the first row with a component's id follows replacing the first such component. -/
theorem relabelRows_map {cs : List Component} {c : Component} {i : Nat}
    (h : cs.findIdx? (·.id == c.id) = some i) :
    relabelRows c (cs.map Row.ofComponent) = (cs.set i c).map Row.ofComponent := by
  induction cs generalizing i with
  | nil => cases h
  | cons b rest ih =>
      rw [List.findIdx?_cons] at h
      rw [List.map_cons, relabelRows]
      have hid : (Row.ofComponent b).id = b.id := rfl
      cases hb : b.id == c.id with
      | true =>
          rw [hb] at h
          cases h
          rw [hid, hb]
          rfl
      | false =>
          rw [hb] at h
          obtain ⟨j, hj, rfl⟩ := Option.map_eq_some_iff.mp h
          rw [hid, hb, ih hj]
          rfl

/-- What a handler that takes something over leaves: another session of the same settlement with
the same components by their ids, and rows that show it if they showed the one before. -/
structure TakesOver (w : Window) (s : Session) (v : Window) (s' : Session) : Prop where
  session : v.session? = some s'
  source : s'.settlement = s.settlement ∧ s'.posts = s.posts
  ids : s'.tree.ids = s.tree.ids
  rows : w.rows = s.tree.components.map Row.ofComponent →
    v.rows = s'.tree.components.map Row.ofComponent

theorem TakesOver.refl (hs : w.session? = some s) : TakesOver w s w s :=
  ⟨hs, ⟨rfl, rfl⟩, rfl, id⟩

theorem TakesOver.trans {u : Window} {s' s'' : Session} (h : TakesOver w s v s')
    (h' : TakesOver v s' u s'') : TakesOver w s u s'' :=
  ⟨h'.session, ⟨h'.source.1.trans h.source.1, h'.source.2.trans h.source.2⟩, h'.ids.trans h.ids,
    fun hrows => h'.rows (h.rows hrows)⟩

theorem TakesOver.lists {s' : Session} (h : TakesOver w s v s') (hrow : v.row? = w.row?)
    (hl : w.Lists s) : v.Lists s' where
  rows := h.rows hl.rows
  row i hi := by
    have hlength : v.rows.length = w.rows.length := by
      rw [h.rows hl.rows, hl.rows, List.length_map, List.length_map]
      have hids := congrArg List.length h.ids
      rwa [Tree.ids, Tree.ids, Component.ids, Component.ids, List.length_map, List.length_map]
        at hids
    rw [hlength]
    exact hl.row i (hrow ▸ hi)

theorem TakesOver.named {s' : Session} (h : TakesOver w s v s') (hn : Named s) : Named s' := by
  unfold Named
  rw [h.ids]
  exact hn

/-- An accepted edit of a component changes it in place, and the row of the component follows. -/
theorem takesOver_relabel {id : Text} {patch : Entries (Option Text)} {c : Component}
    {s' : Session} {d' : Desk Disk}
    (hedit : s.edit w.cache id patch w.desk = (.ok (.accepted c), s', d')) :
    TakesOver w s (({ w with session? := some s', desk := d' } : Window).relabel id) s' := by
  obtain ⟨hanswer, htree⟩ := Session.edit_eq hedit
  obtain ⟨i, hi, hid, hset⟩ := Tree.edit_accepted hanswer
  rw [hset] at htree
  have hids : s'.tree.ids = s.tree.ids := by
    rw [htree]
    exact Tree.ids_set hi hid
  have hget : s'.tree.get? id = some c := by
    rw [htree]
    exact Tree.get?_set hi hid
  have hrelabel : ({ w with session? := some s', desk := d' } : Window).relabel id
      = { w with session? := some s', desk := d', rows := relabelRows c w.rows } := by
    unfold relabel
    rw [Option.bind_some, hget]
  have hsource := Session.edit_source w.cache id patch s w.desk
  rw [hedit] at hsource
  rw [hrelabel]
  refine ⟨rfl, hsource, hids, fun hrows => ?_⟩
  rw [htree]
  show relabelRows c w.rows = _
  rw [hrows]
  exact relabelRows_map (hid ▸ hi)

theorem ensures_flushForm (hs : w.session? = some s) :
    w.Ensures flushForm fun edited v => (edited = false → v = w) ∧ ∃ s', TakesOver w s v s' := by
  intro edited v hv
  have hsame (h : (.ok false, w) = ((.ok edited, v) : Except Fault Bool × Window)) :
      (edited = false → v = w) ∧ ∃ s', TakesOver w s v s' := by
    cases h
    exact ⟨fun _ => rfl, s, .refl hs⟩
  cases hc : w.formComponent? with
  | none =>
      rw [handle_flushForm_none hc] at hv
      exact hsame hv
  | some c =>
      by_cases hpatch : patchFor w.form c = []
      · rw [handle_flushForm_nil hc hpatch] at hv
        exact hsame hv
      · rw [handle_flushForm_patch hs hc hpatch] at hv
        rcases hedit : s.edit w.cache c.id (patchFor w.form c) w.desk with ⟨answer, s', d'⟩
        rw [hedit] at hv
        rcases answer with e | (c' | reason | _)
        · cases hv
        · cases hv
          exact ⟨nofun, s', takesOver_relabel hedit⟩
        all_goals
          obtain ⟨rfl, rfl⟩ := Session.edit_rejected hedit rfl
          dsimp only at hv
          rw [← hs] at hv
          exact hsame hv

theorem ensures_flushStyles (hs : w.session? = some s) :
    w.Ensures flushStyles fun styled v => (styled = false → v = w) ∧ ∃ s', TakesOver w s v s' := by
  intro styled v hv
  unfold flushStyles at hv
  rw [handle_get_bind, hs] at hv
  dsimp only at hv
  split at hv
  · cases hv
    exact ⟨fun _ => rfl, s, .refl hs⟩
  · rw [handle_bind, handle_onSession hs] at hv
    obtain ⟨htree, -⟩ := Session.setCss_fields w.cache w.css s w.desk
    have hsource := Session.setCss_source w.cache w.css s w.desk
    rcases hcss : s.setCss w.cache w.css w.desk with ⟨e | u, s', d'⟩
    · rw [hcss] at hv
      cases hv
    · rw [hcss] at hv htree hsource
      cases hv
      have htree : s'.tree = s.tree := htree
      refine ⟨nofun, s', rfl, hsource, by rw [htree], fun hrows => ?_⟩
      rw [htree]
      exact hrows

/-! ## Flushing -/

/-- **Flushing keeps up with what it takes over.** -/
theorem ensures_flush (hs : w.session? = some s) :
    w.Ensures flush fun _ v => v.row? = w.row? ∧
      ∃ s', TakesOver w s v s' ∧ (w.Pictures s → v.Pictures s') := by
  refine Ensures.and (fixes_flush (fun _ _ _ _ _ _ _ => rfl) w).ensures ?_
  unfold flush
  refine ensures_bind (P := fun _ v => v = w.stopped) (ensures_modify rfl) ?_
  rintro _ _ rfl
  refine ensures_bind (ensures_flushForm (w := w.stopped) hs) fun edited v hv => ?_
  obtain ⟨hunedited, s', hform⟩ := hv
  refine ensures_bind (ensures_flushStyles hform.session) fun styled u hu => ?_
  obtain ⟨hunstyled, s'', hstyles⟩ := hu
  have htaken : TakesOver w s u s'' := by
    have hboth := hform.trans hstyles
    exact ⟨hboth.session, hboth.source, hboth.ids, hboth.rows⟩
  split
  · refine Ensures.mono (Ensures.and (ensures_showPreview htaken.session) (Fixes.ensures
      (f := fun w => (w.session?, w.rows)) (fixes_showPreview (fun _ _ _ => rfl) u))) ?_
    rintro _ x ⟨hpictures, hfixed⟩
    obtain ⟨hsession, hrows⟩ := Prod.mk.inj hfixed
    exact ⟨s'', ⟨hsession.trans htaken.session, htaken.source, htaken.ids,
      fun h => hrows.trans (htaken.rows h)⟩, fun _ => hpictures⟩
  · rename_i hnothing
    rw [Bool.or_eq_true, not_or, Bool.not_eq_true, Bool.not_eq_true] at hnothing
    obtain rfl := hunedited hnothing.1
    obtain rfl := hunstyled hnothing.2
    have hsame : s'' = s := Option.some.inj (htaken.session.symm.trans hs)
    exact ensures_pure ⟨s'', htaken, fun h => hsame ▸ ⟨h.preview, h.code⟩⟩

/-! ## Filling the form and the list -/

/-- List, form and buttons show a session. -/
structure Loaded (w : Window) (s : Session) : Prop extends w.Lists s where
  form : w.form.component? = w.currentId?
  controls : w.controls.components = !s.tree.isEmpty

theorem loaded_loadForm (hl : w.Lists s) (hs : w.session? = some s) (hn : Named s) :
    w.loadForm.Loaded s where
  rows := hl.rows
  row := hl.row
  form := hl.current? hs hn
  controls := by
    show (w.session?.any fun s => !s.tree.isEmpty) = _
    rw [hs]
    rfl

/-- Making another row the current one shows its component in the form. -/
theorem ensures_select (hl : w.rows = s.tree.components.map Row.ofComponent)
    (hs : w.session? = some s) (hn : Named s) {row : Nat} (hrow : row < w.rows.length)
    (hother : w.row? ≠ some row) :
    w.Ensures (select row) fun _ v => v.row? = some row ∧
      ∃ s', TakesOver w s v s' ∧ v.Loaded s' ∧ (w.Pictures s → v.Pictures s') := by
  unfold select
  refine ensures_get_bind ?_
  rw [if_pos hother]
  refine ensures_bind (P := fun _ v => v = { w with row? := some row }) (ensures_set rfl) ?_
  rintro _ _ rfl
  have hlists : ({ w with row? := some row } : Window).Lists s :=
    ⟨hl, fun i hi => Option.some.inj hi ▸ hrow⟩
  refine ensures_bind (ensures_flush (w := { w with row? := some row }) hs) fun _ v hv => ?_
  obtain ⟨hrow?, s', htaken, hpictures⟩ := hv
  have htaken' : TakesOver w s v.loadForm s' :=
    ⟨htaken.session, htaken.source, htaken.ids, htaken.rows⟩
  refine ensures_modify ⟨hrow?, s', htaken', ?_, fun h => ?_⟩
  · exact loaded_loadForm (htaken.lists hrow? hlists) htaken.session (htaken.named hn)
  · have hshown := hpictures ⟨h.preview, h.code⟩
    exact ⟨hshown.preview, hshown.code⟩

/-- The row that is current once a list is filled, if a row is asked for. -/
def rowFor (cs : List Component) (row : Nat) : Option Nat :=
  if cs.isEmpty then none else some (min row (cs.length - 1))

/-- **Filling the list shows list, form and buttons**, whatever they showed before. -/
theorem ensures_showList (hs : w.session? = some s) (hn : Named s) (row : Nat) :
    w.Ensures (showList row) fun _ v => v.row? = rowFor s.tree.components row ∧
      ∃ s', v.session? = some s' ∧ s'.tree.ids = s.tree.ids ∧ v.Loaded s' := by
  have hrows : (w.session?.map fun s => s.tree.components.map Row.ofComponent).getD []
      = s.tree.components.map Row.ofComponent := by
    rw [hs]
    rfl
  unfold showList
  refine ensures_get_bind ?_
  rw [hrows]
  refine ensures_bind (P := fun _ v => v = { w with
    rows := s.tree.components.map Row.ofComponent, row? := none }) (ensures_set rfl) ?_
  rintro _ _ rfl
  by_cases hcs : s.tree.components = []
  · rw [hcs]
    refine ensures_modify ⟨rfl, s, hs, rfl, ?_⟩
    exact loaded_loadForm ⟨by rw [hcs], nofun⟩ hs hn
  · have hlength : s.tree.components.length ≠ 0 := fun h => hcs (List.length_eq_zero_iff.mp h)
    have hfilled : (!(s.tree.components.map Row.ofComponent).isEmpty) = true := by
      rw [List.isEmpty_map, Bool.not_eq_true', List.isEmpty_eq_false_iff]
      exact hcs
    have hlt : min row ((s.tree.components.map Row.ofComponent).length - 1)
        < (s.tree.components.map Row.ofComponent).length := by
      rw [List.length_map]
      omega
    rw [if_pos hfilled]
    refine ensures_bind (ensures_select (w := { w with
      rows := s.tree.components.map Row.ofComponent, row? := none }) rfl hs hn hlt nofun) ?_
    rintro _ v ⟨hrow?, s', htaken, hloaded, -⟩
    refine ensures_modify ⟨?_, s', htaken.session, htaken.ids, ?_⟩
    · have hrow : v.loadForm.row? = v.row? := rfl
      rw [hrow, hrow?, rowFor, if_neg (by rwa [List.isEmpty_iff]), List.length_map]
    · exact loaded_loadForm hloaded.toLists htaken.session (htaken.named hn)

end Window

end CivicSite
