import CivicSite.Proofs.Session.Reopening
import CivicSite.Proofs.Window.Writing

/-!
# Taking over what was typed

Flushing stops the timer and takes the form and then the styles over into the session. The
manuscript stays what it is, whatever fails on the way, and afterwards nothing waits. There is one
exception: if the draft cannot be saved with what is in the form, the styles are not got to, and
they go on waiting although the timer has stopped (`Stuck`). Making another row the current one and
filling the list anew flush before the form is filled anew, so they keep the manuscript as well.
-/

namespace CivicSite

/-! ## Edits in a session -/

namespace Session

variable {σ : Type}

/-- What an edit makes of the session. -/
theorem apply_session (cache : Option (Store σ)) (change : Change) (tree : Tree) (s : Session)
    (d : Desk σ) :
    (s.apply cache change tree d).2.1
      = { s with tree := tree, dirty := change.isAccepted || s.dirty } := by
  unfold apply save
  by_cases hc : change.isAccepted = true
  · rw [if_pos hc, hc]
    cases cache <;> rfl
  · rw [if_neg hc, Bool.eq_false_iff.mpr hc]
    rfl

theorem apply_css (cache : Option (Store σ)) (change : Change) (tree : Tree) (s : Session)
    (d : Desk σ) : (s.apply cache change tree d).2.1.css = s.css := by
  rw [apply_session]

theorem setCss_fields (cache : Option (Store σ)) (text : Text) (s : Session) (d : Desk σ) :
    (s.setCss cache text d).2.1.tree = s.tree ∧ (s.setCss cache text d).2.1.css = text := by
  unfold setCss save
  split
  · rename_i h
    exact ⟨rfl, (beq_iff_eq.mp h).symm⟩
  · cases cache <;> exact ⟨rfl, rfl⟩

theorem reset_cases (cache : Option (Store σ)) (s : Session) (d : Desk σ) :
    (∃ e, (s.reset cache d).1 = .error e ∧ (s.reset cache d).2.1 = s)
    ∨ (s.reset cache d).1 = .ok () ∧ (s.reset cache d).2.1.tree = .empty
      ∧ (s.reset cache d).2.1.css = "" := by
  unfold reset
  cases cache with
  | none => exact .inr ⟨rfl, rfl, rfl⟩
  | some store =>
      dsimp only
      rcases DraftCache.clear store s.settlement.id d.stored with ⟨e | u, stored⟩
      · exact .inl ⟨e, rfl, rfl⟩
      · exact .inr ⟨rfl, rfl, rfl⟩

end Session

namespace Window

variable {w : Window} {s : Session}

/-! ## What changes when text is taken over -/

namespace Writing

/-- The form, taken over into the session. -/
def takeForm (x : Writing) : Writing :=
  { x with draft? := x.draft?.map fun m => { m with tree := x.form.overlay.tree m.tree } }

/-- The styles, taken over into the session. -/
def takeStyles (x : Writing) : Writing :=
  { x with draft? := x.draft?.map fun m => { m with css := x.css } }

/-- The ids of the session's website are distinct. -/
def Distinct (x : Writing) : Prop := ∀ m, x.draft? = some m → m.tree.ids.Nodup

/-- Nothing waits to be taken over into the session. -/
def Synced (x : Writing) : Prop := x.manuscript? = x.draft?

/-- The manuscript and the ids in use are the same. -/
structure Keeps (x y : Writing) : Prop where
  manuscript : y.manuscript? = x.manuscript?
  held : y.draft?.map (·.tree.ids) = x.draft?.map (·.tree.ids)

theorem Keeps.refl (x : Writing) : Keeps x x := ⟨rfl, rfl⟩

theorem Keeps.trans {x y z : Writing} (h : Keeps x y) (h' : Keeps y z) : Keeps x z :=
  ⟨h'.manuscript.trans h.manuscript, h'.held.trans h.held⟩

theorem Keeps.distinct {x y : Writing} (h : Keeps x y) (hd : x.Distinct) : y.Distinct := by
  intro m hm
  have hheld := h.held
  rw [hm, Option.map_some] at hheld
  obtain ⟨m', hm', hids⟩ := Option.map_eq_some_iff.mp hheld.symm
  rw [← hids]
  exact hd m' hm'

theorem keeps_pending (x : Writing) (b : Bool) : Keeps x { x with pending := b } := ⟨rfl, rfl⟩

theorem keeps_takeForm (x : Writing) : Keeps x x.takeForm := by
  unfold takeForm
  constructor
  · simp only [manuscript?, Option.map_map, Function.comp_def, Form.overlay_overlay]
  · simp only [Option.map_map, Function.comp_def, Retouch.ids_tree]

theorem keeps_takeStyles (x : Writing) : Keeps x x.takeStyles := by
  unfold takeStyles
  constructor
  · simp only [manuscript?, Option.map_map, Function.comp_def]
  · simp only [Option.map_map, Function.comp_def]

/-- Once form and styles are taken over, nothing waits. -/
theorem synced_taken (x : Writing) : x.takeForm.takeStyles.Synced := by
  simp only [Synced, manuscript?, takeForm, takeStyles, Option.map_map, Function.comp_def,
    Form.overlay_overlay]

end Writing

/-! ## The form -/

/-- The draft cannot be saved with what is in the form. -/
def SaveFails (w : Window) : Prop :=
  ∃ s c e, w.session? = some s ∧ w.formComponent? = some c ∧ patchFor w.form c ≠ []
    ∧ (s.edit w.cache c.id (patchFor w.form c) w.desk).1 = .error e

theorem takeForm_of_overlay (h : w.session? = some s)
    (hoverlay : w.form.overlay.tree s.tree = s.tree) : w.writing.takeForm = w.writing := by
  rw [writing, draft?_of_session h, Writing.takeForm, Option.map_some, hoverlay]

theorem handle_flushForm_none (h : w.formComponent? = none) :
    w.handle flushForm = (.ok false, w) := by
  unfold flushForm
  rw [handle_get_bind, h]
  rfl

theorem handle_flushForm_nil {c : Component} (h : w.formComponent? = some c)
    (hpatch : patchFor w.form c = []) : w.handle flushForm = (.ok false, w) := by
  unfold flushForm
  rw [handle_get_bind, h]
  dsimp only
  rw [hpatch]
  rfl

theorem handle_flushForm_patch (hs : w.session? = some s) {c : Component}
    (h : w.formComponent? = some c) (hpatch : patchFor w.form c ≠ []) :
    w.handle flushForm =
      let r := s.edit w.cache c.id (patchFor w.form c) w.desk
      let v : Window := { w with session? := some r.2.1, desk := r.2.2 }
      match r.1 with
      | .error e => (.error e, v)
      | .ok (.accepted _) => (.ok true, v.relabel c.id)
      | .ok _ => (.ok false, v) := by
  unfold flushForm
  rw [handle_get_bind, h]
  dsimp only
  split
  · exact absurd ‹_› hpatch
  · rw [handle_bind, handle_onSession hs]
    rcases (s.edit w.cache c.id (patchFor w.form c) w.desk).1 with e | (c' | reason | _)
    · rfl
    · rfl
    · rfl
    · rfl

theorem writing_relabel (w : Window) (id : Text) : (w.relabel id).writing = w.writing := by
  unfold relabel
  split
  · rfl
  · rfl

theorem formComponent?_of_none (h : w.session? = none) : w.formComponent? = none := by
  unfold formComponent? component?
  rw [h]
  cases w.form.component? with
  | none => rfl
  | some id => exact ite_self _

/-- Editing the session by the patch for the form's component lays the form over its tree. -/
theorem edit_form (hs : w.session? = some s) (hn : s.tree.ids.Nodup) {c : Component}
    (hc : w.formComponent? = some c) :
    ∃ c', s.edit w.cache c.id (patchFor w.form c) w.desk
      = s.apply w.cache (.accepted c') (w.form.overlay.tree s.tree) w.desk := by
  obtain ⟨c', hedit⟩ := edit_patchFor hs hn hc
  refine ⟨c', ?_⟩
  unfold Session.edit
  rw [hedit]

theorem not_error_ok {α : Type} (a : α) : ¬ ∃ e, (.ok a : Except Fault α) = .error e :=
  fun ⟨_, h⟩ => nomatch h

theorem not_saveFails_of_none (hc : w.formComponent? = none) : ¬ w.SaveFails := by
  rintro ⟨s, c, e, -, hsome, -⟩
  cases hc.symm.trans hsome

theorem saveFails_iff (hs : w.session? = some s) {c : Component} (hc : w.formComponent? = some c)
    (hpatch : patchFor w.form c ≠ []) :
    w.SaveFails ↔ ∃ e, (s.edit w.cache c.id (patchFor w.form c) w.desk).1 = .error e := by
  constructor
  · rintro ⟨s', c', e, hs', hc', -, he⟩
    cases hs.symm.trans hs'
    cases hc.symm.trans hc'
    exact ⟨e, he⟩
  · rintro ⟨e, he⟩
    exact ⟨s, c, e, hs, hc, hpatch, he⟩

/-- **Taking over the form lays it over the tree for good**, whether or not that can be saved. -/
theorem writing_flushForm (hd : w.writing.Distinct) :
    (w.handle flushForm).2.writing = w.writing.takeForm
      ∧ ((∃ e, (w.handle flushForm).1 = .error e) ↔ w.SaveFails) := by
  cases hs : w.session? with
  | none =>
      have hc := formComponent?_of_none hs
      rw [handle_flushForm_none hc]
      refine ⟨?_, iff_of_false (not_error_ok false) (not_saveFails_of_none hc)⟩
      rw [writing, draft?, hs]
      rfl
  | some s =>
      have hn : s.tree.ids.Nodup := hd _ (draft?_of_session hs)
      cases hc : w.formComponent? with
      | none =>
          rw [handle_flushForm_none hc, takeForm_of_overlay hs (overlay_of_absent hs hc)]
          exact ⟨rfl, iff_of_false (not_error_ok false) (not_saveFails_of_none hc)⟩
      | some c =>
          by_cases hpatch : patchFor w.form c = []
          · rw [handle_flushForm_nil hc hpatch,
              takeForm_of_overlay hs (overlay_of_patchFor_nil hs hn hc hpatch)]
            refine ⟨rfl, iff_of_false (not_error_ok false) ?_⟩
            rintro ⟨s', c', e, -, hc', hne, -⟩
            cases hc.symm.trans hc'
            exact hne hpatch
          · rw [saveFails_iff hs hc hpatch, handle_flushForm_patch hs hc hpatch]
            obtain ⟨c', hedit⟩ := edit_form hs hn hc
            have htree := (Session.apply_tree w.cache (.accepted c') (w.form.overlay.tree s.tree) s
              w.desk).1
            have hcss := Session.apply_css w.cache (.accepted c') (w.form.overlay.tree s.tree) s
              w.desk
            rw [hedit]
            generalize s.apply w.cache (.accepted c') (w.form.overlay.tree s.tree) w.desk = r
              at htree hcss
            obtain ⟨answer, s', d'⟩ := r
            have hwriting : ({ w with session? := some s', desk := d' } : Window).writing
                = w.writing.takeForm := by
              rw [writing, writing, draft?_of_session hs, draft?, Option.map_some, htree, hcss]
              rfl
            rcases answer with e | (c'' | reason | _)
            · exact ⟨hwriting, fun _ => ⟨e, rfl⟩, fun _ => ⟨e, rfl⟩⟩
            · exact ⟨(writing_relabel _ _).trans hwriting,
                iff_of_false (not_error_ok true) (not_error_ok _)⟩
            · exact ⟨hwriting, iff_of_false (not_error_ok false) (not_error_ok _)⟩
            · exact ⟨hwriting, iff_of_false (not_error_ok false) (not_error_ok _)⟩

/-! ## The styles -/

theorem writing_flushStyles (w : Window) :
    (w.handle flushStyles).2.writing = w.writing.takeStyles := by
  unfold flushStyles
  rw [handle_get_bind]
  cases hs : w.session? with
  | none =>
      show w.writing = w.writing.takeStyles
      rw [writing, draft?, hs]
      rfl
  | some s =>
      dsimp only
      by_cases hcss : (w.css == s.css) = true
      · rw [if_pos hcss, handle_pure, writing, draft?_of_session hs, beq_iff_eq.mp hcss]
        rfl
      · rw [if_neg hcss, handle_bind, handle_onSession hs]
        obtain ⟨htree, hstyles⟩ := Session.setCss_fields w.cache w.css s w.desk
        generalize s.setCss w.cache w.css w.desk = r at htree hstyles
        obtain ⟨answer, s', d'⟩ := r
        dsimp only at htree hstyles ⊢
        have hwriting : ({ w with session? := some s', desk := d' } : Window).writing
            = w.writing.takeStyles := by
          rw [writing, writing, draft?_of_session hs, draft?, Option.map_some, htree, hstyles]
          rfl
        cases answer with
        | error e => exact hwriting
        | ok u => exact hwriting

/-! ## Flushing -/

/-- The draft cannot be saved with what is in the form, and the styles have changed as well. -/
def Stuck (w : Window) : Prop := w.SaveFails ∧ ∃ s, w.session? = some s ∧ w.css ≠ s.css

theorem takeStyles_of_not_stuck (hfails : w.SaveFails) (h : ¬ w.Stuck) :
    w.writing.takeForm.takeStyles = w.writing.takeForm := by
  obtain ⟨s, c, e, hs, hrest⟩ := hfails
  have hcss : w.css = s.css := by
    by_contra hne
    exact h ⟨⟨s, c, e, hs, hrest⟩, s, hs, hne⟩
  rw [writing, draft?_of_session hs, hcss]
  rfl

/-- The window with the timer stopped. -/
def stopped (w : Window) : Window := { w with pending := false }

/-- What flushing does once the form is taken over. -/
theorem leaves_flush_rest (v : Window) (edited : Bool) :
    (v.handle (do
      let styled ← flushStyles
      if edited || styled then showPreview)).2.writing = v.writing.takeStyles := by
  have hstyles := writing_flushStyles v
  rw [handle_bind]
  rcases hr : v.handle flushStyles with ⟨e | styled, u⟩
  · rw [hr] at hstyles
    exact hstyles
  · rw [hr] at hstyles
    dsimp only
    split
    · exact (leaves_showPreview u).trans hstyles
    · exact hstyles

/-- **Flushing takes everything over, unless it is stuck**, and then it fails. -/
theorem writing_flush (hd : w.writing.Distinct) :
    (¬ w.Stuck → (w.handle flush).2.writing = w.stopped.writing.takeForm.takeStyles)
      ∧ (w.Stuck → (w.handle flush).2.writing = w.stopped.writing.takeForm
        ∧ ∃ e, (w.handle flush).1 = .error e) := by
  have hform := writing_flushForm (w := w.stopped) hd
  have hflush : w.handle flush = w.stopped.handle (do
      let edited ← flushForm
      let styled ← flushStyles
      if edited || styled then showPreview) := rfl
  rw [hflush, handle_bind]
  rcases hr : w.stopped.handle flushForm with ⟨e | edited, v⟩
  · rw [hr] at hform
    have hfails : w.stopped.SaveFails := hform.2.mp ⟨e, rfl⟩
    refine ⟨fun hfree => ?_, fun _ => ⟨hform.1, e, rfl⟩⟩
    exact hform.1.trans (takeStyles_of_not_stuck hfails hfree).symm
  · rw [hr] at hform
    refine ⟨fun _ => ?_, fun hstuck => ?_⟩
    · exact (leaves_flush_rest v edited).trans (congrArg Writing.takeStyles hform.1)
    · exact absurd (hform.2.mpr hstuck.1) (not_error_ok edited)

/-! ## What waits for the timer -/

/-- If anything waits to be taken over, the timer runs. -/
def Writing.Waits (x : Writing) : Prop := x.Synced ∨ x.pending = true

/-- The manuscript is kept, and what waits waits for the timer, except in one case. -/
structure Guards (x y : Writing) (except : Prop) : Prop where
  keeps : x.Keeps y
  waits : x.Waits → (y.Waits ↔ ¬ except)

/-- What comes after everything was taken over: nothing waits, and that stays so. -/
structure Rests (x y : Writing) : Prop where
  keeps : x.Keeps y
  synced : y.Synced

theorem Guards.of_eq {x y : Writing} (h : y = x) : Guards x y False := by
  subst h
  exact ⟨.refl y, fun hw => iff_of_true hw not_false⟩

theorem not_synced_of_stuck (h : w.Stuck) : ¬ w.stopped.writing.takeForm.Synced := by
  obtain ⟨-, s, hs, hne⟩ := h
  intro hsynced
  have hdraft : w.stopped.writing.takeForm.draft? = some ⟨w.form.overlay.tree s.tree, s.css⟩ :=
    congrArg (Option.map _) (draft?_of_session hs)
  rw [Writing.Synced, Writing.manuscript?, hdraft, Option.map_some, Option.some_inj,
    Manuscript.mk.injEq] at hsynced
  exact hne hsynced.2

/-- A handler takes everything over, unless that is stuck. -/
structure Settles {α : Type} (w : Window) (h : Handler α) : Prop where
  keeps : w.writing.Keeps (w.handle h).2.writing
  free : ¬ w.Stuck → (w.handle h).2.writing.Synced
  stuck : w.Stuck → ¬ (w.handle h).2.writing.Waits ∧ ∃ e, (w.handle h).1 = .error e

theorem Settles.guards {α : Type} {h : Handler α} (hh : w.Settles h) :
    Guards w.writing (w.handle h).2.writing w.Stuck := by
  refine ⟨hh.keeps, fun _ => ⟨fun hwaits hstuck => (hh.stuck hstuck).1 hwaits, fun hfree => ?_⟩⟩
  exact .inl (hh.free hfree)

/-- What a handler settles, another one that does the same in a window like it settles as well. -/
theorem Settles.of_handle {α : Type} {h h' : Handler α} {v : Window} (hh : v.Settles h)
    (hwriting : v.writing = w.writing) (hstuck : v.Stuck ↔ w.Stuck)
    (heq : w.handle h' = v.handle h) : w.Settles h' where
  keeps := by
    rw [heq, ← hwriting]
    exact hh.keeps
  free := by
    rw [heq, ← hstuck]
    exact hh.free
  stuck := by
    rw [heq, ← hstuck]
    exact hh.stuck

theorem settles_flush (hd : w.writing.Distinct) : w.Settles flush := by
  obtain ⟨hfree, hstuck⟩ := writing_flush hd
  have hform := (w.writing.keeps_pending false).trans (Writing.keeps_takeForm _)
  refine ⟨?_, fun h => ?_, fun h => ⟨?_, (hstuck h).2⟩⟩
  · by_cases h : w.Stuck
    · rw [(hstuck h).1]
      exact hform
    · rw [hfree h]
      exact hform.trans (Writing.keeps_takeStyles _)
  · rw [hfree h]
    exact Writing.synced_taken _
  · rw [(hstuck h).1]
    exact fun hwaits => hwaits.elim (not_synced_of_stuck h) Bool.false_ne_true

/-- What comes after everything was taken over may do anything that leaves nothing to wait. -/
theorem settles_bind {α β : Type} {h : Handler α} {k : α → Handler β} (hd : w.writing.Distinct)
    (hfirst : w.Settles h)
    (hthen : ∀ (a : α) (v : Window), v.writing.Distinct → v.writing.Synced →
      Rests v.writing (v.handle (k a)).2.writing) : w.Settles (h >>= k) := by
  obtain ⟨hkeeps, hfree, hstuck⟩ := hfirst
  rcases hr : w.handle h with ⟨e | a, v⟩
  · rw [hr] at hkeeps hfree hstuck
    have hbind : w.handle (h >>= k) = (.error e, v) := by rw [handle_bind, hr]
    exact ⟨hbind ▸ hkeeps, hbind ▸ hfree, fun hs => hbind ▸ ⟨(hstuck hs).1, e, rfl⟩⟩
  · rw [hr] at hkeeps hfree hstuck
    have hbind : w.handle (h >>= k) = v.handle (k a) := by rw [handle_bind, hr]
    have hnot : ¬ w.Stuck := fun hs => not_error_ok a (hstuck hs).2
    have hrests := hthen a v (hkeeps.distinct hd) (hfree hnot)
    exact ⟨hbind ▸ hkeeps.trans hrests.keeps, fun _ => hbind ▸ hrests.synced,
      fun hs => absurd hs hnot⟩

theorem Rests.of_eq {x y : Writing} (h : y = x) (hx : x.Synced) : Rests x y := by
  subst h
  exact ⟨.refl y, hx⟩

/-! ## Filling the form -/

theorem writing_loadForm (w : Window) :
    w.loadForm.writing = { w.writing with form := formOf w.current? } := rfl

/-- Filling the form anew loses nothing where the form adds nothing. -/
theorem manuscript?_loadForm (hd : w.writing.Distinct)
    (h : ∀ s, w.session? = some s → w.form.overlay.tree s.tree = s.tree) :
    w.loadForm.writing.manuscript? = w.writing.manuscript? := by
  cases hs : w.session? with
  | none =>
      rw [writing_loadForm, writing, draft?, hs]
      rfl
  | some s =>
      have hn : s.tree.ids.Nodup := hd _ (draft?_of_session hs)
      rw [writing_loadForm, writing, draft?_of_session hs, Writing.manuscript?, Writing.manuscript?,
        Option.map_some, Option.map_some]
      rw [overlay_formOf hs hn, h s hs]

/-- Filling the form anew loses nothing that was taken over. -/
theorem rests_loadForm (hd : w.writing.Distinct) (h : w.writing.Synced) :
    Rests w.writing w.loadForm.writing := by
  have hform : ∀ s, w.session? = some s → w.form.overlay.tree s.tree = s.tree := by
    intro s hs
    rw [Writing.Synced, manuscript?_writing, manuscript?_of_session hs] at h
    have hdraft := h.trans (draft?_of_session hs)
    exact congrArg Manuscript.tree (Option.some.inj hdraft)
  have hmanuscript := manuscript?_loadForm hd hform
  exact ⟨⟨hmanuscript, rfl⟩, hmanuscript.trans h⟩

/-! ## The list -/

theorem settles_select (hd : w.writing.Distinct) {row : Nat} (h : w.row? ≠ some row) :
    w.Settles (select row) := by
  have hselect : w.handle (select row) = ({ w with row? := some row } : Window).handle (do
      flush
      modify loadForm) := by
    unfold select
    rw [handle_get_bind, if_pos h]
    rfl
  have hv : ({ w with row? := some row } : Window).Settles (do
      flush
      modify loadForm) :=
    settles_bind hd (settles_flush hd) fun _ v hdistinct hsynced => rests_loadForm hdistinct hsynced
  exact hv.of_handle rfl Iff.rfl hselect

/-- A session without components. -/
def Bare (w : Window) : Prop := ∀ s, w.session? = some s → s.tree.components = []

/-- The form is laid over nothing where there are no components. -/
theorem Bare.formComponent? (h : w.Bare) (hs : w.session? = some s) : w.formComponent? = none := by
  cases hc : w.formComponent? with
  | none => rfl
  | some c =>
      have hmem := Tree.mem_of_get? (target?_of_formComponent? hs hc).2
      rw [h s hs] at hmem
      cases hmem

theorem Bare.not_stuck (h : w.Bare) : ¬ w.Stuck := by
  rintro ⟨⟨s, c, e, hs, hc, -⟩, -⟩
  cases (h.formComponent? hs).symm.trans hc

theorem Bare.overlay (h : w.Bare) : ∀ s, w.session? = some s →
    w.form.overlay.tree s.tree = s.tree := by
  intro s hs
  refine Retouch.tree_eq_self fun c hc => ?_
  rw [h s hs] at hc
  cases hc

/-- Filling the list makes a row the current one and so flushes, if there are any. -/
theorem showList_cases (hd : w.writing.Distinct) (row : Nat) :
    w.Settles (showList row)
    ∨ w.Bare ∧ ∃ v : Window, v.writing = w.writing ∧ v.Bare
      ∧ w.handle (showList row) = (.ok (), v.loadForm) := by
  have hshow : w.handle (showList row) =
      let rows := (w.session?.map fun s => s.tree.components.map Row.ofComponent).getD []
      ({ w with rows := rows, row? := none } : Window).handle (do
        if !rows.isEmpty then select (min row (rows.length - 1))
        modify loadForm) := rfl
  dsimp only at hshow
  generalize hrows : (w.session?.map fun s => s.tree.components.map Row.ofComponent).getD [] = rows
    at hshow
  cases rows with
  | nil =>
      have hbare : w.Bare := by
        intro s hs
        rw [hs] at hrows
        exact List.map_eq_nil_iff.mp hrows
      exact .inr ⟨hbare, { w with rows := [], row? := none }, rfl, hbare, hshow⟩
  | cons r rest =>
      refine .inl ?_
      have hselect : ({ w with rows := r :: rest, row? := none } : Window).Settles
          (select (min row ((r :: rest).length - 1))) := by
        refine settles_select ?_ nofun
        exact hd
      have hv : ({ w with rows := r :: rest, row? := none } : Window).Settles (do
          select (min row ((r :: rest).length - 1))
          modify loadForm) :=
        settles_bind hd hselect fun _ v hdistinct hsynced => rests_loadForm hdistinct hsynced
      exact hv.of_handle rfl Iff.rfl hshow

theorem guards_showList (hd : w.writing.Distinct) (row : Nat) :
    Guards w.writing (w.handle (showList row)).2.writing w.Stuck := by
  rcases showList_cases hd row with hsettles | ⟨hbare, v, hv, hvbare, hhandle⟩
  · exact hsettles.guards
  · rw [hhandle]
    have hmanuscript : v.loadForm.writing.manuscript? = w.writing.manuscript? := by
      rw [manuscript?_loadForm (hv ▸ hd) hvbare.overlay, hv]
    have hdraft : v.loadForm.writing.draft? = w.writing.draft? :=
      show v.writing.draft? = _ from congrArg Writing.draft? hv
    refine ⟨⟨hmanuscript, congrArg _ hdraft⟩, fun hwaits => ?_⟩
    refine iff_of_true (hwaits.imp (fun hsynced => ?_) fun hpending => ?_) hbare.not_stuck
    · exact hmanuscript.trans (Eq.trans hsynced hdraft.symm)
    · exact (show v.writing.pending = _ from congrArg Writing.pending hv).trans hpending

/-- Where the styles are those of the session, filling the list leaves nothing to wait. -/
theorem rests_showList (hd : w.writing.Distinct) (hcss : ∀ s, w.session? = some s → w.css = s.css)
    (row : Nat) : Rests w.writing (w.handle (showList row)).2.writing := by
  have hfree : ¬ w.Stuck := fun ⟨_, s, hs, hne⟩ => hne (hcss s hs)
  refine ⟨(guards_showList hd row).keeps, ?_⟩
  rcases showList_cases hd row with hsettles | ⟨hbare, v, hv, hvbare, hhandle⟩
  · exact hsettles.free hfree
  · have hsynced : w.writing.Synced := by
      cases hs : w.session? with
      | none =>
          rw [Writing.Synced, writing, draft?, hs]
          rfl
      | some s =>
          rw [Writing.Synced, manuscript?_writing, manuscript?_of_session hs, hbare.overlay s hs,
            hcss s hs]
          exact (draft?_of_session hs).symm
    rw [hhandle]
    exact (rests_loadForm (hv ▸ hd) (hv ▸ hsynced)).synced

end Window

end CivicSite
