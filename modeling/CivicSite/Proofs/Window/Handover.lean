import CivicSite.Proofs.Store.Sibling
import CivicSite.Proofs.Window.Debounce

/-!
# From one session to the next

Opening a settlement puts a session in place of another while the form still holds the texts of a
component of the old one. This module follows what the window holds (`Holdings`) through it.

- *Filling the list* makes a row the current one, and that flushes: the form is taken over into the
  session that is there by now, and saved (`takes_showList`). The styles are not, since they are
  loaded first.
- *Remembering* saves the settings beside the drafts, so the draft that was opened stays.

So the form can reach no more than the one component of the new tree that has its id.
-/

namespace CivicSite

/-- A new session of a file only reads the file when it takes up its draft. -/
theorem Session.open?_file (p : Path) (s : Session) (d : Desk Disk) :
    (s.open? (some (Store.file p)) d).2.2.stored = d.stored
      ∧ ∀ e, (s.open? (some (Store.file p)) d).1 = .error e →
        (s.open? (some (Store.file p)) d).2 = (s, d) := by
  have hstored : (DraftCache.load (Store.file p) s.settlement.id d.stored).2 = d.stored :=
    load_stored _ _ _
  rw [open?_eq_takeUp]
  generalize DraftCache.load (Store.file p) s.settlement.id d.stored = r at hstored ⊢
  obtain ⟨result, stored⟩ := r
  dsimp only at hstored
  subst hstored
  rcases result with e | _ | draft
  · exact ⟨rfl, fun _ _ => rfl⟩
  · exact ⟨rfl, fun e he => (nomatch he)⟩
  · exact ⟨rfl, fun e he => (nomatch he)⟩

namespace Window

variable {α β : Type} {w v : Window} {s : Session}

/-! ## What the window holds -/

/-- The session, the styles in their editor, and what is stored. -/
structure Holdings where
  session? : Option Session
  css : Text
  desk : Desk Disk
  settings : Settings
  drafts : Path

def holdings (w : Window) : Holdings := ⟨w.session?, w.css, w.desk, w.settings, w.drafts⟩

theorem holdings_showPreview (w : Window) : w.Fixes holdings showPreview :=
  fixes_showPreview (fun _ _ _ => rfl) w

/-! ## Taking the form over -/

/-- What becomes of the session and the desk when the form is taken over. -/
def formTaken (w : Window) (s : Session) : Except Fault CivicSite.Change × Session × Desk Disk :=
  match w.formComponent? with
  | none => (.ok .unmoved, s, w.desk)
  | some c =>
    match patchFor w.form c with
    | [] => (.ok .unmoved, s, w.desk)
    | patch => s.edit w.cache c.id patch w.desk

theorem formTaken_of_none (hc : w.formComponent? = none) :
    w.formTaken s = (.ok .unmoved, s, w.desk) := by
  rw [formTaken, hc]

theorem formTaken_of_nil {c : Component} (hc : w.formComponent? = some c)
    (hpatch : patchFor w.form c = []) : w.formTaken s = (.ok .unmoved, s, w.desk) := by
  rw [formTaken, hc]
  dsimp only
  rw [hpatch]

theorem formTaken_of_patch {c : Component} (hc : w.formComponent? = some c)
    (hpatch : patchFor w.form c ≠ []) :
    w.formTaken s = s.edit w.cache c.id (patchFor w.form c) w.desk := by
  rw [formTaken, hc]
  dsimp only
  split
  · exact absurd ‹_› hpatch
  · rfl

/-- A form in which a text differs is not laid over in vain. -/
theorem patchFor_nil_of_overlay (hs : w.session? = some s) {c : Component}
    (hc : w.formComponent? = some c) (h : w.form.overlay.tree s.tree = s.tree) :
    patchFor w.form c = [] := by
  obtain ⟨htarget, hget⟩ := target?_of_formComponent? hs hc
  have hcomponent : some (w.form.overlay.component c) = some c := by
    have hmapped := w.form.overlay.get?_tree s.tree c.id
    rw [h, hget] at hmapped
    exact hmapped.symm
  have hbody : w.form.written c.body = c.body := by
    have hbody := congrArg Component.body (Option.some.inj hcomponent)
    rw [overlay_eq_only htarget] at hbody
    exact (if_pos rfl).symm.trans hbody
  refine List.filterMap_eq_nil_iff.mpr fun f hf => ?_
  have hvalue : c.body.value? f = c.body.typed f (w.form.input f).text := by
    have hwritten := w.form.value?_written (b := c.body) hf
    rw [hbody] at hwritten
    exact hwritten
  dsimp only
  by_cases htext : ((w.form.input f).text == (c.body.value? f).getD "") = true
  · exact if_pos htext
  · rw [Body.typed, if_neg htext] at hvalue
    exact absurd (beq_iff_eq.mpr (congrArg (·.getD "") hvalue).symm) htext

/-- The form is taken over by an edit that lays it over the tree, unless it adds nothing. -/
theorem formTaken_cases (hs : w.session? = some s) (hn : s.tree.ids.Nodup) :
    (w.form.overlay.tree s.tree = s.tree ∧ w.formTaken s = (.ok .unmoved, s, w.desk))
    ∨ w.form.overlay.tree s.tree ≠ s.tree ∧ ∃ c, w.formTaken s
        = s.apply w.cache (.accepted c) (w.form.overlay.tree s.tree) w.desk := by
  cases hc : w.formComponent? with
  | none => exact .inl ⟨overlay_of_absent hs hc, formTaken_of_none hc⟩
  | some c =>
      by_cases hpatch : patchFor w.form c = []
      · exact .inl ⟨overlay_of_patchFor_nil hs hn hc hpatch, formTaken_of_nil hc hpatch⟩
      · obtain ⟨c', hedit⟩ := edit_form hs hn hc
        refine .inr ⟨fun h => hpatch (patchFor_nil_of_overlay hs hc h), c', ?_⟩
        rw [formTaken_of_patch hc hpatch, hedit]

/-- Taking the form over leaves the settlement and the styles. -/
theorem formTaken_session (w : Window) (s : Session) :
    (w.formTaken s).2.1.settlement = s.settlement ∧ (w.formTaken s).2.1.css = s.css := by
  cases hc : w.formComponent? with
  | none =>
      rw [formTaken_of_none hc]
      exact ⟨rfl, rfl⟩
  | some c =>
      by_cases hpatch : patchFor w.form c = []
      · rw [formTaken_of_nil hc hpatch]
        exact ⟨rfl, rfl⟩
      · rw [formTaken_of_patch hc hpatch, Session.edit, Session.apply_session]
        exact ⟨rfl, rfl⟩

/-! ## Handlers that take the form over -/

/-- What is held once the form is taken over. -/
def taken (w : Window) (s : Session) : Holdings :=
  { w.holdings with session? := some (w.formTaken s).2.1, desk := (w.formTaken s).2.2 }

/-- A handler takes the form over, and answers only if that could be saved. -/
structure Takes (w : Window) (s : Session) (h : Handler α) : Prop where
  holdings : (w.handle h).2.holdings = w.taken s
  answers : ∀ a, (w.handle h).1 = .ok a → ∃ c, (w.formTaken s).1 = .ok c

/-- Where the form adds nothing, a handler takes it over that leaves what is held. -/
theorem takes_of_unmoved (hs : w.session? = some s) (h : w.formTaken s = (.ok .unmoved, s, w.desk))
    {k : Handler α} (hk : w.Fixes Window.holdings k) : w.Takes s k := by
  refine ⟨hk.trans ?_, fun _ _ => ⟨.unmoved, congrArg Prod.fst h⟩⟩
  rw [taken, h, Window.holdings, hs]

/-- What comes after may be anything that leaves what is held. -/
theorem takes_bind {h : Handler α} {k : α → Handler β} (hfirst : w.Takes s h)
    (hthen : ∀ (a : α) (v : Window), v.holdings = w.taken s → v.Fixes Window.holdings (k a)) :
    w.Takes s (h >>= k) := by
  obtain ⟨hholdings, hanswers⟩ := hfirst
  rcases hr : w.handle h with ⟨e | a, v⟩
  · have hbind : w.handle (h >>= k) = (.error e, v) := by rw [handle_bind, hr]
    rw [hr] at hholdings
    refine ⟨hbind ▸ hholdings, fun b hb => ?_⟩
    rw [hbind] at hb
    cases hb
  · have hbind : w.handle (h >>= k) = v.handle (k a) := by rw [handle_bind, hr]
    rw [hr] at hholdings hanswers
    refine ⟨?_, fun _ _ => hanswers a rfl⟩
    rw [hbind]
    exact (hthen a v hholdings).trans hholdings

/-- What one handler takes over, another one does that does the same in a window like it. -/
theorem Takes.of_handle {h h' : Handler α} (hv : v.Takes s h) (hholdings : v.holdings = w.holdings)
    (htaken : v.formTaken s = w.formTaken s) (heq : w.handle h' = v.handle h) : w.Takes s h' where
  holdings := by
    rw [heq, hv.holdings, taken, taken, hholdings, htaken]
  answers := by
    rw [heq, ← htaken]
    exact hv.answers

theorem holdings_relabel (w : Window) (id : Text) : (w.relabel id).holdings = w.holdings := by
  unfold relabel
  split
  · rfl
  · rfl

theorem takes_flushForm (hs : w.session? = some s) : w.Takes s flushForm := by
  cases hc : w.formComponent? with
  | none =>
      refine takes_of_unmoved hs (formTaken_of_none hc) ?_
      rw [Fixes, handle_flushForm_none hc]
  | some c =>
      by_cases hpatch : patchFor w.form c = []
      · refine takes_of_unmoved hs (formTaken_of_nil hc hpatch) ?_
        rw [Fixes, handle_flushForm_nil hc hpatch]
      · have htaken := formTaken_of_patch (s := s) hc hpatch
        have hflush := handle_flushForm_patch hs hc hpatch
        rw [← htaken] at hflush
        constructor
        · rw [hflush]
          dsimp only
          rcases (w.formTaken s).1 with e | (c' | reason | _)
          · rfl
          · exact holdings_relabel _ _
          · rfl
          · rfl
        · rw [hflush]
          dsimp only
          intro a ha
          rcases hanswer : (w.formTaken s).1 with e | change
          · rw [hanswer] at ha
            cases ha
          · exact ⟨change, rfl⟩

/-- Styles that are those of the session are not taken over. -/
theorem handle_flushStyles_same (hs : w.session? = some s) (hcss : w.css = s.css) :
    w.handle flushStyles = (.ok false, w) := by
  unfold flushStyles
  rw [handle_get_bind, hs]
  dsimp only
  rw [if_pos (beq_iff_eq.mpr hcss)]
  rfl

theorem takes_flush (hs : w.session? = some s) (hcss : w.css = s.css) : w.Takes s flush := by
  have hstopped : w.stopped.Takes s (do
      let edited ← flushForm
      let styled ← flushStyles
      if edited || styled then showPreview) := by
    refine takes_bind (takes_flushForm (w := w.stopped) hs) fun edited v hv => ?_
    have hs' : v.session? = some (w.formTaken s).2.1 := congrArg Holdings.session? hv
    have hcss' : v.css = (w.formTaken s).2.1.css := by
      rw [(formTaken_session w s).2, ← hcss]
      exact congrArg Holdings.css hv
    unfold Fixes
    rw [handle_bind, handle_flushStyles_same hs' hcss']
    dsimp only
    split
    · exact holdings_showPreview v
    · exact fixes_pure v ()
  exact hstopped.of_handle rfl rfl rfl

theorem takes_select (hs : w.session? = some s) (hcss : w.css = s.css) {row : Nat}
    (h : w.row? ≠ some row) : w.Takes s (select row) := by
  have hflush := takes_flush (w := { w with row? := some row }) hs hcss
  have hselected : ({ w with row? := some row } : Window).Takes s (do
      flush
      modify loadForm) :=
    takes_bind hflush fun _ v _ => fixes_modify (g := loadForm) rfl
  refine hselected.of_handle rfl rfl ?_
  unfold select
  rw [handle_get_bind, if_pos h]
  rfl

/-- **Filling the list takes the form over into the session that is there**, whose form it may not
be. -/
theorem takes_showList (hs : w.session? = some s) (hcss : w.css = s.css) (row : Nat) :
    w.Takes s (showList row) := by
  have hshow : ∀ rows, rows = s.tree.components.map Row.ofComponent →
      w.handle (showList row) = ({ w with rows := rows, row? := none } : Window).handle (do
        if !rows.isEmpty then select (min row (rows.length - 1))
        modify loadForm) := by
    rintro rows rfl
    unfold showList
    rw [handle_get_bind, hs]
    rfl
  cases hrows : s.tree.components.map Row.ofComponent with
  | nil =>
      have hbare : w.Bare := by
        intro s' hs'
        cases hs.symm.trans hs'
        exact List.map_eq_nil_iff.mp hrows
      refine takes_of_unmoved hs (formTaken_of_none (hbare.formComponent? hs)) ?_
      unfold Fixes
      rw [hshow [] hrows.symm]
      rfl
  | cons r rest =>
      have hselect : ({ w with rows := r :: rest, row? := none } : Window).Takes s
          (select (min row ((r :: rest).length - 1))) :=
        takes_select (w := { w with rows := r :: rest, row? := none }) hs hcss nofun
      have hfilled : ({ w with rows := r :: rest, row? := none } : Window).Takes s (do
          select (min row ((r :: rest).length - 1))
          modify loadForm) :=
        takes_bind hselect fun _ v _ => fixes_modify (g := loadForm) rfl
      exact hfilled.of_handle rfl rfl (hshow (r :: rest) hrows.symm)

/-! ## Remembering and showing -/

/-- The window once the settings were saved with the settlement that was opened last. -/
def remembered (w : Window) (id : Text) : Window :=
  { w with settings := { w.settings with lastSettlement := .text id } }.withDisk
    ({ w.settings with lastSettlement := .text id }.save none w.desk.stored).2

theorem handle_remember (w : Window) (id : Text) :
    (w.handle (remember id)).2 = w.remembered id := by
  unfold remember
  rw [handle_get_bind]
  dsimp only
  rw [handle_bind, handle_set]
  dsimp only
  split
  · split
    · rfl
    · rfl
  · rfl

/-- **Showing a session loads its styles and takes the form over into it.** -/
theorem takes_showSession (hs : w.session? = some s) (restored : Bool) :
    (w.handle (showSession restored)).2.holdings = w.loadStyles.taken s
      ∧ ∀ a, (w.handle (showSession restored)).1 = .ok a → ∃ c, (w.formTaken s).1 = .ok c := by
  have hcss : w.loadStyles.css = s.css := by
    rw [loadStyles, hs]
    rfl
  have htakes : w.loadStyles.Takes s (do
      showList 0
      modify fun w => w.showTitle.adaptControls
      showPreview
      let name : Text := ((← get).session?.map fun s => s.settlement.name).getD ""
      report (if restored then "Ciornă restaurată" else "Deschis " ++ name) 4000) := by
    refine takes_bind (takes_showList (w := w.loadStyles) hs hcss 0) fun _ v _ => ?_
    refine fixes_bind (fixes_modify (g := fun w => w.showTitle.adaptControls) rfl) fun _ v _ => ?_
    refine fixes_bind (holdings_showPreview v) fun _ v _ => ?_
    exact fixes_get_bind (fixes_modify (w := v) rfl)
  exact ⟨htakes.holdings, htakes.answers⟩

/-! ## Starting a session -/

/-- The window that a session is started in, where its draft cannot be taken up. -/
theorem opened_of_error {settlement : Settlement} {posts : List Post} {e : Fault}
    (h : ((Session.start settlement posts).open? v.cache v.desk).1 = .error e) :
    v.opened settlement posts = { v with session? := some (Session.start settlement posts) } := by
  have hsame := (Session.open?_file v.drafts (Session.start settlement posts) v.desk).2 e h
  unfold opened
  rw [show (Session.start settlement posts).open? v.cache v.desk
    = (Session.start settlement posts).open? (some (Store.file v.drafts)) v.desk from rfl, hsame]

theorem handle_startSession_of_unread {id : Text} {settlement : Settlement} {posts : List Post}
    {e : Fault} (h : ((Session.start settlement posts).open? v.cache v.desk).1 = .error e) :
    v.handle (startSession id settlement posts)
      = (.error e, { v with session? := some (Session.start settlement posts) }) := by
  rw [handle_startSession, handle_bind, handle_lift, h, opened_of_error h]

theorem handle_startSession_of_read {id : Text} {settlement : Settlement} {posts : List Post}
    {b : Bool} (h : ((Session.start settlement posts).open? v.cache v.desk).1 = .ok b) :
    v.handle (startSession id settlement posts)
      = match ((v.opened settlement posts).handle (remember id)).1 with
        | .error e => (.error e, (v.opened settlement posts).remembered id)
        | .ok () => ((v.opened settlement posts).remembered id).handle
            (showSession b >>= fun _ => pure true) := by
  have hremembered := handle_remember (v.opened settlement posts) id
  rw [handle_startSession, handle_bind, handle_lift, h]
  dsimp only
  rw [handle_bind]
  generalize (v.opened settlement posts).handle (remember id) = r at hremembered ⊢
  obtain ⟨answer, u⟩ := r
  dsimp only at hremembered ⊢
  rw [hremembered]
  rcases answer with e | u
  · rfl
  · rfl

theorem handle_startSession_of_unremembered {id : Text} {settlement : Settlement}
    {posts : List Post} {b : Bool} {e : Fault}
    (h : ((Session.start settlement posts).open? v.cache v.desk).1 = .ok b)
    (he : ((v.opened settlement posts).handle (remember id)).1 = .error e) :
    v.handle (startSession id settlement posts)
      = (.error e, (v.opened settlement posts).remembered id) := by
  rw [handle_startSession_of_read h, he]

/-- Once the settlement is remembered, the session is shown. -/
theorem takes_startSession {id : Text} {settlement : Settlement} {posts : List Post} {b : Bool}
    (h : ((Session.start settlement posts).open? v.cache v.desk).1 = .ok b)
    (hok : ((v.opened settlement posts).handle (remember id)).1 = .ok ()) :
    let s := ((Session.start settlement posts).open? v.cache v.desk).2.1
    let u := (v.opened settlement posts).remembered id
    (v.handle (startSession id settlement posts)).2.holdings = u.loadStyles.taken s
      ∧ ∀ a, (v.handle (startSession id settlement posts)).1 = .ok a →
          ∃ c, (u.formTaken s).1 = .ok c := by
  intro s u
  obtain ⟨hholdings, hanswers⟩ := takes_showSession (w := u) (s := s) rfl b
  rw [handle_startSession_of_read h, hok]
  dsimp only
  rw [handle_bind]
  rcases hr : u.handle (showSession b) with ⟨e | a, v'⟩
  · rw [hr] at hholdings
    exact ⟨hholdings, fun a ha => nomatch ha⟩
  · rw [hr] at hholdings hanswers
    exact ⟨hholdings, fun _ _ => hanswers a rfl⟩

/-! ## What comes before -/

/-- The window but for what passes between it and the outside. -/
def apart (w : Window) (t : Turn) : Window := { w with turn := t }

/-- Fetching only uses the network. -/
theorem fetch_turn (w : Window) (id : Text) :
    ∃ t, (w.handle (fetch id)).2 = { w with turn := t } :=
  ⟨(w.handle (fetch id)).2.turn,
    congrFun (fixes_fetch (f := apart) (fun _ _ => rfl) w id) (w.handle (fetch id)).2.turn⟩

theorem FetchedIn.of_flush {id : Text} {settlement : Settlement} {posts : List Post}
    (h : w.FetchedIn id settlement posts v) :
    (w.handle flush).1 = .ok ()
      ∧ ((w.handle flush).2).handle (fetch id) = (.ok (settlement, posts), v) := by
  unfold FetchedIn at h
  rw [handle_bind] at h
  rcases hflush : w.handle flush with ⟨e | u, u'⟩
  · rw [hflush] at h
    cases h
  · rw [hflush] at h
    exact ⟨rfl, h⟩

end Window

end CivicSite
