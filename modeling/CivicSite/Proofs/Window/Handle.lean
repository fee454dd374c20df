import CivicSite.Window.Gesture

/-!
# Running handlers

What a handler does is found by running it piece by piece, with one rule for each way to build one.

Mostly the question is what it leaves alone. A handler fixes a part of the window if the part is the
same afterwards, whether the handler answers or stops at a fault (`Fixes`). There is one rule for
each way to build handlers again, and what is only shown to the user fixes every part that is not
shown.
-/

namespace CivicSite

namespace Window

variable {α β γ : Type} {w w' : Window} {s : Session} {f : Window → γ}

/-! ## Step by step -/

theorem handle_get_bind (w : Window) (k : Window → Handler β) :
    w.handle (get >>= k) = w.handle (k w) := rfl

theorem handle_set (w v : Window) : w.handle (set v) = (.ok (), v) := rfl

theorem handle_modify_bind (w : Window) (f : Window → Window) (k : Unit → Handler β) :
    w.handle (modify f >>= k) = (f w).handle (k ()) := rfl

theorem handle_lift (w : Window) (r : Except Fault α) :
    w.handle (liftM r : Handler α) = (r, w) := by
  cases r <;> rfl

theorem of_handle_lift {r : Except Fault α} {a : α}
    (h : w.handle (liftM r : Handler α) = (.ok a, w')) : r = .ok a ∧ w' = w := by
  rw [handle_lift] at h
  exact ⟨congrArg Prod.fst h, (congrArg Prod.snd h).symm⟩

theorem handle_exchange (w : Window) (op : Network → α × Network) :
    w.handle (exchange op)
      = (.ok (w.turn.exchange w.publishCaption w.publishEnabled op).1,
        { w with turn := (w.turn.exchange w.publishCaption w.publishEnabled op).2 }) := rfl

theorem handle_attempt (w : Window) (h : Handler α) :
    w.handle (attempt h) = (.ok (w.handle h).1, (w.handle h).2) := rfl

/-- What is so related at every step of two handlers is so after one and then the other. -/
theorem handle_bind_induct {R : Window → Window → Prop}
    (htrans : ∀ {a b c}, R a b → R b c → R a c) {h : Handler α} {k : α → Handler β}
    (hfirst : R w (w.handle h).2)
    (hthen : ∀ a v, w.handle h = (.ok a, v) → R v (v.handle (k a)).2) :
    R w (w.handle (h >>= k)).2 := by
  rw [handle_bind]
  rcases hr : w.handle h with ⟨e | a, v⟩
  · rw [hr] at hfirst
    exact hfirst
  · rw [hr] at hfirst
    exact htrans hfirst (hthen a v hr)

/-! ## Operations of the session -/

theorem handle_onSession {α : Type} (h : w.session? = some s) (op : Option (Store Disk) →
    Session → Desk Disk → Except Fault α × Session × Desk Disk) :
    w.handle (onSession op) = ((op w.cache s w.desk).1.map some,
      { w with
        session? := some (op w.cache s w.desk).2.1, desk := (op w.cache s w.desk).2.2 }) := by
  unfold onSession
  rw [handle_get_bind, h]
  dsimp only
  rw [handle_bind, handle_set]
  dsimp only
  rw [handle_bind, handle_lift]
  rcases (op w.cache s w.desk).1 with e | a
  · rfl
  · rfl

theorem handle_onSession_none {α : Type} (h : w.session? = none) (op : Option (Store Disk) →
    Session → Desk Disk → Except Fault α × Session × Desk Disk) :
    w.handle (onSession op) = (.ok none, w) := by
  unfold onSession
  rw [handle_get_bind, h]
  rfl

/-! ## Leaving a part alone -/

/-- A handler fixes what `f` shows of a window. -/
def Fixes (w : Window) (f : Window → γ) (h : Handler α) : Prop := f (w.handle h).2 = f w

theorem fixes_pure (w : Window) (a : α) : w.Fixes f (pure a : Handler α) := rfl

theorem fixes_throw (w : Window) (e : Fault) : w.Fixes f (throw e : Handler α) := rfl

theorem fixes_lift (w : Window) (r : Except Fault α) : w.Fixes f (liftM r : Handler α) := by
  rw [Fixes, handle_lift]

theorem fixes_set {v : Window} (h : f v = f w) : w.Fixes f (set v : Handler Unit) := h

theorem fixes_modify {g : Window → Window} (h : f (g w) = f w) :
    w.Fixes f (modify g : Handler Unit) := h

theorem fixes_get_bind {k : Window → Handler β} (h : w.Fixes f (k w)) : w.Fixes f (get >>= k) := h

theorem fixes_bind {h : Handler α} {k : α → Handler β} (hfirst : w.Fixes f h)
    (hthen : ∀ a v, f v = f w → v.Fixes f (k a)) : w.Fixes f (h >>= k) := by
  refine handle_bind_induct (R := fun w v => f v = f w) (fun h h' => h'.trans h) hfirst
    fun a v hv => hthen a v ?_
  rw [Fixes, hv] at hfirst
  exact hfirst

theorem fixes_attempt {h : Handler α} (hh : w.Fixes f h) : w.Fixes f (attempt h) := hh

theorem fixes_exchange (hf : ∀ t, f { w with turn := t } = f w) (op : Network → α × Network) :
    w.Fixes f (exchange op) := hf _

theorem fixes_onSession (hf : ∀ s d, f { w with session? := s, desk := d } = f w)
    (op : Option (Store Disk) → Session → Desk Disk → Except Fault α × Session × Desk Disk) :
    w.Fixes f (onSession op) := by
  unfold Fixes
  cases hs : w.session? with
  | none => rw [handle_onSession_none hs]
  | some s =>
      rw [handle_onSession hs]
      exact hf _ _

/-! ## Showing -/

theorem fixes_showCode (hf : ∀ w code, f { w with code := code } = f w) (w : Window) :
    w.Fixes f showCode := by
  refine fixes_get_bind ?_
  split
  · exact fixes_pure w ()
  · split
    · exact fixes_bind (fixes_lift w _) fun site v hv => fixes_set ((hf w _).trans hv.symm)
    · exact fixes_pure w ()

theorem fixes_showPreview (hf : ∀ w pane code, f { w with pane := pane, code := code } = f w)
    (w : Window) : w.Fixes f showPreview := by
  refine fixes_get_bind ?_
  split
  · exact fixes_modify (hf w _ w.code)
  · refine fixes_bind (fixes_lift w _) fun html v _ => ?_
    refine fixes_bind (fixes_modify (hf v _ v.code)) fun _ v _ => ?_
    exact fixes_showCode (fun w code => hf w w.pane code) v

/-- Of a fault the user is told at most. -/
theorem fixes_fail (hf : ∀ w t, f { w with turn := t } = f w) (w : Window) (lead : Text)
    (answer : α) (e : Fault) : w.Fixes f (fail lead answer e) := by
  unfold fail
  cases e.shown? with
  | none => exact fixes_throw w e
  | some text => exact fixes_bind (fixes_modify (hf w _)) fun _ v _ => fixes_pure v answer

theorem fixes_fetch (hf : ∀ w t, f { w with turn := t } = f w) (w : Window) (id : Text) :
    w.Fixes f (fetch id) := by
  refine fixes_get_bind ?_
  refine fixes_bind (fixes_exchange (hf w) _) fun settlement v _ => ?_
  refine fixes_bind (fixes_lift v settlement) fun settlement v _ => ?_
  refine fixes_bind (fixes_exchange (hf v) _) fun posts v _ => ?_
  exact fixes_bind (fixes_lift v posts) fun posts v _ => fixes_pure v _

/-! ## Flushing and filling the list -/

/-- Flushing takes over what is in the editors, and brings rows, preview and code up to date. -/
theorem fixes_flush {f : Window → γ} (hf : ∀ (w : Window) session? desk rows pane code pending,
    f { w with session? := session?, desk := desk, rows := rows, pane := pane, code := code,
               pending := pending } = f w) (w : Window) : w.Fixes f flush := by
  have hsession (w : Window) (session?) (desk) :
      f { w with session? := session?, desk := desk } = f w :=
    hf w session? desk w.rows w.pane w.code w.pending
  have hrelabel (w : Window) (id : Text) : f (w.relabel id) = f w := by
    unfold relabel
    split
    · rfl
    · exact hf w w.session? w.desk _ w.pane w.code w.pending
  have hform (w : Window) : w.Fixes f flushForm := by
    refine fixes_get_bind ?_
    split
    · exact fixes_pure w false
    · split
      · exact fixes_pure w false
      · refine fixes_bind (fixes_onSession (hsession w) _) fun answer v _ => ?_
        split
        · exact fixes_bind (fixes_modify (hrelabel v _)) fun _ v _ => fixes_pure v true
        · exact fixes_pure v false
  have hstyles (w : Window) : w.Fixes f flushStyles := by
    refine fixes_get_bind ?_
    split
    · exact fixes_pure w false
    · split
      · exact fixes_pure w false
      · exact fixes_bind (fixes_onSession (hsession w) _) fun _ v _ => fixes_pure v true
  have hstopped : f { w with pending := false } = f w :=
    hf w w.session? w.desk w.rows w.pane w.code false
  refine fixes_bind (fixes_modify hstopped) fun _ v _ => ?_
  refine fixes_bind (hform v) fun edited v _ => fixes_bind (hstyles v) fun styled v _ => ?_
  split
  · exact fixes_showPreview (fun w pane code =>
      hf w w.session? w.desk w.rows pane code w.pending) v
  · exact fixes_pure v ()

/-- Making another row the current one flushes, and fills the form anew. -/
theorem fixes_select (hf : ∀ (w : Window) session? desk label rows row? alignment controls form pane
      code pending, f { w with
        session? := session?, desk := desk, label := label, rows := rows, row? := row?
        alignment := alignment, controls := controls, form := form, pane := pane, code := code
        pending := pending } = f w) (w : Window) (row : Nat) : w.Fixes f (select row) := by
  have hrow (w : Window) (row?) : f { w with row? := row? } = f w :=
    hf w w.session? w.desk w.label w.rows row? w.alignment w.controls w.form w.pane w.code w.pending
  have hflush (w : Window) : w.Fixes f flush :=
    fixes_flush (fun w session? desk rows pane code pending =>
      hf w session? desk w.label rows w.row? w.alignment w.controls w.form pane code pending) w
  have hload (w : Window) : f w.loadForm = f w :=
    hf w w.session? w.desk _ w.rows w.row? _ _ _ w.pane w.code w.pending
  refine fixes_get_bind ?_
  split
  · refine fixes_bind (fixes_set (hrow w _)) fun _ v _ => ?_
    exact fixes_bind (hflush v) fun _ v _ => fixes_modify (hload v)
  · exact fixes_pure w ()

/-- Filling the list does what making a row the current one does, and writes the rows anew. -/
theorem fixes_showList (hf : ∀ (w : Window) session? desk label rows row? alignment controls form
      pane code pending, f { w with
        session? := session?, desk := desk, label := label, rows := rows, row? := row?
        alignment := alignment, controls := controls, form := form, pane := pane, code := code
        pending := pending } = f w) (w : Window) (row : Nat) : w.Fixes f (showList row) := by
  have hrows (w : Window) (rows) (row?) : f { w with rows := rows, row? := row? } = f w :=
    hf w w.session? w.desk w.label rows row? w.alignment w.controls w.form w.pane w.code w.pending
  have hload (w : Window) : f w.loadForm = f w :=
    hf w w.session? w.desk _ w.rows w.row? _ _ _ w.pane w.code w.pending
  refine fixes_get_bind ?_
  refine fixes_bind (fixes_set (hrows w _ none)) fun _ v _ => ?_
  dsimp only
  split
  · exact fixes_bind (fixes_select hf v _) fun _ v _ => fixes_modify (hload v)
  · exact fixes_modify (hload v)

/-! ## Delivering -/

theorem fixes_exportTo (hf : ∀ w desk turn, f { w with desk := desk, turn := turn } = f w)
    (w : Window) (dir : Text) : w.Fixes f (exportTo dir) := by
  have hdisk (w : Window) (disk : Disk) : f (w.withDisk disk) = f w := hf w _ w.turn
  have hturn (w : Window) (turn) : f { w with turn := turn } = f w := hf w w.desk turn
  refine fixes_get_bind ?_
  split
  · exact fixes_pure w ()
  · refine fixes_bind (fixes_lift w _) fun site v hv => ?_
    refine fixes_bind (fixes_set ((hdisk w _).trans hv.symm)) fun _ v _ => ?_
    split
    · exact fixes_bind (fixes_modify (hturn v _)) fun _ v _ => fixes_modify (hturn v _)
    · exact fixes_modify (hturn v _)
    · exact fixes_throw v _

/-! ## Remembering -/

/-- The settlement that was opened last goes to the settings, and they to the disk. -/
theorem fixes_remember (hf : ∀ (w : Window) last desk,
      f { w with settings := { w.settings with lastSettlement := last }, desk := desk } = f w)
    (w : Window) (id : Text) : w.Fixes f (remember id) := by
  refine fixes_get_bind (fixes_bind (fixes_set (hf w _ _)) fun _ v _ => ?_)
  split
  · split
    · exact fixes_throw v _
    · exact fixes_pure v ()
  · exact fixes_pure v ()

end Window

end CivicSite
