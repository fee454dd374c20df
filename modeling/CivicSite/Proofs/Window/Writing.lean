import CivicSite.Proofs.Window.Handle
import CivicSite.Proofs.Window.Manuscript

/-!
# What leaves the manuscript alone

Most of what the window does is about what is shown, asked, sent and stored elsewhere. It leaves
the session's website, the form, the styles and the timer as they are, whether it answers or stops
at a fault (`Leaves`).
-/

namespace CivicSite

namespace Window

variable {α β : Type} {w w' w'' : Window}

/-! ## Standing still -/

/-- What counts for the manuscript: the website of the session, what waits in the form and in the
styles, and whether the timer runs. -/
structure Writing where
  draft? : Option Manuscript
  form : Form
  css : Text
  pending : Bool

/-- What counts for the manuscript in a window. -/
def writing (w : Window) : Writing := ⟨w.draft?, w.form, w.css, w.pending⟩

/-- The manuscript. -/
def Writing.manuscript? (x : Writing) : Option Manuscript :=
  x.draft?.map fun m => ⟨x.form.overlay.tree m.tree, x.css⟩

theorem manuscript?_writing (w : Window) : w.writing.manuscript? = w.manuscript? := by
  rw [Writing.manuscript?, writing, draft?, Option.map_map, manuscript?]
  rfl

/-- A handler leaves the manuscript alone. -/
def Leaves (w : Window) (h : Handler α) : Prop := (w.handle h).2.writing = w.writing

theorem leaves_pure (w : Window) (a : α) : w.Leaves (pure a : Handler α) := fixes_pure w a

theorem leaves_throw (w : Window) (e : Fault) : w.Leaves (throw e : Handler α) := fixes_throw w e

theorem leaves_lift (w : Window) (r : Except Fault α) : w.Leaves (liftM r : Handler α) :=
  fixes_lift w r

theorem leaves_get_bind {k : Window → Handler β} (h : w.Leaves (k w)) : w.Leaves (get >>= k) :=
  fixes_get_bind h

theorem leaves_bind {h : Handler α} {k : α → Handler β} (hfirst : w.Leaves h)
    (hthen : ∀ a v, w.handle h = (.ok a, v) → v.Leaves (k a)) : w.Leaves (h >>= k) :=
  handle_bind_induct (R := fun w v => v.writing = w.writing) (fun h h' => h'.trans h) hfirst hthen

/-- What comes after may be passed over if it leaves the manuscript alone. -/
theorem writing_bind {h : Handler α} {k : α → Handler β}
    (hthen : ∀ (a : α) (v : Window), v.Leaves (k a)) :
    (w.handle (h >>= k)).2.writing = (w.handle h).2.writing := by
  rw [handle_bind]
  rcases w.handle h with ⟨e | a, v⟩
  · rfl
  · exact hthen a v

theorem leaves_attempt {h : Handler α} (hh : w.Leaves h) : w.Leaves (attempt h) :=
  fixes_attempt hh

/-- The session may change in what is not its website. -/
theorem still_of_session {s s' : Session} (h : w.session? = some s) (htree : s'.tree = s.tree)
    (hcss : s'.css = s.css) : { w with session? := some s' }.writing = w.writing := by
  rw [writing, writing, draft?_of_session h, draft?, Option.map_some, htree, hcss]

/-! ## Showing -/

theorem leaves_notify (w : Window) (n : Notice) : w.Leaves (notify n) := rfl

theorem leaves_ask (w : Window) (n : Notice) : w.Leaves (ask n) := rfl

theorem leaves_report (w : Window) (text : Text) (duration : Nat) :
    w.Leaves (report text duration) := rfl

theorem leaves_exchange (w : Window) (op : Network → α × Network) : w.Leaves (exchange op) :=
  rfl

theorem still_adaptControls (w : Window) : w.adaptControls.writing = w.writing := rfl

theorem still_showTitle (w : Window) : w.showTitle.writing = w.writing := rfl

theorem leaves_showCode (w : Window) : w.Leaves showCode := fixes_showCode (fun _ _ => rfl) w

theorem leaves_showPreview (w : Window) : w.Leaves showPreview :=
  fixes_showPreview (fun _ _ _ => rfl) w

theorem leaves_fail (w : Window) (lead : Text) (answer : α) (e : Fault) :
    w.Leaves (fail lead answer e) := fixes_fail (fun _ _ => rfl) w lead answer e

/-! ## Fetching and delivering -/

theorem leaves_fetch (w : Window) (id : Text) : w.Leaves (fetch id) :=
  fixes_fetch (fun _ _ => rfl) w id

theorem leaves_remember (w : Window) (id : Text) : w.Leaves (remember id) :=
  fixes_remember (fun _ _ _ => rfl) w id

theorem leaves_reloadPosts (w : Window) : w.Leaves reloadPosts := by
  refine leaves_get_bind ?_
  cases hs : w.session? with
  | none => exact leaves_pure w ()
  | some s =>
      refine leaves_bind (leaves_exchange w _) fun posts v hv => ?_
      rw [handle_exchange] at hv
      obtain rfl := (Prod.mk.inj hv).2
      cases posts with
      | error e => exact leaves_fail _ _ () e
      | ok posts =>
          refine leaves_bind (still_of_session hs rfl rfl) fun _ v _ => ?_
          refine leaves_bind (leaves_showPreview v) fun _ v _ => ?_
          exact leaves_report v _ _

theorem leaves_exportTo (w : Window) (dir : Text) : w.Leaves (exportTo dir) :=
  fixes_exportTo (fun _ _ _ => rfl) w dir

theorem leaves_send (w : Window) : w.Leaves send := by
  refine leaves_get_bind ?_
  cases hs : w.session? with
  | none => exact leaves_pure w none
  | some s =>
      refine leaves_bind (leaves_exchange w _) fun r v hv => ?_
      rw [handle_exchange] at hv
      have hr := Except.ok.inj (Prod.mk.inj hv).1
      have htree : r.2.tree = s.tree := by rw [← hr]; rfl
      have hcss : r.2.css = s.css := by rw [← hr]; rfl
      obtain rfl := (Prod.mk.inj hv).2
      refine leaves_bind (still_of_session hs htree hcss) fun _ v _ => ?_
      exact leaves_bind (leaves_lift v _) fun _ v _ => leaves_pure v _

theorem still_publishing (w : Window) (b : Bool) : { w with publishing := b }.writing = w.writing :=
  rfl

theorem still_endPublishing (w : Window) : w.endPublishing.writing = w.writing := rfl

/-! ## The rest of the preview -/

theorem leaves_previewOn (w : Window) (screen : Page.Screen) : w.Leaves (previewOn screen) :=
  leaves_bind (w := w) rfl fun _ v _ => leaves_showPreview v

theorem leaves_turnListing (w : Window) : w.Leaves turnListing :=
  leaves_bind (w := w) rfl fun _ v _ => leaves_showPreview v

theorem leaves_typeSearch (w : Window) (text : Text) : w.Leaves (typeSearch text) := by
  refine leaves_get_bind ?_
  split
  · exact leaves_bind (w := w) rfl fun _ v _ => leaves_showPreview v
  · exact leaves_pure w ()

theorem leaves_turnTo (w : Window) (t : Tab) : w.Leaves (turnTo t) := by
  refine leaves_get_bind ?_
  split
  · exact leaves_bind (w := w) rfl fun _ v _ => leaves_showCode v
  · exact leaves_pure w ()

end Window

end CivicSite
