import CivicSite.Proofs.Window.Flush

/-!
# Changes of the website

A button that changes the website changes the session at once, while a text may still wait in the
form; it is taken over afterwards, when the list is filled anew. The manuscript comes out as if the
text had been taken over first: the change commutes with the form, and showing it flushes. What
must not happen is that the change brings in a component under the id that the form holds.
-/

namespace CivicSite

/-- The edit of the website that a gesture makes, if it makes one. -/
def Gesture.edit? (w : Window) (s : Session) : Gesture → Option Tree.Edit
  | .press .create => some (.seed s.settlement.name)
  | .press .add => some (.add w.newKind.name)
  | .press .up => w.currentId?.map fun id => .move id "up"
  | .press .down => w.currentId?.map fun id => .move id "down"
  | .press .delete => w.currentId?.map .delete
  | .chooseAlignment a => w.currentId?.map fun id => .align id a.name
  | _ => none

namespace Window

variable {w : Window} {s : Session}

open Session (Operation)

/-! ## The change in the session -/

/-- The window after an edit of its session, before the edit is shown. -/
def edited (w : Window) (s : Session) (e : Tree.Edit) : Window :=
  { w with
    session? := some (Operation.runEdit w.cache s w.desk e).2.1
    desk := (Operation.runEdit w.cache s w.desk e).2.2 }

theorem writing_edited (w : Window) (s : Session) (e : Tree.Edit) :
    (w.edited s e).writing
      = { w.writing with draft? := some ⟨(e.run s.tree w.desk.ids).2.1, s.css⟩ } := by
  have htree := Session.apply_tree w.cache (e.run s.tree w.desk.ids).1 (e.run s.tree w.desk.ids).2.1
    s { w.desk with ids := (e.run s.tree w.desk.ids).2.2 }
  have hcss := Session.apply_css w.cache (e.run s.tree w.desk.ids).1 (e.run s.tree w.desk.ids).2.1
    s { w.desk with ids := (e.run s.tree w.desk.ids).2.2 }
  unfold edited Operation.runEdit
  generalize s.apply w.cache (e.run s.tree w.desk.ids).1 (e.run s.tree w.desk.ids).2.1
    { w.desk with ids := (e.run s.tree w.desk.ids).2.2 } = r at htree hcss
  obtain ⟨answer, s', d'⟩ := r
  rw [writing, draft?, Option.map_some, htree.1, hcss]
  rfl

/-- What an edit draws is new to the tree and to the form. -/
structure FreshEdit (w : Window) (s : Session) (e : Tree.Edit) : Prop where
  tree : Supply.AllNew s.tree.ids (w.desk.ids.drawn (e.run s.tree w.desk.ids).2.2)
  form : ∀ id ∈ w.desk.ids.drawn (e.run s.tree w.desk.ids).2.2, w.form.component? ≠ some id

theorem FreshEdit.spares {e : Tree.Edit} (h : w.FreshEdit s e) :
    w.form.overlay.Spares (w.desk.ids.drawn (e.run s.tree w.desk.ids).2.2) := by
  intro id hid b
  refine if_neg fun htarget => h.form id hid ?_
  exact (Option.filter_eq_some_iff.mp htarget).1

/-- **An edit of the session is an edit of the manuscript.** -/
theorem manuscript?_edited {e : Tree.Edit} (he : e.isRewording = false) (h : w.FreshEdit s e) :
    (w.edited s e).writing.manuscript?
      = some ⟨(e.run (w.form.overlay.tree s.tree) w.desk.ids).2.1, w.css⟩ := by
  rw [writing_edited, Writing.manuscript?, Option.map_some, w.form.overlay.run he h.spares]
  rfl

theorem distinct_edited (hn : s.tree.ids.Nodup) {e : Tree.Edit} (h : w.FreshEdit s e) :
    (w.edited s e).writing.Distinct := by
  intro m hm
  rw [writing_edited] at hm
  cases hm
  exact (Tree.gathers_run s.tree w.desk.ids e).nodup hn h.tree

theorem waits_edited (hs : w.session? = some s) {e : Tree.Edit} (he : e.isRewording = false)
    (h : w.FreshEdit s e) (hw : w.writing.Waits) : (w.edited s e).writing.Waits := by
  refine hw.imp (fun hsynced => ?_) fun hpending => ?_
  · rw [Writing.Synced, manuscript?_writing, manuscript?_of_session hs] at hsynced
    have hdraft := Option.some.inj (hsynced.trans (draft?_of_session hs))
    have htree : w.form.overlay.tree s.tree = s.tree := congrArg Manuscript.tree hdraft
    have hcss : w.css = s.css := congrArg Manuscript.css hdraft
    rw [Writing.Synced, manuscript?_edited he h, htree, hcss, writing_edited]
  · rw [writing_edited]
    exact hpending

/-! ## Showing the change -/

theorem guards_showChange (hd : w.writing.Distinct) (c : Change) (row? : Option Nat) :
    Guards w.writing (w.handle (showChange c row?)).2.writing (c.isAccepted = true ∧ w.Stuck) := by
  cases c with
  | accepted component =>
      have hshow : w.handle (showChange (.accepted component) row?)
          = w.handle (do
            showList (row?.getD (w.row?.getD 0))
            modify adaptControls
            showPreview) := rfl
      have hrest : (w.handle (do
            showList (row?.getD (w.row?.getD 0))
            modify adaptControls
            showPreview)).2.writing = (w.handle (showList (row?.getD (w.row?.getD 0)))).2.writing :=
        writing_bind fun _ v =>
          leaves_bind (still_adaptControls v) fun _ u _ => leaves_showPreview u
      obtain ⟨hkeeps, hwaits⟩ := guards_showList hd (row?.getD (w.row?.getD 0))
      rw [hshow, hrest]
      refine ⟨hkeeps, fun hw => (hwaits hw).trans (not_congr ?_)⟩
      exact ⟨fun h => ⟨rfl, h⟩, fun h => h.2⟩
  | rejected reason =>
      obtain ⟨hkeeps, hwaits⟩ := Guards.of_eq
        (show (w.handle (showChange (.rejected reason) row?)).2.writing = w.writing from rfl)
      exact ⟨hkeeps, fun hw => (hwaits hw).trans (not_congr ⟨False.elim, fun h => nomatch h.1⟩)⟩
  | unmoved =>
      obtain ⟨hkeeps, hwaits⟩ := Guards.of_eq
        (show (w.handle (showChange .unmoved row?)).2.writing = w.writing from rfl)
      exact ⟨hkeeps, fun hw => (hwaits hw).trans (not_congr ⟨False.elim, fun h => nomatch h.1⟩)⟩

/-! ## Making a change -/

/-- The session takes the edit, but showing it gets stuck. -/
def EditStuck (w : Window) (s : Session) (e : Tree.Edit) : Prop :=
  (∃ c, (Operation.runEdit w.cache s w.desk e).1 = .ok c ∧ c.isAccepted = true)
    ∧ (w.edited s e).Stuck

/-- What an edit of the website makes of a window. -/
structure Changes (w v : Window) (s : Session) (e : Tree.Edit) : Prop where
  manuscript : v.writing.manuscript?
    = some ⟨(e.run (w.form.overlay.tree s.tree) w.desk.ids).2.1, w.css⟩
  distinct : v.writing.Distinct
  waits : w.writing.Waits → (v.writing.Waits ↔ ¬ w.EditStuck s e)

theorem handle_change (hs : w.session? = some s) {op : Option (Store Disk) → Session → Desk Disk →
    Except Fault CivicSite.Change × Session × Desk Disk} {e : Tree.Edit}
    (hop : op w.cache s w.desk = Operation.runEdit w.cache s w.desk e)
    (row? : CivicSite.Change → Option Nat) :
    w.handle (change op row?) =
      match (Operation.runEdit w.cache s w.desk e).1 with
      | .error err => (.error err, w.edited s e)
      | .ok c => (w.edited s e).handle (showChange c (row? c)) := by
  unfold change edited
  rw [handle_bind, handle_onSession hs, hop]
  rcases (Operation.runEdit w.cache s w.desk e).1 with err | c
  · rfl
  · rfl

theorem changes_change (hs : w.session? = some s) (hd : w.writing.Distinct) {e : Tree.Edit}
    (he : e.isRewording = false) (hf : w.FreshEdit s e) {op : Option (Store Disk) → Session →
    Desk Disk → Except Fault CivicSite.Change × Session × Desk Disk}
    (hop : op w.cache s w.desk = Operation.runEdit w.cache s w.desk e)
    (row? : CivicSite.Change → Option Nat) : Changes w (w.handle (change op row?)).2 s e := by
  have hdistinct := distinct_edited (hd _ (draft?_of_session hs)) hf
  have hmanuscript := manuscript?_edited he hf
  rw [handle_change hs hop]
  cases hanswer : (Operation.runEdit w.cache s w.desk e).1 with
  | error err =>
      refine ⟨hmanuscript, hdistinct, fun hw => iff_of_true (waits_edited hs he hf hw) ?_⟩
      rintro ⟨⟨c, hc, -⟩, -⟩
      cases hanswer.symm.trans hc
  | ok c =>
      obtain ⟨hkeeps, hwaits⟩ := guards_showChange hdistinct c (row? c)
      refine ⟨hkeeps.manuscript.trans hmanuscript, hkeeps.distinct hdistinct, fun hw => ?_⟩
      refine (hwaits (waits_edited hs he hf hw)).trans (not_congr (and_congr_left fun _ => ?_))
      exact ⟨fun hc => ⟨c, hanswer, hc⟩, fun ⟨c', hc', h⟩ => by
        cases hanswer.symm.trans hc'
        exact h⟩

/-! ## The gestures -/

theorem changes_current (hs : w.session? = some s) (hd : w.writing.Distinct) {id : Text}
    (hid : w.currentId? = some id) {e : Tree.Edit} (he : e.isRewording = false)
    (hf : w.FreshEdit s e) {op : Text → Option (Store Disk) → Session →
    Desk Disk → Except Fault CivicSite.Change × Session × Desk Disk}
    (hop : op id w.cache s w.desk = Operation.runEdit w.cache s w.desk e)
    (row? : CivicSite.Change → Option Nat) :
    Changes w (w.handle (changeCurrent op row?)).2 s e := by
  have hcurrent : w.handle (changeCurrent op row?) = w.handle (change (op id) row?) := by
    unfold changeCurrent
    rw [handle_get_bind, hid]
  rw [hcurrent]
  exact changes_change hs hd he hf hop row?

/-- **A gesture that edits the website edits the manuscript**, and the text that waits is safe. -/
theorem changes_carryOut (hs : w.session? = some s) (hd : w.writing.Distinct) {g : Gesture}
    {e : Tree.Edit} (h : g.edit? w s = some e) (hf : w.FreshEdit s e) :
    Changes w (w.handle (carryOut g)).2 s e := by
  cases g with
  | press c =>
      cases c with
      | create =>
          obtain rfl := Option.some.inj h
          show Changes w (w.handle createWebsite).2 s _
          unfold createWebsite
          exact changes_change hs hd rfl hf rfl _
      | add =>
          obtain rfl := Option.some.inj h
          show Changes w (w.handle addComponent).2 s _
          unfold addComponent
          rw [handle_get_bind]
          exact changes_change hs hd rfl hf rfl _
      | up =>
          obtain ⟨id, hid, rfl⟩ := Option.map_eq_some_iff.mp h
          show Changes w (w.handle (moveComponent "up")).2 s _
          unfold moveComponent
          exact changes_current hs hd hid rfl hf rfl _
      | down =>
          obtain ⟨id, hid, rfl⟩ := Option.map_eq_some_iff.mp h
          show Changes w (w.handle (moveComponent "down")).2 s _
          unfold moveComponent
          exact changes_current hs hd hid rfl hf rfl _
      | delete =>
          obtain ⟨id, hid, rfl⟩ := Option.map_eq_some_iff.mp h
          show Changes w (w.handle deleteComponent).2 s _
          unfold deleteComponent
          rw [handle_get_bind]
          exact changes_current hs hd hid rfl hf rfl _
      | _ => cases h
  | chooseAlignment a =>
      obtain ⟨id, hid, rfl⟩ := Option.map_eq_some_iff.mp h
      -- the window differs from then on in what the alignment box shows
      have hchoose : w.handle (carryOut (.chooseAlignment a))
          = ({ w with alignment := a } : Window).handle alignComponent := rfl
      have hchanges : Changes { w with alignment := a }
          (({ w with alignment := a } : Window).handle alignComponent).2 s (.align id a.name) := by
        unfold alignComponent
        rw [handle_get_bind]
        refine changes_current ?_ ?_ ?_ rfl ?_ rfl _
        · exact hs
        · exact hd
        · exact hid
        · exact ⟨hf.tree, hf.form⟩
      rw [hchoose]
      exact ⟨hchanges.manuscript, hchanges.distinct, hchanges.waits⟩
  | _ => cases h

/-! ## Nothing to change -/

theorem handle_change_none (hs : w.session? = none) (op : Option (Store Disk) → Session →
    Desk Disk → Except Fault CivicSite.Change × Session × Desk Disk)
    (row? : CivicSite.Change → Option Nat) : w.handle (change op row?) = (.ok (), w) := by
  unfold change
  rw [handle_bind, handle_onSession_none hs]
  rfl

/-- Without a session or a current row there is nothing to change. -/
theorem handle_changeCurrent_none {e : Text → Tree.Edit}
    (h : ∀ s, w.session? = some s → w.currentId?.map e = none) (op : Text →
    Option (Store Disk) → Session → Desk Disk → Except Fault CivicSite.Change × Session × Desk Disk)
    (row? : CivicSite.Change → Option Nat) : w.handle (changeCurrent op row?) = (.ok (), w) := by
  unfold changeCurrent
  rw [handle_get_bind]
  cases hid : w.currentId? with
  | none => rfl
  | some id =>
      refine handle_change_none ?_ (op id) row?
      refine Option.eq_none_iff_forall_ne_some.mpr fun s hs => ?_
      have hnone := h s hs
      rw [hid] at hnone
      cases hnone

theorem session?_none_of_no_edit {e : Session → Tree.Edit}
    (h : ∀ s, w.session? = some s → some (e s) = none) : w.session? = none := by
  cases hs : w.session? with
  | none => rfl
  | some s => cases h s hs

end Window

/-- Whether a gesture is meant to edit the website. -/
def Gesture.edits : Gesture → Bool
  | .press .create | .press .add | .press .up | .press .down | .press .delete => true
  | .chooseAlignment _ => true
  | _ => false

namespace Window

variable {w : Window}

/-- **A gesture that has nothing to edit does nothing**, but that an alignment is chosen. -/
theorem fixes_edits {γ : Type} {f : Window → γ} (hf : ∀ w a, f { w with alignment := a } = f w)
    {g : Gesture} (hg : g.edits = true)
    (h : ∀ s, w.session? = some s → g.edit? w s = none) : w.Fixes f (carryOut g) := by
  have hsame {w : Window} {h : Handler Unit} (hw : w.handle h = (.ok (), w)) : w.Fixes f h := by
    rw [Fixes, hw]
  cases g with
  | press c =>
      cases c with
      | create => exact hsame (handle_change_none (session?_none_of_no_edit h) _ _)
      | add =>
          refine fixes_get_bind ?_
          exact hsame (handle_change_none (session?_none_of_no_edit h) _ _)
      | up | down => exact hsame (handle_changeCurrent_none h _ _)
      | delete =>
          refine fixes_get_bind ?_
          exact hsame (handle_changeCurrent_none h _ _)
      | _ => cases hg
  | chooseAlignment a =>
      let w' : Window := { w with alignment := a }
      have hnone : w'.handle alignComponent = (.ok (), w') := by
        unfold alignComponent
        rw [handle_get_bind]
        exact handle_changeCurrent_none (w := w') (e := fun id => .align id a.name) h _ _
      show f (w'.handle alignComponent).2 = f w
      rw [hnone]
      exact hf w a
  | _ => cases hg

end Window

end CivicSite
