import CivicSite.Proofs.Window.Debounce
import CivicSite.Proofs.Window.Display

/-!
# Nothing stale is shown

Every gesture that is answered leaves a window that shows the session as it is
(`Current.ensures_react`): the rows, the component in the form, the preview, the code if it is in
front, and what can be pressed. A window is *listed* if list, form and buttons are up to date, and
*current* if preview and code are, too. Filling the list makes it listed, whatever it showed before;
showing the preview makes a listed window current; flushing keeps it current. So each gesture is put
together of these, and of what concerns nothing that is shown of the session.

A gesture that stops at a fault may leave anything. And the empty id stands for no component: a
component of that id would be current without being in the form.
-/

namespace CivicSite

/-! ## Publishing a session -/

namespace Session

variable {ω : Type}

/-- Publishing a session may make its settlement active and its changes published, and no more. -/
theorem publish_session (client : PublishClient ω) (o : SiteOptions) (s : Session) (n : ω) :
    ∃ active dirty, (s.publish client o n).2.1
      = { s with settlement := { s.settlement with active := active }, dirty := dirty } := by
  have hsettlement : ∃ active, (CivicSite.publish client s.content o n).2.1
      = { s.settlement with active := active } := by
    unfold CivicSite.publish
    split
    · exact ⟨_, rfl⟩
    · split
      · exact ⟨_, rfl⟩
      · dsimp only
        split
        · exact ⟨_, rfl⟩
        · split <;> exact ⟨_, rfl⟩
  obtain ⟨active, hactive⟩ := hsettlement
  refine ⟨active, (s.publish client o n).2.1.dirty, ?_⟩
  rw [← hactive]
  rfl

variable {σ : Type}

/-- The components of a session that was just opened are those of its draft, or new. -/
theorem mem_open? {cache : Option (Store σ)} {settlement : Settlement} {posts : List Post}
    {d : Desk σ} {id : Text}
    (h : id ∈ ((Session.start settlement posts).open? cache d).2.1.tree.ids) :
    id ∈ draftIds cache (Session.start settlement posts) d
      ∨ id ∈ d.ids.drawn ((Session.start settlement posts).open? cache d).2.2.ids := by
  cases cache with
  | none => cases h
  | some store =>
      unfold draftIds
      rw [open?_eq_takeUp] at h ⊢
      dsimp only
      generalize DraftCache.load store (Session.start settlement posts).settlement.id d.stored = r
        at h ⊢
      obtain ⟨_ | _ | draft, stored⟩ := r
      · cases h
      · cases h
      · exact (Tree.gathers_ofList draft.components d.ids).mem h

end Session

namespace Window

variable {α γ : Type} {w v : Window} {s : Session}

/-! ## Windows that are up to date -/

/-- Nothing is being published, and list, form and buttons show the session, if there is one. -/
structure Listed (w : Window) : Prop where
  quiet : w.publishing = false
  named : ∀ s, w.session? = some s → Named s
  loaded : ∀ s, w.session? = some s → w.Loaded s

/-- Preview and code show the session, too. -/
structure Current (w : Window) : Prop extends w.Listed where
  pictures : ∀ s, w.session? = some s → w.Pictures s

theorem listed_of_session (hs : w.session? = some s) (hquiet : w.publishing = false)
    (hn : Named s) (hl : w.Loaded s) : w.Listed where
  quiet := hquiet
  named _ hs' := Option.some.inj (hs.symm.trans hs') ▸ hn
  loaded _ hs' := Option.some.inj (hs.symm.trans hs') ▸ hl

theorem Listed.current (h : w.Listed) (hs : w.session? = some s) (hp : w.Pictures s) :
    w.Current :=
  ⟨h, fun _ hs' => Option.some.inj (hs.symm.trans hs') ▸ hp⟩

/-- What makes a window listed. -/
def panel (w : Window) :
    Bool × Option Session × List Row × Option Nat × Option Text × Bool :=
  (w.publishing, w.session?, w.rows, w.row?, w.form.component?, w.controls.components)

/-- What makes a window current. -/
def face (w : Window) : (Bool × Option Session × List Row × Option Nat × Option Text × Bool)
    × Pane × Tab × Entries Text × SiteOptions :=
  (w.panel, w.pane, w.tab, w.code, w.options)

theorem Listed.of_panel (h : w.Listed) (hv : v.panel = w.panel) : v.Listed := by
  simp only [panel, Prod.mk.injEq] at hv
  obtain ⟨hpublishing, hsession, hrows, hrow, hform, hcontrols⟩ := hv
  refine ⟨hpublishing.trans h.quiet, fun s hs => h.named s (hsession ▸ hs), fun s hs => ?_⟩
  have hl := h.loaded s (hsession ▸ hs)
  refine ⟨⟨hrows.trans hl.rows, fun i hi => ?_⟩, ?_, hcontrols.trans hl.controls⟩
  · rw [hrows]
    exact hl.row i (hrow ▸ hi)
  · rw [hform, hl.form, currentId?, currentId?, hrow, hrows]

theorem Current.of_face (h : w.Current) (hv : v.face = w.face) : v.Current := by
  simp only [face, Prod.mk.injEq] at hv
  obtain ⟨hpanel, hpane, htab, hcode, hoptions⟩ := hv
  have hsession : v.session? = w.session? := congrArg (fun p => p.2.1) hpanel
  refine ⟨h.toListed.of_panel hpanel, fun s hs => ?_⟩
  have hp := h.pictures s (hsession ▸ hs)
  have hyear : v.year = w.year := congrArg SiteOptions.year hoptions
  constructor
  · rw [previewOf, hpane, hyear]
    exact hp.preview
  · rw [htab, hoptions, hcode]
    exact hp.code

/-- A handler that fixes what is shown of the session keeps a window current. -/
theorem Current.ensures (hw : w.Current) {h : Handler α} (hf : w.Fixes face h) :
    w.Ensures h fun _ v => v.Current :=
  Ensures.mono hf.ensures fun _ _ hv => hw.of_face hv

/-- **Showing the preview makes a listed window current.** -/
theorem Listed.ensures_showPreview (h : w.Listed) :
    w.Ensures showPreview fun _ v => v.Current ∧ v.panel = w.panel := by
  have hpanel : w.Ensures showPreview fun _ v => v.panel = w.panel :=
    (fixes_showPreview (fun _ _ _ => rfl) w).ensures
  cases hs : w.session? with
  | none =>
      refine hpanel.mono fun _ v hv => ⟨⟨h.of_panel hv, fun s hsome => ?_⟩, hv⟩
      have hsession : v.session? = w.session? := congrArg (fun p => p.2.1) hv
      cases (hsession.trans hs).symm.trans hsome
  | some s =>
      refine (Ensures.and hpanel (Window.ensures_showPreview hs)).mono fun _ v hv => ?_
      obtain ⟨hv, hpictures⟩ := hv
      have hsession : v.session? = w.session? := congrArg (fun p => p.2.1) hv
      exact ⟨(h.of_panel hv).current (hsession.trans hs) hpictures, hv⟩

/-! ## Flushing -/

theorem isEmpty_of_ids {t t' : Tree} (h : t'.ids = t.ids) : t'.isEmpty = t.isEmpty := by
  have hempty := congrArg List.isEmpty h
  rwa [Tree.ids, Tree.ids, Component.ids, Component.ids, List.isEmpty_map, List.isEmpty_map]
    at hempty

/-- What is taken over leaves a session listed as long as the form holds the same component. -/
theorem TakesOver.loaded {s' : Session} (h : TakesOver w s v s') (hrow : v.row? = w.row?)
    (hform : v.form.component? = w.form.component?) (hcontrols : v.controls = w.controls)
    (hl : w.Loaded s) : v.Loaded s' where
  toLists := h.lists hrow hl.toLists
  form := by
    rw [(h.lists hrow hl.toLists).currentId?, hrow, h.ids, ← hl.toLists.currentId?, hform, hl.form]
  controls := by
    rw [hcontrols, isEmpty_of_ids h.ids, hl.controls]

theorem handle_flush_none (hs : w.session? = none) : w.handle flush = (.ok (), w.stopped) := by
  have hform : w.stopped.handle flushForm = (.ok false, w.stopped) :=
    handle_flushForm_none (formComponent?_of_none hs)
  have hstyles : w.stopped.handle flushStyles = (.ok false, w.stopped) := by
    unfold flushStyles
    rw [handle_get_bind]
    have hstopped : w.stopped.session? = none := hs
    rw [hstopped]
    rfl
  have hflush : w.handle flush = w.stopped.handle (do
      let edited ← flushForm
      let styled ← flushStyles
      if edited || styled then showPreview) := rfl
  rw [hflush, handle_bind, hform]
  dsimp only
  rw [handle_bind, hstyles]
  rfl

/-- **Flushing keeps a window current.** -/
theorem Current.ensures_flush (h : w.Current) : w.Ensures flush fun _ v => v.Current := by
  cases hs : w.session? with
  | none =>
      intro _ v hv
      rw [handle_flush_none hs] at hv
      cases hv
      exact h.of_face rfl
  | some s =>
      have hfixed := (fixes_flush (f := fun w => (w.publishing, w.form, w.controls))
        (fun _ _ _ _ _ _ _ => rfl) w).ensures
      refine (Ensures.and hfixed (Window.ensures_flush hs)).mono ?_
      rintro _ v ⟨hv, hrow, s', htaken, hpictures⟩
      simp only [Prod.mk.injEq] at hv
      obtain ⟨hpublishing, hform, hcontrols⟩ := hv
      have hloaded : v.Loaded s' :=
        htaken.loaded hrow (congrArg Form.component? hform) hcontrols (h.loaded s hs)
      have hlisted := listed_of_session htaken.session (hpublishing.trans h.quiet)
        (htaken.named (h.named s hs)) hloaded
      exact hlisted.current htaken.session (hpictures (h.pictures s hs))

/-! ## Filling the list -/

/-- The components of a tree are shown, and a row, or the last one, is the current one. -/
structure Shows (v : Window) (t : Tree) (row : Nat) : Prop where
  row : v.row? = rowFor t.components row
  session : ∃ s, v.session? = some s ∧ s.tree.ids = t.ids

/-- **Filling the list makes a window listed.** -/
theorem ensures_showList_listed (hquiet : w.publishing = false) (hs : w.session? = some s)
    (hn : Named s) (row : Nat) :
    w.Ensures (showList row) fun _ v => v.Listed ∧ v.Shows s.tree row := by
  have hfixed :=
    (fixes_showList (f := publishing) (fun _ _ _ _ _ _ _ _ _ _ _ _ => rfl) w row).ensures
  refine (Ensures.and hfixed (ensures_showList hs hn row)).mono ?_
  rintro _ v ⟨hpublishing, hrow, s', hs', hids, hloaded⟩
  have hnamed : Named s' := by
    rw [Named, hids]
    exact hn
  exact ⟨listed_of_session hs' (hpublishing.trans hquiet) hnamed hloaded, hrow, s', hs', hids⟩

theorem Listed.adaptControls (h : w.Listed) : w.adaptControls.Listed where
  quiet := h.quiet
  named := h.named
  loaded s hs := by
    have hl := h.loaded s hs
    refine ⟨⟨hl.rows, hl.row⟩, hl.form, ?_⟩
    have hs : w.session? = some s := hs
    show (w.session?.any fun s => !s.tree.isEmpty) = _
    rw [hs]
    rfl

/-- **Filling everything anew makes a window current**, whatever it showed before. -/
theorem ensures_refill (hquiet : w.publishing = false) (hs : w.session? = some s) (hn : Named s)
    (row : Nat) : w.Ensures (do
      showList row
      modify Window.adaptControls
      showPreview) fun _ v => v.Current ∧ v.Shows s.tree row := by
  refine ensures_bind (ensures_showList_listed hquiet hs hn row) fun _ v hv => ?_
  obtain ⟨hlisted, hshows⟩ := hv
  refine ensures_bind (P := fun _ u => u.Listed ∧ u.Shows s.tree row)
    (ensures_modify ⟨hlisted.adaptControls, hshows.row, hshows.session⟩) fun _ u hu => ?_
  obtain ⟨hlisted, hshows⟩ := hu
  refine hlisted.ensures_showPreview.mono fun _ x hx => ?_
  obtain ⟨hcurrent, hpanel⟩ := hx
  simp only [panel, Prod.mk.injEq] at hpanel
  obtain ⟨-, hsession, -, hrow, -, -⟩ := hpanel
  exact ⟨hcurrent, hrow.trans hshows.row, hsession ▸ hshows.session⟩

/-! ## Changing the website -/

/-- An accepted change is shown by filling everything anew. -/
theorem handle_showChange (w : Window) (c : Component) (row? : Option Nat) :
    w.handle (showChange (.accepted c) row?) = w.handle (do
      showList (row?.getD (w.row?.getD 0))
      modify Window.adaptControls
      showPreview) := rfl

/-- A change that is not accepted is at most warned of. -/
theorem fixes_showChange (w : Window) {c : CivicSite.Change} (h : c.isAccepted = false)
    (row? : Option Nat) : w.Fixes face (showChange c row?) := by
  cases c with
  | accepted b => cases h
  | rejected reason => rfl
  | unmoved => rfl

end Window

/-- The row that a gesture asks for once its edit of the website was accepted, if it asks. -/
def Gesture.row? (w : Window) (c : Change) : Gesture → Option Nat
  | .press .create => some 0
  | .press .delete => some (w.row?.getD 0 - 1)
  | .press .add | .press .up | .press .down => Window.rowOf c
  | _ => none

namespace Window

variable {w v : Window} {s : Session} {g : Gesture} {e : Tree.Edit}

open Session (Operation)

theorem handle_changeCurrent {id : Text} (hid : w.currentId? = some id) (op : Text →
    Option (Store Disk) → Session → Desk Disk → Except Fault CivicSite.Change × Session × Desk Disk)
    (row? : CivicSite.Change → Option Nat) :
    w.handle (changeCurrent op row?) = w.handle (change (op id) row?) := by
  unfold changeCurrent
  rw [handle_get_bind, hid]

/-- Every edit of the website is made in the session, and then shown. -/
theorem handle_edit (hs : w.session? = some s) (h : g.edit? w s = some e) :
    ∃ u : Window, u.face = (w.edited s e).face ∧ w.handle (carryOut g) =
      match (Operation.runEdit w.cache s w.desk e).1 with
      | .error err => (.error err, u)
      | .ok c => u.handle (showChange c (g.row? w c)) := by
  cases g with
  | press c =>
      refine ⟨w.edited s e, rfl, ?_⟩
      cases c with
      | create =>
          obtain rfl := Option.some.inj h
          show w.handle createWebsite = _
          unfold createWebsite
          exact handle_change hs rfl _
      | add =>
          obtain rfl := Option.some.inj h
          show w.handle addComponent = _
          unfold addComponent
          rw [handle_get_bind]
          exact handle_change hs rfl rowOf
      | up =>
          obtain ⟨id, hid, rfl⟩ := Option.map_eq_some_iff.mp h
          show w.handle (moveComponent "up") = _
          unfold moveComponent
          rw [handle_changeCurrent hid]
          exact handle_change hs rfl rowOf
      | down =>
          obtain ⟨id, hid, rfl⟩ := Option.map_eq_some_iff.mp h
          show w.handle (moveComponent "down") = _
          unfold moveComponent
          rw [handle_changeCurrent hid]
          exact handle_change hs rfl rowOf
      | delete =>
          obtain ⟨id, hid, rfl⟩ := Option.map_eq_some_iff.mp h
          show w.handle deleteComponent = _
          unfold deleteComponent
          rw [handle_get_bind, handle_changeCurrent hid]
          exact handle_change hs rfl _
      | _ => cases h
  | chooseAlignment a =>
      obtain ⟨id, hid, rfl⟩ := Option.map_eq_some_iff.mp h
      -- the window differs from then on in what the alignment box shows
      let w' : Window := { w with alignment := a }
      have hs' : w'.session? = some s := hs
      have hid' : w'.currentId? = some id := hid
      refine ⟨w'.edited s (.align id a.name), rfl, ?_⟩
      show w'.handle alignComponent = _
      unfold alignComponent
      rw [handle_get_bind, handle_changeCurrent hid']
      exact handle_change hs' rfl _
  | _ => cases h

/-- **An edit of the website keeps a window current**, and what it asks for is the current row. -/
theorem Current.ensures_edit (hw : w.Current) (hs : w.session? = some s)
    (h : g.edit? w s = some e)
    (hids : ∀ id ∈ w.desk.ids.drawn (e.run s.tree w.desk.ids).2.2, id ≠ []) :
    w.Ensures (carryOut g) fun _ v => v.Current ∧ ∀ c, (e.run s.tree w.desk.ids).1 = .accepted c →
      v.Shows (e.run s.tree w.desk.ids).2.1
        ((g.row? w (.accepted c)).getD (w.row?.getD 0)) := by
  obtain ⟨u, hu, hhandle⟩ := handle_edit hs h
  intro a v hv
  rw [hhandle] at hv
  rcases hrun : Operation.runEdit w.cache s w.desk e with ⟨answer, s', d'⟩
  rw [hrun] at hv
  cases answer with
  | error err => cases hv
  | ok c =>
      dsimp only at hv
      obtain ⟨hanswer, htree⟩ := Operation.runEdit_answer hrun
      cases hc : c.isAccepted with
      | false =>
          have hkept := @Operation.runEdit_rejected _ w.cache s w.desk e (hanswer ▸ hc)
          rw [hrun] at hkept
          obtain ⟨rfl, rfl⟩ := Prod.mk.inj (Prod.mk.inj hkept).2
          have hsame : (w.edited s' e).face = w.face := by
            unfold edited
            rw [hrun, ← hs]
          have hcurrent : u.Current := hw.of_face (hu.trans hsame)
          refine ⟨hcurrent.ensures (fixes_showChange u hc _) a v hv, fun b hb => ?_⟩
          rw [← hanswer, hb] at hc
          cases hc
      | true =>
          cases c with
          | accepted b =>
              have hsession : u.session? = some s' := by
                have hface := congrArg (fun f => f.1.2.1) hu
                refine hface.trans ?_
                show some (Operation.runEdit w.cache s w.desk e).2.1 = _
                rw [hrun]
              have hquiet : u.publishing = false :=
                (congrArg (fun f => f.1.1) hu).trans hw.quiet
              have hrow : u.row? = w.row? := congrArg (fun f => f.1.2.2.2.1) hu
              have hn : Named s' := by
                intro id hid
                rw [htree] at hid
                exact ((Tree.gathers_run s.tree w.desk.ids e).mem hid).elim
                  (hw.named s hs id) (hids id)
              rw [handle_showChange] at hv
              obtain ⟨hcurrent, hshows⟩ := ensures_refill hquiet hsession hn _ a v hv
              rw [hrow, htree] at hshows
              refine ⟨hcurrent, fun b' hb' => ?_⟩
              cases hanswer.symm.trans hb'
              exact hshows
          | _ => cases hc

/-! ## Delivering -/

/-- What publishing a session in this turn answers, with the session and the turn that it leaves. -/
def publication (w : Window) (s : Session) : (Except Fault Deployment × Session) × Turn :=
  w.turn.exchange w.publishCaption w.publishEnabled fun n =>
    let (result, s, n) := s.publish w.webhooks.client w.options n
    ((result, s), n)

/-- Sending leaves the session as publishing it leaves it, whether that fails or not. -/
theorem handle_send (hs : w.session? = some s) :
    w.handle send = ((w.publication s).1.1.map some,
      { w with turn := (w.publication s).2, session? := some (w.publication s).1.2 }) := by
  unfold send
  rw [handle_get_bind, hs]
  dsimp only
  rw [handle_bind, handle_exchange]
  dsimp only
  rw [handle_modify_bind, handle_bind, handle_lift]
  have hpublication : (w.turn.exchange w.publishCaption w.publishEnabled fun n =>
      (((s.publish w.webhooks.client w.options n).1, (s.publish w.webhooks.client w.options n).2.1),
        (s.publish w.webhooks.client w.options n).2.2)) = w.publication s := rfl
  rw [hpublication]
  rcases (w.publication s).1.1 with e | d
  · rfl
  · rfl

/-- A session that looks like the one before may take its place. -/
theorem Current.replace (h : w.Current) (hs : w.session? = some s) {s' : Session}
    (htree : s'.tree = s.tree) (hpreview : w.previewOf s' = w.previewOf s)
    (hbundle : s'.bundle w.options = s.bundle w.options) :
    ({ w with session? := some s' } : Window).Current := by
  have hnamed : Named s' := by
    rw [Named, htree]
    exact h.named s hs
  have hlisted : ({ w with session? := some s' } : Window).Listed := by
    have hl := h.loaded s hs
    refine listed_of_session rfl h.quiet hnamed ⟨⟨?_, hl.row⟩, hl.form, ?_⟩
    · rw [htree]
      exact hl.rows
    · rw [htree]
      exact hl.controls
  have hp := h.pictures s hs
  refine hlisted.current rfl ⟨?_, ?_⟩
  · have hsame : ({ w with session? := some s' } : Window).previewOf s' = w.previewOf s :=
      hpreview
    rw [hsame]
    exact hp.preview
  · have hsame : s'.bundle ({ w with session? := some s' } : Window).options
        = s.bundle w.options := hbundle
    rw [hsame]
    exact hp.code

/-- A settlement that becomes active does not show in preview and code. -/
theorem Current.activate (h : w.Current) (hs : w.session? = some s) {s' : Session}
    (hs' : ∃ active dirty, s' = { s with
      settlement := { s.settlement with active := active }, dirty := dirty }) :
    ({ w with session? := some s' } : Window).Current := by
  obtain ⟨active, dirty, rfl⟩ := hs'
  refine h.replace hs rfl ?_ ?_
  · rfl
  · rfl

/-- While a website is being published, only the buttons know. -/
def hushed (w : Window) : Window := { w with publishing := false }

theorem ensures_attempt_send (h : w.hushed.Current) :
    w.Ensures (attempt send) fun _ v => v.hushed.Current := by
  intro r v hv
  rw [handle_attempt] at hv
  obtain rfl := (Prod.mk.inj hv).2
  cases hs : w.session? with
  | none =>
      have hsend : w.handle send = (.ok none, w) := by
        unfold send
        rw [handle_get_bind, hs]
        rfl
      rw [hsend]
      exact h
  | some s =>
      rw [handle_send hs]
      have hcurrent : w.hushed.Current := h
      have hturn : ({ w.hushed with turn := (w.publication s).2 } : Window).Current :=
        hcurrent.of_face rfl
      exact hturn.activate hs (Session.publish_session ..)

theorem Current.endPublishing (h : w.hushed.Current) : w.endPublishing.Current where
  toListed := h.toListed.adaptControls
  pictures s hs := ⟨(h.pictures s hs).preview, (h.pictures s hs).code⟩

/-- **Publishing keeps a window current.** -/
theorem Current.ensures_publish (h : w.Current) : w.Ensures publish fun _ v => v.Current := by
  unfold publish
  refine ensures_get_bind ?_
  split
  · refine ensures_bind h.ensures_flush fun _ v hv => ?_
    refine ensures_bind (P := fun _ u => u.hushed.Current) (ensures_modify ?_) fun _ v hv => ?_
    · refine hv.of_face ?_
      simp only [face, panel, hushed, hv.quiet]
      rfl
    refine ensures_bind (P := fun _ u => u.hushed.Current) (ensures_modify (hv.of_face rfl))
      fun _ v hv => ?_
    refine ensures_bind (ensures_attempt_send hv) fun r v hv => ?_
    rcases r with e | _ | deployment
    · dsimp only
      split
      · exact ensures_bind (P := fun _ u => u.hushed.Current) (ensures_modify (hv.of_face rfl))
          fun _ u hu => ensures_modify hu.endPublishing
      · exact ensures_bind (P := fun _ _ => True) (ensures_modify trivial)
          fun _ u _ => ensures_throw e
    · exact ensures_modify hv.endPublishing
    · refine ensures_bind (P := fun _ u => u.Current) (ensures_modify hv.endPublishing)
        fun _ u hu => ?_
      exact ensures_bind (P := fun _ u => u.Current) (ensures_modify (hu.of_face rfl))
        fun _ u hu => ensures_modify (hu.of_face rfl)
  · exact ensures_pure h

/-- What is exported goes to the disk, and the user is told. -/
theorem Current.ensures_exportSite (h : w.Current) : w.Ensures exportSite fun _ v => v.Current := by
  unfold exportSite
  refine ensures_get_bind ?_
  split
  · refine ensures_bind h.ensures_flush fun _ v hv => ?_
    refine ensures_bind (P := fun _ u => u.Current)
      (hv.ensures (h := ask (.directory "Export Site")) rfl) fun reply u hu => ?_
    match reply with
    | none | some [] => exact ensures_pure hu
    | some (c :: rest) => exact hu.ensures (fixes_exportTo (fun _ _ _ => rfl) u (c :: rest))
  · exact ensures_pure h

/-! ## Starting over -/

theorem named_of_empty (h : s.tree = .empty) : Named s := by
  intro id hid
  rw [h] at hid
  cases hid

/-- **Starting over keeps a window current.** -/
theorem Current.ensures_reset (h : w.Current) : w.Ensures reset fun _ v => v.Current := by
  unfold reset
  refine ensures_get_bind ?_
  split
  · rename_i hsome
    obtain ⟨s, hs⟩ := Option.isSome_iff_exists.mp hsome
    refine ensures_bind (P := fun _ v => v.Current ∧ v.session? = some s) ?_ fun reply v hv => ?_
    · exact (Ensures.and (h.ensures (h := ask resetQuestion) rfl)
        (Fixes.ensures (f := session?) rfl)).mono fun _ v hv => ⟨hv.1, hv.2.trans hs⟩
    obtain ⟨hv, hs⟩ := hv
    split
    · refine ensures_bind (P := fun _ u => u.Current ∧ u.session? = some s)
        (ensures_modify ⟨hv.of_face rfl, hs⟩) fun _ v hv => ?_
      obtain ⟨hv, hs⟩ := hv
      refine ensures_bind (P := fun _ u => u.publishing = false
        ∧ ∃ s', u.session? = some s' ∧ Named s') ?_ fun _ u hu => ?_
      · intro a u hu
        rw [handle_onSession hs] at hu
        rcases Session.reset_cases v.cache s v.desk with ⟨e, he, -⟩ | ⟨-, htree, -⟩
        · rw [he] at hu
          cases hu
        · obtain rfl := (Prod.mk.inj hu).2
          exact ⟨hv.quiet, _, rfl, named_of_empty htree⟩
      refine ensures_bind (P := fun _ u => u.publishing = false
        ∧ ∃ s', u.session? = some s' ∧ Named s') (ensures_modify hu) fun _ u hu => ?_
      obtain ⟨hquiet, s', hs', hn⟩ := hu
      exact (ensures_refill hquiet hs' hn 0).mono fun _ _ hx => hx.1
    · exact ensures_pure hv
  · exact ensures_pure h

/-! ## Opening a settlement -/

/-- A settlement is opened in a window that shows the session before until the new one is there. -/
theorem Current.ensures_startSession (h : w.Current) {id : Text} {settlement : Settlement}
    {posts : List Post}
    (hids : ∀ c ∈ Session.draftIds w.cache (Session.start settlement posts) w.desk
      ++ w.desk.ids.drawn ((Session.start settlement posts).open? w.cache w.desk).2.2.ids, c ≠ []) :
    w.Ensures (startSession id settlement posts) fun _ v => v.Current := by
  have hn : Named ((Session.start settlement posts).open? w.cache w.desk).2.1 := by
    intro c hc
    exact hids c (List.mem_append.mpr (Session.mem_open? hc))
  unfold Ensures
  rw [handle_startSession]
  refine ensures_bind (P := fun _ v => v = w.opened settlement posts)
    (ensures_lift fun _ _ => rfl) ?_
  rintro restored _ rfl
  refine ensures_bind (P := fun _ v => v.publishing = false
    ∧ v.session? = some ((Session.start settlement posts).open? w.cache w.desk).2.1) ?_ ?_
  · have hfixed := (fixes_remember (f := fun w => (w.publishing, w.session?)) (fun _ _ _ => rfl)
      (w.opened settlement posts) id).ensures
    exact hfixed.mono fun _ v hv =>
      ⟨(Prod.mk.inj hv).1.trans h.quiet, (Prod.mk.inj hv).2⟩
  rintro _ v ⟨hquiet, hs⟩
  refine ensures_bind (P := fun _ v => v.Current) ?_ fun _ v hv => ensures_pure hv
  unfold showSession
  refine ensures_bind (P := fun _ u => u = v.loadStyles) (ensures_modify rfl) ?_
  rintro _ _ rfl
  refine ensures_bind (ensures_showList_listed (w := v.loadStyles) hquiet hs hn 0) fun _ u hu => ?_
  refine ensures_bind (P := fun _ x => x.Listed) (ensures_modify ?_) fun _ x hx => ?_
  · have htitled : u.showTitle.Listed := hu.1.of_panel rfl
    exact htitled.adaptControls
  refine ensures_bind hx.ensures_showPreview fun _ x hx => ?_
  exact ensures_get_bind (ensures_modify (hx.1.of_face rfl))

/-- The ids that a gesture brings into the session: those of the components of a draft that is
opened, and those that are drawn. -/
def comingIds (w : Window) : Gesture → List Text
  | .press .openSettlement =>
    match w.reply? with
    | none => []
    | some id =>
      match w.asked.handle (flush >>= fun _ => fetch id) with
      | (.ok (settlement, posts), v) =>
        Session.draftIds v.cache (Session.start settlement posts) v.desk
          ++ v.desk.ids.drawn ((Session.start settlement posts).open? v.cache v.desk).2.2.ids
      | (.error _, _) => []
  | g =>
    match w.session? with
    | none => []
    | some s => ((g.edit? w s).map fun e => w.desk.ids.drawn (e.run s.tree w.desk.ids).2.2).getD []

/-- **Opening a settlement keeps a window current.** -/
theorem Current.ensures_askSettlement (h : w.Current)
    (hids : ∀ id ∈ w.comingIds (.press .openSettlement), id ≠ []) :
    w.Ensures askSettlement fun _ v => v.Current := by
  have hasked : w.asked.Current := h.of_face rfl
  unfold Ensures
  cases hreply : w.reply? with
  | none =>
      rw [handle_askSettlement_none hreply]
      exact ensures_pure hasked
  | some id =>
      rw [handle_askSettlement_some hreply]
      refine ensures_bind (P := fun _ v => v.Current) ?_ fun _ v hv => ensures_pure hv
      intro b v hv
      rcases hflush : w.asked.handle flush with ⟨e | u, v₁⟩
      · rw [openSettlement, handle_bind, hflush] at hv
        cases hv
      have hflushed : v₁.Current := hasked.ensures_flush u v₁ hflush
      rcases hfetch : v₁.handle (fetch id) with ⟨e | ⟨settlement, posts⟩, v₂⟩
      · have hfetched := fixes_fetch (f := face) (fun _ _ => rfl) v₁ id
        rw [Fixes, hfetch] at hfetched
        rw [openSettlement, handle_bind, hflush] at hv
        dsimp only at hv
        rw [handle_bind, handle_attempt, hfetch] at hv
        have hcurrent : v₂.Current := hflushed.of_face hfetched
        exact hcurrent.ensures (fixes_fail (fun _ _ => rfl) v₂ _ false e) b v hv
      · obtain ⟨hopen, hfetched⟩ := openSettlement_of_fetched hflush hfetch
        have hfixed := fixes_fetch (f := face) (fun _ _ => rfl) v₁ id
        rw [Fixes, hfetch] at hfixed
        rw [hopen] at hv
        have hcurrent : v₂.Current := hflushed.of_face hfixed
        refine hcurrent.ensures_startSession (fun c hc => hids c ?_) b v hv
        rw [comingIds, hreply]
        dsimp only
        rw [show w.asked.handle (flush >>= fun _ => fetch id) = _ from hfetched]
        exact hc

/-- Posts that were read anew show in the preview. -/
theorem Current.ensures_reloadPosts (h : w.Current) :
    w.Ensures reloadPosts fun _ v => v.Current := by
  unfold reloadPosts
  refine ensures_get_bind ?_
  cases hs : w.session? with
  | none => exact ensures_pure h
  | some s =>
      refine ensures_bind (P := fun _ v => v.Current ∧ v.session? = some s) ?_ fun r v hv => ?_
      · exact (Ensures.and (h.ensures (fixes_exchange (fun _ => rfl) _))
          (Fixes.ensures (f := session?) rfl)).mono fun _ v hv => ⟨hv.1, hv.2.trans hs⟩
      obtain ⟨hv, hs⟩ := hv
      cases r with
      | error e => exact hv.ensures (fixes_fail (fun _ _ => rfl) v _ () e)
      | ok posts =>
          refine ensures_bind (P := fun _ u => u.Listed) (ensures_modify ?_) fun _ u hu => ?_
          · have hl := hv.loaded s hs
            exact listed_of_session rfl hv.quiet (hv.named s hs)
              ⟨⟨hl.rows, hl.row⟩, hl.form, hl.controls⟩
          refine ensures_bind hu.ensures_showPreview fun _ x hx => ?_
          exact ensures_modify (hx.1.of_face rfl)

/-! ## Other gestures -/

theorem current_of_none (hquiet : w.publishing = false) (hs : w.session? = none) : w.Current where
  quiet := hquiet
  named _ hsome := nomatch hs.symm.trans hsome
  loaded _ hsome := nomatch hs.symm.trans hsome
  pictures _ hsome := nomatch hs.symm.trans hsome

/-- Making a row the current one keeps a window current. -/
theorem Current.ensures_select (h : w.Current) {row : Nat} (hrow : row < w.rows.length) :
    w.Ensures (select row) fun _ v => v.Current := by
  by_cases hother : w.row? ≠ some row
  · cases hs : w.session? with
    | none =>
        let w' : Window := { w with row? := some row }
        have hs' : w'.session? = none := hs
        have hselect : w.handle (select row) = w'.handle (flush >>= fun _ => modify loadForm) := by
          unfold select
          rw [handle_get_bind, if_pos hother]
          rfl
        unfold Ensures
        rw [hselect, handle_bind, handle_flush_none hs']
        exact ensures_modify (current_of_none h.quiet hs)
    | some s =>
        have hfixed := (fixes_select (f := publishing)
          (fun _ _ _ _ _ _ _ _ _ _ _ _ => rfl) w row).ensures
        have hl := h.loaded s hs
        refine (Ensures.and hfixed
          (Window.ensures_select hl.rows hs (h.named s hs) hrow hother)).mono ?_
        rintro _ v ⟨hpublishing, -, s', htaken, hloaded, hpictures⟩
        have hlisted := listed_of_session htaken.session (hpublishing.trans h.quiet)
          (htaken.named (h.named s hs)) hloaded
        exact hlisted.current htaken.session (hpictures (h.pictures s hs))
  · unfold select
    refine ensures_get_bind ?_
    rw [if_neg hother]
    exact ensures_pure h

/-- What decides about the preview may change if the preview is shown anew. -/
theorem Listed.ensures_modify_showPreview (h : w.Listed) {f : Window → Window}
    (hf : (f w).panel = w.panel) :
    w.Ensures (modify f >>= fun _ => showPreview) fun _ v => v.Current := by
  refine ensures_bind (P := fun _ v => v.Listed) (ensures_modify (h.of_panel hf)) fun _ v hv => ?_
  exact hv.ensures_showPreview.mono fun _ _ hx => hx.1

/-- Filling the code page makes a listed window current if its preview shows the session. -/
theorem Listed.ensures_showCode (h : w.Listed) (hpreview : ∀ s, w.session? = some s →
    ∃ html, w.previewOf s = .ok html ∧ w.pane.document? = some ⟨html, some "about:blank"⟩) :
    w.Ensures showCode fun _ v => v.Current := by
  have hpanel := (fixes_showCode (f := panel) (fun _ _ => rfl) w).ensures
  cases hs : w.session? with
  | none =>
      refine hpanel.mono fun _ v hv => current_of_none (h.of_panel hv).quiet ?_
      exact (congrArg (fun p => p.2.1) hv).trans hs
  | some s =>
      have hcode := Window.ensures_showCode hs (hpreview s hs)
      refine (Ensures.and hpanel hcode).mono fun _ v hv => ?_
      have hsession : v.session? = some s := (congrArg (fun p => p.2.1) hv.1).trans hs
      exact (h.of_panel hv.1).current hsession hv.2

/-- Bringing another tab to the front fills the code page if that is the one. -/
theorem Current.ensures_turnTo (h : w.Current) (t : Tab) :
    w.Ensures (turnTo t) fun _ v => v.Current := by
  unfold turnTo
  refine ensures_get_bind ?_
  split
  · refine ensures_bind (P := fun _ v => v = { w with tab := t }) (ensures_set rfl) ?_
    rintro _ _ rfl
    have hlisted : ({ w with tab := t } : Window).Listed := h.toListed.of_panel rfl
    exact hlisted.ensures_showCode fun s hs => (h.pictures s hs).preview
  · exact ensures_pure h

theorem face_typeText (f : Field) (text : Text) : (w.typeText f text).face = w.face := by
  obtain ⟨b, htyped, -⟩ := typeText_eq f text w
  rw [htyped]
  rfl

/-! ## Every gesture -/

theorem comingIds_edit (hs : w.session? = some s) (h : g.edit? w s = some e) :
    w.comingIds g = w.desk.ids.drawn (e.run s.tree w.desk.ids).2.2 := by
  have hne : g ≠ .press .openSettlement := by
    rintro rfl
    cases h
  unfold comingIds
  split
  · exact absurd rfl hne
  · rw [hs]
    dsimp only
    rw [h]
    rfl

/-- **Every gesture that is carried out to its end keeps a window current.** -/
theorem Current.ensures_carryOut (h : w.Current) (hdone : w.foresee g = .done)
    (hids : ∀ id ∈ w.comingIds g, id ≠ []) : w.Ensures (carryOut g) fun _ v => v.Current := by
  by_cases hedit : ∃ s e, w.session? = some s ∧ g.edit? w s = some e
  · obtain ⟨s, e, hs, he⟩ := hedit
    rw [comingIds_edit hs he] at hids
    exact (h.ensures_edit hs he hids).mono fun _ _ hv => hv.1
  have hnone : ∀ s, w.session? = some s → g.edit? w s = none := fun s hs =>
    Option.eq_none_iff_forall_ne_some.mpr fun e he => hedit ⟨s, e, hs, he⟩
  cases g with
  | press c =>
      cases c with
      | create | add | up | down | delete =>
          exact h.ensures (fixes_edits (fun _ _ => rfl) rfl hnone)
      | publish => exact h.ensures_publish
      | listing => exact h.toListed.ensures_modify_showPreview rfl
      | screen screen =>
          refine ensures_bind (P := fun _ v => v.Listed)
            (ensures_modify (h.toListed.of_panel rfl)) fun _ v hv => ?_
          exact hv.ensures_modify_showPreview rfl
      | openSettlement => exact h.ensures_askSettlement hids
      | reloadPosts => exact h.ensures_reloadPosts
      | exportSite => exact h.ensures_exportSite
      | reset => exact h.ensures_reset
      | quit => exact ensures_bind h.ensures_flush fun _ v hv => ensures_modify (hv.of_face rfl)
      | about => exact h.ensures (h := about) rfl
  | select row =>
      refine h.ensures_select ?_
      by_contra hrow
      rw [foresee, if_neg hrow] at hdone
      cases hdone
  | chooseKind k => exact h.ensures (h := carryOut (.chooseKind k)) rfl
  | chooseAlignment a => exact h.ensures (fixes_edits (fun _ _ => rfl) rfl hnone)
  | typeText f text =>
      exact h.ensures (h := carryOut (.typeText f text)) (face_typeText f text)
  | typeStyles text => exact h.ensures (h := carryOut (.typeStyles text)) rfl
  | typeSearch text =>
      refine ensures_get_bind ?_
      split
      · refine ensures_bind (P := fun _ v => v.Listed)
          (ensures_set (h.toListed.of_panel rfl)) fun _ v hv => ?_
        exact hv.ensures_showPreview.mono fun _ _ hx => hx.1
      · exact ensures_pure h
  | turnTo t => exact h.ensures_turnTo t
  | tick =>
      refine ensures_get_bind ?_
      split
      · exact h.ensures_flush
      · exact ensures_pure h
  | close => exact ensures_bind h.ensures_flush fun _ v hv => ensures_modify (hv.of_face rfl)

theorem Current.ensures_react (h : w.Current) (hids : ∀ id ∈ w.comingIds g, id ≠ []) :
    w.Ensures (react g) fun _ v => v.Current := by
  unfold react
  refine ensures_get_bind ?_
  split
  · exact ensures_bind (h.ensures_carryOut ‹_› hids) fun _ v hv => ensures_pure hv
  · exact ensures_pure h

end Window

end CivicSite
