import CivicSite.Proofs.Window.Opening
import CivicSite.Window.Launch

/-!
# Nothing typed is lost

The two promises of the timer, over every window that gestures can lead to.

- **Own edits only** (`Window.manuscript?_react`): a gesture does to the manuscript what it says
  itself, whatever text was waiting and whatever fails on the way. Opening another settlement and
  starting over are meant to replace it.
- **What waits is waited for** (`Window.waits_react`): text that the session does not have yet
  waits for the timer, unless a gesture has stalled. The ways to stall are few (`Window.Stalls`):
  flushing that cannot save the form before it gets to the styles, a change that is shown by such
  a flush, a settlement that is opened only halfway, and a draft that the cache does not forget.

Each gesture is one of four: it flushes, it edits the website, it types, or it does nothing to what
is written.
-/

namespace CivicSite

/-- Whether a gesture types a text that the timer is for. -/
def Gesture.types : Gesture → Bool
  | .typeText _ _ | .typeStyles _ => true
  | _ => false

/-- Whether a gesture is meant to put another website in the window. -/
def Gesture.replaces : Gesture → Bool
  | .press .openSettlement | .press .reset => true
  | _ => false

namespace Window

variable {w : Window} {s : Session} {g : Gesture}

/-! ## What a gesture says -/

/-- What a gesture by itself does to the manuscript. Typing in the form edits one field of the
component that the form was filled from. -/
def revise (w : Window) (g : Gesture) (m : Manuscript) : Manuscript :=
  match g with
  | .typeText f text =>
    match w.formComponent? with
    | some c => { m with tree := (m.tree.edit c.id [(f.name, c.body.typed f text)]).2 }
    | none => m
  | .typeStyles text => { m with css := text }
  | g =>
    match w.session?.bind (g.edit? w) with
    | some e => { m with tree := (e.run m.tree w.desk.ids).2.1 }
    | none => m

/-- What a gesture draws is new: to the tree and the form, or to the draft that is opened. -/
structure Fresh (w : Window) (g : Gesture) : Prop where
  edit : ∀ s e, w.session? = some s → g.edit? w s = some e → w.FreshEdit s e
  opening : g = .press .openSettlement → ∀ id settlement posts v, w.reply? = some id →
    w.asked.FetchedIn id settlement posts v → v.FreshOpening settlement posts

/-- The gesture ends with text that waits although the timer does not run. -/
def Stalls (w : Window) : Gesture → Prop
  | .press .openSettlement => ∃ id, w.reply? = some id ∧ (w.Stuck ∨ w.asked.OpeningStalls id)
  | .press .reset => w.ResetFails ∧ w.manuscript? ≠ w.draft?
  | g => g.flushes w = true ∧ w.Stuck
    ∨ ∃ s e, w.session? = some s ∧ g.edit? w s = some e ∧ w.EditStuck s e

theorem synced_iff : w.writing.Synced ↔ w.manuscript? = w.draft? := by
  rw [Writing.Synced, manuscript?_writing]
  rfl

theorem stalls_iff (h : g.replaces = false) :
    w.Stalls g ↔ g.flushes w = true ∧ w.Stuck
      ∨ ∃ s e, w.session? = some s ∧ g.edit? w s = some e ∧ w.EditStuck s e := by
  unfold Stalls
  split
  · cases h
  · cases h
  · exact Iff.rfl

/-- A gesture that flushes first or types has no edit of the website to make. -/
theorem edit?_eq_none (h : g.flushes w = true ∨ g.types = true) : g.edit? w s = none := by
  cases g with
  | press c =>
      cases c with
      | create | add | up | down | delete => exact h.elim nofun nofun
      | _ => rfl
  | chooseAlignment a => exact h.elim nofun nofun
  | _ => rfl

theorem revise_of_edit {e : Tree.Edit} (hs : w.session? = some s) (h : g.edit? w s = some e)
    (m : Manuscript) : w.revise g m = { m with tree := (e.run m.tree w.desk.ids).2.1 } := by
  have hbind : w.session?.bind (g.edit? w) = some e := by rw [hs, Option.bind_some, h]
  cases g with
  | typeText f text | typeStyles text => cases h
  | _ =>
      simp only [revise]
      rw [hbind]

theorem revise_of_no_edit (htypes : g.types = false)
    (h : ∀ s, w.session? = some s → g.edit? w s = none) (m : Manuscript) : w.revise g m = m := by
  have hbind : w.session?.bind (g.edit? w) = none := by
    cases hs : w.session? with
    | none => rfl
    | some s => exact h s hs
  cases g with
  | typeText f text | typeStyles text => cases htypes
  | _ =>
      simp only [revise]
      rw [hbind]

/-! ## Typing -/

theorem setText_self (w : Window) (f : Field) : w.setText f (w.form.input f).text = w := by
  have hinput : (fun g => if g = f then { w.form.input g with text := (w.form.input f).text }
      else w.form.input g) = w.form.input := by
    funext g
    split
    · rename_i hgf
      rw [hgf]
    · rfl
  unfold setText
  dsimp only
  rw [hinput]

/-- What typing leaves is the text in its field, with the timer running if it matters. -/
theorem typeText_eq (f : Field) (text : Text) (w : Window) :
    ∃ b, w.typeText f text = { w.setText f text with pending := w.pending || b }
      ∧ (b = false → w.setText f text = w) := by
  unfold typeText
  split
  · rename_i hsame
    rw [Bool.and_eq_true, beq_iff_eq] at hsame
    have hself : w.setText f text = w := hsame.1 ▸ setText_self w f
    refine ⟨false, ?_, fun _ => hself⟩
    rw [hself, Bool.or_false]
  · exact ⟨true, by rw [Bool.or_true], nofun⟩

theorem manuscript?_typeText (hd : w.writing.Distinct) (f : Field) (text : Text) :
    (w.typeText f text).manuscript? = w.manuscript?.map (w.revise (.typeText f text)) := by
  obtain ⟨b, htyped, -⟩ := typeText_eq f text w
  rw [htyped]
  cases hs : w.session? with
  | none =>
      rw [manuscript?, manuscript?, hs]
      show w.session?.map _ = none
      rw [hs]
      rfl
  | some s =>
      have hn : s.tree.ids.Nodup := hd _ (draft?_of_session hs)
      have hs' :
          ({ w.setText f text with pending := w.pending || b } : Window).session? = some s := hs
      rw [manuscript?_of_session hs', manuscript?_of_session hs, Option.map_some]
      unfold revise
      cases hc : w.formComponent? with
      | none =>
          -- the form of a component that is gone is laid over nothing, before and after
          have hc' : (w.setText f text).formComponent? = none := hc
          have hset := overlay_of_absent (w := w.setText f text) hs hc'
          rw [overlay_of_absent hs hc]
          exact congrArg (fun t => some (Manuscript.mk t w.css)) hset
      | some c =>
          exact congrArg (fun t => some (Manuscript.mk t w.css)) (overlay_setText hs hn hc f text)

theorem waits_typeText (f : Field) (text : Text) (hw : w.writing.Waits) :
    (w.typeText f text).writing.Waits := by
  obtain ⟨b, htyped, hsame⟩ := typeText_eq f text w
  rw [htyped]
  cases b with
  | true => exact .inr (Bool.or_true _)
  | false =>
      rw [hsame rfl, Bool.or_false]
      exact hw

theorem manuscript?_typeStyles (w : Window) (text : Text) :
    ({ w with css := text, pending := true } : Window).manuscript?
      = w.manuscript?.map (w.revise (.typeStyles text)) := by
  rw [manuscript?, manuscript?, Option.map_map]
  rfl

/-! ## Doing nothing to what is written -/

/-- **A gesture that neither flushes nor edits nor types leaves the manuscript alone.** -/
theorem leaves_carryOut (hreplaces : g.replaces = false) (hflushes : g.flushes w = false)
    (htypes : g.types = false) (h : ∀ s, w.session? = some s → g.edit? w s = none) :
    w.Leaves (carryOut g) := by
  cases g with
  | press c =>
      cases c with
      | create | add | up | down | delete => exact fixes_edits (fun _ _ => rfl) rfl h
      | publish =>
          have hnone : ¬ w.session?.isSome = true := Bool.eq_false_iff.mp hflushes
          refine leaves_get_bind ?_
          rw [if_neg hnone]
          exact leaves_pure w ()
      | exportSite =>
          have hnone : ¬ w.session?.isSome = true := Bool.eq_false_iff.mp hflushes
          refine leaves_get_bind ?_
          rw [if_neg hnone]
          exact leaves_pure w ()
      | listing => exact leaves_turnListing w
      | screen screen => exact leaves_bind (w := w) rfl fun _ v _ => leaves_previewOn v screen
      | reloadPosts => exact leaves_reloadPosts w
      | about => exact leaves_notify w _
      | openSettlement | reset => cases hreplaces
      | quit => cases hflushes
  | select row =>
      have hrow : ¬ w.row? ≠ some row := fun hne => by
        rw [Gesture.flushes, bne_iff_ne.mpr hne] at hflushes
        cases hflushes
      refine leaves_get_bind ?_
      rw [if_neg hrow]
      exact leaves_pure w ()
  | chooseKind k => rfl
  | chooseAlignment a => exact fixes_edits (fun _ _ => rfl) rfl h
  | typeText f text | typeStyles text => cases htypes
  | typeSearch text => exact leaves_typeSearch w text
  | turnTo t => exact leaves_turnTo w t
  | tick =>
      have hpending : ¬ w.pending = true := Bool.eq_false_iff.mp hflushes
      refine leaves_get_bind ?_
      rw [if_neg hpending]
      exact leaves_pure w ()
  | close => cases hflushes

/-! ## Carrying out a gesture -/

/-- The manuscript becomes another, the ids stay distinct, and what waits waits for the timer,
except in one case. -/
structure Turns (w v : Window) (revised : Manuscript → Manuscript) (except : Prop) : Prop where
  manuscript : v.manuscript? = w.manuscript?.map revised
  distinct : v.writing.Distinct
  waits : w.writing.Waits → (v.writing.Waits ↔ ¬ except)

/-- A manuscript that a gesture does not revise may just be kept. -/
theorem Turns.of_keeps {v : Window} {except : Prop} (hd : w.writing.Distinct)
    (hkeeps : w.writing.Keeps v.writing) (hrevise : ∀ m, w.revise g m = m)
    (hwaits : w.writing.Waits → (v.writing.Waits ↔ ¬ except)) :
    Turns w v (w.revise g) except where
  manuscript := by
    rw [← manuscript?_writing, hkeeps.manuscript, manuscript?_writing, funext hrevise]
    exact (Option.map_id' ..).symm
  distinct := hkeeps.distinct hd
  waits := hwaits

/-- Typing never stalls. -/
theorem not_stalls_of_types (h : g.types = true) : ¬ w.Stalls g := by
  intro hstalls
  cases g with
  | typeText f text | typeStyles text =>
      rcases (stalls_iff rfl).mp hstalls with ⟨hflushes, -⟩ | ⟨s, e, -, he, -⟩
      · cases hflushes
      · cases he
  | _ => cases h

theorem turns_of_types (hd : w.writing.Distinct) (h : g.types = true) :
    Turns w (w.handle (carryOut g)).2 (w.revise g) (w.Stalls g) := by
  have hfree : ¬ w.Stalls g := not_stalls_of_types h
  cases g with
  | typeText f text =>
      have htyped : (w.handle (carryOut (.typeText f text))).2 = w.typeText f text := rfl
      rw [htyped]
      refine ⟨manuscript?_typeText hd f text, ?_, fun hw => iff_of_true ?_ hfree⟩
      · obtain ⟨b, heq, -⟩ := typeText_eq f text w
        rw [heq]
        exact hd
      · exact waits_typeText f text hw
  | typeStyles text =>
      exact ⟨manuscript?_typeStyles w text, hd, fun _ => iff_of_true (.inr rfl) hfree⟩
  | _ => cases h

theorem turns_of_flushes (hd : w.writing.Distinct) (hreplaces : g.replaces = false)
    (h : g.flushes w = true) : Turns w (w.handle (carryOut g)).2 (w.revise g) (w.Stalls g) := by
  have hne : g ≠ .press .openSettlement := fun heq => by
    rw [heq] at hreplaces
    cases hreplaces
  have htypes : g.types = false := by
    cases g with
    | typeText f text | typeStyles text => cases h
    | _ => rfl
  have hnone : ∀ s, g.edit? w s = none := fun s => edit?_eq_none (.inl h)
  have hstalls : w.Stalls g ↔ w.Stuck := by
    rw [stalls_iff hreplaces]
    constructor
    · rintro (⟨-, hstuck⟩ | ⟨s, e, -, he, -⟩)
      · exact hstuck
      · cases (hnone s).symm.trans he
    · exact fun hstuck => .inl ⟨h, hstuck⟩
  have hsettles := settles_carryOut hd h hne
  refine .of_keeps hd hsettles.keeps (revise_of_no_edit htypes fun s _ => hnone s) fun _ => ?_
  exact hsettles.waits_iff.trans (not_congr hstalls.symm)

theorem turns_of_edit (hs : w.session? = some s) (hd : w.writing.Distinct) {e : Tree.Edit}
    (hreplaces : g.replaces = false) (h : g.edit? w s = some e) (hf : w.FreshEdit s e) :
    Turns w (w.handle (carryOut g)).2 (w.revise g) (w.Stalls g) := by
  have hstalls : w.Stalls g ↔ w.EditStuck s e := by
    rw [stalls_iff hreplaces]
    constructor
    · rintro (⟨hflushes, -⟩ | ⟨s', e', hs', he', hstuck⟩)
      · cases (edit?_eq_none (s := s) (.inl hflushes)).symm.trans h
      · cases hs.symm.trans hs'
        cases h.symm.trans he'
        exact hstuck
    · exact fun hstuck => .inr ⟨s, e, hs, h, hstuck⟩
  obtain ⟨hmanuscript, hdistinct, hwaits⟩ := changes_carryOut hs hd h hf
  refine ⟨?_, hdistinct, fun hw => (hwaits hw).trans (not_congr hstalls.symm)⟩
  rw [← manuscript?_writing, hmanuscript, manuscript?_of_session hs, Option.map_some,
    revise_of_edit hs h]

theorem turns_of_leaves (hd : w.writing.Distinct) (hreplaces : g.replaces = false)
    (hflushes : g.flushes w = false) (htypes : g.types = false)
    (h : ∀ s, w.session? = some s → g.edit? w s = none) :
    Turns w (w.handle (carryOut g)).2 (w.revise g) (w.Stalls g) := by
  have hfree : ¬ w.Stalls g := by
    rw [stalls_iff hreplaces]
    rintro (⟨hfirst, -⟩ | ⟨s, e, hs, he, -⟩)
    · cases hflushes.symm.trans hfirst
    · cases (h s hs).symm.trans he
  have hleaves := leaves_carryOut hreplaces hflushes htypes h
  obtain ⟨hkeeps, hwaits⟩ := Guards.of_eq hleaves
  refine .of_keeps hd hkeeps (revise_of_no_edit htypes h) fun hw => ?_
  exact (hwaits hw).trans (not_congr (iff_of_false not_false hfree))

theorem turns_carryOut (hd : w.writing.Distinct) (hf : w.Fresh g) (hreplaces : g.replaces = false) :
    Turns w (w.handle (carryOut g)).2 (w.revise g) (w.Stalls g) := by
  cases htypes : g.types with
  | true => exact turns_of_types hd htypes
  | false =>
      cases hflushes : g.flushes w with
      | true => exact turns_of_flushes hd hreplaces hflushes
      | false =>
          by_cases h : ∃ s e, w.session? = some s ∧ g.edit? w s = some e
          · obtain ⟨s, e, hs, he⟩ := h
            exact turns_of_edit hs hd hreplaces he (hf.edit s e hs he)
          · refine turns_of_leaves hd hreplaces hflushes htypes fun s hs => ?_
            refine Option.eq_none_iff_forall_ne_some.mpr fun e he => ?_
            exact h ⟨s, e, hs, he⟩

/-! ## Reacting -/

/-- A gesture that something stands in the way of does nothing. -/
theorem handle_react_of_ne (h : w.foresee g ≠ .done) : (w.handle (react g)).2 = w := by
  unfold react
  rw [handle_get_bind]
  split
  · exact absurd ‹_› h
  · rfl

/-- What nothing stands in the way of is carried out. -/
theorem handle_react_of_done (h : w.foresee g = .done) :
    w.handle (react g) = w.handle (carryOut g >>= fun _ => pure .done) := by
  unfold react
  rw [handle_get_bind, h]

theorem handle_react_done (h : w.foresee g = .done) :
    (w.handle (react g)).2 = (w.handle (carryOut g)).2 := by
  rw [handle_react_of_done h, handle_bind]
  rcases w.handle (carryOut g) with ⟨e | a, v⟩
  · rfl
  · rfl

/-- **A gesture does to the manuscript what it says, and nothing else**, whether it is carried
out to its end or stops at a fault. -/
theorem manuscript?_react (hd : w.writing.Distinct) (hf : w.Fresh g) (h : g.replaces = false) :
    (w.handle (react g)).2.manuscript?
      = w.manuscript?.map fun m => if w.foresee g = .done then w.revise g m else m := by
  by_cases hdone : w.foresee g = .done
  · rw [handle_react_done hdone, (turns_carryOut hd hf h).manuscript]
    simp only [if_pos hdone]
  · rw [handle_react_of_ne hdone]
    simp only [if_neg hdone]
    exact (Option.map_id' ..).symm

theorem guarded_carryOut (hd : w.writing.Distinct) (hf : w.Fresh g) :
    (w.handle (carryOut g)).2.writing.Distinct
      ∧ (w.writing.Waits → ((w.handle (carryOut g)).2.writing.Waits ↔ ¬ w.Stalls g)) := by
  by_cases hopen : g = .press .openSettlement
  · subst hopen
    exact askSettlement_spec hd (hf.opening rfl)
  · by_cases hreset : g = .press .reset
    · subst hreset
      obtain ⟨hdistinct, hwaits⟩ := reset_spec hd
      refine ⟨hdistinct, fun hw => (hwaits hw).trans (not_congr ?_)⟩
      exact and_congr_right fun _ => not_congr synced_iff
    · have hreplaces : g.replaces = false := by
        unfold Gesture.replaces
        split
        · exact absurd rfl hopen
        · exact absurd rfl hreset
        · rfl
      obtain ⟨-, hdistinct, hwaits⟩ := turns_carryOut hd hf hreplaces
      exact ⟨hdistinct, hwaits⟩

theorem distinct_react (hd : w.writing.Distinct) (hf : w.Fresh g) :
    (w.handle (react g)).2.writing.Distinct := by
  by_cases hdone : w.foresee g = .done
  · rw [handle_react_done hdone]
    exact (guarded_carryOut hd hf).1
  · rw [handle_react_of_ne hdone]
    exact hd

/-- **What waits goes on waiting for the timer, unless the gesture stalls.** -/
theorem waits_react (hd : w.writing.Distinct) (hf : w.Fresh g) (hw : w.writing.Waits) :
    (w.handle (react g)).2.writing.Waits ↔ ¬ (w.foresee g = .done ∧ w.Stalls g) := by
  by_cases hdone : w.foresee g = .done
  · rw [handle_react_done hdone, (guarded_carryOut hd hf).2 hw]
    exact not_congr (iff_and_self.mpr fun _ => hdone)
  · rw [handle_react_of_ne hdone]
    exact iff_of_true hw fun h => hdone h.1

/-! ## Every window -/

/-- The windows that gestures lead to, each gesture one that is allowed. Between two gestures the
user gets ready to reply, the network to answer, and other programs may change the disk. -/
inductive Reachable (allowed : Window → Gesture → Prop) : Window → Prop where
  | built {settings : Settings} {year : Int} {desk : Desk Disk} {turn : Turn} {w : Window}
      (h : build settings year desk turn = .ok w) : Reachable allowed w
  | between {w : Window} (h : Reachable allowed w) (turn : Turn) (disk : Disk) (visible : Bool) :
      Reachable allowed { w.withDisk disk with turn := turn, visible := visible }
  | reacts {w : Window} {g : Gesture} (h : Reachable allowed w) (hf : w.Fresh g)
      (hallowed : allowed w g) : Reachable allowed (w.handle (react g)).2

/-- A gesture that is carried out and stalls. -/
def Lapses (w : Window) (g : Gesture) : Prop := w.foresee g = .done ∧ w.Stalls g

theorem Reachable.mono {allowed allowed' : Window → Gesture → Prop} (h : w.Reachable allowed)
    (hmono : ∀ v g, allowed v g → allowed' v g) : w.Reachable allowed' := by
  induction h with
  | built h => exact .built h
  | between _ turn disk visible ih => exact ih.between turn disk visible
  | reacts _ hf hallowed ih => exact ih.reacts hf (hmono _ _ hallowed)

theorem of_bind_ok {α β : Type} {x : Except Fault α} {f : α → Except Fault β} {b : β}
    (h : (x >>= f) = .ok b) : ∃ a, x = .ok a ∧ f a = .ok b := by
  cases x with
  | error e => cases h
  | ok a => exact ⟨a, rfl, h⟩

/-- What can be checked of a result can be said of what it is. -/
theorem exists_ok_of_any {α : Type} {r : Except Fault α} {p : α → Bool}
    (h : r.toOption.any p = true) : ∃ a, r = .ok a ∧ p a = true := by
  cases r with
  | error e => cases h
  | ok a => exact ⟨a, rfl, h⟩

theorem session?_of_build {settings : Settings} {year : Int} {desk : Desk Disk} {turn : Turn}
    (h : build settings year desk turn = .ok w) : w.session? = none := by
  obtain ⟨backend, -, h⟩ := of_bind_ok h
  obtain ⟨drafts, -, h⟩ := of_bind_ok h
  obtain ⟨webhooks, -, h⟩ := of_bind_ok h
  cases h
  rfl

/-- Starting the program is opening a settlement in the window that was built. -/
theorem Reachable.of_begin {allowed : Window → Gesture → Prop} {settings : Settings} {year : Int}
    {desk : Desk Disk} {turn : Turn} (h : begin settings year desk turn = .ok w)
    (hf : ∀ v, build settings year desk turn = .ok v →
      { v with visible := true }.Fresh (.press .openSettlement))
    (hallowed : ∀ v, build settings year desk turn = .ok v →
      allowed { v with visible := true } (.press .openSettlement)) : w.Reachable allowed := by
  obtain ⟨v, hv, h⟩ := of_bind_ok h
  obtain ⟨u, -, h⟩ := of_bind_ok h
  cases h
  have hbuilt : v.Reachable allowed := .built hv
  have hstart := hbuilt.between v.turn v.desk.stored true
  have hopened := hstart.reacts (hf v hv) (hallowed v hv)
  rw [handle_react_done rfl] at hopened
  exact hopened

theorem Reachable.distinct {allowed : Window → Gesture → Prop} (h : w.Reachable allowed) :
    w.writing.Distinct := by
  induction h with
  | built h =>
      intro m hm
      cases (congrArg (Option.map _) (session?_of_build h)).symm.trans hm
  | between _ turn disk visible ih => exact ih
  | reacts _ hf _ ih => exact distinct_react ih hf

/-- **As long as no gesture lapses, what waits waits for the timer.** -/
theorem Reachable.waits (h : w.Reachable fun w g => ¬ w.Lapses g) : w.writing.Waits := by
  induction h with
  | @built _ _ _ _ w h =>
      refine .inl (synced_iff.mpr ?_)
      rw [manuscript?, draft?, session?_of_build h]
      rfl
  | between _ turn disk visible ih => exact ih
  | reacts h hf hallowed ih => exact (waits_react h.distinct hf ih).mpr hallowed

/-- Whether a settlement can be fetched, taken up with new ids, and remembered. -/
def opensWhole (w : Window) (id : Text) : Bool :=
  match w.asked.handle (flush >>= fun _ => fetch id) with
  | (.ok (settlement, posts), v) =>
    let taken := (Session.start settlement posts).open? v.cache v.desk
    let held := Session.draftIds v.cache (Session.start settlement posts) v.desk
    let drawn := v.desk.ids.drawn taken.2.2.ids
    taken.1.isOk && ((v.opened settlement posts).handle (remember id)).1.isOk
      && decide (drawn.Nodup ∧ ∀ x ∈ drawn, x ∉ held)
  | (.error _, _) => false

theorem of_opensWhole {id : Text} {settlement : Settlement} {posts : List Post} {v : Window}
    (h : w.opensWhole id = true) (hf : w.asked.FetchedIn id settlement posts v) :
    v.FreshOpening settlement posts ∧ ¬ v.OpeningFails id settlement posts := by
  have hfetched : w.asked.handle (flush >>= fun _ => fetch id) = (.ok (settlement, posts), v) := hf
  unfold opensWhole at h
  rw [hfetched] at h
  simp only [Bool.and_eq_true, decide_eq_true_eq] at h
  obtain ⟨⟨htaken, hremembered⟩, hnew⟩ := h
  refine ⟨Supply.allNew_iff.mpr hnew, ?_⟩
  rintro (⟨e, he⟩ | ⟨e, he⟩)
  · rw [he] at htaken
    cases htaken
  · rw [he] at hremembered
    cases hremembered

/-- A first settlement that is opened as a whole. -/
theorem Reachable.opens (h : w.Reachable fun w g => ¬ w.Lapses g) (hs : w.session? = none)
    {id : Text} (hid : w.reply? = some id) (hwhole : w.opensWhole id = true) :
    (w.handle (react (.press .openSettlement))).2.Reachable fun w g => ¬ w.Lapses g := by
  refine h.reacts ⟨fun s e _ he => ?_, fun _ id' settlement posts v hid' hf => ?_⟩ ?_
  · cases he
  · cases hid.symm.trans hid'
    exact (of_opensWhole hwhole hf).1
  · rintro ⟨-, id', hid', ⟨-, s, hsome, -⟩ | ⟨settlement, posts, v, hf, hfails, -⟩⟩
    · cases hs.symm.trans hsome
    · cases hid.symm.trans hid'
      exact (of_opensWhole hwhole hf).2 hfails

theorem waits_iff : w.writing.Waits ↔ (w.manuscript? ≠ w.draft? → w.pending = true) := by
  rw [Writing.Waits, synced_iff]
  exact or_iff_not_imp_left

/-- **Debouncing, exactly.** Whatever happened before, a gesture does to the manuscript what it
says itself. While no gesture has lapsed, the timer runs whenever the manuscript is not what the
session has, and this ends with the first gesture that lapses. -/
theorem debouncing_exact (h : w.Reachable fun _ _ => True) (hf : w.Fresh g) :
    (g.replaces = false → (w.handle (react g)).2.manuscript?
      = w.manuscript?.map fun m => if w.foresee g = .done then w.revise g m else m)
    ∧ (w.Reachable (fun w g => ¬ w.Lapses g) →
      (w.manuscript? ≠ w.draft? → w.pending = true)
      ∧ (w.Lapses g ↔ (w.handle (react g)).2.manuscript? ≠ (w.handle (react g)).2.draft?
          ∧ (w.handle (react g)).2.pending = false)) := by
  refine ⟨manuscript?_react h.distinct hf, fun hcalm => ⟨waits_iff.mp hcalm.waits, ?_⟩⟩
  have hwaits := (waits_react h.distinct hf hcalm.waits).not
  rw [not_not, waits_iff] at hwaits
  rw [Lapses, ← hwaits, Classical.not_imp, Bool.not_eq_true]

/-- Styles that are typed for a settlement that was just opened for the first time. -/
theorem debouncing_exact_styles :
    let ids : Supply := .ofSequence fun n => List.replicate n 'c'
    let answer (body : String) : Outcome := .answer 200 body.toUTF8
    let place := answer
      "\x7b\"data\":\x7b\"data\":\x7b\"id\":\"a\",\"name\":\"A\",\"lat\":0,\"lng\":0\x7d\x7d\x7d"
    let posts := answer "\x7b\"data\":\x7b\"data\":[]\x7d\x7d"
    ∃ w, build .default 2024 ⟨ids, ids, .empty⟩
        (.start ["a"] ⟨[place, posts], .failure "", []⟩) = .ok w
      ∧ let opened := (w.handle (react (.press .openSettlement))).2
        let styled := (opened.handle (react (.typeStyles "p"))).2
        opened.session?.isSome = true
        ∧ styled.manuscript? = opened.manuscript?.map (fun m => { m with css := "p" })
        ∧ (styled.manuscript? ≠ styled.draft? → styled.pending = true) := by
  have hgeneral : ∀ (w : Window) (text : Text), w.Reachable (fun w g => ¬ w.Lapses g) →
      let styled := (w.handle (react (.typeStyles text))).2
      styled.manuscript? = w.manuscript?.map (fun m => { m with css := text })
        ∧ (styled.manuscript? ≠ styled.draft? → styled.pending = true) := by
    intro w text h
    have hstyles := debouncing_exact (g := .typeStyles text) (h.mono fun _ _ _ => trivial)
      ⟨fun s e _ he => (nomatch he), nofun⟩
    refine ⟨hstyles.1 rfl, fun hne => ?_⟩
    by_contra hpending
    refine not_stalls_of_types rfl ((hstyles.2 h).2.mpr ⟨hne, ?_⟩).2
    exact Bool.eq_false_iff.mpr hpending
  intro ids answer place posts
  have hbuilt : (build .default 2024 ⟨ids, ids, .empty⟩
      (.start ["a"] ⟨[place, posts], .failure "", []⟩)).toOption.any (fun w : Window =>
        w.reply? == some "a" && w.opensWhole "a"
          && (w.handle (react (.press .openSettlement))).2.session?.isSome) = true := by
    decide +kernel
  obtain ⟨w, hw, hchecked⟩ := exists_ok_of_any hbuilt
  simp only [Bool.and_eq_true, beq_iff_eq] at hchecked
  obtain ⟨⟨hreply, hwhole⟩, hsession⟩ := hchecked
  have hopened := (Reachable.built hw).opens (session?_of_build hw) hreply hwhole
  exact ⟨w, hw, hsession, hgeneral _ _ hopened⟩

end Window

end CivicSite
