import CivicSite.Proofs.Window.Change

/-!
# Flushing first, opening and starting over

Gestures that deliver the website, leave the window or turn to another component flush first. So
does opening a settlement, but then it puts another session in place of the one that was flushed,
and whatever fails before the styles and the form are filled anew leaves the texts of the old
website beside the new one, with no timer running for them. Starting over stops the timer before
it asks the cache to forget the draft, and if the cache fails the texts stay.
-/

namespace CivicSite

/-- What is asked when a settlement is to be opened. -/
def Window.settlementQuestion (w : Window) : Notice :=
  .input "Deschide localitate" "ID localitate:"
    (if w.settings.lastSettlement.isTruthy then w.settings.lastSettlement else .text "")

/-- The id of the settlement that the user is going to name, if any. -/
def Window.reply? (w : Window) : Option Text :=
  (w.turn.replies.head?.map Text.trim).filter fun id => !id.isEmpty

/-- Whether a gesture flushes before anything else. -/
def Gesture.flushes (w : Window) : Gesture → Bool
  | .select row => w.row? != some row
  | .tick => w.pending
  | .press .publish | .press .exportSite => w.session?.isSome
  | .press .openSettlement => w.reply?.isSome
  | .press .quit | .close => true
  | _ => false

namespace Window

variable {w : Window} {s : Session}

/-! ## Flushing first -/

/-- What comes after a flush may be anything that leaves the manuscript alone. -/
theorem settles_bind_leaves {α β : Type} {h : Handler α} {k : α → Handler β}
    (hd : w.writing.Distinct) (hfirst : w.Settles h)
    (hthen : ∀ (a : α) (v : Window), v.Leaves (k a)) : w.Settles (h >>= k) :=
  settles_bind hd hfirst fun a v _ hsynced => .of_eq (hthen a v) hsynced

theorem settles_close (hd : w.writing.Distinct) : w.Settles close :=
  settles_bind_leaves hd (settles_flush hd) fun _ _ => rfl

/-- What a handler settles that goes by the window it finds. -/
theorem settles_get_bind {α : Type} {k : Window → Handler α} (h : w.Settles (k w)) :
    w.Settles (get >>= k) := h.of_handle rfl Iff.rfl (handle_get_bind w k)

theorem settles_exportSite (hd : w.writing.Distinct) (hs : w.session?.isSome = true) :
    w.Settles exportSite := by
  refine settles_get_bind ?_
  rw [if_pos hs]
  refine settles_bind_leaves hd (settles_flush hd) fun _ v => ?_
  refine leaves_bind (leaves_ask v _) fun reply v _ => ?_
  match reply with
  | none | some [] => exact leaves_pure v ()
  | some (c :: rest) => exact leaves_exportTo v (c :: rest)

theorem settles_publish (hd : w.writing.Distinct) (hs : w.session?.isSome = true) :
    w.Settles publish := by
  refine settles_get_bind ?_
  rw [if_pos hs]
  refine settles_bind_leaves hd (settles_flush hd) fun _ v => ?_
  refine leaves_bind (still_publishing v true) fun _ v _ => ?_
  refine leaves_bind (leaves_notify v _) fun _ v _ => ?_
  refine leaves_bind (leaves_attempt (leaves_send v)) fun r v _ => ?_
  match r with
  | .ok none => exact still_endPublishing v
  | .ok (some deployment) =>
      refine leaves_bind (still_endPublishing v) fun _ v _ => ?_
      exact leaves_bind (leaves_report v _ _) fun _ v _ => leaves_notify v _
  | .error e =>
      dsimp only
      cases e.shown? with
      | none => exact leaves_bind (still_endPublishing v) fun _ v _ => leaves_throw v e
      | some text => exact leaves_bind (leaves_notify v _) fun _ v _ => still_endPublishing v

/-- **A gesture that flushes first keeps the manuscript**, and leaves nothing to wait unless it is
stuck. -/
theorem settles_carryOut (hd : w.writing.Distinct) {g : Gesture} (h : g.flushes w = true)
    (hg : g ≠ .press .openSettlement) : w.Settles (carryOut g) := by
  cases g with
  | press c =>
      cases c with
      | publish => exact settles_publish hd h
      | exportSite => exact settles_exportSite hd h
      | quit => exact settles_close hd
      | openSettlement => exact absurd rfl hg
      | _ => cases h
  | select row => exact settles_select hd (bne_iff_ne.mp h)
  | tick =>
      have hpending : w.pending = true := h
      refine settles_get_bind ?_
      rw [if_pos hpending]
      exact settles_flush hd
  | close => exact settles_close hd
  | _ => cases h

/-! ## Opening a settlement -/

/-- The window once the user was asked which settlement to open. -/
def asked (w : Window) : Window := (w.handle (ask w.settlementQuestion)).2

/-- The window once a new session was put in place and took up its draft. -/
def opened (v : Window) (settlement : Settlement) (posts : List Post) : Window :=
  { v with
    session? := some ((Session.start settlement posts).open? v.cache v.desk).2.1
    desk := ((Session.start settlement posts).open? v.cache v.desk).2.2 }

/-- The draft of the settlement cannot be taken up, or the settlement cannot be remembered. -/
def OpeningFails (v : Window) (id : Text) (settlement : Settlement) (posts : List Post) : Prop :=
  (∃ e, ((Session.start settlement posts).open? v.cache v.desk).1 = .error e)
    ∨ ∃ e, ((v.opened settlement posts).handle (remember id)).1 = .error e

/-- What opening a draft draws is new to the draft. -/
def FreshOpening (v : Window) (settlement : Settlement) (posts : List Post) : Prop :=
  Supply.AllNew (Session.draftIds v.cache (Session.start settlement posts) v.desk)
    (v.desk.ids.drawn ((Session.start settlement posts).open? v.cache v.desk).2.2.ids)

theorem distinct_opened {v : Window} {settlement : Settlement} {posts : List Post}
    (h : v.FreshOpening settlement posts) : (v.opened settlement posts).writing.Distinct := by
  intro m hm
  cases hm
  exact (Session.sound_open? (Session.sound_start settlement posts) h).distinct

/-- Showing a session leaves nothing to wait. -/
theorem rests_showSession (hd : w.writing.Distinct) (restored : Bool) :
    (w.handle (showSession restored)).2.writing.Distinct
      ∧ (w.handle (showSession restored)).2.writing.Synced := by
  have hcss : ∀ s, w.loadStyles.session? = some s → w.loadStyles.css = s.css := by
    intro s hs
    have hs : w.session? = some s := hs
    rw [loadStyles, hs]
    rfl
  have hrests := rests_showList (w := w.loadStyles) hd hcss 0
  unfold showSession
  rw [handle_modify_bind, writing_bind fun _ v => ?rest]
  case rest =>
    refine leaves_bind (w := v) (Eq.trans (still_adaptControls _) (still_showTitle v))
      fun _ v _ => ?_
    refine leaves_bind (leaves_showPreview v) fun _ v _ => ?_
    exact leaves_get_bind (leaves_report v _ _)
  exact ⟨hrests.keeps.distinct hd, hrests.synced⟩

theorem handle_startSession (v : Window) (id : Text) (settlement : Settlement)
    (posts : List Post) :
    v.handle (startSession id settlement posts) =
      (v.opened settlement posts).handle (do
        let restored ← liftM ((Session.start settlement posts).open? v.cache v.desk).1
        remember id
        showSession restored
        return true) := rfl

/-- Putting a new session in place leaves nothing to wait if it goes through. If it fails, what was
in the editors before is still there. -/
theorem startSession_spec {v : Window} (id : Text) {settlement : Settlement} {posts : List Post}
    (h : v.FreshOpening settlement posts) :
    (v.handle (startSession id settlement posts)).2.writing.Distinct
      ∧ (v.OpeningFails id settlement posts →
        (v.handle (startSession id settlement posts)).2.writing
          = (v.opened settlement posts).writing)
      ∧ (¬ v.OpeningFails id settlement posts →
        (v.handle (startSession id settlement posts)).2.writing.Synced) := by
  have hdistinct := distinct_opened h
  unfold OpeningFails
  rw [handle_startSession, handle_bind, handle_lift]
  cases ((Session.start settlement posts).open? v.cache v.desk).1 with
  | error e => exact ⟨hdistinct, fun _ => rfl, fun hno => absurd (.inl ⟨e, rfl⟩) hno⟩
  | ok restored =>
      dsimp only
      have hremember := leaves_remember (v.opened settlement posts) id
      rw [handle_bind]
      rcases hr : (v.opened settlement posts).handle (remember id) with ⟨e | u, v'⟩
      · rw [Leaves, hr] at hremember
        refine ⟨hremember ▸ hdistinct, fun _ => hremember, fun hno => ?_⟩
        exact absurd (.inr ⟨e, rfl⟩) hno
      · rw [Leaves, hr] at hremember
        have hrest : (v'.handle (showSession restored >>= fun _ => pure true)).2.writing
            = (v'.handle (showSession restored)).2.writing :=
          writing_bind fun _ u => leaves_pure u true
        obtain ⟨hd', hsynced⟩ := rests_showSession (w := v') (hremember ▸ hdistinct) restored
        rw [hrest]
        refine ⟨hd', fun hfails => ?_, fun _ => hsynced⟩
        rcases hfails with ⟨e, he⟩ | ⟨e, he⟩
        · cases he
        · cases he

theorem pending_flush (hd : w.writing.Distinct) : (w.handle flush).2.pending = false := by
  obtain ⟨hfree, hstuck⟩ := writing_flush hd
  by_cases h : w.Stuck
  · exact congrArg Writing.pending (hstuck h).1
  · exact congrArg Writing.pending (hfree h)

theorem Settles.waits_iff {α : Type} {h : Handler α} (hh : w.Settles h) :
    (w.handle h).2.writing.Waits ↔ ¬ w.Stuck :=
  ⟨fun hwaits hstuck => (hh.stuck hstuck).1 hwaits, fun hfree => .inl (hh.free hfree)⟩

/-- The window in which a settlement and its posts are there, once it was fetched. -/
def FetchedIn (w : Window) (id : Text) (settlement : Settlement) (posts : List Post) (v : Window) :
    Prop :=
  w.handle (flush >>= fun _ => fetch id) = (.ok (settlement, posts), v)

/-- Opening a settlement fails halfway, with texts in the editors that are not of its website. -/
def OpeningStalls (w : Window) (id : Text) : Prop :=
  ∃ settlement posts v, w.FetchedIn id settlement posts v ∧ v.OpeningFails id settlement posts
    ∧ ¬ (v.opened settlement posts).writing.Synced

theorem FetchedIn.unique {id : Text} {settlement settlement' : Settlement}
    {posts posts' : List Post} {v v' : Window} (h : w.FetchedIn id settlement posts v)
    (h' : w.FetchedIn id settlement' posts' v') :
    settlement' = settlement ∧ posts' = posts ∧ v' = v := by
  cases h.symm.trans h'
  exact ⟨rfl, rfl, rfl⟩

/-- Where the flush fails, nothing is fetched. -/
theorem openSettlement_of_flush_error (id : Text) {e : Fault} {v : Window}
    (h : w.handle flush = (.error e, v)) :
    (w.handle (openSettlement id)).2 = v ∧ ¬ w.OpeningStalls id := by
  unfold openSettlement
  rw [handle_bind, h]
  refine ⟨rfl, ?_⟩
  rintro ⟨settlement, posts, u, hfetched, -⟩
  rw [FetchedIn, handle_bind, h] at hfetched
  cases hfetched

/-- Where the settlement cannot be fetched, the session stays. -/
theorem openSettlement_of_fetch_error {id : Text} {e : Fault} {u : Unit} {v v' : Window}
    (h : w.handle flush = (.ok u, v)) (hfetch : v.handle (fetch id) = (.error e, v')) :
    (w.handle (openSettlement id)).2.writing = v.writing ∧ ¬ w.OpeningStalls id := by
  have hleaves := leaves_fetch v id
  rw [Leaves, hfetch] at hleaves
  unfold openSettlement
  rw [handle_bind, h]
  dsimp only
  rw [handle_bind, handle_attempt, hfetch]
  refine ⟨Eq.trans (leaves_fail v' _ false e) hleaves, ?_⟩
  rintro ⟨settlement, posts, u', hfetched, -⟩
  rw [FetchedIn, handle_bind, h] at hfetched
  cases hfetch.symm.trans hfetched

theorem openSettlement_of_fetched {id : Text} {u : Unit} {v v' : Window} {settlement : Settlement}
    {posts : List Post} (h : w.handle flush = (.ok u, v))
    (hfetch : v.handle (fetch id) = (.ok (settlement, posts), v')) :
    w.handle (openSettlement id) = v'.handle (startSession id settlement posts)
      ∧ w.FetchedIn id settlement posts v' := by
  unfold openSettlement FetchedIn
  rw [handle_bind, handle_bind, h]
  dsimp only
  rw [handle_bind, handle_attempt, hfetch]
  exact ⟨rfl, rfl⟩

/-- Once a settlement was fetched, it is the second half that decides. -/
theorem waits_startSession {id : Text} {v : Window} {settlement : Settlement} {posts : List Post}
    (hfetched : w.FetchedIn id settlement posts v) (hfresh : v.FreshOpening settlement posts)
    (hpending : v.pending = false) :
    (v.handle (startSession id settlement posts)).2.writing.Waits ↔ ¬ w.OpeningStalls id := by
  obtain ⟨-, hfails, hgoes⟩ := startSession_spec id hfresh
  by_cases h : v.OpeningFails id settlement posts
  · rw [hfails h]
    constructor
    · rintro (hsynced | hruns) ⟨settlement', posts', v', hfetched', -, hnot⟩
      · obtain ⟨rfl, rfl, rfl⟩ := hfetched.unique hfetched'
        exact hnot hsynced
      · exact Bool.false_ne_true (hpending.symm.trans hruns)
    · intro hno
      by_contra hwaits
      exact hno ⟨settlement, posts, v, hfetched, h, fun hsynced => hwaits (.inl hsynced)⟩
  · refine iff_of_true (.inl (hgoes h)) ?_
    rintro ⟨settlement', posts', v', hfetched', hfails', -⟩
    obtain ⟨rfl, rfl, rfl⟩ := hfetched.unique hfetched'
    exact h hfails'

theorem openSettlement_spec (hd : w.writing.Distinct) (id : Text)
    (hfresh : ∀ settlement posts v, w.FetchedIn id settlement posts v →
      v.FreshOpening settlement posts) :
    (w.handle (openSettlement id)).2.writing.Distinct
      ∧ ((w.handle (openSettlement id)).2.writing.Waits ↔ ¬ (w.Stuck ∨ w.OpeningStalls id)) := by
  have hsettles := settles_flush hd
  have hpending := pending_flush hd
  have hwaits := hsettles.waits_iff
  have hdistinct := hsettles.keeps.distinct hd
  rcases hflush : w.handle flush with ⟨e | u, v⟩
  · obtain ⟨hopen, hnone⟩ := openSettlement_of_flush_error id hflush
    rw [hflush] at hwaits hdistinct
    rw [hopen, or_iff_left hnone]
    exact ⟨hdistinct, hwaits⟩
  · have hfree : ¬ w.Stuck := fun h => by
      obtain ⟨-, e, he⟩ := hsettles.stuck h
      rw [hflush] at he
      cases he
    rw [hflush] at hpending hdistinct hwaits
    rw [or_iff_right hfree]
    rcases hfetch : v.handle (fetch id) with ⟨e | ⟨settlement, posts⟩, v'⟩
    · obtain ⟨hopen, hnone⟩ := openSettlement_of_fetch_error hflush hfetch
      rw [hopen]
      exact ⟨hdistinct, iff_of_true (hwaits.mpr hfree) hnone⟩
    · obtain ⟨hopen, hfetched⟩ := openSettlement_of_fetched hflush hfetch
      have hnew := hfresh settlement posts v' hfetched
      have hleaves := leaves_fetch v id
      rw [Leaves, hfetch] at hleaves
      have hstopped : v'.pending = false := (congrArg Writing.pending hleaves).trans hpending
      rw [hopen]
      exact ⟨(startSession_spec id hnew).1, waits_startSession hfetched hnew hstopped⟩

theorem handle_ask_settlement (w : Window) :
    w.handle (ask w.settlementQuestion) = (.ok w.turn.replies.head?, w.asked) := rfl

theorem handle_askSettlement_none (h : w.reply? = none) :
    w.handle askSettlement = (.ok (), w.asked) := by
  have hask := handle_ask_settlement w
  unfold settlementQuestion at hask
  unfold askSettlement
  rw [handle_get_bind]
  dsimp only
  rw [handle_bind, hask]
  dsimp only
  unfold reply? at h
  cases hr : w.turn.replies.head? with
  | none => rfl
  | some reply =>
      rw [hr, Option.map_some, Option.filter_some] at h
      dsimp only
      cases hid : (Text.trim reply).isEmpty with
      | true => rfl
      | false =>
          rw [hid] at h
          cases h

theorem handle_askSettlement_some {id : Text} (h : w.reply? = some id) :
    w.handle askSettlement = w.asked.handle (openSettlement id >>= fun _ => pure ()) := by
  have hask := handle_ask_settlement w
  unfold settlementQuestion at hask
  unfold askSettlement
  rw [handle_get_bind]
  dsimp only
  rw [handle_bind, hask]
  dsimp only
  unfold reply? at h
  obtain ⟨hreply, hid⟩ := Option.filter_eq_some_iff.mp h
  obtain ⟨reply, hr, rfl⟩ := Option.map_eq_some_iff.mp hreply
  rw [hr]
  dsimp only
  rw [if_pos hid]

theorem askSettlement_spec (hd : w.writing.Distinct)
    (hfresh : ∀ id settlement posts v, w.reply? = some id →
      w.asked.FetchedIn id settlement posts v → v.FreshOpening settlement posts) :
    (w.handle askSettlement).2.writing.Distinct
      ∧ (w.writing.Waits → ((w.handle askSettlement).2.writing.Waits
        ↔ ¬ ∃ id, w.reply? = some id ∧ (w.Stuck ∨ w.asked.OpeningStalls id))) := by
  cases hreply : w.reply? with
  | none =>
      rw [handle_askSettlement_none hreply]
      exact ⟨hd, fun hw => iff_of_true hw fun ⟨id, hid, _⟩ => nomatch hid⟩
  | some id =>
      obtain ⟨hdistinct, hwaits⟩ := openSettlement_spec (w := w.asked) hd id
        fun settlement posts v hf => hfresh id settlement posts v hreply hf
      rw [handle_askSettlement_some hreply, writing_bind fun _ v => leaves_pure v ()]
      refine ⟨hdistinct, fun _ => hwaits.trans (not_congr ⟨fun h => ⟨id, rfl, h⟩, ?_⟩)⟩
      rintro ⟨id', hid', h⟩
      cases hid'
      exact h

/-! ## Starting over -/

/-- The cache does not forget the draft of the session. -/
def ResetFails (w : Window) : Prop :=
  w.turn.replies.head? = some "yes" ∧ ∃ s e, w.session? = some s
    ∧ (s.reset w.cache w.desk).1 = .error e

/-- The window once the cache was told to forget the draft. -/
def forgotten (w : Window) (s : Session) : Window :=
  { (w.handle (ask resetQuestion)).2 with
    pending := false
    session? := some (s.reset w.cache w.desk).2.1
    desk := (s.reset w.cache w.desk).2.2 }

theorem handle_reset_yes (hs : w.session? = some s) (h : w.turn.replies.head? = some "yes") :
    w.handle reset =
      match (s.reset w.cache w.desk).1 with
      | .error e => (.error e, w.forgotten s)
      | .ok _ => (w.forgotten s).loadStyles.handle (do
          showList 0
          modify adaptControls
          showPreview) := by
  have hask : w.handle (ask resetQuestion)
      = (.ok w.turn.replies.head?, (w.handle (ask resetQuestion)).2) := rfl
  unfold reset forgotten
  rw [handle_get_bind, hs, Option.isSome_some, if_pos rfl, handle_bind, hask, h]
  dsimp only
  rw [if_pos (beq_self_eq_true _), handle_modify_bind]
  have hsession : ({ (w.handle (ask resetQuestion)).2 with pending := false } : Window).session?
      = some s := hs
  rw [handle_bind, handle_onSession hsession]
  have hreset : s.reset w.cache w.desk = s.reset ({ (w.handle (ask resetQuestion)).2 with
    pending := false } : Window).cache (w.handle (ask resetQuestion)).2.desk := rfl
  rw [← hreset]
  cases (s.reset w.cache w.desk).1 with
  | error e => rfl
  | ok u => rfl

/-- Without a session or the user's consent nothing happens. -/
theorem leaves_reset (h : w.session? = none ∨ w.turn.replies.head? ≠ some "yes") :
    w.Leaves reset := by
  refine leaves_get_bind ?_
  split
  · rename_i hsome
    refine leaves_bind (leaves_ask w _) fun reply v hv => ?_
    obtain rfl : reply = w.turn.replies.head? := (Except.ok.inj (Prod.mk.inj hv).1).symm
    have hno : ¬ (w.turn.replies.head? == some "yes") = true := fun hyes => by
      rcases h with hnone | hne
      · rw [hnone] at hsome
        cases hsome
      · exact hne (beq_iff_eq.mp hyes)
    rw [if_neg hno]
    exact leaves_pure v ()
  · exact leaves_pure w ()

theorem writing_forgotten (hs : w.session? = some s) (h : (s.reset w.cache w.desk).2.1 = s) :
    (w.forgotten s).writing = w.stopped.writing := by
  unfold forgotten
  rw [h, writing, writing, draft?, draft?, stopped, hs]
  rfl

/-- Showing an empty website leaves nothing to wait. -/
theorem rests_cleared (hs : w.session? = some s) (htree : s.tree = .empty) :
    (w.loadStyles.handle (do
      showList 0
      modify adaptControls
      showPreview)).2.writing.Distinct
    ∧ (w.loadStyles.handle (do
      showList 0
      modify adaptControls
      showPreview)).2.writing.Synced := by
  have hdistinct : w.loadStyles.writing.Distinct := by
    intro m hm
    cases (draft?_of_session hs).symm.trans hm
    rw [htree]
    exact List.nodup_nil
  have hcss : ∀ s', w.loadStyles.session? = some s' → w.loadStyles.css = s'.css := by
    intro s' hs'
    have hs' : w.session? = some s' := hs'
    rw [loadStyles, hs']
    rfl
  have hrests := rests_showList hdistinct hcss 0
  rw [writing_bind fun _ v => ?rest]
  case rest => exact leaves_bind (still_adaptControls v) fun _ v _ => leaves_showPreview v
  exact ⟨hrests.keeps.distinct hdistinct, hrests.synced⟩

theorem reset_spec (hd : w.writing.Distinct) :
    (w.handle reset).2.writing.Distinct ∧ (w.writing.Waits →
      ((w.handle reset).2.writing.Waits ↔ ¬ (w.ResetFails ∧ ¬ w.writing.Synced))) := by
  by_cases h : w.session? = none ∨ w.turn.replies.head? ≠ some "yes"
  · have hleaves := leaves_reset h
    rw [Leaves] at hleaves
    rw [hleaves]
    refine ⟨hd, fun hw => iff_of_true hw ?_⟩
    rintro ⟨⟨hyes, s, e, hs, -⟩, -⟩
    rcases h with hnone | hne
    · cases hs.symm.trans hnone
    · exact hne hyes
  · obtain ⟨hsome, hyes⟩ := not_or.mp h
    obtain ⟨s, hs⟩ := Option.ne_none_iff_exists'.mp hsome
    have hyes := not_not.mp hyes
    rw [handle_reset_yes hs hyes]
    rcases Session.reset_cases w.cache s w.desk with ⟨e, he, hsame⟩ | ⟨hok, htree, -⟩
    · have hfails : w.ResetFails := ⟨hyes, s, e, hs, he⟩
      rw [he]
      dsimp only
      rw [writing_forgotten hs hsame]
      -- the timer is stopped, and nothing else has happened
      refine ⟨hd, fun _ => ⟨fun hwaits hlost => hlost.2 ?_, fun hno => ?_⟩⟩
      · exact hwaits.resolve_right Bool.false_ne_true
      · by_contra hwaits
        exact hno ⟨hfails, fun hsynced => hwaits (.inl hsynced)⟩
    · rw [hok]
      obtain ⟨hdistinct, hsynced⟩ := rests_cleared (w := w.forgotten s) rfl htree
      refine ⟨hdistinct, fun _ => iff_of_true (.inl hsynced) ?_⟩
      rintro ⟨⟨-, s', e, hs', he⟩, -⟩
      cases hs.symm.trans hs'
      cases hok.symm.trans he

end Window

end CivicSite
