import CivicSite.Proofs.Window.Handover

/-!
# What gestures write

Three things reach the disk: the drafts of the session, the websites that are exported, and the
settings, once a settlement was opened. Everything that the window does about a gesture is made of
these (`stores_react`), and what holds of each of them holds of every gesture. So where the files
are kept is settled when the window is built, and in every window that can be reached the drafts
lie in the data directory of the settings (`Reachable.drafts_eq`).
-/

namespace CivicSite

/-! ## Writing drafts -/

namespace Store

/-- A disk is as it was, or the file of a store was written anew. -/
def Rewrites (p : Path) (d d' : Disk) : Prop := d' = d ∨ ∃ es, d' = (writeEntries d p es).2

theorem rewrites_set (p : Path) (key value : Text) (d : Disk) :
    Rewrites p d ((file p).set key value d).2 := by
  unfold file
  dsimp only
  cases recoverEntries d p with
  | error e => exact .inl rfl
  | ok es => exact .inr ⟨_, rfl⟩

theorem rewrites_delete (p : Path) (key : Text) (d : Disk) :
    Rewrites p d ((file p).delete key d).2 := by
  unfold file
  dsimp only
  cases recoverEntries d p with
  | error e => exact .inl rfl
  | ok es =>
      dsimp only
      split
      · exact .inr ⟨_, rfl⟩
      · exact .inl rfl

end Store

namespace Session

variable {p : Path}

theorem rewrites_save (s : Session) (d : Desk Disk) :
    Store.Rewrites p d.stored (s.save (some (Store.file p)) d).2.2.stored := by
  rw [(save_eq (Store.file p) s d).1]
  exact Store.rewrites_set p _ _ d.stored

/-- Every change of the tree is saved as a draft, if anything is. -/
theorem rewrites_apply (s : Session) (change : Change) (tree : Tree) (d : Desk Disk) :
    Store.Rewrites p d.stored (s.apply (some (Store.file p)) change tree d).2.2.stored := by
  unfold apply
  dsimp only
  split
  · exact rewrites_save _ d
  · exact .inl rfl

theorem rewrites_setCss (s : Session) (text : Text) (d : Desk Disk) :
    Store.Rewrites p d.stored (s.setCss (some (Store.file p)) text d).2.2.stored := by
  unfold setCss
  split
  · exact .inl rfl
  · exact rewrites_save _ d

theorem rewrites_reset (s : Session) (d : Desk Disk) :
    Store.Rewrites p d.stored (s.reset (some (Store.file p)) d).2.2.stored := by
  have hclear := clear_eq (Store.file p) s.settlement.id d.stored
  have hdeleted := Store.rewrites_delete p (DraftCache.keyFor s.settlement.id) d.stored
  unfold reset
  dsimp only at hclear ⊢
  rw [hclear]
  split
  · rename_i hr
    exact (Prod.mk.inj hr).2 ▸ hdeleted
  · rename_i hr
    exact (Prod.mk.inj hr).2 ▸ hdeleted

end Session

namespace Window

variable {α β : Type} {w v : Window} {id : Text}

/-! ## What is written, piece by piece -/

/-- From one window to another drafts were written, websites exported, and settlements remembered,
one after another. -/
inductive Stores : Window → List Text → Window → Prop where
  | drafts {w v : Window} (hsettings : v.settings = w.settings) (hdrafts : v.drafts = w.drafts)
      (hdisk : Store.Rewrites w.drafts w.desk.stored v.desk.stored) : Stores w [] v
  | website (w : Window) (s : Site) (dir : Path) :
      Stores w [] (w.withDisk (s.exportTo dir w.desk.stored).2)
  | settings (w : Window) {id : Text} (hgiven : id.isEmpty = false) (hid : id.isEncodable = true) :
      Stores w [id] (w.remembered id)
  | trans {w v u : Window} {ids ids' : List Text} (h : Stores w ids v) (h' : Stores v ids' u) :
      Stores w (ids ++ ids') u

/-- The settings, and what is stored and where. -/
def kept (w : Window) : Settings × Path × Disk := (w.settings, w.drafts, w.desk.stored)

theorem stores_of_kept (h : v.kept = w.kept) : Stores w [] v := by
  obtain ⟨hsettings, h⟩ := Prod.mk.inj h
  obtain ⟨hdrafts, hdisk⟩ := Prod.mk.inj h
  exact .drafts hsettings hdrafts (.inl hdisk)

/-- A handler that spares the settings: it remembers no settlement. -/
def Spares (w : Window) (h : Handler α) : Prop := Stores w [] (w.handle h).2

theorem spares_of_fixes {h : Handler α} (hfixes : w.Fixes kept h) : w.Spares h :=
  stores_of_kept hfixes

theorem spares_pure (w : Window) (a : α) : w.Spares (pure a : Handler α) := stores_of_kept rfl

theorem spares_modify {g : Window → Window} (h : (g w).kept = w.kept) :
    w.Spares (modify g : Handler Unit) := stores_of_kept h

theorem spares_set (h : v.kept = w.kept) : w.Spares (set v : Handler Unit) := stores_of_kept h

theorem spares_get_bind {k : Window → Handler β} (h : w.Spares (k w)) : w.Spares (get >>= k) := h

theorem spares_bind {h : Handler α} {k : α → Handler β} (hfirst : w.Spares h)
    (hthen : ∀ (a : α) (v : Window), v.Spares (k a)) : w.Spares (h >>= k) :=
  handle_bind_induct (R := fun w v => Stores w [] v) (fun h h' => h.trans h') hfirst
    fun a v _ => hthen a v

theorem spares_onSession {op : Option (Store Disk) → Session → Desk Disk →
    Except Fault α × Session × Desk Disk} (hop : ∀ p s d,
      Store.Rewrites p d.stored (op (some (Store.file p)) s d).2.2.stored) (w : Window) :
    w.Spares (onSession op) := by
  unfold Spares
  cases hs : w.session? with
  | none =>
      rw [handle_onSession_none hs]
      exact stores_of_kept rfl
  | some s =>
      rw [handle_onSession hs]
      exact .drafts rfl rfl (hop w.drafts s w.desk)

/-! ## Flushing and showing -/

theorem spares_showPreview (w : Window) : w.Spares showPreview :=
  spares_of_fixes (fixes_showPreview (fun _ _ _ => rfl) w)

theorem spares_flushForm (w : Window) : w.Spares flushForm := by
  have hrelabel (w : Window) (id : Text) : (w.relabel id).kept = w.kept := by
    unfold relabel
    split <;> rfl
  refine spares_get_bind ?_
  split
  · exact spares_pure w false
  · split
    · exact spares_pure w false
    · refine spares_bind (spares_onSession (fun p s d => s.rewrites_apply _ _ d) w)
        fun answer v => ?_
      split
      · exact spares_bind (spares_modify (hrelabel v _)) fun _ v => spares_pure v true
      · exact spares_pure v false

theorem spares_flushStyles (w : Window) : w.Spares flushStyles := by
  refine spares_get_bind ?_
  split
  · exact spares_pure w false
  · split
    · exact spares_pure w false
    · exact spares_bind (spares_onSession (fun p s d => s.rewrites_setCss _ d) w) fun _ v =>
        spares_pure v true

theorem spares_flush (w : Window) : w.Spares flush := by
  refine spares_bind (spares_modify rfl) fun _ v => ?_
  refine spares_bind (spares_flushForm v) fun edited v => ?_
  refine spares_bind (spares_flushStyles v) fun styled v => ?_
  split
  · exact spares_showPreview v
  · exact spares_pure v ()

theorem spares_select (w : Window) (row : Nat) : w.Spares (select row) := by
  refine spares_get_bind ?_
  split
  · refine spares_bind (spares_set rfl) fun _ v => ?_
    exact spares_bind (spares_flush v) fun _ v => spares_modify rfl
  · exact spares_pure w ()

theorem spares_showList (w : Window) (row : Nat) : w.Spares (showList row) := by
  refine spares_get_bind (spares_bind (spares_set rfl) fun _ v => ?_)
  dsimp only
  split
  · exact spares_bind (spares_select v _) fun _ v => spares_modify rfl
  · exact spares_modify rfl

/-! ## Changing and delivering -/

theorem spares_showChange (w : Window) (c : CivicSite.Change) (row? : Option Nat) :
    w.Spares (showChange c row?) := by
  cases c with
  | accepted component =>
      refine spares_get_bind (spares_bind (spares_showList w _) fun _ v => ?_)
      exact spares_bind (spares_modify rfl) fun _ v => spares_showPreview v
  | rejected reason => exact stores_of_kept rfl
  | unmoved => exact stores_of_kept rfl

theorem spares_change {op : Option (Store Disk) → Session → Desk Disk →
    Except Fault CivicSite.Change × Session × Desk Disk} (hop : ∀ p s d,
      Store.Rewrites p d.stored (op (some (Store.file p)) s d).2.2.stored)
    (row? : CivicSite.Change → Option Nat) (w : Window) : w.Spares (change op row?) := by
  refine spares_bind (spares_onSession hop w) fun c v => ?_
  split
  · exact spares_showChange v _ _
  · exact spares_pure v ()

theorem spares_changeCurrent {op : Text → Option (Store Disk) → Session → Desk Disk →
    Except Fault CivicSite.Change × Session × Desk Disk} (hop : ∀ id p s d,
      Store.Rewrites p d.stored (op id (some (Store.file p)) s d).2.2.stored)
    (row? : CivicSite.Change → Option Nat) (w : Window) : w.Spares (changeCurrent op row?) := by
  refine spares_get_bind ?_
  split
  · exact spares_change (hop _) row? w
  · exact spares_pure w ()

theorem spares_reset (w : Window) : w.Spares reset := by
  refine spares_get_bind ?_
  split
  · refine spares_bind (h := ask resetQuestion) (stores_of_kept rfl) fun reply v => ?_
    split
    · refine spares_bind (spares_modify rfl) fun _ v => ?_
      refine spares_bind (spares_onSession (fun p s d => s.rewrites_reset d) v) fun _ v => ?_
      refine spares_bind (spares_modify rfl) fun _ v => ?_
      refine spares_bind (spares_showList v 0) fun _ v => ?_
      exact spares_bind (spares_modify rfl) fun _ v => spares_showPreview v
    · exact spares_pure v ()
  · exact spares_pure w ()

theorem spares_exportTo (w : Window) (dir : Text) : w.Spares (exportTo dir) := by
  refine spares_get_bind ?_
  split
  · exact spares_pure w ()
  · rename_i s _
    unfold Spares
    rw [handle_bind, handle_lift]
    cases s.bundle w.options with
    | error e => exact stores_of_kept rfl
    | ok site =>
        refine Stores.trans (.website w site (Path.ofText dir)) (spares_of_fixes ?_)
        split
        · exact fixes_bind (fixes_modify rfl) fun _ v _ => fixes_modify rfl
        · exact fixes_modify rfl
        · exact fixes_throw _ _

theorem spares_exportSite (w : Window) : w.Spares exportSite := by
  refine spares_get_bind ?_
  split
  · refine spares_bind (spares_flush w) fun _ v => ?_
    refine spares_bind (h := ask (.directory "Export Site")) (stores_of_kept rfl) fun reply v => ?_
    split
    · exact spares_pure v ()
    · exact spares_pure v ()
    · exact spares_exportTo v _
  · exact spares_pure w ()

theorem spares_send (w : Window) : w.Spares send := by
  refine spares_of_fixes (fixes_get_bind ?_)
  split
  · exact fixes_pure w none
  · refine fixes_bind (fixes_exchange (fun _ => rfl) _) fun r v _ => ?_
    refine fixes_bind (fixes_modify rfl) fun _ v _ => ?_
    exact fixes_bind (fixes_lift v _) fun _ v _ => fixes_pure v _

theorem spares_publish (w : Window) : w.Spares publish := by
  refine spares_get_bind ?_
  split
  · refine spares_bind (spares_flush w) fun _ v => ?_
    refine spares_bind (spares_modify rfl) fun _ v => ?_
    refine spares_bind (spares_modify rfl) fun _ v => ?_
    refine spares_bind (h := attempt send) (spares_send v) fun r v => ?_
    split
    · exact spares_modify rfl
    · refine spares_bind (spares_modify rfl) fun _ v => ?_
      exact spares_bind (spares_modify rfl) fun _ v => spares_modify rfl
    · split
      · exact spares_bind (spares_modify rfl) fun _ v => spares_modify rfl
      · exact spares_bind (spares_modify rfl) fun _ v => spares_of_fixes (fixes_throw v _)
  · exact spares_pure w ()

theorem spares_reloadPosts (w : Window) : w.Spares reloadPosts := by
  refine spares_get_bind ?_
  split
  · exact spares_pure w ()
  · refine spares_bind (spares_of_fixes (fixes_exchange (fun _ => rfl) _)) fun r v => ?_
    split
    · exact spares_of_fixes (fixes_fail (fun _ _ => rfl) v _ () _)
    · refine spares_bind (spares_modify rfl) fun _ v => ?_
      exact spares_bind (spares_showPreview v) fun _ v => spares_modify rfl

/-! ## Opening settlements -/

theorem spares_showSession (w : Window) (restored : Bool) : w.Spares (showSession restored) := by
  refine spares_bind (spares_modify rfl) fun _ v => ?_
  refine spares_bind (spares_showList v 0) fun _ v => ?_
  refine spares_bind (spares_modify rfl) fun _ v => ?_
  refine spares_bind (spares_showPreview v) fun _ v => ?_
  exact spares_get_bind (spares_modify rfl)

/-- Taking up a draft only reads. -/
theorem kept_opened (v : Window) (settlement : Settlement) (posts : List Post) :
    (v.opened settlement posts).kept = v.kept := by
  have hstored := (Session.open?_file v.drafts (Session.start settlement posts) v.desk).1
  exact congrArg (fun disk => (v.settings, v.drafts, disk)) hstored

/-- A settlement is remembered once its draft was taken up. -/
theorem stores_startSession (hgiven : id.isEmpty = false) (hid : id.isEncodable = true)
    (v : Window) (settlement : Settlement) (posts : List Post) :
    Stores v (if ((Session.start settlement posts).open? v.cache v.desk).1.isOk then [id] else [])
      (v.handle (startSession id settlement posts)).2 := by
  have hopened : Stores v [] (v.opened settlement posts) :=
    stores_of_kept (kept_opened v settlement posts)
  have hremembered : Stores v [id] ((v.opened settlement posts).remembered id) :=
    hopened.trans (.settings _ hgiven hid)
  cases hopen : ((Session.start settlement posts).open? v.cache v.desk).1 with
  | error e =>
      rw [handle_startSession_of_unread hopen, ← opened_of_error hopen]
      exact hopened
  | ok b =>
      rw [handle_startSession_of_read hopen]
      cases ((v.opened settlement posts).handle (remember id)).1 with
      | error e => exact hremembered
      | ok u =>
          refine hremembered.trans ?_
          exact spares_bind (spares_showSession _ b) fun _ v => spares_pure v true

/-- A settlement is fetched by an id that has a place in a link. -/
theorem isEncodable_of_fetch {r : Settlement × List Post} (h : w.handle (fetch id) = (.ok r, v)) :
    id.isEncodable = true := by
  refine Classical.byContradiction fun hnot => ?_
  unfold fetch at h
  rw [handle_get_bind, handle_bind, handle_exchange] at h
  dsimp only at h
  have hrefused : (w.turn.exchange w.publishCaption w.publishEnabled
      (w.backend.getSettlement id)).1 = .error .unencodable := by
    unfold Turn.exchange Backend.getSettlement
    rw [Bool.eq_false_iff.mpr hnot]
    rfl
  rw [hrefused, handle_bind, handle_lift] at h
  cases h

/-- Whether a settlement is opened: it can be fetched, and its draft can be taken up. -/
def takesUp (w : Window) (id : Text) : Bool :=
  match w.handle (flush >>= fun _ => fetch id) with
  | (.ok (settlement, posts), v) =>
    ((Session.start settlement posts).open? v.cache v.desk).1.isOk
  | (.error _, _) => false

theorem takesUp_of_flush_error {e : Fault} (h : w.handle flush = (.error e, v)) :
    w.takesUp id = false := by
  unfold takesUp
  rw [handle_bind, h]

theorem takesUp_of_fetch_error {u : Unit} {e : Fault} {v' : Window}
    (h : w.handle flush = (.ok u, v)) (hfetch : v.handle (fetch id) = (.error e, v')) :
    w.takesUp id = false := by
  unfold takesUp
  rw [handle_bind, h]
  dsimp only
  rw [hfetch]

theorem takesUp_of_fetched {settlement : Settlement} {posts : List Post}
    (h : w.FetchedIn id settlement posts v) :
    w.takesUp id = ((Session.start settlement posts).open? v.cache v.desk).1.isOk := by
  unfold takesUp
  rw [show w.handle (flush >>= fun _ => fetch id) = (.ok (settlement, posts), v) from h]

/-- Where the settlement cannot be fetched, the user is told so at most. -/
theorem handle_openSettlement_of_fetch_error {u : Unit} {e : Fault} {v' : Window}
    (h : w.handle flush = (.ok u, v)) (hfetch : v.handle (fetch id) = (.error e, v')) :
    w.handle (openSettlement id)
      = v'.handle (fail "Localitatea nu a putut fi încărcată" false e) := by
  unfold openSettlement
  rw [handle_bind, h]
  dsimp only
  rw [handle_bind, handle_attempt, hfetch]

theorem stores_openSettlement (hgiven : id.isEmpty = false) (w : Window) :
    Stores w (if w.takesUp id then [id] else []) (w.handle (openSettlement id)).2 := by
  have hflushed : Stores w [] (w.handle flush).2 := spares_flush w
  rcases hflush : w.handle flush with ⟨e | u, v⟩
  · rw [hflush] at hflushed
    rw [(openSettlement_of_flush_error id hflush).1, takesUp_of_flush_error hflush]
    exact hflushed
  · rw [hflush] at hflushed
    have hfetched : Stores v [] (v.handle (fetch id)).2 :=
      spares_of_fixes (fixes_fetch (fun _ _ => rfl) v id)
    rcases hfetch : v.handle (fetch id) with ⟨e | ⟨settlement, posts⟩, v'⟩
    · rw [hfetch] at hfetched
      rw [handle_openSettlement_of_fetch_error hflush hfetch, takesUp_of_fetch_error hflush hfetch]
      refine hflushed.trans (hfetched.trans ?_)
      exact spares_of_fixes (fixes_fail (fun _ _ => rfl) v' _ false e)
    · rw [hfetch] at hfetched
      obtain ⟨hopen, hfetches⟩ := openSettlement_of_fetched hflush hfetch
      rw [hopen, takesUp_of_fetched hfetches]
      have hid : id.isEncodable = true := isEncodable_of_fetch hfetch
      exact hflushed.trans (hfetched.trans (stores_startSession hgiven hid v' settlement posts))

/-- What the network answers for a settlement that has no posts. -/
def answersForA : List CivicSite.Outcome :=
  [.answer 200 (String.toUTF8
      "\x7b\"data\":\x7b\"data\":\x7b\"id\":\"a\",\"name\":\"A\",\"lat\":0,\"lng\":0\x7d\x7d\x7d"),
    .answer 200 (String.toUTF8 "\x7b\"data\":\x7b\"data\":[]\x7d\x7d")]

/-- What the network answers for another one. -/
def answersForB : List CivicSite.Outcome :=
  [.answer 200 (String.toUTF8
      "\x7b\"data\":\x7b\"data\":\x7b\"id\":\"b\",\"name\":\"B\",\"lat\":0,\"lng\":0\x7d\x7d\x7d"),
    .answer 200 (String.toUTF8 "\x7b\"data\":\x7b\"data\":[]\x7d\x7d")]

/-! ## Gestures -/

/-- The settlement that a gesture opens, if any. -/
def opens (w : Window) : Gesture → List Text
  | .press .openSettlement => (w.reply?.filter w.asked.takesUp).toList
  | _ => []

theorem stores_askSettlement (w : Window) :
    Stores w (w.opens (.press .openSettlement)) (w.handle askSettlement).2 := by
  have hasked : Stores w [] w.asked := stores_of_kept rfl
  rw [opens]
  cases hreply : w.reply? with
  | none =>
      rw [handle_askSettlement_none hreply]
      exact hasked
  | some id =>
      have hgiven : id.isEmpty = false := by
        unfold reply? at hreply
        exact (Bool.not_eq_true' _).mp (Option.filter_eq_some_iff.mp hreply).2
      have hopened := hasked.trans (stores_openSettlement hgiven w.asked)
      have hlist : ((some id).filter w.asked.takesUp).toList
          = if w.asked.takesUp id then [id] else [] := by
        rw [Option.filter_some]
        split <;> rfl
      have hsame : (w.handle askSettlement).2 = (w.asked.handle (openSettlement id)).2 := by
        rw [handle_askSettlement_some hreply, handle_bind]
        rcases w.asked.handle (openSettlement id) with ⟨e | a, v⟩ <;> rfl
      rw [hlist, hsame]
      exact hopened

/-- Commands other than opening a settlement remember none. -/
theorem spares_perform (w : Window) {c : Command} (hc : c ≠ .openSettlement) :
    w.Spares (perform c) := by
  cases c with
  | create => exact spares_change (fun p s d => s.rewrites_apply _ _ { d with ids := _ }) _ w
  | add =>
      refine spares_get_bind ?_
      exact spares_change (fun p s d => s.rewrites_apply _ _ { d with ids := _ }) _ w
  | up | down => exact spares_changeCurrent (fun id p s d => s.rewrites_apply _ _ d) _ w
  | delete =>
      exact spares_get_bind (spares_changeCurrent (fun id p s d => s.rewrites_apply _ _ d) _ w)
  | publish => exact spares_publish w
  | listing => exact spares_bind (spares_modify rfl) fun _ v => spares_showPreview v
  | screen s =>
      refine spares_bind (spares_modify rfl) fun _ v => ?_
      exact spares_bind (spares_modify rfl) fun _ v => spares_showPreview v
  | openSettlement => exact absurd rfl hc
  | reloadPosts => exact spares_reloadPosts w
  | exportSite => exact spares_exportSite w
  | reset => exact spares_reset w
  | quit => exact spares_bind (spares_flush w) fun _ v => spares_modify rfl
  | about => exact stores_of_kept rfl

theorem stores_carryOut (w : Window) (g : Gesture) :
    Stores w (w.opens g) (w.handle (carryOut g)).2 := by
  cases g with
  | press c =>
      by_cases hc : c = .openSettlement
      · subst hc
        exact stores_askSettlement w
      · have hnone : w.opens (.press c) = [] := by
          cases c with
          | openSettlement => exact absurd rfl hc
          | _ => rfl
        rw [hnone]
        exact spares_perform w hc
  | select row => exact spares_select w row
  | chooseKind k => exact stores_of_kept rfl
  | chooseAlignment a =>
      refine spares_bind (spares_modify rfl) fun _ v => spares_get_bind ?_
      exact spares_changeCurrent (fun id p s d => s.rewrites_apply _ _ d) _ v
  | typeText field text =>
      have hkept : (w.typeText field text).kept = w.kept := by
        unfold typeText
        split <;> rfl
      exact spares_modify hkept
  | typeStyles text => exact stores_of_kept rfl
  | typeSearch text =>
      refine spares_get_bind ?_
      split
      · exact spares_bind (spares_set rfl) fun _ v => spares_showPreview v
      · exact spares_pure w ()
  | turnTo t =>
      refine spares_get_bind ?_
      split
      · refine spares_bind (spares_set rfl) fun _ v => ?_
        exact spares_of_fixes (fixes_showCode (fun _ _ => rfl) v)
      · exact spares_pure w ()
  | tick =>
      refine spares_get_bind ?_
      split
      · exact spares_flush w
      · exact spares_pure w ()
  | close => exact spares_bind (spares_flush w) fun _ v => spares_modify rfl

/-- **A gesture writes drafts and websites, and remembers the settlement that it opens.** -/
theorem stores_react (w : Window) (g : Gesture) :
    Stores w (w.opens g) (w.handle (react g)).2 := by
  by_cases h : w.foresee g = .done
  · rw [handle_react_done h]
    exact stores_carryOut w g
  · have hnone : w.opens g = [] := by
      unfold opens
      split
      · exact absurd rfl h
      · rfl
    rw [handle_react_of_ne h, hnone]
    exact stores_of_kept rfl

/-! ## Where files are kept -/

/-- The file of the drafts, and the data directory that the settings name. -/
def home (w : Window) : Path × Option Path := (w.drafts, w.settings.dataDir)

/-- **Nothing that is written changes where files are kept.** -/
theorem Stores.home {ids : List Text} (h : Stores w ids v) : v.home = w.home := by
  induction h with
  | drafts hsettings hdrafts _ => rw [Window.home, Window.home, hsettings, hdrafts]
  | website w s dir => rfl
  | settings w _ _ => rfl
  | trans _ _ ih ih' => exact ih'.trans ih

theorem home_flush (w : Window) : w.Fixes home flush := Stores.home (spares_flush w)

theorem drafts_of_build {settings : Settings} {year : Int} {desk : Desk Disk} {turn : Turn}
    (h : build settings year desk turn = .ok w) :
    w.drafts = w.settings.directory.child "drafts.json" := by
  obtain ⟨backend, -, h⟩ := of_bind_ok h
  obtain ⟨drafts, hdrafts, h⟩ := of_bind_ok h
  obtain ⟨webhooks, -, h⟩ := of_bind_ok h
  cases h
  exact Settings.draftsPath_eq_ok hdrafts

theorem drafts_of_home (hhome : v.home = w.home)
    (h : w.drafts = w.settings.directory.child "drafts.json") :
    v.drafts = v.settings.directory.child "drafts.json" := by
  obtain ⟨hdrafts, hdir⟩ := Prod.mk.inj hhome
  rw [hdrafts, h, Settings.directory, Settings.directory, hdir]

/-- **The drafts lie in the data directory.** -/
theorem Reachable.drafts_eq {allowed : Window → Gesture → Prop} (h : w.Reachable allowed) :
    w.drafts = w.settings.directory.child "drafts.json" := by
  induction h with
  | built h => exact drafts_of_build h
  | between _ turn disk visible ih => exact ih
  | @reacts v g _ _ _ ih => exact drafts_of_home (stores_react v g).home ih

end Window

end CivicSite
