import CivicSite.Proofs.Store.Refinement
import CivicSite.Proofs.Window.Frame

/-!
# What a settlement is opened as

The two outcomes of opening a settlement, over every window.

- Opened: the session has what the cache restores, with the form of the old session laid over it.
  That is just what the cache restores, and the stored draft stays as it was, unless the draft has a
  component with the id that the form was filled from and another text in it.
- Not opened: nothing but what was shown and sent has changed as long as the settlement was not
  fetched. After that the old session is gone whatever fails, and if the draft cannot be read, the
  next flush brings the old styles into the new session.
-/

namespace CivicSite

namespace Window

variable {w v : Window} {s : Session} {id : Text} {settlement : Settlement} {posts : List Post}

/-! ## What is restored -/

/-- What the cache has for a settlement: the tree and the styles of its draft, nothing where there
is no draft that can be read. -/
def restored (w : Window) (settlement : Text) : Manuscript :=
  match (DraftCache.load (Store.file w.drafts) settlement w.desk.stored).1 with
  | .ok (some draft) => ⟨(Tree.ofList draft.components w.desk.ids).1, draft.css⟩
  | _ => ⟨.empty, ""⟩

/-- The text that is stored as the draft of a settlement. -/
def storedText (w : Window) (settlement : Text) : Except Fault (Option Text) :=
  ((Store.file w.drafts).get (DraftCache.keyFor settlement) w.desk.stored).1

/-- The session that opening puts in place. -/
def successor (w : Window) (settlement : Settlement) (posts : List Post) : Session :=
  ((Session.start settlement posts).open? w.cache w.desk).2.1

theorem successor_eq (w : Window) (settlement : Settlement) (posts : List Post) :
    (w.successor settlement posts).settlement = settlement
      ∧ (w.successor settlement posts).posts = Post.sorted posts
      ∧ (w.successor settlement posts).tree = (w.restored settlement.id).tree
      ∧ (w.successor settlement posts).css = (w.restored settlement.id).css := by
  have hopen :=
    Session.open?_eq_takeUp (Store.file w.drafts) (Session.start settlement posts) w.desk
  have hsuccessor : w.successor settlement posts = _ := congrArg (·.2.1) hopen
  have hid : (Session.start settlement posts).settlement.id = settlement.id := rfl
  rw [hsuccessor, restored, hid]
  rcases DraftCache.load (Store.file w.drafts) settlement.id w.desk.stored
    with ⟨e | _ | draft, stored⟩
  · exact ⟨rfl, rfl, rfl, rfl⟩
  · exact ⟨rfl, rfl, rfl, rfl⟩
  · exact ⟨rfl, rfl, rfl, rfl⟩

/-! ## Settlements that are not opened -/

theorem fail_ne_true (w : Window) (lead : Text) (e : Fault) :
    (w.handle (fail lead false e)).1 ≠ .ok true := by
  unfold fail
  cases e.shown? with
  | none => exact fun h => nomatch h
  | some text => exact fun h => nomatch h

/-- Where the settlement is not fetched, nothing but what was shown and sent changes. -/
theorem openSettlement_of_unfetched
    (h : ¬ ∃ settlement posts v, w.FetchedIn id settlement posts v) :
    (w.handle (openSettlement id)).1 ≠ .ok true
      ∧ ∃ t, (w.handle (openSettlement id)).2 = { (w.handle flush).2 with turn := t } := by
  rcases hflush : w.handle flush with ⟨e | _, u⟩
  · have hopen : w.handle (openSettlement id) = (.error e, u) := by
      unfold openSettlement
      rw [handle_bind, hflush]
    rw [hopen]
    exact ⟨fun h => (nomatch h), u.turn, rfl⟩
  · obtain ⟨t, hfetched⟩ := fetch_turn u id
    rcases hfetch : u.handle (fetch id) with ⟨e | ⟨settlement, posts⟩, v⟩
    · rw [hfetch] at hfetched
      obtain rfl : v = { u with turn := t } := hfetched
      have hopen : w.handle (openSettlement id) = ({ u with turn := t } : Window).handle
          (fail "Localitatea nu a putut fi încărcată" false e) := by
        unfold openSettlement
        rw [handle_bind, hflush]
        dsimp only
        rw [handle_bind, handle_attempt, hfetch]
      rw [hopen]
      exact ⟨fail_ne_true _ _ e, _, congrFun (fixes_fail (f := apart) (fun _ _ => rfl) _ _ _ _) _⟩
    · refine absurd ⟨settlement, posts, v, ?_⟩ h
      rw [FetchedIn, handle_bind, hflush]
      exact hfetch

/-- A settlement that is fetched is started in a window that differs only in what was sent. -/
theorem FetchedIn.starts (h : w.FetchedIn id settlement posts v) :
    w.handle (openSettlement id) = v.handle (startSession id settlement posts)
      ∧ ∃ t, v = { (w.handle flush).2 with turn := t } := by
  obtain ⟨hflush, hfetch⟩ := h.of_flush
  obtain ⟨t, hturn⟩ := fetch_turn (w.handle flush).2 id
  rw [hfetch] at hturn
  exact ⟨(openSettlement_of_fetched (Prod.ext hflush rfl) hfetch).1, t, hturn⟩

/-- The draft of a settlement that was fetched cannot be taken up. -/
theorem FetchedIn.unread (h : w.FetchedIn id settlement posts v) {e : Fault}
    (he : ((Session.start settlement posts).open? v.cache v.desk).1 = .error e) :
    w.handle (openSettlement id)
      = (.error e, { v with session? := some (Session.start settlement posts) }) :=
  h.starts.1.trans (handle_startSession_of_unread he)

/-- A settlement that was fetched cannot be remembered. -/
theorem FetchedIn.unremembered (h : w.FetchedIn id settlement posts v) {b : Bool} {e : Fault}
    (hb : ((Session.start settlement posts).open? v.cache v.desk).1 = .ok b)
    (he : ((v.opened settlement posts).handle (remember id)).1 = .error e) :
    w.handle (openSettlement id) = (.error e, (v.opened settlement posts).remembered id) :=
  h.starts.1.trans (handle_startSession_of_unremembered hb he)

/-- The session of a settlement that was fetched is shown. -/
theorem FetchedIn.shown (h : w.FetchedIn id settlement posts v) {b : Bool}
    (hb : ((Session.start settlement posts).open? v.cache v.desk).1 = .ok b)
    (hok : ((v.opened settlement posts).handle (remember id)).1 = .ok ()) :
    let u := (v.opened settlement posts).remembered id
    (w.handle (openSettlement id)).2.holdings = u.loadStyles.taken (v.successor settlement posts)
      ∧ ∀ a, (w.handle (openSettlement id)).1 = .ok a →
          ∃ c, (u.formTaken (v.successor settlement posts)).1 = .ok c := by
  intro u
  rw [h.starts.1]
  exact takes_startSession hb hok

/-- A session without components takes over nothing but the styles. -/
theorem draft?_flush_of_empty (hs : w.session? = some s) (htree : s.tree = .empty) :
    (w.handle flush).2.draft? = some ⟨.empty, w.css⟩ := by
  have hbare : w.Bare := by
    intro s' hs'
    cases hs.symm.trans hs'
    rw [htree]
    rfl
  have hd : w.writing.Distinct := by
    intro m hm
    cases (draft?_of_session hs).symm.trans hm
    rw [htree]
    exact List.nodup_nil
  have hoverlay := hbare.overlay s hs
  have hflush := congrArg Writing.draft? ((writing_flush hd).1 hbare.not_stuck)
  have htaken : w.stopped.writing.takeForm.takeStyles.draft?
      = some ⟨w.form.overlay.tree s.tree, w.css⟩ := by
    simp only [Writing.takeStyles, Writing.takeForm]
    rw [show w.stopped.writing.draft? = some ⟨s.tree, s.css⟩ from draft?_of_session hs]
    rfl
  rw [htaken, hoverlay, htree] at hflush
  exact hflush

/-- Wherever the showing stops, the session is the new one, and the styles are its own. -/
theorem session?_of_taken {u : Window} (hs : u.session? = some s)
    (h : w.holdings = u.loadStyles.taken s) :
    ∃ s', w.session? = some s' ∧ s'.settlement = s.settlement ∧ w.settings = u.settings
      ∧ w.css = s'.css := by
  obtain ⟨hsettlement, hcss⟩ := formTaken_session u.loadStyles s
  have hloaded : u.loadStyles.css = s.css := by
    rw [loadStyles, hs]
    rfl
  refine ⟨(u.loadStyles.formTaken s).2.1, congrArg Holdings.session? h, hsettlement,
    congrArg Holdings.settings h, ?_⟩
  rw [hcss, ← hloaded]
  exact congrArg Holdings.css h

/-- **How the window is left where a settlement is not opened.** As long as it was not fetched,
nothing is lost. Where its draft cannot be taken up, an empty session stands beside the editors of
the old one, and the next flush brings the old styles into it. Where the settlement cannot be
remembered, the draft stands beside them. Anything that fails later fails with the new styles. -/
theorem failed_opening_exact (w : Window) (id : Text) :
    let u := (w.handle flush).2
    let answer := (w.handle (openSettlement id)).1
    let after := (w.handle (openSettlement id)).2
    ((¬ ∃ settlement posts v, w.FetchedIn id settlement posts v) →
      answer ≠ .ok true ∧ ∃ t, after = { u with turn := t })
    ∧ ∀ settlement posts v, w.FetchedIn id settlement posts v →
      let taken := ((Session.start settlement posts).open? u.cache u.desk).1
      let remembering := (v.opened settlement posts).handle (remember id)
      (∀ e, taken = .error e → answer = .error e
        ∧ after = { u with turn := v.turn, session? := some (Session.start settlement posts) }
        ∧ (after.handle flush).2.draft? = some ⟨.empty, u.css⟩)
      ∧ ∀ b, taken = .ok b →
        after.settings.lastSettlement = .text id
          ∧ ∃ s, after.session? = some s ∧ s.settlement = settlement
            ∧ (∀ e, remembering.1 = .error e → answer = .error e
                ∧ s = u.successor settlement posts
                ∧ after.rows = u.rows ∧ after.form = u.form ∧ after.css = u.css)
            ∧ (remembering.1 = .ok () → after.css = s.css) := by
  intro u answer after
  refine ⟨openSettlement_of_unfetched, ?_⟩
  intro settlement posts v hfetched taken remembering
  obtain ⟨-, t, rfl⟩ := hfetched.starts
  refine ⟨fun e he => ?_, fun b hb => ?_⟩
  · obtain ⟨hanswer, hafter⟩ := Prod.ext_iff.mp (hfetched.unread he)
    refine ⟨hanswer, hafter, ?_⟩
    show ((w.handle (openSettlement id)).2.handle flush).2.draft? = _
    rw [hafter]
    exact draft?_flush_of_empty rfl rfl
  · have hsettlement := (successor_eq u settlement posts).1
    rcases hremember : remembering.1 with e | _
    · obtain ⟨hanswer, hafter⟩ := Prod.ext_iff.mp (hfetched.unremembered hb hremember)
      refine ⟨congrArg (fun v => v.settings.lastSettlement) hafter, u.successor settlement posts,
        congrArg Window.session? hafter, hsettlement, fun e' he' => ?_, fun hok => nomatch hok⟩
      obtain rfl := Except.error.inj he'
      refine ⟨hanswer, rfl, ?_, ?_, ?_⟩
      · exact (congrArg Window.rows hafter).trans rfl
      · exact (congrArg Window.form hafter).trans rfl
      · exact (congrArg Window.css hafter).trans rfl
    · obtain ⟨s', hs', hsame, hsettings, hcss⟩ :=
        session?_of_taken rfl (hfetched.shown hb hremember).1
      refine ⟨congrArg Settings.lastSettlement hsettings, s', hs', hsame.trans hsettlement, ?_, ?_⟩
      · exact fun e he => nomatch he
      · exact fun _ => hcss

/-- Whether a settlement can be fetched, and taking up its draft stops at a fault. -/
def faultsAt (w : Window) (id : Text) (e : Fault) : Bool :=
  match w.handle (flush >>= fun _ => fetch id) with
  | (.ok (settlement, posts), _) =>
    decide (((Session.start settlement posts).open? (w.handle flush).2.cache
      (w.handle flush).2.desk).1 = .error e)
  | (.error _, _) => false

/-- Styles that were typed before a settlement with an unreadable draft was opened. -/
theorem failed_opening_exact_unread :
    let ids : Supply := .ofSequence fun n => List.replicate n 'c'
    let drafts : String := "\x7b\"website-draft:a\":
      \"\x7b\\\"components\\\":[\x7b\\\"type\\\":\\\"header\\\","
      ++ "\\\"position\\\":1e999\x7d]\x7d\"\x7d"
    let disk := (Disk.empty.put ⟨["data"]⟩ .directory).put ⟨["data", "drafts.json"]⟩
      (.file drafts.toUTF8)
    ∃ w, build { Settings.default with dataDir := some ⟨["data"]⟩ } 2024 ⟨ids, ids, disk⟩
        (.start [] ⟨answersForA, .failure "", []⟩) = .ok w
      ∧ let styled := (w.handle (react (.typeStyles "p"))).2
        let r := styled.handle (openSettlement "a")
        r.1 = .error .tooLarge ∧ (r.2.handle flush).2.draft? = some ⟨.empty, "p"⟩ := by
  have hgeneral : ∀ (w : Window) (css : Text), (w.handle flush).2.css = css →
      w.faultsAt "a" .tooLarge = true →
      let r := w.handle (openSettlement "a")
      r.1 = .error .tooLarge ∧ (r.2.handle flush).2.draft? = some ⟨.empty, css⟩ := by
    intro w css hcss hchecked
    unfold faultsAt at hchecked
    rcases hfetched : w.handle (flush >>= fun _ => fetch "a") with ⟨e | ⟨settlement, posts⟩, v⟩
    · rw [hfetched] at hchecked
      cases hchecked
    · rw [hfetched] at hchecked
      have hunread := ((failed_opening_exact w "a").2 settlement posts v hfetched).1 _
        (of_decide_eq_true hchecked)
      rw [hcss] at hunread
      exact ⟨hunread.1, hunread.2.2⟩
  intro ids drafts disk
  have hbuilt : (build { Settings.default with dataDir := some ⟨["data"]⟩ } 2024
      ⟨ids, ids, disk⟩ (.start [] ⟨answersForA, .failure "", []⟩)).toOption.any (fun w : Window =>
        let styled := (w.handle (react (.typeStyles "p"))).2
        decide ((styled.handle flush).2.css = "p") && styled.faultsAt "a" .tooLarge) = true := by
    decide +kernel
  obtain ⟨w, hw, hchecked⟩ := exists_ok_of_any hbuilt
  rw [Bool.and_eq_true, decide_eq_true_eq] at hchecked
  exact ⟨w, hw, hgeneral _ _ hchecked.1 hchecked.2⟩

/-! ## Settlements that are opened -/

/-- An opened settlement was fetched, its draft taken up, and the settlement remembered. -/
theorem opened_cases (h : (w.handle (openSettlement id)).1 = .ok true) :
    ∃ settlement posts v b, w.FetchedIn id settlement posts v
      ∧ ((Session.start settlement posts).open? v.cache v.desk).1 = .ok b
      ∧ ((v.opened settlement posts).handle (remember id)).1 = .ok () := by
  by_cases hfetched : ∃ settlement posts v, w.FetchedIn id settlement posts v
  · obtain ⟨settlement, posts, v, hfetched⟩ := hfetched
    refine ⟨settlement, posts, v, ?_⟩
    rcases htaken : ((Session.start settlement posts).open? v.cache v.desk).1 with e | b
    · rw [hfetched.unread htaken] at h
      cases h
    · refine ⟨b, hfetched, rfl, ?_⟩
      rcases hremember : ((v.opened settlement posts).handle (remember id)).1 with e | _
      · rw [hfetched.unremembered htaken hremember] at h
        cases h
      · rfl
  · exact absurd h (openSettlement_of_unfetched hfetched).1

/-- The drafts after a settlement was remembered are those before. -/
theorem sameFile_remembered (hdrafts : v.drafts = v.settings.directory.child "drafts.json")
    (hdir : v.settings.dataDir = none → v.desk.stored.HasDirectory v.settings.directory)
    (id : Text) (settlement : Settlement) (posts : List Post) :
    Disk.SameFile v.drafts v.desk.stored
      ((v.opened settlement posts).remembered id).desk.stored := by
  have hstored : (v.opened settlement posts).desk.stored = v.desk.stored :=
    (Session.open?_file v.drafts (Session.start settlement posts) v.desk).1
  have hsaved := Settings.save_beside (s := { v.settings with lastSettlement := .text id }) hdir
  rw [hdrafts]
  show Disk.SameFile _ _ (Settings.save _ none (v.opened settlement posts).desk.stored).2
  rw [hstored]
  exact hsaved

/-- A draft that was saved without a fault is stored. -/
theorem storedText_of_save {d : Desk Disk} {p : Path} (hserves : d.stored.Serves p)
    (hok : (s.save (some (Store.file p)) d).1 = .ok ()) :
    ∃ now, ((Store.file p).get (DraftCache.keyFor s.settlement.id)
      (s.save (some (Store.file p)) d).2.2.stored).1
        = .ok (some (DraftCache.encode (s.draftAt now))) := by
  by_cases htakes : Store.Takes p (DraftCache.keyFor s.settlement.id)
      (DraftCache.encode (s.draftAt d.clock.draw.1)) d.stored
  · obtain ⟨-, now, hkept⟩ := Session.save_taken (Store.file_works p) hserves htakes
    exact ⟨now, congrArg Prod.fst hkept⟩
  · obtain ⟨⟨e, he⟩, -⟩ := Session.save_refused (Store.file_works p) hserves htakes
    cases hok.symm.trans he

/-- What comes of taking the form over: it is laid over the tree, and if that makes a difference the
draft is stored. -/
structure LaidOver (w : Window) (s s' : Session) (d' : Desk Disk) : Prop where
  settlement : s'.settlement = s.settlement
  posts : s'.posts = s.posts
  css : s'.css = s.css
  tree : s'.tree = w.form.overlay.tree s.tree
  desk : s'.tree = s.tree → d' = w.desk
  stored : s'.tree ≠ s.tree → w.desk.stored.Serves w.drafts → ∃ now,
    ((Store.file w.drafts).get (DraftCache.keyFor s'.settlement.id) d'.stored).1
      = .ok (some (DraftCache.encode (s'.draftAt now)))

theorem laidOver_formTaken (hs : w.session? = some s) (hn : s.tree.ids.Nodup) {c : CivicSite.Change}
    (hok : (w.formTaken s).1 = .ok c) :
    w.LaidOver s (w.formTaken s).2.1 (w.formTaken s).2.2 := by
  rcases formTaken_cases hs hn with ⟨hsame, htaken⟩ | ⟨hne, c', htaken⟩
  · rw [htaken]
    exact ⟨rfl, rfl, rfl, hsame.symm, fun _ => rfl, fun h => absurd rfl h⟩
  · have hsession : (w.formTaken s).2.1
        = { s with tree := w.form.overlay.tree s.tree, dirty := true } := by
      rw [htaken, Session.apply_session]
      rfl
    rw [hsession]
    refine ⟨rfl, rfl, rfl, rfl, fun h => absurd h hne, fun _ hserves => ?_⟩
    let s' : Session := { s with tree := w.form.overlay.tree s.tree }
    have hsave : w.formTaken s = ((s'.save w.cache w.desk).1.map fun _ => .accepted c',
        (s'.save w.cache w.desk).2) := htaken
    have hsaved : (s'.save w.cache w.desk).1 = .ok () := by
      rw [hsave] at hok
      rcases hanswer : (s'.save w.cache w.desk).1 with e | _
      · rw [hanswer] at hok
        cases hok
      · rfl
    rw [hsave]
    exact storedText_of_save hserves hsaved

/-- **What a settlement is opened as**: what the cache restores, with the form laid over it that the
old session left. Only where the form makes a difference another draft is stored. Settings that name
no data directory use one that was made when the window was built; if somebody has removed it since,
nothing is said about what is stored. -/
theorem opening_exact {allowed : Window → Gesture → Prop} (h : w.Reachable allowed)
    (hopens : (w.handle (openSettlement id)).1 = .ok true)
    (hfresh : ∀ settlement posts v, w.FetchedIn id settlement posts v →
      v.FreshOpening settlement posts) :
    let u := (w.handle flush).2
    let after := (w.handle (openSettlement id)).2
    ∃ settlement posts v s, w.FetchedIn id settlement posts v ∧ after.session? = some s
      ∧ s.settlement = settlement ∧ s.posts = Post.sorted posts
      ∧ let draft := u.restored settlement.id
        s.css = draft.css ∧ s.tree = u.form.overlay.tree draft.tree
        ∧ ((u.settings.dataDir = none → u.desk.stored.HasDirectory u.settings.directory) →
          (s.tree = draft.tree → after.storedText settlement.id = u.storedText settlement.id)
          ∧ (s.tree ≠ draft.tree → u.desk.stored.Serves u.drafts → ∃ now,
              after.storedText settlement.id
                = .ok (some (DraftCache.encode (s.draftAt now))))) := by
  intro u after
  obtain ⟨settlement, posts, v, b, hfetched, htaken, hremember⟩ := opened_cases hopens
  obtain ⟨hholdings, hanswers⟩ := hfetched.shown htaken hremember
  obtain ⟨-, t, rfl⟩ := hfetched.starts
  have hn : (u.successor settlement posts).tree.ids.Nodup :=
    distinct_opened (hfresh settlement posts _ hfetched)
      ⟨(u.successor settlement posts).tree, (u.successor settlement posts).css⟩ rfl
  obtain ⟨c, hc⟩ := hanswers true hopens
  let shown := (({ u with turn := t } : Window).opened settlement posts).remembered id
  let s := (shown.formTaken (u.successor settlement posts)).2.1
  have hlaid : shown.LaidOver (u.successor settlement posts) s _ := laidOver_formTaken rfl hn hc
  obtain ⟨hsettlement, hposts, htree, hcss⟩ := successor_eq u settlement posts
  have hstored : after.storedText settlement.id = ((Store.file u.drafts).get
      (DraftCache.keyFor settlement.id)
      (shown.formTaken (u.successor settlement posts)).2.2.stored).1 :=
    congrArg (fun x : Holdings => ((Store.file x.drafts).get (DraftCache.keyFor settlement.id)
      x.desk.stored).1) hholdings
  refine ⟨settlement, posts, _, s, hfetched, congrArg Holdings.session? hholdings,
    hlaid.settlement.trans hsettlement, hlaid.posts.trans hposts, hlaid.css.trans hcss,
    hlaid.tree.trans (congrArg _ htree), fun hdir => ?_⟩
  have hsame := sameFile_remembered (v := { u with turn := t })
    (drafts_of_home (home_flush w) h.drafts_eq) hdir id settlement posts
  constructor
  · intro hunchanged
    rw [hstored, hlaid.desk (hunchanged.trans htree.symm)]
    exact Store.get_of_sameFile hsame _
  · intro hchanged hserves
    have hnow := hlaid.stored (fun heq => hchanged (heq.trans htree)) (hsame.serves hserves)
    rw [hlaid.settlement.trans hsettlement] at hnow
    rw [hstored]
    exact hnow

/-- Whether a settlement can be fetched whose draft is kept in a file, a tree and styles, and what
tree the form makes of that one. -/
def laysOver (w : Window) (id css : Text) (kept laid : Tree) : Bool :=
  let u := (w.handle flush).2
  (w.handle (flush >>= fun _ => fetch id)).1.toOption.any (·.1.id == id)
    && u.settings.dataDir.isSome && (u.desk.stored.readFile u.drafts).isOk
    && (u.restored id).css == css && decide ((u.restored id).tree = kept)
    && decide (u.form.overlay.tree kept = laid)

/-- A settlement whose draft is stored is opened while the form is filled from another one. Their
headers have one id, so the title of the one is laid over the other, and that is stored. -/
theorem opening_exact_again :
    let ids : Supply := .ofSequence fun n => List.replicate (n + 1) 'c'
    let website (title : Option Text) : Tree :=
      ⟨[⟨"h", .header title, 0, .center⟩, ⟨"cc", .footer, 1, .center⟩]⟩
    let drafts : String := "\x7b\"website-draft:a\":"
      ++ "\"\x7b\\\"components\\\":[\x7b\\\"id\\\":\\\"h\\\","
      ++ "\\\"type\\\":\\\"header\\\",\\\"content\\\":\x7b\\\"title\\\":\\\"A\\\"\x7d\x7d]\x7d\","
      ++ "\"website-draft:b\":\"\x7b\\\"components\\\":[\x7b\\\"id\\\":\\\"h\\\","
      ++ "\\\"type\\\":\\\"header\\\"\x7d],\\\"css\\\":\\\"q\\\"\x7d\"\x7d"
    let disk := (Disk.empty.put ⟨["data"]⟩ .directory).put ⟨["data", "drafts.json"]⟩
      (.file drafts.toUTF8)
    ∃ w, build { Settings.default with dataDir := some ⟨["data"]⟩ } 2024 ⟨ids, ids, disk⟩
        (.start ["a", "b"] ⟨answersForA ++ answersForB, .failure "", []⟩) = .ok w
      ∧ let first := (w.handle (react (.press .openSettlement))).2
        let r := first.asked.handle (openSettlement "b")
        first.asked.form.component? = some "h"
        ∧ ((first.asked.handle flush).2.restored "b").tree = website none ∧ r.1 = .ok true
        ∧ ∃ s now, r.2.session? = some s ∧ s.css = "q" ∧ s.tree = website (some "A")
          ∧ r.2.storedText "b" = .ok (some (DraftCache.encode (s.draftAt now))) := by
  have hgeneral : ∀ (w : Window) (css : Text) (kept laid : Tree),
      w.Reachable (fun _ _ => True) → w.opensWhole "b" = true →
      (w.asked.handle (openSettlement "b")).1 = .ok true →
      w.asked.laysOver "b" css kept laid = true → laid ≠ kept →
      let r := w.asked.handle (openSettlement "b")
      ((w.asked.handle flush).2.restored "b").tree = kept
        ∧ ∃ s now, r.2.session? = some s ∧ s.css = css ∧ s.tree = laid
          ∧ r.2.storedText "b" = .ok (some (DraftCache.encode (s.draftAt now))) := by
    intro w css kept laid h hwhole hopens hlays hne
    have hasked : w.asked.Reachable fun _ _ => True :=
      h.between w.asked.turn w.desk.stored w.visible
    obtain ⟨settlement, posts, v, s, hfetched, hs, -, -, hcss, htree, hstored⟩ :=
      opening_exact hasked hopens fun _ _ _ hf => (of_opensWhole hwhole hf).1
    unfold FetchedIn at hfetched
    unfold laysOver at hlays
    rw [hfetched] at hlays
    simp only [Except.toOption, Option.any_some, Bool.and_eq_true, beq_iff_eq,
      decide_eq_true_eq] at hlays
    obtain ⟨⟨⟨⟨⟨hid, hdir⟩, hread⟩, hcss'⟩, hkept⟩, hlaid⟩ := hlays
    rw [hid] at hcss htree hstored
    rw [hkept, hlaid] at htree
    obtain ⟨-, hstored⟩ := hstored fun hnone => by
      rw [hnone] at hdir
      cases hdir
    rcases hfile : (w.asked.handle flush).2.desk.stored.readFile (w.asked.handle flush).2.drafts
      with e | bytes
    · rw [hfile] at hread
      cases hread
    · obtain ⟨now, hnow⟩ := hstored (fun hsame => hne (htree.symm.trans (hsame.trans hkept)))
        (Disk.serves_of_readFile hfile)
      exact ⟨hkept, s, now, hs, hcss.trans hcss', htree, hnow⟩
  intro ids website drafts disk
  have hbuilt : (build { Settings.default with dataDir := some ⟨["data"]⟩ } 2024 ⟨ids, ids, disk⟩
      (.start ["a", "b"] ⟨answersForA ++ answersForB, .failure "", []⟩)).toOption.any
        (fun w : Window =>
          let first := (w.handle (react (.press .openSettlement))).2
          w.reply? == some (Text.ofString "a") && w.opensWhole "a" && first.opensWhole "b"
            && first.asked.form.component? == some (Text.ofString "h")
            && decide ((first.asked.handle (openSettlement "b")).1 = .ok true)
            && first.asked.laysOver "b" "q" (website none) (website (some "A"))) = true := by
    decide +kernel
  obtain ⟨w, hw, hchecked⟩ := exists_ok_of_any hbuilt
  simp only [Bool.and_eq_true, beq_iff_eq, decide_eq_true_eq] at hchecked
  obtain ⟨⟨⟨⟨⟨hreply, hwhole⟩, hwhole'⟩, hfilled⟩, hopens⟩, hlays⟩ := hchecked
  have hfirst := (Reachable.built hw).opens (session?_of_build hw) hreply hwhole
  obtain ⟨hkept, hopened⟩ := hgeneral _ "q" (website none) (website (some "A"))
    (hfirst.mono fun _ _ _ => trivial) hwhole' hopens hlays (by decide)
  exact ⟨w, hw, hfilled, hkept, hopens, hopened⟩

end Window

end CivicSite
