import CivicSite.Proofs.Draft.Codec
import CivicSite.Proofs.Session.Operation
import CivicSite.Proofs.Store.Works

/-!
# Opening a draft again

A session writes its draft through to the cache, so a new session on the same cache can take over at
any time, and nobody can tell. Three things meet in this:

- *Invariant*: the tree of a session is well formed and its ids are distinct (`Sound`), whatever was
  done before, so the repairs that come with opening leave it alone.
- *Codec*: what is stored of such a tree reads as the tree.
- *Store*: what a store that works takes, it gives back.

What a store does not take is the exception. The store in memory takes everything. The store in a
file does not take a draft if anything that will be in the file has no UTF-8, and the operation
fails then; it does not go through a file whose JSON is too deep, and reset fails as well.
-/

namespace CivicSite

namespace Session

variable {σ ω : Type}

/-! ## Sound sessions -/

/-- What every session is between operations. -/
structure Sound (s : Session) : Prop where
  wellFormed : s.tree.WellFormed
  distinct : s.tree.ids.Nodup

theorem sound_start (settlement : Settlement) (posts : List Post) :
    (start settlement posts).Sound :=
  ⟨Tree.wellFormed_empty, List.nodup_nil⟩

/-- What a session makes of what the cache gives it. -/
def takeUp (s : Session) (d : Desk σ) :
    Except Fault (Option Draft) × σ → Except Fault Bool × Session × Desk σ
  | (.error e, stored) => (.error e, s, { d with stored := stored })
  | (.ok none, stored) => (.ok false, s, { d with stored := stored })
  | (.ok (some draft), stored) =>
    (.ok true,
      { s with tree := (Tree.ofList draft.components d.ids).1, css := draft.css, dirty := true },
      { d with ids := (Tree.ofList draft.components d.ids).2, stored := stored })

theorem open?_eq_takeUp (store : Store σ) (s : Session) (d : Desk σ) :
    s.open? (some store) d = takeUp s d (DraftCache.load store s.settlement.id d.stored) := by
  unfold open?
  dsimp only
  rcases DraftCache.load store s.settlement.id d.stored with ⟨_ | _ | _, _⟩ <;> rfl

/-- The ids of a draft. -/
def idsOf : Except Fault (Option Draft) → List Text
  | .ok (some draft) => Component.ids (Tree.kept draft.components)
  | _ => []

/-- The ids of the draft that there is to open. -/
def draftIds (cache : Option (Store σ)) (s : Session) (d : Desk σ) : List Text :=
  match cache with
  | none => []
  | some store => idsOf (DraftCache.load store s.settlement.id d.stored).1

/-- The ids that an operation finds in use. -/
def Operation.held (cache : Option (Store σ)) (s : Session) (d : Desk σ) :
    Operation ω → List Text
  | openDraft => draftIds cache s d
  | _ => s.tree.ids

/-- The ids that an operation draws are new where it puts them. -/
def Operation.Fresh (cache : Option (Store σ)) (s : Session) (d : Desk σ) (o : Operation ω) :
    Prop :=
  Supply.AllNew (o.held cache s d) (d.ids.drawn (o.run cache s d).2.2.ids)

/-- The ids that operations draw are. -/
def FreshAll (cache : Option (Store σ)) (s : Session) (d : Desk σ) : List (Operation ω) → Prop
  | [] => True
  | o :: rest =>
    o.Fresh cache s d ∧ FreshAll cache (o.run cache s d).2.1 (o.run cache s d).2.2 rest

theorem save_tree (cache : Option (Store σ)) (s : Session) (d : Desk σ) :
    (s.save cache d).2.1.tree = s.tree ∧ (s.save cache d).2.2.ids = d.ids := by
  unfold save
  cases cache <;> exact ⟨rfl, rfl⟩

theorem apply_tree (cache : Option (Store σ)) (change : Change) (tree : Tree) (s : Session)
    (d : Desk σ) :
    (s.apply cache change tree d).2.1.tree = tree
      ∧ (s.apply cache change tree d).2.2.ids = d.ids := by
  unfold apply
  split
  · exact save_tree cache { s with tree := tree } d
  · exact ⟨rfl, rfl⟩

theorem sound_open? {cache : Option (Store σ)} {s : Session} {d : Desk σ} (h : s.Sound)
    (hf : Supply.AllNew (draftIds cache s d) (d.ids.drawn (s.open? cache d).2.2.ids)) :
    (s.open? cache d).2.1.Sound := by
  cases cache with
  | none => exact h
  | some store =>
      rw [open?_eq_takeUp] at hf ⊢
      unfold draftIds at hf
      dsimp only at hf
      generalize DraftCache.load store s.settlement.id d.stored = r at hf ⊢
      obtain ⟨result, stored⟩ := r
      cases result with
      | error e => exact h
      | ok draft? =>
          cases draft? with
          | none => exact h
          | some draft =>
              refine ⟨Tree.wellFormed_ofList draft.components d.ids, ?_⟩
              exact (Tree.gathers_ofList draft.components d.ids).nodup (Tree.nodup_kept _) hf

theorem sound_setCss {cache : Option (Store σ)} {s : Session} {d : Desk σ} (h : s.Sound)
    (text : Text) : (s.setCss cache text d).2.1.Sound := by
  unfold setCss
  split
  · exact h
  · have htree := (save_tree cache { s with css := text } d).1
    refine ⟨?_, ?_⟩
    · rw [htree]
      exact h.wellFormed
    · rw [htree]
      exact h.distinct

theorem sound_reset {cache : Option (Store σ)} {s : Session} {d : Desk σ} (h : s.Sound) :
    (s.reset cache d).2.1.Sound := by
  unfold reset
  cases cache with
  | none => exact ⟨Tree.wellFormed_empty, List.nodup_nil⟩
  | some store =>
      dsimp only
      split
      · exact h
      · exact ⟨Tree.wellFormed_empty, List.nodup_nil⟩

/-- An edit is fresh in any session if it is in the tree. -/
theorem Operation.fresh_iff {cache : Option (Store σ)} {s : Session} {d : Desk σ}
    {o : Operation ω} {e : Tree.Edit} (he : o.edit? s = some e) :
    o.Fresh cache s d
      ↔ Supply.AllNew s.tree.ids (d.ids.drawn (e.run s.tree d.ids).2.2) := by
  have hheld : o.held cache s d = s.tree.ids := by
    cases o with
    | openDraft => cases he
    | _ => rfl
  have hids : (o.run cache s d).2.2.ids = (e.run s.tree d.ids).2.2 := by
    rw [run_of_edit? he]
    exact (apply_tree cache _ _ s { d with ids := (e.run s.tree d.ids).2.2 }).2
  unfold Fresh
  rw [hheld, hids]

theorem Sound.run {cache : Option (Store σ)} {s : Session} {d : Desk σ} {o : Operation ω}
    (h : s.Sound) (hf : o.Fresh cache s d) : (o.run cache s d).2.1.Sound := by
  cases he : o.edit? s with
  | some e =>
      have hnew := (Operation.fresh_iff he).mp hf
      have htree : (o.run cache s d).2.1.tree = (e.run s.tree d.ids).2.1 := by
        rw [Operation.run_of_edit? he]
        exact (apply_tree cache _ _ s { d with ids := (e.run s.tree d.ids).2.2 }).1
      refine ⟨?_, ?_⟩
      · rw [htree]
        exact h.wellFormed.run d.ids e
      · rw [htree]
        exact (Tree.gathers_run s.tree d.ids e).nodup h.distinct hnew
  | none =>
      cases o with
      | openDraft => exact sound_open? h hf
      | setCss text => exact sound_setCss h text
      | reset => exact sound_reset h
      | setPosts posts => exact ⟨h.wellFormed, h.distinct⟩
      | publish client o n => exact ⟨h.wellFormed, h.distinct⟩
      | _ => cases he

theorem Sound.runAll {cache : Option (Store σ)} {s : Session} {d : Desk σ}
    {os : List (Operation ω)} (h : s.Sound) (hf : FreshAll cache s d os) :
    (runAll cache s d os).1.Sound := by
  induction os generalizing s d with
  | nil => exact h
  | cons o rest ih => exact ih (h.run hf.1) hf.2

/-! ## What is saved -/

/-- The draft that is saved of a session. -/
def draftAt (s : Session) (now : Text) : Draft :=
  ⟨s.settlement.id, s.tree.components, s.css, now⟩

theorem save_eq (store : Store σ) (s : Session) (d : Desk σ) :
    let text := DraftCache.encode (s.draftAt d.clock.draw.1)
    let r := store.set (DraftCache.keyFor s.settlement.id) text d.stored
    (s.save (some store) d).2.2.stored = r.2
      ∧ (s.save (some store) d).1
        = match r.1 with
          | .ok () => .ok ()
          | .error e => if e.isSystemFault then .ok () else .error e := by
  unfold save DraftCache.save draftAt
  dsimp only
  rcases store.set _ _ _ with ⟨result, stored⟩
  cases result with
  | ok u => exact ⟨rfl, rfl⟩
  | error e =>
      refine ⟨rfl, ?_⟩
      dsimp only
      split <;> rfl

/-- Whether a text was saved that gives the session back. -/
def Kept (store : Store σ) (s : Session) (d : Desk σ) : Prop :=
  ∃ now, store.get (DraftCache.keyFor s.settlement.id) d.stored
    = (.ok (some (DraftCache.encode (s.draftAt now))), d.stored)

variable {store : Store σ} {good opens : σ → Prop} {takes : Text → Text → σ → Prop}

theorem save_taken (hw : store.Works good opens takes) {s : Session} {d : Desk σ}
    (hgood : good d.stored)
    (ht : takes (DraftCache.keyFor s.settlement.id) (DraftCache.encode (s.draftAt d.clock.draw.1))
      d.stored) :
    (s.save (some store) d).1 = .ok () ∧ Kept store s (s.save (some store) d).2.2 := by
  obtain ⟨hset, hget⟩ := hw.set_taken hgood ht
  obtain ⟨hstored, hanswer⟩ := save_eq store s d
  have hgood' := hw.set_good hgood (DraftCache.keyFor s.settlement.id)
    (DraftCache.encode (s.draftAt d.clock.draw.1))
  refine ⟨by rw [hanswer, hset], d.clock.draw.1, ?_⟩
  rw [hstored]
  exact Prod.ext hget (hw.get_state hgood' _)

/-- The draft of a settlement can be read. -/
def HasDraft (store : Store σ) (settlement : Text) (stored : σ) : Prop :=
  ∃ draft, (DraftCache.load store settlement stored).1 = .ok (some draft)

theorem hasDraft_get {settlement : Text} {stored : σ} (h : HasDraft store settlement stored) :
    ∃ text, (store.get (DraftCache.keyFor settlement) stored).1 = .ok (some text) := by
  obtain ⟨draft, h⟩ := h
  unfold DraftCache.load at h
  generalize store.get (DraftCache.keyFor settlement) stored = r at h ⊢
  obtain ⟨result, stored'⟩ := r
  cases result with
  | error e =>
      dsimp only at h
      split at h <;> cases h
  | ok text? =>
      cases text? with
      | none => cases h
      | some text => exact ⟨text, rfl⟩

theorem save_refused (hw : store.Works good opens takes) {s : Session} {d : Desk σ}
    (hgood : good d.stored)
    (ht : ¬ takes (DraftCache.keyFor s.settlement.id)
      (DraftCache.encode (s.draftAt d.clock.draw.1)) d.stored) :
    (∃ e, (s.save (some store) d).1 = .error e)
      ∧ ¬ HasDraft store s.settlement.id (s.save (some store) d).2.2.stored := by
  obtain ⟨⟨e, hset, he⟩, hget⟩ := hw.set_refused hgood ht
  obtain ⟨hstored, hanswer⟩ := save_eq store s d
  refine ⟨⟨e, ?_⟩, fun h => ?_⟩
  · rw [hanswer, hset]
    dsimp only
    rw [he, if_neg Bool.false_ne_true]
  · obtain ⟨text, htext⟩ := hasDraft_get h
    rw [hstored] at htext
    exact hget text htext

/-! ## Opening again -/

/-- A session of the settlement that opens what is stored. -/
def reopened (s : Session) (settlement : Settlement) (posts : List Post) : Session :=
  { start settlement posts with tree := s.tree, css := s.css, dirty := true }

theorem open?_of_kept {s : Session} {d : Desk σ} (hs : s.Sound)
    (hsmall : s.tree.components.length ≤ Json.numeralLimit) (hk : Kept store s d)
    {settlement : Settlement} (hid : settlement.id = s.settlement.id) (posts : List Post) :
    (start settlement posts).open? (some store) d
      = (.ok true, s.reopened settlement posts, d) := by
  obtain ⟨now, hget⟩ := hk
  have hpositions : ∀ c ∈ s.tree.components, c.position.natAbs < Json.numeralLimit := by
    intro c hc
    obtain ⟨i, hi, rfl⟩ := List.getElem_of_mem hc
    have hp := hs.wellFormed.numbered i hi
    omega
  have hdecode : DraftCache.decode (DraftCache.encode (s.draftAt now)) = .ok (s.draftAt now) := by
    have h := DraftCache.decode_encode (d := s.draftAt now) hpositions
    have horder : Component.byPosition s.tree.components = s.tree.components :=
      Tree.byPosition_of_numbered hs.wellFormed.numbered
    rw [h]
    show Except.ok (Draft.mk _ (Component.byPosition s.tree.components) _ _) = _
    rw [horder]
    rfl
  have hload : DraftCache.load store settlement.id d.stored
      = (.ok (some (s.draftAt now)), d.stored) := by
    unfold DraftCache.load
    rw [hid, hget]
    dsimp only
    rw [hdecode]
    rfl
  have hopen := open?_eq_takeUp store (start settlement posts) d
  have hofList := Tree.ofList_components hs.wellFormed hs.distinct d.ids
  rw [show (start settlement posts).settlement.id = settlement.id from rfl, hload] at hopen
  rw [hopen]
  show (Except.ok true,
    ({ start settlement posts with
      tree := (Tree.ofList s.tree.components d.ids).1, css := s.css, dirty := true } : Session),
    ({ d with ids := (Tree.ofList s.tree.components d.ids).2 } : Desk σ)) = _
  rw [hofList]
  rfl

/-- What is owed after a session's draft was saved: a new session of the settlement opens and has it
all, draws no id and leaves the store as it is, and goes on like the one that saved. -/
structure Reopens (store : Store σ) (s : Session) (d : Desk σ) : Prop where
  opens : ∀ (settlement : Settlement) (posts : List Post), settlement.id = s.settlement.id →
    (start settlement posts).open? (some store) d = (.ok true, s.reopened settlement posts, d)
  further : ∀ (settlement : Settlement) (posts : List Post), settlement.id = s.settlement.id →
    settlement.name = s.settlement.name → ∀ (ω : Type) (more : List (Operation ω)),
    trace (some store) (s.reopened settlement posts) d more = trace (some store) s d more

theorem reopens_of_kept {s : Session} {d : Desk σ} (hs : s.Sound)
    (hsmall : s.tree.components.length ≤ Json.numeralLimit) (hk : Kept store s d) :
    Reopens store s d where
  opens := fun _ posts hid => open?_of_kept hs hsmall hk hid posts
  further := fun settlement posts hid hname _ more => by
    have halike : Alike (s.reopened settlement posts) s := ⟨hid, hname, rfl, rfl⟩
    exact halike.trace_eq (some store) d more

/-- What is owed after a session was reset: it is empty, and so is a new one. -/
structure Forgets (store : Store σ) (s : Session) (d : Desk σ) : Prop where
  tree : s.tree = .empty
  css : s.css = ""
  opens : ∀ (settlement : Settlement) (posts : List Post), settlement.id = s.settlement.id →
    (start settlement posts).open? (some store) d = (.ok false, start settlement posts, d)

/-! ## Reset -/

theorem load_stored (store : Store σ) (settlement : Text) (stored : σ) :
    (DraftCache.load store settlement stored).2
      = (store.get (DraftCache.keyFor settlement) stored).2 := by
  unfold DraftCache.load
  rcases store.get (DraftCache.keyFor settlement) stored with ⟨result, stored'⟩
  cases result with
  | error e => rfl
  | ok text? =>
      cases text? with
      | none => rfl
      | some text =>
          dsimp only
          split <;> rfl

theorem clear_eq (store : Store σ) (settlement : Text) (stored : σ) :
    let r := store.delete (DraftCache.keyFor settlement) stored
    DraftCache.clear store settlement stored
      = (match r.1 with
        | .ok () => .ok ()
        | .error e => if e.isValueFault || e.isSystemFault then .ok () else .error e, r.2) := by
  unfold DraftCache.clear
  dsimp only
  rcases store.delete (DraftCache.keyFor settlement) stored with ⟨_ | _, _⟩ <;> rfl

theorem load_of_lacks (hw : store.Works good opens takes) {settlement : Text} {stored : σ}
    (hgood : good stored) (h : store.Lacks (DraftCache.keyFor settlement) stored) :
    DraftCache.load store settlement stored = (.ok none, stored) := by
  have hstate := hw.get_state hgood (DraftCache.keyFor settlement)
  unfold DraftCache.load
  unfold Store.Lacks at h
  generalize store.get (DraftCache.keyFor settlement) stored = r at h hstate ⊢
  obtain ⟨result, stored'⟩ := r
  dsimp only at h hstate
  subst hstate
  rcases h with rfl | ⟨e, rfl, he⟩
  · rfl
  · dsimp only
    rw [he, Bool.true_or, if_pos rfl]

theorem reset_open (hw : store.Works good opens takes) {s : Session} {d : Desk σ}
    (hgood : good d.stored) (hopens : opens d.stored) :
    (s.reset (some store) d).1 = .ok ()
      ∧ Forgets store (s.reset (some store) d).2.1 (s.reset (some store) d).2.2 := by
  obtain ⟨herror, hlacks⟩ := hw.delete_open (DraftCache.keyFor s.settlement.id) hgood hopens
  have hgood' := hw.delete_good hgood (DraftCache.keyFor s.settlement.id)
  have hclear := clear_eq store s.settlement.id d.stored
  unfold reset
  dsimp only at hclear ⊢
  generalize store.delete (DraftCache.keyFor s.settlement.id) d.stored = r
    at herror hlacks hgood' hclear
  obtain ⟨result, stored⟩ := r
  have hok : DraftCache.clear store s.settlement.id d.stored = (.ok (), stored) := by
    rw [hclear]
    cases result with
    | ok u => rfl
    | error e =>
        dsimp only
        rw [herror e rfl, Bool.true_or, if_pos rfl]
  rw [hok]
  refine ⟨rfl, rfl, rfl, fun settlement posts hid => ?_⟩
  have hload : DraftCache.load store settlement.id stored = (.ok none, stored) := by
    rw [hid]
    exact load_of_lacks hw hgood' hlacks
  rw [open?_eq_takeUp]
  show takeUp (start settlement posts) _ (DraftCache.load store settlement.id stored) = _
  rw [hload]
  rfl

theorem reset_shut (hw : store.Works good opens takes) {s : Session} {d : Desk σ}
    (hgood : good d.stored) (hopens : ¬ opens d.stored) :
    s.reset (some store) d = (.error .tooDeep, s, d) := by
  have hclear := clear_eq store s.settlement.id d.stored
  rw [hw.delete_shut hgood hopens] at hclear
  unfold reset
  dsimp only at hclear ⊢
  rw [hclear]
  rfl

/-! ## The store along a history -/

theorem good_save (hw : store.Works good opens takes) {s : Session} {d : Desk σ}
    (h : good d.stored) : good (s.save (some store) d).2.2.stored := by
  rw [(save_eq store s d).1]
  exact hw.set_good h _ _

theorem good_apply (hw : store.Works good opens takes) {change : Change} {tree : Tree} {s : Session}
    {d : Desk σ} (h : good d.stored) : good (s.apply (some store) change tree d).2.2.stored := by
  unfold apply
  split
  · exact good_save hw (s := { s with tree := tree }) h
  · exact h

theorem good_open? (hw : store.Works good opens takes) {s : Session} {d : Desk σ}
    (h : good d.stored) : good (s.open? (some store) d).2.2.stored := by
  have hstored : (DraftCache.load store s.settlement.id d.stored).2 = d.stored :=
    (load_stored store _ _).trans (hw.get_state h _)
  rw [open?_eq_takeUp]
  generalize DraftCache.load store s.settlement.id d.stored = r at hstored ⊢
  obtain ⟨result, stored⟩ := r
  dsimp only at hstored
  subst hstored
  rcases result with _ | _ | _ <;> exact h

theorem good_run (hw : store.Works good opens takes) {s : Session} {d : Desk σ}
    (h : good d.stored) (o : Operation ω) : good (o.run (some store) s d).2.2.stored := by
  cases he : o.edit? s with
  | some e =>
      rw [Operation.run_of_edit? he]
      exact good_apply hw h
  | none =>
      cases o with
      | openDraft => exact good_open? hw h
      | setCss text =>
          show good (s.setCss (some store) text d).2.2.stored
          unfold setCss
          split
          · exact h
          · exact good_save hw h
      | reset =>
          show good (s.reset (some store) d).2.2.stored
          by_cases hopens : opens d.stored
          · have hclear := clear_eq store s.settlement.id d.stored
            have hgood := hw.delete_good h (DraftCache.keyFor s.settlement.id)
            unfold reset
            dsimp only at hclear ⊢
            rw [hclear]
            split
            · rename_i heq
              obtain ⟨-, rfl⟩ := Prod.mk.inj heq
              exact hgood
            · rename_i heq
              obtain ⟨-, rfl⟩ := Prod.mk.inj heq
              exact hgood
          · rw [reset_shut hw h hopens]
            exact h
      | setPosts posts => exact h
      | publish client o n => exact h
      | _ => cases he

theorem good_runAll (hw : store.Works good opens takes) {s : Session} {d : Desk σ}
    (h : good d.stored) (os : List (Operation ω)) :
    good (runAll (some store) s d os).2.stored := by
  induction os generalizing s d with
  | nil => exact h
  | cons o rest ih => exact ih (good_run hw h o)

/-! ## What every operation owes -/

/-- An operation that alters the draft ends in saving it. -/
theorem run_of_alters (cache : Option (Store σ)) {s : Session} {d : Desk σ} {o : Operation ω}
    (h : o.alters s d = true) :
    ∃ (t : Session) (d' : Desk σ) (report : Report), t.settlement = s.settlement
      ∧ d'.clock = d.clock ∧ d'.stored = d.stored
      ∧ o.run cache s d = ((t.save cache d').1.map fun _ => report, (t.save cache d').2) := by
  unfold Operation.alters at h
  cases he : o.edit? s with
  | some e =>
      rw [he] at h
      have hchange : (e.run s.tree d.ids).1.isAccepted = true := h
      refine ⟨{ s with tree := (e.run s.tree d.ids).2.1 },
        { d with ids := (e.run s.tree d.ids).2.2 }, .change (e.run s.tree d.ids).1, rfl, rfl, rfl,
        ?_⟩
      rw [Operation.run_of_edit? he, Operation.runEdit, apply, if_pos hchange]
      generalize save cache _ _ = r
      obtain ⟨result, rest⟩ := r
      cases result <;> rfl
  | none =>
      rw [he] at h
      cases o with
      | setCss text =>
          have hcss : ¬ (text == s.css) = true := by
            rw [Bool.not_eq_true]
            exact Bool.not_eq_true' _ ▸ h
          refine ⟨{ s with css := text }, d, .done, rfl, rfl, rfl, ?_⟩
          show (((s.setCss cache text d).1.map fun _ => Report.done), (s.setCss cache text d).2) = _
          rw [setCss, if_neg hcss]
      | _ => cases h

/-- What the cache owes a session at each operation. One that alters the draft answers just if the
store takes the draft, and then the session can be opened again; if not, there is no draft to open.
Reset answers just if the store can be gone through, and then the draft is forgotten. -/
structure WritesThrough (store : Store σ) (opens : σ → Prop) (takes : Text → Text → σ → Prop)
    (s : Session) (d : Desk σ) (o : Operation ω) : Prop where
  altered : o.alters s d = true →
    let r := o.run (some store) s d
    let taken := takes (DraftCache.keyFor s.settlement.id)
      (DraftCache.encode (r.2.1.draftAt d.clock.draw.1)) d.stored
    ((∃ report, r.1 = .ok report) ↔ taken)
      ∧ (taken → r.2.1.tree.components.length ≤ Json.numeralLimit → Reopens store r.2.1 r.2.2)
      ∧ (¬ taken → ∀ (settlement : Settlement) (posts : List Post),
          settlement.id = s.settlement.id →
          ((start settlement posts).open? (some store) r.2.2).1 ≠ .ok true)
  reset : o = .reset →
    let r := o.run (some store) s d
    ((∃ report, r.1 = .ok report) ↔ opens d.stored)
      ∧ (opens d.stored → Forgets store r.2.1 r.2.2)

theorem not_opened {settlement : Settlement} {posts : List Post} {d : Desk σ}
    (h : ¬ HasDraft store settlement.id d.stored) :
    ((start settlement posts).open? (some store) d).1 ≠ .ok true := by
  rw [open?_eq_takeUp]
  intro hopen
  refine h ?_
  unfold HasDraft
  change (takeUp _ d (DraftCache.load store settlement.id d.stored)).1 = _ at hopen
  generalize DraftCache.load store settlement.id d.stored = r at hopen ⊢
  obtain ⟨result, stored⟩ := r
  rcases result with e | _ | draft
  · cases hopen
  · cases hopen
  · exact ⟨draft, rfl⟩

theorem writesThrough_altered (hw : store.Works good opens takes) {s : Session} {d : Desk σ}
    (hgood : good d.stored) {o : Operation ω} (hs : (o.run (some store) s d).2.1.Sound)
    (h : o.alters s d = true) :
    let r := o.run (some store) s d
    let taken := takes (DraftCache.keyFor s.settlement.id)
      (DraftCache.encode (r.2.1.draftAt d.clock.draw.1)) d.stored
    ((∃ report, r.1 = .ok report) ↔ taken)
      ∧ (taken → r.2.1.tree.components.length ≤ Json.numeralLimit → Reopens store r.2.1 r.2.2)
      ∧ (¬ taken → ∀ (settlement : Settlement) (posts : List Post),
          settlement.id = s.settlement.id →
          ((start settlement posts).open? (some store) r.2.2).1 ≠ .ok true) := by
  obtain ⟨t, d', report, hsettlement, hclock, hstored, hrun⟩ :=
    run_of_alters (some store) h
  intro r taken
  have hr : r = ((t.save (some store) d').1.map fun _ => report, (t.save (some store) d').2) := hrun
  have hsession : r.2.1 = { t with dirty := true } := by rw [hr]; rfl
  have htaken : taken ↔ takes (DraftCache.keyFor t.settlement.id)
      (DraftCache.encode (t.draftAt d'.clock.draw.1)) d'.stored := by
    show takes _ (DraftCache.encode (r.2.1.draftAt d.clock.draw.1)) _ ↔ _
    rw [hsession, hclock, hstored, ← hsettlement]
    exact Iff.rfl
  have hgood' : good d'.stored := hstored ▸ hgood
  by_cases ht : taken
  · obtain ⟨hok, hkept⟩ := save_taken hw hgood' (htaken.mp ht)
    refine ⟨⟨fun _ => ht, fun _ => ⟨report, ?_⟩⟩, fun _ hsmall => ?_, fun hn => absurd ht hn⟩
    · rw [hr, hok]
      rfl
    · refine reopens_of_kept hs hsmall ?_
      have hdesk : r.2.2 = (t.save (some store) d').2.2 := by rw [hr]
      rw [hsession, hdesk]
      exact hkept
  · obtain ⟨⟨e, herror⟩, hnone⟩ := save_refused hw hgood' fun h => ht (htaken.mpr h)
    refine ⟨⟨fun ⟨report', hok⟩ => ?_, fun h => absurd h ht⟩, fun h => absurd h ht, ?_⟩
    · rw [hr, herror] at hok
      cases hok
    · intro _ settlement posts hid
      refine not_opened ?_
      rw [hid, ← hsettlement, hr]
      exact hnone

/-- Over a store that works, every session at every point of every history is written through. -/
theorem writesThrough_of_works (hw : store.Works good opens takes) {settlement : Settlement}
    {posts : List Post} {d : Desk σ} (hgood : good d.stored) {os : List (Operation ω)}
    (hf : FreshAll (some store) (start settlement posts) d os) {o : Operation ω}
    (ho : o.Fresh (some store) (runAll (some store) (start settlement posts) d os).1
      (runAll (some store) (start settlement posts) d os).2) :
    WritesThrough store opens takes (runAll (some store) (start settlement posts) d os).1
      (runAll (some store) (start settlement posts) d os).2 o := by
  have hs := ((sound_start settlement posts).runAll hf).run ho
  have hgood := good_runAll hw (s := start settlement posts) hgood os
  refine ⟨writesThrough_altered hw hgood hs, ?_⟩
  rintro rfl
  by_cases hopens : opens (runAll (some store) (start settlement posts) d os).2.stored
  · obtain ⟨hok, hforgets⟩ := reset_open hw hgood hopens
    refine ⟨⟨fun _ => hopens, fun _ => ⟨.done, ?_⟩⟩, fun _ => hforgets⟩
    show (Session.reset (some store) _ _).1.map (fun _ => Report.done) = _
    rw [hok]
    rfl
  · have hshut := reset_shut hw (s := (runAll (some store) (start settlement posts) d os).1) hgood
      hopens
    refine ⟨⟨fun ⟨report, hok⟩ => ?_, fun h => absurd h hopens⟩, fun h => absurd h hopens⟩
    have hok : (Session.reset (some store) _ _).1.map (fun _ => Report.done) = .ok report := hok
    rw [hshut] at hok
    cases hok

/-- **Opening a draft again is unobservable**, over the store in memory without exception, and over
the store in a file wherever the file takes the draft. What an operation draws is to be new to the
tree and to what the operation drew before: a website is started with two ids that are both drawn
while the tree is still empty, and an id that it has twice is not kept twice
(`Tree.unheld_not_rebuilt`). -/
theorem reopening_exact (settlement : Settlement) (posts : List Post) (os : List (Operation ω))
    (o : Operation ω) :
    (∀ d : Desk (Entries Text),
      FreshAll (some Store.memory) (start settlement posts) d os →
      let before := runAll (some Store.memory) (start settlement posts) d os
      o.Fresh (some Store.memory) before.1 before.2 →
      WritesThrough Store.memory (fun _ => True) (fun _ _ _ => True) before.1 before.2 o)
    ∧ ∀ (p : Path) (d : Desk Disk), d.stored.Serves p →
      FreshAll (some (Store.file p)) (start settlement posts) d os →
      let before := runAll (some (Store.file p)) (start settlement posts) d os
      o.Fresh (some (Store.file p)) before.1 before.2 →
      WritesThrough (Store.file p) (Store.Opens p) (Store.Takes p) before.1 before.2 o := by
  constructor
  · intro d hf before ho
    exact writesThrough_of_works Store.memory_works trivial hf ho
  · intro p d hserves hf before ho
    exact writesThrough_of_works (Store.file_works p) hserves hf ho

/-- A website that is started, in memory and in a file that is still missing. -/
theorem reopening_exact_started :
    let settlement : Settlement := ⟨"1", "Iași", "is", .nan, .nan, false⟩
    let ids : Supply := .ofSequence fun n => List.replicate n 'c'
    let p : Path := ⟨["drafts.json"]⟩
    let start : Operation Unit := .createWebsite
    let first := start.run (some Store.memory) (Session.start settlement []) ⟨ids, ids, []⟩
    let second := start.run (some (Store.file p)) (Session.start settlement []) ⟨ids, ids, .empty⟩
    Reopens Store.memory first.2.1 first.2.2 ∧ Reopens (Store.file p) second.2.1 second.2.2 := by
  -- the settlement, the ids and the path are kept from being evaluated where they play no part
  have hgeneral : ∀ (settlement : Settlement) (ids : Supply) (p : Path),
      let start : Operation Unit := .createWebsite
      let first := start.run (some Store.memory) (Session.start settlement []) ⟨ids, ids, []⟩
      let second := start.run (some (Store.file p)) (Session.start settlement []) ⟨ids, ids, .empty⟩
      Supply.AllNew [] (ids.drawn (Tree.empty.seed settlement.name ids).2.2) →
      Disk.empty.Serves p → Store.recoverEntries .empty p = .ok [] →
      (DraftCache.keyFor settlement.id).isEncodable = true →
      (DraftCache.encode (second.2.1.draftAt ids.draw.1)).isEncodable = true →
      first.2.1.tree.components.length ≤ Json.numeralLimit →
      second.2.1.tree.components.length ≤ Json.numeralLimit →
      Reopens Store.memory first.2.1 first.2.2 ∧ Reopens (Store.file p) second.2.1 second.2.2 := by
    intro settlement ids p start first second hnew hserves hmissing hkey hvalue hfirst hsecond
    have hmemory := (reopening_exact settlement [] [] start).1 ⟨ids, ids, []⟩ trivial
      ((Operation.fresh_iff (e := .seed settlement.name) rfl).mpr hnew)
    have hfile := (reopening_exact settlement [] [] start).2 p ⟨ids, ids, .empty⟩ hserves trivial
      ((Operation.fresh_iff (e := .seed settlement.name) rfl).mpr hnew)
    exact ⟨(hmemory.altered rfl).2.1 trivial hfirst,
      (hfile.altered rfl).2.1 (Store.takes_of_nil hmissing hkey hvalue) hsecond⟩
  exact hgeneral _ _ _ (Supply.allNew_iff.mpr (by decide +kernel))
    ⟨.empty, ⟨["drafts.json"]⟩, rfl, rfl, fun h => nomatch h⟩ rfl (by decide +kernel)
    (by decide +kernel) (by decide +kernel) (by decide +kernel)

end Session

end CivicSite
