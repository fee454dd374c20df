import CivicSite.Proofs.Session.Reopening

/-!
# Editing over a store that fails

A session is run twice, once over a store that may fail whenever it likes and once without a cache.
The two go side by side (`Parallel`): what a session holds is changed before anything is stored, so
both hold the same at every point, whatever the store does.

The answers are the same as well, with one exception. A fault of the file system is passed over by
all that the cache does, a fault of a value is not where a draft is saved: there it is the answer
(`Operation.refusal?`), although the change was made.
-/

namespace CivicSite

/-! ## Stores -/

/-- All faults of the store are of the file system or about values. -/
structure Store.Tame {σ : Type} (store : Store σ) : Prop where
  get : ∀ {key s e}, (store.get key s).1 = .error e → (e.isValueFault || e.isSystemFault) = true
  set : ∀ {key value s e}, (store.set key value s).1 = .error e →
    (e.isValueFault || e.isSystemFault) = true
  delete : ∀ {key s e}, (store.delete key s).1 = .error e →
    (e.isValueFault || e.isSystemFault) = true

/-- The store in memory, which never fails, made to refuse what it is to keep. -/
theorem Store.tame_refusing {e : Fault} (he : (e.isValueFault || e.isSystemFault) = true) :
    (Store.memory.failing none (some e) none).Tame where
  get := nofun
  set := by
    rintro _ _ _ _ ⟨⟩
    exact he
  delete := nofun

namespace Session

variable {σ τ ω : Type}

/-! ## Side by side -/

/-- The same session and ids in two outcomes. The second one answers, and the first one answers the
same unless a fault comes in between. -/
structure Parallel {α : Type} (fault? : Option Fault) (r : Except Fault α × Session × Desk σ)
    (r' : Except Fault α × Session × Desk τ) : Prop where
  session : r.2.1 = r'.2.1
  ids : r.2.2.ids = r'.2.2.ids
  answers : ∃ a, r'.1 = .ok a
  answer : r.1 = match fault? with
    | some e => .error e
    | none => r'.1

theorem Parallel.map {α β : Type} {fault? : Option Fault} {r : Except Fault α × Session × Desk σ}
    {r' : Except Fault α × Session × Desk τ} (h : Parallel fault? r r') (f : α → β) :
    Parallel fault? (r.1.map f, r.2) (r'.1.map f, r'.2) := by
  obtain ⟨a, ha⟩ := h.answers
  refine ⟨h.session, h.ids, ⟨f a, by rw [ha]; rfl⟩, ?_⟩
  rw [h.answer]
  cases fault? with
  | some e => rfl
  | none => rfl

/-! ## Saving -/

/-- The fault with which the store refuses the draft of a session, if it is not passed over. -/
def refusal? (store : Store σ) (s : Session) (d : Desk σ) : Option Fault :=
  match (store.set (DraftCache.keyFor s.settlement.id)
    (DraftCache.encode (s.draftAt d.clock.draw.1)) d.stored).1 with
  | .ok () => none
  | .error e => if e.isSystemFault then none else some e

theorem refusal?_isValueFault {store : Store σ} (htame : store.Tame) {s : Session} {d : Desk σ}
    {e : Fault} (h : refusal? store s d = some e) : e.isValueFault = true := by
  unfold refusal? at h
  split at h
  · cases h
  · rename_i hset
    split at h
    · cases h
    · rename_i hsystem
      cases h
      have hfault := htame.set hset
      rw [Bool.not_eq_true] at hsystem
      rwa [hsystem, Bool.or_false] at hfault

variable {store : Store σ} {s : Session} {d : Desk σ} {d' : Desk τ}

theorem save_parallel (hids : d.ids = d'.ids) :
    Parallel (refusal? store s d) (s.save (some store) d) (s.save none d') where
  session := rfl
  ids := hids
  answers := ⟨(), rfl⟩
  answer := by
    rw [(save_eq store s d).2, refusal?]
    cases (store.set _ _ _).1 with
    | ok u => rfl
    | error e =>
        by_cases he : e.isSystemFault = true
        · simp only [if_pos he]
          rfl
        · simp only [if_neg he]

theorem apply_parallel (hids : d.ids = d'.ids) (change : Change) (tree : Tree) :
    Parallel (if change.isAccepted then
        refusal? store (s.apply (some store) change tree d).2.1 d else none)
      (s.apply (some store) change tree d) (s.apply none change tree d') := by
  unfold apply
  by_cases hc : change.isAccepted
  · simp only [if_pos hc]
    exact (save_parallel hids).map fun _ => change
  · simp only [if_neg hc]
    exact ⟨rfl, hids, ⟨change, rfl⟩, rfl⟩

theorem setCss_parallel (hids : d.ids = d'.ids) (text : Text) :
    Parallel (if text != s.css then refusal? store (s.setCss (some store) text d).2.1 d else none)
      (s.setCss (some store) text d) (s.setCss none text d') := by
  unfold setCss
  by_cases hcss : (text == s.css) = true
  · rw [if_pos hcss, if_pos hcss, bne, hcss]
    exact ⟨rfl, hids, ⟨(), rfl⟩, rfl⟩
  · rw [if_neg hcss, if_neg hcss, bne, Bool.eq_false_iff.mpr hcss]
    exact save_parallel hids

/-- Whatever fault keeps the cache from forgetting a draft, it is passed over. -/
theorem reset_parallel (htame : store.Tame) (hids : d.ids = d'.ids) :
    Parallel none (s.reset (some store) d) (s.reset none d') := by
  have hclear : (DraftCache.clear store s.settlement.id d.stored).1 = .ok () := by
    rw [clear_eq]
    dsimp only
    split
    · rfl
    · exact if_pos (htame.delete ‹_›)
  unfold reset
  dsimp only
  rcases hr : DraftCache.clear store s.settlement.id d.stored with ⟨e | u, stored⟩
  · rw [hr] at hclear
    cases hclear
  · exact ⟨rfl, hids, ⟨(), rfl⟩, rfl⟩

/-! ## One operation -/

namespace Operation

/-- Whether an operation takes up what is stored. -/
def isOpening : Operation ω → Bool
  | openDraft => true
  | _ => false

/-- The fault with which the store refuses what an operation saves, if it is not passed over. -/
def refusal? (store : Store σ) (s : Session) (d : Desk σ) (o : Operation ω) : Option Fault :=
  if o.alters s d then Session.refusal? store (o.run (some store) s d).2.1 d else none

/-- Nothing but the draft of an altered session is refused. -/
theorem alters_of_refusal? (htame : store.Tame) {o : Operation ω} {e : Fault}
    (h : o.refusal? store s d = some e) : e.isValueFault = true ∧ o.alters s d = true := by
  unfold refusal? at h
  split at h
  · exact ⟨Session.refusal?_isValueFault htame h, ‹_›⟩
  · cases h

end Operation

theorem runEdit_parallel (hids : d.ids = d'.ids) (e : Tree.Edit) :
    Parallel (if (e.run s.tree d.ids).1.isAccepted then
        refusal? store (Operation.runEdit (some store) s d e).2.1 d else none)
      (Operation.runEdit (some store) s d e) (Operation.runEdit none s d' e) := by
  have hdrawn : ({ d with ids := (e.run s.tree d.ids).2.2 } : Desk σ).ids
      = ({ d' with ids := (e.run s.tree d'.ids).2.2 } : Desk τ).ids := by
    rw [hids]
  unfold Operation.runEdit
  rw [← hids] at hdrawn ⊢
  exact apply_parallel hdrawn _ _

theorem run_parallel (htame : store.Tame) (hids : d.ids = d'.ids) {o : Operation ω}
    (ho : o.isOpening = false) :
    Parallel (o.refusal? store s d) (o.run (some store) s d) (o.run none s d') := by
  unfold Operation.refusal? Operation.alters
  cases he : o.edit? s with
  | some e =>
      rw [Operation.run_of_edit? he, Operation.run_of_edit? he]
      exact (runEdit_parallel hids e).map Report.change
  | none =>
      cases o with
      | openDraft => cases ho
      | setCss text => exact (setCss_parallel hids text).map fun _ => Report.done
      | reset => exact (reset_parallel htame hids).map fun _ => Report.done
      | setPosts posts => exact ⟨rfl, hids, ⟨.done, rfl⟩, rfl⟩
      | publish client o n => exact ⟨rfl, hids, ⟨.done, rfl⟩, rfl⟩
      | _ => cases he

/-! ## Histories -/

theorem runAll_parallel (htame : store.Tame) (hids : d.ids = d'.ids) {os : List (Operation ω)}
    (hos : ∀ o ∈ os, o.isOpening = false) :
    (runAll (some store) s d os).1 = (runAll none s d' os).1
      ∧ (runAll (some store) s d os).2.ids = (runAll none s d' os).2.ids := by
  induction os generalizing s d d' with
  | nil => exact ⟨rfl, hids⟩
  | cons o rest ih =>
      have hrun := run_parallel (s := s) htame hids (hos o List.mem_cons_self)
      have hrest := ih (s := (o.run (some store) s d).2.1) hrun.ids
        fun o' ho' => hos o' (List.mem_cons_of_mem o ho')
      unfold runAll
      rw [← hrun.session]
      exact hrest

/-- **Faults of the store do not influence editing**, whenever they occur: after every operation of
every history the session is the one without a cache, mark of unsaved changes included. The answer
is its answer as well, unless the store refuses with a fault of a value a draft that is to be saved.
Then the operation fails with that fault, although the change is in the session. -/
theorem storage_faults_exact (htame : store.Tame) (s : Session) (d : Desk σ) (clock : Supply)
    (nothing : τ) (os : List (Operation ω)) (o : Operation ω)
    (hos : ∀ o' ∈ o :: os, o'.isOpening = false) :
    let before := runAll (some store) s d os
    let before' := runAll none s ⟨d.ids, clock, nothing⟩ os
    before.1 = before'.1
      ∧ Parallel (o.refusal? store before.1 before.2) (o.run (some store) before.1 before.2)
          (o.run none before'.1 before'.2)
      ∧ ∀ e, o.refusal? store before.1 before.2 = some e →
          e.isValueFault = true ∧ o.alters before.1 before.2 = true := by
  intro before before'
  have hids : d.ids = (⟨d.ids, clock, nothing⟩ : Desk τ).ids := rfl
  obtain ⟨hsession, hids⟩ := runAll_parallel (s := s) htame hids
    fun o' ho' => hos o' (List.mem_cons_of_mem o ho')
  refine ⟨hsession, ?_, fun e he => Operation.alters_of_refusal? htame he⟩
  show Parallel _ _ (o.run none before'.1 _)
  rw [← show before.1 = before'.1 from hsession]
  exact run_parallel htame hids (hos o List.mem_cons_self)

/-- A website that is started where the store refuses everything that is to be kept: the operation
fails, and the session is the one that answers without a cache. -/
theorem storage_faults_exact_refusing :
    let e : Fault := .value (.other "store failed")
    let store := Store.memory.failing none (some e) none
    let s := Session.start ⟨"1", "Iași", "is", .nan, .nan, false⟩ []
    let ids : Supply := .ofSequence fun n => List.replicate n 'c'
    let start : Operation Unit := .createWebsite
    let r := start.run (some store) s ⟨ids, ids, []⟩
    let r' := start.run none s ⟨ids, ids, ()⟩
    r.1 = .error e ∧ (∃ report, r'.1 = .ok report) ∧ r.2.1 = r'.2.1 := by
  have hgeneral : ∀ (e : Fault) (s : Session) (ids : Supply), s.tree = .empty →
      (e.isValueFault || e.isSystemFault) = true → e.isSystemFault = false →
      let store := Store.memory.failing none (some e) none
      let start : Operation Unit := .createWebsite
      let r := start.run (some store) s ⟨ids, ids, []⟩
      let r' := start.run none s ⟨ids, ids, ()⟩
      r.1 = .error e ∧ (∃ report, r'.1 = .ok report) ∧ r.2.1 = r'.2.1 := by
    intro e s ids hempty htame hvalue store start r r'
    obtain ⟨-, hparallel, -⟩ := storage_faults_exact (Store.tame_refusing htame) s ⟨ids, ids, []⟩
      ids () [] start (by simp [start, Operation.isOpening])
    have halters : start.alters s ⟨ids, ids, ([] : Entries Text)⟩ = true := by
      show (s.tree.seed s.settlement.name ids).1.isAccepted = true
      rw [hempty]
      rfl
    have hrefusal : start.refusal? store s ⟨ids, ids, []⟩ = some e := by
      rw [Operation.refusal?, if_pos halters]
      exact if_neg (hvalue ▸ Bool.false_ne_true)
    have hanswer : r.1 = _ := hparallel.answer
    refine ⟨?_, hparallel.answers, hparallel.session⟩
    rw [hanswer]
    dsimp only [runAll]
    rw [hrefusal]
  exact hgeneral _ _ _ rfl rfl rfl

end Session

end CivicSite
