import CivicSite.Proofs.Session.Reopening

/-!
# Changes that are rejected

An edit is decided on before anything is touched: the tree says no without drawing an id, and what
the tree rejects is not saved, so neither the clock nor the store hears of it. A rejected operation
thus leaves everything as it was (`Operation.run_of_rejected`), and a history may be cleared of its
rejected operations: what is left of it runs as it did. This takes nothing of the store, which may
fail whenever it likes.
-/

namespace CivicSite

namespace Session

variable {σ ω : Type}

/-! ## Edits of the session -/

/-- An edit that is answered answers with what it did to the tree. -/
theorem apply_answer {cache : Option (Store σ)} {change c : Change} {tree : Tree} {s s' : Session}
    {d d' : Desk σ} (h : s.apply cache change tree d = (.ok c, s', d')) :
    change = c ∧ s'.tree = tree := by
  have htree := (apply_tree cache change tree s d).1
  rw [h] at htree
  refine ⟨?_, htree⟩
  unfold apply at h
  split at h
  · rcases hsave : ({ s with tree := tree } : Session).save cache d with ⟨e | u, s'', d''⟩
    · simp only [hsave] at h
      cases h
    · simp only [hsave] at h
      cases h
      rfl
  · cases h
    rfl

namespace Operation

theorem runEdit_answer {cache : Option (Store σ)} {s s' : Session} {d d' : Desk σ}
    {e : Tree.Edit} {c : Change} (h : runEdit cache s d e = (.ok c, s', d')) :
    (e.run s.tree d.ids).1 = c ∧ s'.tree = (e.run s.tree d.ids).2.1 := by
  unfold runEdit at h
  exact apply_answer h

/-- An edit that is not accepted leaves the session. -/
theorem runEdit_rejected {cache : Option (Store σ)} {s : Session} {d : Desk σ}
    {e : Tree.Edit} (h : (e.run s.tree d.ids).1.isAccepted = false) :
    runEdit cache s d e = (.ok (e.run s.tree d.ids).1, s, d) := by
  have hrun := Tree.run_of_not_accepted h
  unfold runEdit apply
  rw [if_neg (Bool.eq_false_iff.mp h), hrun]

/-- Only edits answer with a change. -/
theorem edit?_of_change {cache : Option (Store σ)} {s : Session} {d : Desk σ} {o : Operation ω}
    {c : Change} (h : (o.run cache s d).1 = .ok (.change c)) : ∃ e, o.edit? s = some e := by
  have hother {α : Type} {r : Except Fault α} {f : α → Report} (hf : ∀ a, f a ≠ .change c) :
      r.map f ≠ .ok (.change c) := by
    intro heq
    cases r with
    | error e => cases heq
    | ok a => exact hf a (Except.ok.inj heq)
  cases o with
  | openDraft => exact absurd h (hother nofun)
  | setCss text => exact absurd h (hother nofun)
  | reset => exact absurd h (hother nofun)
  | setPosts posts => cases h
  | publish client o n => cases h
  | _ => exact ⟨_, rfl⟩

/-- **A rejected operation leaves everything as it was**: the session with its tree, styles, mark
and settlement, and the desk with its ids, clock and store. -/
theorem run_of_rejected {cache : Option (Store σ)} {s : Session} {d : Desk σ} {o : Operation ω}
    {c : Change} (h : (o.run cache s d).1 = .ok (.change c)) (hc : c.isAccepted = false) :
    (o.run cache s d).2 = (s, d) := by
  obtain ⟨e, he⟩ := edit?_of_change h
  rw [run_of_edit? he] at h ⊢
  rcases hrun : runEdit cache s d e with ⟨answer, s', d'⟩
  rw [hrun] at h
  cases answer with
  | error fault => cases h
  | ok c' =>
      obtain rfl : c' = c := by
        cases h
        rfl
      have hrejected : (e.run s.tree d.ids).1.isAccepted = false := by
        rw [(runEdit_answer hrun).1]
        exact hc
      rw [runEdit_rejected hrejected] at hrun
      exact (Prod.mk.inj hrun).2.symm

end Operation

/-! ## Histories -/

/-- One operation of a history, what it answered, and the session and the desk after it. -/
structure Step (σ ω : Type) where
  operation : Operation ω
  answer : Except Fault Report
  session : Session
  desk : Desk σ

/-- Whether the answer is a change that was not accepted. -/
def Step.isRejected (e : Step σ ω) : Bool :=
  match e.answer with
  | .ok (.change c) => !c.isAccepted
  | _ => false

/-- The steps of a history, each from where the one before it has led. -/
def steps (cache : Option (Store σ)) (s : Session) (d : Desk σ) :
    List (Operation ω) → List (Step σ ω)
  | [] => []
  | o :: rest =>
    let r := o.run cache s d
    ⟨o, r.1, r.2.1, r.2.2⟩ :: steps cache r.2.1 r.2.2 rest

/-- The operations of a history without those that are rejected in it. -/
def effective (cache : Option (Store σ)) (s : Session) (d : Desk σ) (os : List (Operation ω)) :
    List (Operation ω) :=
  ((steps cache s d os).filter fun e => !e.isRejected).map Step.operation

theorem Step.answer_of_isRejected {e : Step σ ω} (h : e.isRejected = true) :
    ∃ c, e.answer = .ok (.change c) ∧ c.isAccepted = false := by
  unfold isRejected at h
  split at h
  · rename_i c hanswer
    exact ⟨c, hanswer, by simpa using h⟩
  · cases h

/-- What is left of a history when its first operation is looked at: nothing of it if it is
rejected, and then nothing has happened. -/
theorem filter_steps_cons (cache : Option (Store σ)) (s : Session) (d : Desk σ) (o : Operation ω)
    (rest : List (Operation ω)) :
    let r := o.run cache s d
    (r.2 = (s, d) ∧ (steps cache s d (o :: rest)).filter (fun e => !e.isRejected)
        = (steps cache s d rest).filter fun e => !e.isRejected)
      ∨ (steps cache s d (o :: rest)).filter (fun e => !e.isRejected)
        = ⟨o, r.1, r.2.1, r.2.2⟩
          :: (steps cache r.2.1 r.2.2 rest).filter fun e => !e.isRejected := by
  intro r
  let e : Step σ ω := ⟨o, r.1, r.2.1, r.2.2⟩
  have hsteps : steps cache s d (o :: rest) = e :: steps cache r.2.1 r.2.2 rest := rfl
  rw [hsteps]
  cases he : e.isRejected with
  | true =>
      obtain ⟨c, hanswer, hc⟩ := e.answer_of_isRejected he
      have hkept : r.2 = (s, d) := Operation.run_of_rejected hanswer hc
      refine .inl ⟨hkept, ?_⟩
      rw [List.filter_cons_of_neg (by simp [he]), hkept]
  | false =>
      refine .inr ?_
      rw [List.filter_cons_of_pos (by simp [he])]

/-- **Rejected changes are no changes.** An operation whose change is not accepted leaves session
and desk as they were. So the rejected operations of a history can be left out: each of the others
answers as before and leaves the same session and desk, and so does the history as a whole. -/
theorem rejected_changes_exact (cache : Option (Store σ)) (s : Session) (d : Desk σ)
    (os : List (Operation ω)) :
    (∀ (o : Operation ω) (c : Change), (o.run cache s d).1 = .ok (.change c) →
      c.isAccepted = false → (o.run cache s d).2 = (s, d))
    ∧ steps cache s d (effective cache s d os)
        = (steps cache s d os).filter (fun e => !e.isRejected)
    ∧ runAll cache s d (effective cache s d os) = runAll cache s d os := by
  refine ⟨fun o c => Operation.run_of_rejected, ?_⟩
  induction os generalizing s d with
  | nil => exact ⟨rfl, rfl⟩
  | cons o rest ih =>
      rcases filter_steps_cons cache s d o rest with ⟨hkept, hfilter⟩ | hfilter
      · obtain ⟨hsteps, hrun⟩ := ih s d
        have heffective : effective cache s d (o :: rest) = effective cache s d rest := by
          rw [effective, hfilter, effective]
        rw [heffective, hfilter]
        refine ⟨hsteps, hrun.trans ?_⟩
        rw [runAll, hkept]
      · obtain ⟨hsteps, hrun⟩ := ih (o.run cache s d).2.1 (o.run cache s d).2.2
        have heffective : effective cache s d (o :: rest)
            = o :: effective cache (o.run cache s d).2.1 (o.run cache s d).2.2 rest := by
          rw [effective, hfilter, List.map_cons, effective]
        rw [heffective, hfilter]
        exact ⟨congrArg (_ :: ·) hsteps, hrun⟩

/-- A second header is rejected, and so is a direction that there is not. -/
example :
    let ids : Supply := .ofSequence fun n => List.replicate n 'c'
    let s := start ⟨"1", "Iași", "is", .nan, .nan, false⟩ []
    let os : List (Operation Unit) :=
      [.createWebsite, .add "header", .add "map", .move "c" "sideways"]
    (steps none s ⟨ids, ids, ()⟩ os).map Step.isRejected = [false, true, false, true] := by
  decide +kernel

end Session

end CivicSite
