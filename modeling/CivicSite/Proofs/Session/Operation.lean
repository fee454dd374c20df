import CivicSite.Proofs.Tree.Run
import CivicSite.Session

/-!
# Operations of a session

What can be done with a session, as data, so that a history is a list. Six operations are edits of
the tree (`edit?`) and go one way: the edit is run, and if it is accepted the draft is saved. The
others open the draft, set the styles, reset, or concern what no draft has, which is the posts and
whether the site was published.

Two sessions that hold the same of what is stored cannot be told apart by any operation
(`Alike.trace_eq`): neither the posts nor the mark of unsaved changes has a part in it.
-/

namespace CivicSite

namespace Session

variable {σ ω : Type}

/-! ## Operations -/

/-- What can be done with a session. -/
inductive Operation (ω : Type) where
  | openDraft
  | createWebsite
  | add (name : Text)
  | delete (id : Text)
  | move (id direction : Text)
  | align (id alignment : Text)
  | edit (id : Text) (patch : Entries (Option Text))
  | setCss (text : Text)
  | reset
  | setPosts (posts : List Post)
  | publish (client : PublishClient ω) (o : SiteOptions) (n : ω)

/-- What an operation on the draft answers. -/
inductive Report where
  | found (b : Bool)
  | change (c : Change)
  | done

namespace Operation

/-- An operation on a session. What publishing answers is not about the draft and is left out. -/
def run (cache : Option (Store σ)) (s : Session) (d : Desk σ) :
    Operation ω → Except Fault Report × Session × Desk σ
  | openDraft => let r := s.open? cache d; (r.1.map .found, r.2)
  | createWebsite => let r := s.createWebsite cache d; (r.1.map .change, r.2)
  | add name => let r := s.add cache name d; (r.1.map .change, r.2)
  | delete id => let r := s.delete cache id d; (r.1.map .change, r.2)
  | move id direction => let r := s.move cache id direction d; (r.1.map .change, r.2)
  | align id alignment => let r := s.align cache id alignment d; (r.1.map .change, r.2)
  | edit id patch => let r := s.edit cache id patch d; (r.1.map .change, r.2)
  | setCss text => let r := s.setCss cache text d; (r.1.map fun _ => .done, r.2)
  | reset => let r := s.reset cache d; (r.1.map fun _ => .done, r.2)
  | setPosts posts => (.ok .done, s.setPosts posts, d)
  | publish client o n => (.ok .done, (s.publish client o n).2.1, d)

/-- The edit of the tree that an operation is. -/
def edit? (s : Session) : Operation ω → Option Tree.Edit
  | createWebsite => some (.seed s.settlement.name)
  | add name => some (.add name)
  | delete id => some (.delete id)
  | move id direction => some (.move id direction)
  | align id alignment => some (.align id alignment)
  | edit id patch => some (.edit id patch)
  | _ => none

/-- The outcome of an edit in a session. -/
def runEdit (cache : Option (Store σ)) (s : Session) (d : Desk σ) (e : Tree.Edit) :
    Except Fault Change × Session × Desk σ :=
  s.apply cache (e.run s.tree d.ids).1 (e.run s.tree d.ids).2.1
    { d with ids := (e.run s.tree d.ids).2.2 }

/-- All edits go one way. -/
theorem run_of_edit? {cache : Option (Store σ)} {s : Session} {d : Desk σ} {o : Operation ω}
    {e : Tree.Edit} (h : o.edit? s = some e) :
    o.run cache s d = ((runEdit cache s d e).1.map .change, (runEdit cache s d e).2) := by
  cases o with
  | createWebsite => cases h; rfl
  | add name => cases h; rfl
  | delete id => cases h; rfl
  | move id direction => cases h; rfl
  | align id alignment => cases h; rfl
  | edit id patch => cases h; rfl
  | openDraft => cases h
  | setCss text => cases h
  | reset => cases h
  | setPosts posts => cases h
  | publish client o n => cases h

/-- Whether an operation changes what is to be stored: an edit that is accepted, or new styles. -/
def alters (s : Session) (d : Desk σ) (o : Operation ω) : Bool :=
  match o.edit? s with
  | some e => (e.run s.tree d.ids).1.isAccepted
  | none =>
    match o with
    | setCss text => text != s.css
    | _ => false

end Operation

/-- The session and the desk after operations. -/
def runAll (cache : Option (Store σ)) (s : Session) (d : Desk σ) :
    List (Operation ω) → Session × Desk σ
  | [] => (s, d)
  | o :: rest => runAll cache (o.run cache s d).2.1 (o.run cache s d).2.2 rest

/-- What operations answer, with the tree and the styles after each. -/
def trace (cache : Option (Store σ)) (s : Session) (d : Desk σ) :
    List (Operation ω) → List (Except Fault Report × Tree × Text)
  | [] => []
  | o :: rest =>
    let r := o.run cache s d
    (r.1, r.2.1.tree, r.2.1.css) :: trace cache r.2.1 r.2.2 rest

/-! ## Sessions that hold the same -/

/-- Two sessions of one settlement with the same tree and styles. -/
structure Alike (s s' : Session) : Prop where
  id : s.settlement.id = s'.settlement.id
  name : s.settlement.name = s'.settlement.name
  tree : s.tree = s'.tree
  css : s.css = s'.css

theorem Alike.symm {s s' : Session} (h : Alike s s') : Alike s' s :=
  ⟨h.id.symm, h.name.symm, h.tree.symm, h.css.symm⟩

theorem Alike.trans {s s' s'' : Session} (h : Alike s s') (h' : Alike s' s'') : Alike s s'' :=
  ⟨h.id.trans h'.id, h.name.trans h'.name, h.tree.trans h'.tree, h.css.trans h'.css⟩

/-- The same answer and the same desk, and sessions that hold the same. -/
structure SameOutcome {α : Type} (r r' : α × Session × Desk σ) : Prop where
  answer : r.1 = r'.1
  session : Alike r.2.1 r'.2.1
  desk : r.2.2 = r'.2.2

/-- Only the answer is turned into another one. -/
theorem SameOutcome.map {α β : Type} {r r' : α × Session × Desk σ} (h : SameOutcome r r')
    (f : α → β) : SameOutcome (f r.1, r.2) (f r'.1, r'.2) :=
  ⟨congrArg f h.answer, h.session, h.desk⟩

theorem Alike.save {s s' : Session} (h : Alike s s') (cache : Option (Store σ)) (d : Desk σ) :
    SameOutcome (s.save cache d) (s'.save cache d) := by
  unfold Session.save
  cases cache with
  | none => exact ⟨rfl, ⟨h.id, h.name, h.tree, h.css⟩, rfl⟩
  | some store =>
      simp only [h.id, h.tree, h.css]
      exact ⟨rfl, ⟨h.id, h.name, rfl, rfl⟩, rfl⟩

theorem Alike.apply {s s' : Session} (h : Alike s s') (cache : Option (Store σ)) (change : Change)
    (tree : Tree) (d : Desk σ) :
    SameOutcome (s.apply cache change tree d) (s'.apply cache change tree d) := by
  have htree : Alike { s with tree := tree } { s' with tree := tree } := ⟨h.id, h.name, rfl, h.css⟩
  unfold Session.apply
  by_cases hc : change.isAccepted
  · rw [if_pos hc, if_pos hc]
    exact (htree.save cache d).map fun r => r.map fun _ => change
  · rw [if_neg hc, if_neg hc]
    exact ⟨rfl, htree, rfl⟩

theorem Alike.open? {s s' : Session} (h : Alike s s') (cache : Option (Store σ)) (d : Desk σ) :
    SameOutcome (s.open? cache d) (s'.open? cache d) := by
  unfold Session.open?
  cases cache with
  | none => exact ⟨rfl, h, rfl⟩
  | some store =>
      simp only [h.id]
      split
      · exact ⟨rfl, h, rfl⟩
      · exact ⟨rfl, h, rfl⟩
      · exact ⟨rfl, ⟨h.id, h.name, rfl, rfl⟩, rfl⟩

theorem Alike.setCss {s s' : Session} (h : Alike s s') (cache : Option (Store σ)) (text : Text)
    (d : Desk σ) : SameOutcome (s.setCss cache text d) (s'.setCss cache text d) := by
  have hcss : Alike { s with css := text } { s' with css := text } := ⟨h.id, h.name, h.tree, rfl⟩
  unfold Session.setCss
  rw [h.css]
  split
  · exact ⟨rfl, h, rfl⟩
  · exact hcss.save cache d

theorem Alike.reset {s s' : Session} (h : Alike s s') (cache : Option (Store σ)) (d : Desk σ) :
    SameOutcome (s.reset cache d) (s'.reset cache d) := by
  unfold Session.reset
  cases cache with
  | none => exact ⟨rfl, ⟨h.id, h.name, rfl, rfl⟩, rfl⟩
  | some store =>
      simp only [h.id]
      split
      · exact ⟨rfl, h, rfl⟩
      · exact ⟨rfl, ⟨h.id, h.name, rfl, rfl⟩, rfl⟩

/-- Publishing changes nothing that is stored. -/
theorem alike_publish (client : PublishClient ω) (o : SiteOptions) (s : Session) (n : ω) :
    Alike (s.publish client o n).2.1 s := by
  have hsettlement : (CivicSite.publish client s.content o n).2.1 = s.settlement
      ∨ (CivicSite.publish client s.content o n).2.1 = { s.settlement with active := true } := by
    unfold CivicSite.publish
    split
    · exact Or.inl rfl
    · split
      · exact Or.inl rfl
      · dsimp only
        split
        · exact Or.inl rfl
        · split
          · exact Or.inl rfl
          · exact Or.inr rfl
          · exact Or.inl rfl
  refine ⟨?_, ?_, rfl, rfl⟩
  · show (CivicSite.publish client s.content o n).2.1.id = s.settlement.id
    rcases hsettlement with h | h <;> rw [h]
  · show (CivicSite.publish client s.content o n).2.1.name = s.settlement.name
    rcases hsettlement with h | h <;> rw [h]

theorem Alike.edit?_eq {s s' : Session} (h : Alike s s') (o : Operation ω) :
    o.edit? s = o.edit? s' := by
  cases o with
  | createWebsite => exact congrArg (fun name => some (Tree.Edit.seed name)) h.name
  | _ => rfl

theorem Alike.run {s s' : Session} (h : Alike s s') (cache : Option (Store σ)) (d : Desk σ)
    (o : Operation ω) : SameOutcome (o.run cache s d) (o.run cache s' d) := by
  cases he : o.edit? s with
  | some e =>
      rw [Operation.run_of_edit? he, Operation.run_of_edit? (h.edit?_eq o ▸ he), Operation.runEdit,
        Operation.runEdit, h.tree]
      exact (h.apply cache _ _ _).map fun r => r.map Report.change
  | none =>
      cases o with
      | openDraft => exact (h.open? cache d).map fun r => r.map Report.found
      | setCss text => exact (h.setCss cache text d).map fun r => r.map fun _ => Report.done
      | reset => exact (h.reset cache d).map fun r => r.map fun _ => Report.done
      | setPosts posts => exact ⟨rfl, ⟨h.id, h.name, h.tree, h.css⟩, rfl⟩
      | publish client o n =>
          exact ⟨rfl, ((alike_publish client o s n).trans h).trans
            (alike_publish client o s' n).symm, rfl⟩
      | _ => cases he

/-- **Sessions that hold the same cannot be told apart.** -/
theorem Alike.trace_eq {s s' : Session} (h : Alike s s') (cache : Option (Store σ)) (d : Desk σ)
    (os : List (Operation ω)) : trace cache s d os = trace cache s' d os := by
  induction os generalizing s s' d with
  | nil => rfl
  | cons o rest ih =>
      have hrun := h.run cache d o
      unfold trace
      dsimp only
      rw [hrun.answer, hrun.session.tree, hrun.session.css, ih hrun.session, hrun.desk]

end Session

end CivicSite
