import CivicSite.Window.Editing

/-!
# Changing the website

The list changes by what the session accepts: the change is shown by filling the list anew and
making a row the current one. A rejection is shown as a warning and changes nothing else.
-/

namespace CivicSite.Window

/-! ## Components -/

/-- Shows the outcome of a change. If it was accepted, the list is filled anew and the given
row is the current one, or the one that is now. -/
def showChange (change : Change) (row? : Option Nat) : Handler Unit := do
  match change.warning? with
  | some text => notify (.warning "Atenție" text)
  | none => pure ()
  if change.isAccepted then
    showList (row?.getD ((← get).row?.getD 0))
    modify adaptControls
    showPreview

def rowOf (change : Change) : Option Nat := change.component?.map (·.position.toNat)

/-- Makes a change in the session and shows its outcome, with a row that follows from the change
as the current one. -/
def change (op : Option (Store Disk) → Session → Desk Disk →
    Except Fault Change × Session × Desk Disk) (row? : Change → Option Nat) : Handler Unit := do
  match ← onSession op with
  | some c => showChange c (row? c)
  | none => return

/-- Makes a change of the component in the current row, if there is one. -/
def changeCurrent (op : Text → Option (Store Disk) → Session → Desk Disk →
    Except Fault Change × Session × Desk Disk) (row? : Change → Option Nat) : Handler Unit := do
  match (← get).currentId? with
  | some id => change (op id) row?
  | none => return

/-- Starts the website with the usual components. -/
def createWebsite : Handler Unit :=
  change (fun cache s d => s.createWebsite cache d) fun _ => some 0

/-- Adds a component of the chosen kind. -/
def addComponent : Handler Unit := do
  let name := (← get).newKind.name
  change (fun cache s d => s.add cache name d) rowOf

/-- Deletes the component in the current row. The row above is current then. -/
def deleteComponent : Handler Unit := do
  let row := (← get).row?.getD 0
  changeCurrent (fun id cache s d => s.delete cache id d) fun _ => some (row - 1)

/-- Moves the component in the current row, which stays the current one. -/
def moveComponent (direction : Text) : Handler Unit :=
  changeCurrent (fun id cache s d => s.move cache id direction d) rowOf

/-- Gives the component in the current row the chosen alignment. -/
def alignComponent : Handler Unit := do
  let name := (← get).alignment.name
  changeCurrent (fun id cache s d => s.align cache id name d) fun _ => none

/-! ## Starting over -/

/-- What is asked before a draft is forgotten. -/
def resetQuestion : Notice :=
  .question "Resetează ciorna" "Ștergi toate componentele și CSS-ul nesalvat?"

/-- Forgets the draft, after asking. What was typed is dropped. -/
def reset : Handler Unit := do
  if (← get).session?.isSome then
    let reply ← ask resetQuestion
    if reply == some "yes" then
      modify ({ · with pending := false })
      let _ ← onSession fun cache s d => s.reset cache d
      modify loadStyles
      showList 0
      modify adaptControls
      showPreview

end CivicSite.Window
