import CivicSite.Text.Blank
import CivicSite.Window.Editing

/-!
# Opening settlements

A settlement is opened in two halves. First it is asked for, and as long as an answer may still
fail the window keeps the session it has. Then the new session takes its place and takes up its
draft, and everything that is shown is brought up to date with it. A draft in which a number is
too large, or that is too deep in itself, stops the second half in the middle.
-/

namespace CivicSite.Window

/-! ## Settlements -/

/-- Ends an action that a fault stopped: users are told of what they can understand, and
anything else is left to the caller. -/
def fail {α : Type} (lead : Text) (answer : α) (e : Fault) : Handler α := do
  match e.shown? with
  | some text =>
    notify (.warning "Eroare" (lead ++ ":\n" ++ text))
    return answer
  | none => throw e

/-- Asks the backend for a settlement and its posts. -/
def fetch (id : Text) : Handler (Settlement × List Post) := do
  let backend := (← get).backend
  let settlement ← exchange (backend.getSettlement id)
  let settlement ← settlement
  let posts ← exchange (backend.getPosts id)
  return (settlement, ← posts)

/-- Remembers the settlement that was opened last. Settings that the file system does not let be
saved are kept for this run only. -/
def remember (id : Text) : Handler Unit := do
  let w ← get
  let settings := { w.settings with lastSettlement := .text id }
  let (result, disk) := settings.save none w.desk.stored
  set ({ w with settings := settings }.withDisk disk)
  match result with
  | .error e => if !e.isSystemFault then throw e
  | .ok () => return

/-- Brings everything up to date with a session that was just opened. -/
def showSession (restored : Bool) : Handler Unit := do
  modify loadStyles
  showList 0
  modify fun w => w.showTitle.adaptControls
  showPreview
  let name : Text := ((← get).session?.map fun s => s.settlement.name).getD ""
  report (if restored then "Ciornă restaurată" else "Deschis " ++ name) 4000

/-- Starts a session with what was fetched, and takes up its draft. -/
def startSession (id : Text) (settlement : Settlement) (posts : List Post) : Handler Bool := do
  let w ← get
  let (restored, s, desk) := (Session.start settlement posts).open? w.cache w.desk
  set { w with session? := some s, desk := desk }
  let restored ← restored
  remember id
  showSession restored
  return true

def openSettlement (id : Text) : Handler Bool := do
  flush
  match ← attempt (fetch id) with
  | .error e => fail "Localitatea nu a putut fi încărcată" false e
  | .ok (settlement, posts) => startSession id settlement posts

def askSettlement : Handler Unit := do
  let last := (← get).settings.lastSettlement
  let initial := if last.isTruthy then last else .text ""
  match ← ask (.input "Deschide localitate" "ID localitate:" initial) with
  | none => return
  | some reply =>
    let id := Text.trim reply
    if !id.isEmpty then
      let _ ← openSettlement id

/-- Reads the posts anew. -/
def reloadPosts : Handler Unit := do
  let w ← get
  match w.session? with
  | none => return
  | some s =>
    match ← exchange (w.backend.getPosts s.settlement.id) with
    | .error e => fail "Postările nu au putut fi încărcate" () e
    | .ok posts =>
      modify fun w => { w with session? := some (s.setPosts posts) }
      showPreview
      report (toString posts.length ++ " postări încărcate") 3000

end CivicSite.Window
