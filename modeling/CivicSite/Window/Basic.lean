import CivicSite.Backend
import CivicSite.Session
import CivicSite.Settings
import CivicSite.Window.Turn

/-!
# The editor's window

What the window holds: the open session, and what its controls show. The two are apart because
text that is being typed is in the form before it is in the session, and because the list, the
form and the buttons show the session as it was when they were last brought up to date. One
timer runs while typed text waits to be taken over. What the window does about a gesture may stop
at a fault; what was done by then stays done.
-/

namespace CivicSite

open Page (Screen)

/-! ## Parts -/

/-- The pages in the middle of the window. -/
inductive Tab where
  | content
  | styles
  | code
deriving DecidableEq, Repr

/-- All tabs, from left to right. -/
def Tab.all : List Tab := [content, styles, code]

/-- A line of the list of components. -/
structure Row where
  caption : Text
  id : Text
deriving DecidableEq, Repr

/-- The row of a component: its kind, and its title if it has one that is not empty. -/
def Row.ofComponent (c : Component) : Row :=
  let title := (c.body.value? .title).getD ""
  ⟨if title.isEmpty then c.kind.label else c.kind.label ++ ": " ++ title, c.id⟩

/-- A place to type in. -/
structure Input where
  text : Text
  enabled : Bool
deriving DecidableEq, Repr

/-- The form for the texts of one component. -/
structure Form where
  /-- The component that the texts were taken from. -/
  component? : Option Text
  input : Field → Input

/-- What the buttons and menu entries were last adapted to. -/
structure Controls where
  session : Bool
  components : Bool
  selected : Bool
deriving DecidableEq, Repr

/-- A document in the preview, with the address that its links are relative to. -/
structure Document where
  html : Text
  base? : Option Text
deriving DecidableEq, Repr

/-- The preview and what decides what it shows. -/
structure Pane where
  screen : Screen
  /-- The one of the screen buttons that is pressed. -/
  pressed : Screen
  /-- Whether the listing of posts is shown in place of the first page. -/
  listing : Bool
  search : Text
  searchShown : Bool
  document? : Option Document
  /-- How many documents were shown so far. -/
  count : Nat

/-! ## The window -/

/-- The state of the editor's window. -/
structure Window where
  settings : Settings
  backend : Backend
  webhooks : Webhooks
  drafts : Path
  year : Int
  desk : Desk Disk
  turn : Turn
  session? : Option Session
  title : Text
  label : Text
  visible : Bool
  closed : Bool
  rows : List Row
  row? : Option Nat
  /-- The kind of the next component to be added. -/
  newKind : Kind
  alignment : Alignment
  controls : Controls
  publishing : Bool
  form : Form
  css : Text
  tab : Tab
  code : Entries Text
  pane : Pane
  /-- Whether typed text waits for the timer. -/
  pending : Bool

namespace Window

def programName : Text := "Townsite"

/-- The files that the code page has a view for. -/
def codeFiles : List Text := ["index.html", "styles.css", "script.js", "blog.html", "post.html"]

/-- The window as it is before a settlement is opened. -/
def build (settings : Settings) (year : Int) (desk : Desk Disk) (turn : Turn) :
    Except Fault Window := do
  let backend ← Backend.make settings.apiUrl settings.token .null
  let (drafts, disk) := settings.draftsPath desk.stored
  let drafts ← drafts
  let webhooks ← Webhooks.make settings.createUrl settings.updateUrl settings.updateMethod
    Webhooks.defaultTimeout
  return {
    settings, backend, webhooks, drafts, year, turn
    desk := { desk with stored := disk }
    session? := none
    title := programName
    label := "Nicio localitate deschisă"
    visible := false
    closed := false
    rows := []
    row? := none
    newKind := .header
    alignment := .left
    controls := ⟨false, false, false⟩
    publishing := false
    form := ⟨none, fun _ => ⟨"", true⟩⟩
    css := ""
    tab := .content
    code := codeFiles.map (·, "")
    pane := ⟨.desktop, .desktop, false, "", false, none, 0⟩
    pending := false }

/-! ## What can be seen of the state -/

/-- The options that websites are made with. -/
def options (w : Window) : SiteOptions := ⟨w.settings.siteApiUrl, w.year⟩

/-- The cache that sessions of this window keep their drafts in. -/
def cache (w : Window) : Option (Store Disk) := some (Store.file w.drafts)

def currentId? (w : Window) : Option Text :=
  (w.row?.bind fun i => w.rows[i]?).map Row.id

/-- The component of the session that has an id. The empty id stands for none. -/
def component? (w : Window) (id : Text) : Option Component :=
  if id.isEmpty then none else w.session?.bind fun s => s.tree.get? id

def current? (w : Window) : Option Component := w.currentId?.bind w.component?

/-- What is written on the publish button. -/
def publishCaption (w : Window) : Text :=
  if w.publishing then "Se salvează..." else "Salvează și publică"

/-- Whether the publish button can be pressed. -/
def publishEnabled (w : Window) : Bool := w.controls.components && !w.publishing

def withDisk (disk : Disk) (w : Window) : Window :=
  { w with desk := { w.desk with stored := disk } }

/-! ## Handlers -/

/-- What the window does about something: it answers or stops at a fault, and leaves the window
as it is by then. -/
abbrev Handler (α : Type) := ExceptT Fault (StateM Window) α

/-- The answer of a handler, and the window that it leaves. -/
def handle {α : Type} (w : Window) (h : Handler α) : Except Fault α × Window :=
  (h.run.run w).run

theorem handle_pure {α : Type} (w : Window) (a : α) : w.handle (pure a) = (.ok a, w) := rfl

theorem handle_bind {α β : Type} (w : Window) (h : Handler α) (k : α → Handler β) :
    w.handle (h >>= k) =
      match w.handle h with
      | (.ok a, w) => w.handle (k a)
      | (.error e, w) => (.error e, w) := by
  simp only [handle, bind, ExceptT.bind, ExceptT.mk, ExceptT.run, StateT.bind,
    ExceptT.bindCont, StateT.run, Id.run]
  split
  next a v hv =>
    rw [show (h : Window → Except Fault α × Window) w = (a, v) from hv]
    cases a <;> rfl

/-- The outcome of a handler as an answer, so that what follows a fault can be said. -/
def attempt {α : Type} (h : Handler α) : Handler (Except Fault α) := ExceptT.lift h.run

def notify (n : Notice) : Handler Unit :=
  modify fun w => { w with turn := w.turn.notify n }

/-- Shows a notice and takes the user's reply. -/
def ask (n : Notice) : Handler (Option Text) := do
  let w ← get
  let (reply, turn) := w.turn.ask n
  set { w with turn := turn }
  return reply

/-- Puts a message in the status line. -/
def report (text : Text) (duration : Nat) : Handler Unit :=
  modify fun w => { w with turn := w.turn.report text duration }

/-- Lets an operation use the network. -/
def exchange {α : Type} (op : Network → α × Network) : Handler α := do
  let w ← get
  let (a, turn) := w.turn.exchange w.publishCaption w.publishEnabled op
  set { w with turn := turn }
  return a

/-- Runs an operation of the session. There is no answer without a session. -/
def onSession {α : Type} (op : Option (Store Disk) → Session → Desk Disk →
    Except Fault α × Session × Desk Disk) : Handler (Option α) := do
  let w ← get
  match w.session? with
  | none => return none
  | some s =>
    let (result, s, desk) := op w.cache s w.desk
    set { w with session? := some s, desk := desk }
    return some (← result)

end Window

end CivicSite
