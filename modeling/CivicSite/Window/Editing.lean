import CivicSite.Window.Basic

/-!
# Between the session and what is shown

Two directions. Loading brings the controls up to date with the session: the list, the form,
the styles, the preview, the code. Flushing takes typed text over into the session; it compares
what is in the form with the component that the form was filled from, and writes the fields
that differ. Loading the form of another row flushes first.
-/

namespace CivicSite.Window

/-! ## Preview and code -/

/-- Shows a document in the preview. -/
def display (doc : Document) (w : Window) : Window :=
  { w with pane := { w.pane with document? := some doc, count := w.pane.count + 1 } }

/-- Fills the code page, if it is in front. Files that the website does not have are empty. -/
def showCode : Handler Unit := do
  let w ← get
  match w.session? with
  | none => return
  | some s =>
    if w.tab == .code then
      let files := (← s.bundle w.options).files
      set { w with code := codeFiles.map fun name => (name, (files.get? name).getD "") }

def previewOf (w : Window) (s : Session) : Except Fault Text :=
  if w.pane.listing then s.listingPreview w.pane.search 1
  else s.preview w.pane.screen.name w.year

/-- Brings preview and code up to date. -/
def showPreview : Handler Unit := do
  let w ← get
  match w.session? with
  | none => modify (display ⟨"", none⟩)
  | some s =>
    let html ← w.previewOf s
    modify (display ⟨html, some "about:blank"⟩)
    showCode

/-! ## Controls -/

/-- What is said about a settlement above the list. -/
def settlementLabel (s : Settlement) : Text :=
  let state : Text := if s.active then "activ" else "inactiv"
  s.name ++ " (" ++ s.region ++ ") - website " ++ state

/-- Adapts buttons, menu entries and the settlement's label. -/
def adaptControls (w : Window) : Window :=
  { w with
    controls := {
      session := w.session?.isSome
      components := w.session?.any fun s => !s.tree.isEmpty
      selected := w.currentId?.isSome }
    label := (w.session?.map fun s => settlementLabel s.settlement).getD w.label }

def showTitle (w : Window) : Window :=
  { w with
    title := match w.session? with
      | none => programName
      | some s => programName ++ " - " ++ s.settlement.name }

/-! ## Form and styles -/

/-- The form for a component, or the form that is out of use. -/
def formOf (c? : Option Component) : Form where
  component? := c?.map Component.id
  input f := ⟨(c?.bind (·.body.value? f)).getD "", c?.any (·.kind.fields.contains f)⟩

/-- Fills the form from the component in the current row. -/
def loadForm (w : Window) : Window :=
  { w with
    form := formOf w.current?
    alignment := (w.current?.map Component.alignment).getD w.alignment }.adaptControls

/-- Fills the styles from the session. -/
def loadStyles (w : Window) : Window :=
  { w with css := (w.session?.map Session.css).getD "" }

/-! ## Flushing -/

/-- The fields of a component for which another text is in the form. -/
def patchFor (form : Form) (c : Component) : Entries (Option Text) :=
  c.kind.fields.filterMap fun f =>
    let typed := (form.input f).text
    if typed == (c.body.value? f).getD "" then none else some (f.name, some typed)

/-- The component that the form was filled from, if the session has it. -/
def formComponent? (w : Window) : Option Component :=
  w.form.component?.bind w.component?

/-- The rows with the first one of a component's id replaced. -/
def relabelRows (c : Component) : List Row → List Row
  | [] => []
  | r :: rest => if r.id == c.id then .ofComponent c :: rest else r :: relabelRows c rest

/-- Brings the row of a component up to date. -/
def relabel (id : Text) (w : Window) : Window :=
  match w.session?.bind fun s => s.tree.get? id with
  | none => w
  | some c => { w with rows := relabelRows c w.rows }

/-- Takes over the texts of the form. Answers whether the session changed. -/
def flushForm : Handler Bool := do
  let w ← get
  match w.formComponent? with
  | none => return false
  | some c =>
    match patchFor w.form c with
    | [] => return false
    | patch =>
      match ← onSession fun cache s d => s.edit cache c.id patch d with
      | some (.accepted _) =>
        modify (relabel c.id)
        return true
      | _ => return false

/-- Takes over the styles. Answers whether the session changed. -/
def flushStyles : Handler Bool := do
  let w ← get
  match w.session? with
  | none => return false
  | some s =>
    if w.css == s.css then return false
    let _ ← onSession fun cache s d => s.setCss cache w.css d
    return true

/-- Takes over what was typed, and stops the timer. -/
def flush : Handler Unit := do
  modify ({ · with pending := false })
  let edited ← flushForm
  let styled ← flushStyles
  if edited || styled then showPreview

/-! ## The list -/

/-- Makes a row the current one. If it was not, what was typed is taken over and the form is
filled anew. -/
def select (row : Nat) : Handler Unit := do
  let w ← get
  if w.row? ≠ some row then
    set { w with row? := some row }
    flush
    modify loadForm

/-- Fills the list from the session, and makes a row the current one, the last if there are
not so many. -/
def showList (row : Nat) : Handler Unit := do
  let w ← get
  let rows := (w.session?.map fun s => s.tree.components.map Row.ofComponent).getD []
  set { w with rows := rows, row? := none }
  if !rows.isEmpty then select (min row (rows.length - 1))
  modify loadForm

end CivicSite.Window
