import CivicSite.Window.Editing

/-!
# Delivering websites

A website leaves the window as files in a directory or through the webhooks. What was typed is
taken over first, so that what is delivered is what is on the screen.
-/

namespace CivicSite.Window

/-! ## Export -/

/-- Exports the website to a directory, and tells how that went. -/
def exportTo (dir : Text) : Handler Unit := do
  let w ← get
  match w.session? with
  | none => return
  | some s =>
    let site ← s.bundle w.options
    let (result, disk) := site.exportTo (Path.ofText dir) w.desk.stored
    set (w.withDisk disk)
    match result with
    | .ok _ =>
      report ("Exported site to " ++ dir) 5000
      notify (.information "Export complete" ("Your site was exported to:\n" ++ dir))
    | .error (.system e) => notify (.warning "Export" ("Exportul a eșuat:\n" ++ e.message))
    | .error e => throw e

/-- Exports the website to a directory that the user chooses. -/
def exportSite : Handler Unit := do
  if (← get).session?.isSome then
    flush
    match ← ask (.directory "Export Site") with
    | none | some [] => return
    | some dir => exportTo dir

/-! ## Publishing -/

/-- What the user is told when publishing fails: the fault, and what the webhook said. -/
def publishWarning (e : Fault) (text : Text) : Text :=
  match e with
  | .publishing e =>
    let details := e.details?.getD []
    if details.isEmpty then text else text ++ "\n\n" ++ details
  | _ => text

/-- What the user is told when a website was published. -/
def publishMessage : Action → Text
  | .create => "Website creat cu succes!"
  | .update => "Website actualizat cu succes!"

/-- Ends publishing, so that the button can be pressed again. -/
def endPublishing (w : Window) : Window := { w with publishing := false }.adaptControls

/-- Sends the website, and leaves the session as that leaves it. -/
def send : Handler (Option Deployment) := do
  let w ← get
  match w.session? with
  | none => return none
  | some s =>
    let (result, s) ← exchange fun n =>
      let (result, s, n) := s.publish w.webhooks.client w.options n
      ((result, s), n)
    modify fun w => { w with session? := some s }
    return some (← result)

/-- Publishes the website. The button says so while it lasts. -/
def publish : Handler Unit := do
  if (← get).session?.isSome then
    flush
    modify ({ · with publishing := true })
    notify .repaint
    match ← attempt send with
    | .ok none => modify endPublishing
    | .ok (some deployment) =>
      modify endPublishing
      let text := publishMessage deployment.action
      report text 5000
      notify (.information "Publicare" text)
    | .error e =>
      match e.shown? with
      | some text =>
        notify (.warning "Publicare eșuată" (publishWarning e text))
        modify endPublishing
      | none =>
        modify endPublishing
        throw e

end CivicSite.Window
