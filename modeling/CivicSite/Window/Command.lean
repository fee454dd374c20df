import CivicSite.Window.Change
import CivicSite.Window.Delivery
import CivicSite.Window.Opening

/-!
# Commands

The buttons and the menu entries. A command may be out of use or off the screen, as the
controls were last adapted; carried out, it is one of the operations of the window.
-/

namespace CivicSite

open Page (Screen)

namespace Window

/-! ## Preview and program -/

def previewOn (screen : Screen) : Handler Unit := do
  modify fun w => { w with pane := { w.pane with screen := screen } }
  showPreview

/-- Turns between the first page and the listing of posts in the preview. -/
def turnListing : Handler Unit := do
  modify fun w =>
    let listing := !w.pane.listing
    { w with pane := { w.pane with listing := listing, searchShown := listing } }
  showPreview

/-- Tells about the program. -/
def about : Handler Unit :=
  notify (.information "About" (programName ++ "\nEditor pentru website-urile primăriilor."))

/-- Closes the window. What was typed is taken over first. -/
def close : Handler Unit := do
  flush
  modify ({ · with closed := true, visible := false })

end Window

/-! ## Commands -/

/-- The buttons and menu entries. -/
inductive Command where
  | create
  | add
  | up
  | down
  | delete
  | publish
  | listing
  | screen (s : Screen)
  | openSettlement
  | reloadPosts
  | exportSite
  | reset
  | quit
  | about
deriving DecidableEq, Repr

namespace Window

def isEnabled (w : Window) : Command → Bool
  | .add | .reset | .reloadPosts => w.controls.session
  | .up | .down | .delete => w.controls.components && w.controls.selected
  | .publish => w.publishEnabled
  | .exportSite => w.controls.components
  | _ => true

def isShown (w : Window) : Command → Bool
  | .create => w.controls.session && !w.controls.components
  | _ => true

/-- Carries out a command. -/
def perform : Command → Handler Unit
  | .create => createWebsite
  | .add => addComponent
  | .up => moveComponent "up"
  | .down => moveComponent "down"
  | .delete => deleteComponent
  | .publish => publish
  | .listing => turnListing
  | .screen s => do
    modify fun w => { w with pane := { w.pane with pressed := s } }
    previewOn s
  | .openSettlement => askSettlement
  | .reloadPosts => reloadPosts
  | .exportSite => exportSite
  | .reset => reset
  | .quit => close
  | .about => about

end Window

end CivicSite
