import CivicSite.Window.Command

/-!
# Gestures

A gesture is one thing that a user does with the window, or the timer running out. What is out
of use, hidden or not there does nothing; anything else is carried out. Typing only fills the
place that is typed in and starts the timer.
-/

namespace CivicSite

/-- What happens to the window from outside. -/
inductive Gesture where
  | press (c : Command)
  | select (row : Nat)
  | chooseKind (k : Kind)
  | chooseAlignment (a : Alignment)
  | typeText (f : Field) (text : Text)
  | typeStyles (text : Text)
  | typeSearch (text : Text)
  | turnTo (t : Tab)
  | tick
  | close
deriving DecidableEq, Repr

/-- What becomes of a gesture. -/
inductive Response where
  | done
  | disabled
  | hidden
  | absent
deriving DecidableEq, Repr

namespace Window

def canAlign (w : Window) : Bool := w.controls.components && w.controls.selected

/-- What would become of a gesture. -/
def foresee (w : Window) : Gesture → Response
  | .press c => if !w.isEnabled c then .disabled else if !w.isShown c then .hidden else .done
  | .select row => if row < w.rows.length then .done else .absent
  | .chooseKind _ => if w.controls.session then .done else .disabled
  | .chooseAlignment _ => if w.canAlign then .done else .disabled
  | .typeText f _ => if (w.form.input f).enabled then .done else .disabled
  | .typeSearch _ => if w.pane.searchShown then .done else .hidden
  | _ => .done

/-- Puts a text in a field of the form. -/
def setText (f : Field) (text : Text) (w : Window) : Window :=
  let typed (g : Field) : Input :=
    if g = f then { w.form.input g with text := text } else w.form.input g
  { w with form := { w.form with input := typed } }

/-- Whether typing a text counts although it is there already: in fields of several lines. -/
def countsAlways : Field → Bool
  | .description => true
  | _ => false

/-- Types a text in a field. The timer starts anew. -/
def typeText (f : Field) (text : Text) (w : Window) : Window :=
  if text == (w.form.input f).text && !countsAlways f then w
  else { w.setText f text with pending := true }

/-- Types in the search. The preview follows at once. -/
def typeSearch (text : Text) : Handler Unit := do
  let w ← get
  if text != w.pane.search then
    set { w with pane := { w.pane with search := text } }
    showPreview

/-- Brings a tab to the front. -/
def turnTo (t : Tab) : Handler Unit := do
  let w ← get
  if t ≠ w.tab then
    set { w with tab := t }
    showCode

/-- Carries out a gesture that nothing stands in the way of. -/
def carryOut : Gesture → Handler Unit
  | .press c => perform c
  | .select row => select row
  | .chooseKind k => modify ({ · with newKind := k })
  | .chooseAlignment a => do
    modify ({ · with alignment := a })
    alignComponent
  | .typeText f text => modify (typeText f text)
  | .typeStyles text => modify ({ · with css := text, pending := true })
  | .typeSearch text => typeSearch text
  | .turnTo t => turnTo t
  | .tick => do if (← get).pending then flush
  | .close => close

def react (g : Gesture) : Handler Response := do
  match (← get).foresee g with
  | .done =>
    carryOut g
    return .done
  | other => return other

end Window

end CivicSite
