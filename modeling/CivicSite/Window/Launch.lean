import CivicSite.Window.Opening

/-!
# Starting the program

The program loads its settings, tells the log how much to say, opens the window and asks which
settlement to work on. A fault on the way ends the program before the window takes gestures.
-/

namespace CivicSite.Window

def initialLogLevel : Int := 30

def logLevelOf (s : Settings) : Except Fault Int :=
  match s.logLevel with
  | .text name => Settings.logLevelNumber name
  | _ => .error .notText

/-- Opens the window with settings, and asks which settlement to work on. -/
def begin (settings : Settings) (year : Int) (desk : Desk Disk) (turn : Turn) :
    Except Fault Window := do
  let w ← build settings year desk turn
  let (result, w) := { w with visible := true }.handle askSettlement
  result
  return w

/-- Starts the program in an environment. Answers with the window, and the level of the log. -/
def launch (env : Entries Text) (year : Int) (desk : Desk Disk) (turn : Turn) :
    Except Fault Window × Int :=
  let home := ((env.get? "HOME").map Path.ofText).getD Settings.defaultHome
  match Settings.load home env none desk.stored with
  | (.error e, _) => (.error e, initialLogLevel)
  | (.ok settings, disk) =>
    match logLevelOf settings with
    | .error e => (.error e, initialLogLevel)
    | .ok level => (begin settings year { desk with stored := disk } turn, level)

end CivicSite.Window
