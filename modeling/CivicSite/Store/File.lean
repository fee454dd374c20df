import CivicSite.Disk
import CivicSite.Json.Reader
import CivicSite.Json.Writer
import CivicSite.Store.Basic

/-!
# The store in a file

All entries are kept in one file, as the text entries of one JSON object. A file that is
missing has no entries. One that cannot be understood is a fault for those who read, and is
started anew by those who write; only what the file system refuses stops them too, and JSON
that lies too deep in itself. A text that has no UTF-8 cannot be kept, and takes the file with it.
-/

namespace CivicSite.Store

def readText (d : Disk) (p : Path) : Except Fault Text := do
  match String.fromUTF8? (← d.readFile p) with
  | some s => return s
  | none => .error .malformedUtf8

/-- The text entries of an object, the others left out. -/
def textEntries (entries : Entries Json) : Entries Text :=
  entries.filterMap fun
    | (k, .text s) => some (k, s)
    | _ => none

def readEntries (d : Disk) (p : Path) : Except Fault (Entries Text) := do
  if !(← d.exists? p) then return []
  let text ← readText d p
  match ← (Json.read text).mapError Fault.ofReadError with
  | .object entries => return textEntries entries
  | _ => .error (.value (.notAnObject p.text))

/-- The entries in a file, none if the file cannot be understood. -/
def recoverEntries (d : Disk) (p : Path) : Except Fault (Entries Text) :=
  match readEntries d p with
  | .ok entries => .ok entries
  | .error e => if e.isValueFault then .ok [] else .error e

def entriesText (entries : Entries Text) : Text :=
  (Json.object (entries.map fun e => (e.1, Json.text e.2))).render ⟨false, some 2⟩

/-- Writes entries to a file, whose directory is made if it is missing. -/
def writeEntries (d : Disk) (p : Path) (entries : Entries Text) : Except Fault Unit × Disk :=
  match d.makeDirectory p.parent with
  | (.error e, d) => (.error e, d)
  | (.ok (), d) => d.writeFile p (entriesText entries)

def file (p : Path) : Store Disk where
  get key d := ((readEntries d p).map (·.get? key), d)
  set key value d :=
    match recoverEntries d p with
    | .error e => (.error e, d)
    | .ok entries => writeEntries d p (entries.put key value)
  delete key d :=
    match recoverEntries d p with
    | .error e => (.error e, d)
    | .ok entries =>
      if (entries.get? key).isSome then writeEntries d p (entries.remove key) else (.ok (), d)

end CivicSite.Store
