import CivicSite.Entries
import CivicSite.Fault
import CivicSite.Text.Utf8

/-!
# Disks

A disk holds files and directories below one working directory, which always exists. A path is
followed name by name from there. What is on the way has to be a directory, also where the path
turns back with `..`, so two paths may lead to one place and each is shown as it was asked for.
The operations refuse for the reasons for which a file system refuses.
-/

namespace CivicSite

/-! ## Paths -/

/-- The names that a path is made of, outermost first. -/
structure Path where
  names : List Text
deriving DecidableEq, Repr

namespace Path

/-- The names between slashes. -/
def splitSlashes : Text → List Text
  | [] => [[]]
  | c :: rest =>
    match splitSlashes rest with
    | [] => [[]]
    | word :: words => if c == '/' then [] :: word :: words else (c :: word) :: words

/-- The path that a text writes. Empty names and single dots do not count. -/
def ofText (s : Text) : Path :=
  ⟨(splitSlashes s).filter fun n => n != "" && n != "."⟩

/-- The path of the working directory. -/
def here : Path := ⟨[]⟩

def text (p : Path) : Text :=
  if p.names.isEmpty then "." else List.intercalate "/" p.names

def child (p : Path) (name : Text) : Path := ⟨p.names ++ [name]⟩

/-- The path without its last name. -/
def parent (p : Path) : Path := ⟨p.names.dropLast⟩

/-- The name that leads back to the directory that a directory lies in. -/
def back : Text := ".."

/-- Whether a path only leads back, and so from the working directory to a directory. -/
def isBack (p : Path) : Bool := p.names.all (· == back)

def step (place : Path) (name : Text) : Path :=
  if name == back && !place.isBack then place.parent else place.child name

end Path

/-! ## Contents -/

/-- What is found in a place. -/
inductive Node where
  | file (bytes : ByteArray)
  | directory

/-- The contents of a disk by their places, in order of arrival. The path of a place leads back
only at its start. -/
structure Disk where
  nodes : List (Path × Node)

namespace Disk

/-- A disk without contents. -/
def empty : Disk := ⟨[]⟩

def nodeAt? (d : Disk) (place : Path) : Option Node :=
  if place.isBack then some .directory else (d.nodes.find? (·.1 == place)).map (·.2)

def put (d : Disk) (place : Path) (n : Node) : Disk :=
  ⟨d.nodes.filter (·.1 != place) ++ [(place, n)]⟩

/-! ## Following paths -/

/-- Why a path leads nowhere. -/
inductive Obstacle where
  | missing
  | notDirectory
  | tooLong
deriving DecidableEq, Repr

def Obstacle.fault (p : Path) : Obstacle → Fault
  | missing => .system (.notFound p.text)
  | notDirectory => .system (.notDirectory p.text)
  | tooLong => .system (.tooLong p.text)

/-- The most bytes of a name. -/
def maxNameSize : Nat := 255

/-- The most bytes of a path. -/
def maxPathSize : Nat := 4095

def sizeOf (s : Text) : Nat := (s.flatMap Text.utf8Bytes).length

def enter (d : Disk) (place : Path) (name : Text) : Except Obstacle Path :=
  match d.nodeAt? place with
  | none => .error .missing
  | some (.file _) => .error .notDirectory
  | some .directory => if maxNameSize < sizeOf name then .error .tooLong else .ok (place.step name)

/-- The place that a path leads to. Nothing needs to be found there. -/
def follow (d : Disk) (p : Path) : Except Obstacle Path :=
  if maxPathSize < sizeOf p.text then .error .tooLong else p.names.foldlM d.enter .here

/-- Whether a path cannot be asked for at all, because of a character in it. -/
def isUnaskable (p : Path) : Bool := p.names.any (·.contains (Char.ofNat 0))

/-- The place that a path leads to, or the fault of those who use it. -/
def locate (d : Disk) (p : Path) : Except Fault Path :=
  if isUnaskable p then .error (.value .nullCharacter) else (d.follow p).mapError (·.fault p)

/-- What is found under a path, nothing if it leads nowhere. -/
def find? (d : Disk) (p : Path) : Option Node :=
  match d.locate p with
  | .ok place => d.nodeAt? place
  | .error _ => none

/-- Whether something is found under a path. Only a path that is too long cannot be asked. -/
def exists? (d : Disk) (p : Path) : Except Fault Bool :=
  if isUnaskable p then .ok false
  else
    match d.follow p with
    | .ok place => .ok (d.nodeAt? place).isSome
    | .error .tooLong => .error (Obstacle.tooLong.fault p)
    | .error _ => .ok false

/-! ## Operations -/

/-- What comes of making the directory that a path names in the directory that it lies in. -/
inductive Making where
  | made (d : Disk)
  | found (n : Node)
  | refused (o : Obstacle)

/-- Makes the directory that a path names in the directory that it lies in. -/
def make (d : Disk) (p : Path) : Making :=
  match d.follow p with
  | .error o => .refused o
  | .ok place =>
    match d.nodeAt? place with
    | some n => .found n
    | none => .made (d.put place .directory)

/-- Makes a directory, with the directories that it lies in, `depth` of them at most. One that
exists is kept. -/
def makeWithin : Nat → Path → Disk → Except Fault Unit × Disk
  | depth, p, d =>
    match d.make p, depth with
    | .made d, _ => (.ok (), d)
    | .found .directory, _ => (.ok (), d)
    | .found (.file _), _ => (.error (.system (.alreadyExists p.text)), d)
    | .refused .missing, depth + 1 =>
      match makeWithin depth p.parent d with
      | (.error e, d) => (.error e, d)
      | (.ok (), d) =>
        match d.make p with
        | .made d => (.ok (), d)
        | .found .directory => (.ok (), d)
        | .found (.file _) => (.error (.system (.alreadyExists p.text)), d)
        | .refused o => (.error (o.fault p), d)
    | .refused o, _ => (.error (o.fault p), d)

/-- Makes a directory, with the directories that it lies in. One that exists is kept. -/
def makeDirectory (d : Disk) (p : Path) : Except Fault Unit × Disk :=
  if isUnaskable p then (.error (.value .nullCharacter), d) else makeWithin p.names.length p d

def readFile (d : Disk) (p : Path) : Except Fault ByteArray := do
  match d.nodeAt? (← d.locate p) with
  | some (.file bytes) => .ok bytes
  | some .directory => .error (.system (.isDirectory p.text))
  | none => .error (.system (.notFound p.text))

/-- Writes a file, in place of one that is there. -/
def writeBytes (d : Disk) (p : Path) (bytes : ByteArray) : Except Fault Unit × Disk :=
  match d.locate p with
  | .error e => (.error e, d)
  | .ok place =>
    match d.nodeAt? place with
    | some .directory => (.error (.system (.isDirectory p.text)), d)
    | _ => (.ok (), d.put place (.file bytes))

/-- Writes a text to a file. Where the text has no bytes the file is left empty. -/
def writeFile (d : Disk) (p : Path) (s : Text) : Except Fault Unit × Disk :=
  match s.string? with
  | some s => d.writeBytes p s.toUTF8
  | none =>
    let (result, d) := d.writeBytes p .empty
    (result.bind fun _ => .error .unencodable, d)

/-- The files below the working directory, with their paths in ascending order. -/
def files (d : Disk) : List (Path × ByteArray) :=
  let found := d.nodes.filterMap fun
    | (p, .file bytes) => if p.names.head? == some Path.back then none else some (p, bytes)
    | (_, .directory) => none
  found.mergeSort fun a b => a.1.text.le b.1.text

end Disk

end CivicSite
