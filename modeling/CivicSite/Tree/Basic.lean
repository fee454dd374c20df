import CivicSite.Component.Basic
import CivicSite.Entries
import CivicSite.Supply
import CivicSite.Text.Blank

/-!
# Trees of components

The components of one website in page order. A tree is empty or has one header and one footer;
kinds that are not repeatable occur once; positions count from zero without gaps. A list that
was stored elsewhere is repaired when a tree is made of it, and every operation either changes
the tree and says which component it concerned, or leaves the tree and says why.
-/

namespace CivicSite

/-! ## Changes -/

/-- Why a change is rejected. -/
inductive Rejection where
  | notEmpty
  | unknownType (name : Text)
  | present (kind : Kind)
  | noSuch (id : Text)
  | mandatory (kind : Kind)
  | badDirection (name : Text)
  | badAlignment (name : Text)
  | badFields (kind : Kind) (names : List Text)
deriving DecidableEq

namespace Rejection

/-- The warning that a rejection is shown with. -/
def message : Rejection → Text
  | notEmpty => "Website-ul are deja componente."
  | unknownType name => "Tip de componentă necunoscut: " ++ name
  | present kind =>
    "Componenta " ++ kind.label ++ " există deja și nu poate fi adăugată de două ori."
  | noSuch id => "Componenta " ++ id ++ " nu există."
  | mandatory kind =>
    "Componenta " ++ kind.label ++ " este obligatorie și nu poate fi ștearsă."
  | badDirection name => "Direcție invalidă: " ++ name
  | badAlignment name => "Aliniere invalidă: " ++ name
  | badFields kind names =>
    "Câmpuri nepermise pentru " ++ kind.label ++ ": " ++ List.intercalate ", " names

end Rejection

/-- The outcome of an operation. A component that has no neighbour to change places with stays
where it is, without a warning. -/
inductive Change where
  | accepted (component : Component)
  | rejected (reason : Rejection)
  | unmoved
deriving DecidableEq

namespace Change

def isAccepted : Change → Bool
  | accepted _ => true
  | _ => false

def warning? : Change → Option Text
  | rejected reason => some reason.message
  | _ => none

def component? : Change → Option Component
  | accepted c => some c
  | _ => none

end Change

/-! ## Trees -/

/-- The components of a website, in page order. -/
structure Tree where
  components : List Component
deriving DecidableEq

namespace Tree

/-- The tree without components. -/
def empty : Tree := ⟨[]⟩

def isEmpty (t : Tree) : Bool := t.components.isEmpty

def get? (t : Tree) (id : Text) : Option Component :=
  t.components.find? (·.id == id)

def place? (t : Tree) (id : Text) : Option Nat :=
  t.components.findIdx? (·.id == id)

/-- Whether a component of a kind is present. -/
def has (t : Tree) (kind : Kind) : Bool :=
  t.components.any (·.kind == kind)

/-! ## Repairs -/

/-- The components numbered from zero. -/
def renumber (cs : List Component) : List Component :=
  cs.zipIdx.map fun (c, i) => { c with position := i }

/-- The components whose id, and kind if it is not repeatable, occurs for the first time. -/
def dropDuplicates (ids : List Text) (kinds : List Kind) : List Component → List Component
  | [] => []
  | c :: rest =>
    if ids.contains c.id || (!c.kind.isRepeatable && kinds.contains c.kind) then
      dropDuplicates ids kinds rest
    else c :: dropDuplicates (c.id :: ids) (c.kind :: kinds) rest

/-- A new component with the next id. -/
def make (body : Body) (ids : Supply) : Component × Supply :=
  let (id, ids) := ids.draw
  (⟨id, body, 0, .center⟩, ids)

/-- A header in front if there is none. -/
def ensureHeader (cs : List Component) (ids : Supply) : List Component × Supply :=
  if cs.any (·.kind == .header) then (cs, ids)
  else
    let (c, ids) := make (.header none) ids
    (c :: cs, ids)

/-- A footer at the end if there is none. -/
def ensureFooter (cs : List Component) (ids : Supply) : List Component × Supply :=
  if cs.any (·.kind == .footer) then (cs, ids)
  else
    let (c, ids) := make .footer ids
    (cs ++ [c], ids)

/-- The tree of components that have been put in order: with header and footer, numbered. -/
def complete (cs : List Component) (ids : Supply) : Tree × Supply :=
  let (cs, ids) := ensureHeader cs ids
  let (cs, ids) := ensureFooter cs ids
  (⟨renumber cs⟩, ids)

/-- The tree of any list of components: in the order of their positions, the first of each
duplicate kept, header and footer added where they are missing. -/
def ofList (cs : List Component) (ids : Supply) : Tree × Supply :=
  match Component.byPosition cs with
  | [] => (empty, ids)
  | ordered => complete (dropDuplicates [] [] ordered) ids

/-! ## Operations -/

/-- Starts a website: a header, a hero and the footer. -/
def seed (t : Tree) (settlement : Text) (ids : Supply) : Change × Tree × Supply :=
  if !t.isEmpty then (.rejected .notEmpty, t, ids)
  else
    let (header, ids) := make (.header (some (Text.trimEnd ("Primăria " ++ settlement)))) ids
    let (hero, ids) := make (.hero (some "Bine ați venit") (some "Portal oficial")) ids
    let (t, ids) := complete [header, hero] ids
    (.accepted header, t, ids)

/-- The place of a new component: in front for a header, anything else at the end but before a
footer that stands there. -/
def placeFor (cs : List Component) (kind : Kind) : Nat :=
  if kind == .header then 0
  else if (cs.getLast?.map Component.kind) == some .footer then cs.length - 1
  else cs.length

/-- Adds a component of the named kind. -/
def add (t : Tree) (name : Text) (ids : Supply) : Change × Tree × Supply :=
  match Kind.ofName? name with
  | none => (.rejected (.unknownType name), t, ids)
  | some kind =>
    if !kind.isRepeatable && t.has kind then (.rejected (.present kind), t, ids)
    else
      let (c, ids) := make (.initial kind) ids
      let place := placeFor t.components kind
      let cs := t.components.insertIdx place c
      let place := if cs.any (·.kind == .header) then place else place + 1
      let (t, ids) := complete cs ids
      (.accepted (t.components.getD place c), t, ids)

/-- Deletes a component that is not mandatory. -/
def delete (t : Tree) (id : Text) : Change × Tree :=
  match t.get? id with
  | none => (.rejected (.noSuch id), t)
  | some c =>
    if c.kind.isMandatory then (.rejected (.mandatory c.kind), t)
    else (.accepted c, ⟨renumber (t.components.eraseP (·.id == id))⟩)

/-- The components with those at two places exchanged. -/
def swap (cs : List Component) (i j : Nat) : List Component :=
  match cs[i]?, cs[j]? with
  | some a, some b => (cs.set i b).set j a
  | _, _ => cs

/-- Moves a component one place up or down. -/
def move (t : Tree) (id direction : Text) : Change × Tree :=
  if direction != "up" && direction != "down" then (.rejected (.badDirection direction), t)
  else
    match t.place? id with
    | none => (.rejected (.noSuch id), t)
    | some i =>
      if direction == "up" && i == 0 then (.unmoved, t)
      else
        let j := if direction == "up" then i - 1 else i + 1
        let moved := renumber (swap t.components i j)
        match moved[j]? with
        | some c => (.accepted c, ⟨moved⟩)
        | none => (.unmoved, t)

def update (t : Tree) (id : Text) (f : Component → Component) : Change × Tree :=
  match t.place? id with
  | none => (.rejected (.noSuch id), t)
  | some i =>
    let t : Tree := ⟨t.components.modify i f⟩
    match t.components[i]? with
    | some c => (.accepted c, t)
    | none => (.rejected (.noSuch id), t)

def align (t : Tree) (id name : Text) : Change × Tree :=
  match Alignment.ofName? name with
  | none => (.rejected (.badAlignment name), t)
  | some alignment => t.update id fun c => { c with alignment := alignment }

/-- The names in a patch that are no fields of a kind, in ascending order. -/
def badFields (kind : Kind) (patch : Entries (Option Text)) : List Text :=
  ((patch.map (·.1)).filter fun n => !(kind.fields.any (·.name == n))).mergeSort Text.le

def patched (b : Body) (patch : Entries (Option Text)) : Body :=
  .ofFields b.kind fun f => (patch.get? f.name).getD (b.value? f)

/-- Sets or unsets fields of a component. -/
def edit (t : Tree) (id : Text) (patch : Entries (Option Text)) : Change × Tree :=
  match t.get? id with
  | none => (.rejected (.noSuch id), t)
  | some c =>
    match badFields c.kind patch with
    | [] => t.update id fun c => { c with body := patched c.body patch }
    | names => (.rejected (.badFields c.kind names), t)

end Tree

end CivicSite
