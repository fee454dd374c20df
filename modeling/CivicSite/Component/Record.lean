import CivicSite.Component.Basic
import CivicSite.Fault

/-!
# Components and drafts as records

A component is stored with its unset fields left out. Reading is lenient: only the kind has to
be known, and everything else is brought to the right form or given its default. A draft is
the list of components and the style sheet of one settlement; entries of its list that are no
components are passed over.
-/

namespace CivicSite

/-! ## Components -/

namespace Body

/-- The fields that are set, under their names. -/
def toEntries (b : Body) : Entries Json :=
  b.kind.fields.filterMap fun f => (b.value? f).map fun s => (f.name, Json.text s)

/-- The body of a kind with the texts of a record; null is unset. -/
def ofRecord (k : Kind) (record : Entries Json) : Body :=
  ofFields k fun f =>
    match record.get? f.name with
    | none | some .null => none
    | some v => some v.display

end Body

/-- The whole number that a value stands for, zero if it stands for none. Only an infinite
number has no place among the whole numbers. -/
def Json.toWhole : Json → Except Fault Int
  | .int i => .ok i
  | .bool b => .ok (if b then 1 else 0)
  | .double (.infinite _) => .error .tooLarge
  | .double x => .ok (x.truncate?.getD 0)
  | .text s => .ok ((Text.wholeNumber? s).getD 0)
  | _ => .ok 0

namespace Component

def toJson (c : Component) : Json :=
  .object [
    ("id", .text c.id), ("type", .text c.kind.name), ("content", .object c.body.toEntries),
    ("position", .int c.position), ("alignment", .text c.alignment.name)]

def ofRecord (record : Entries Json) : Except Fault Component := do
  let text (key : Text) : Option Text := (record.get? key).map Json.display
  let name := (text "type").getD ""
  let some kind := Kind.ofName? name | .error (.value (.unknownType name))
  let content :=
    match record.get? "content" with
    | some (.object content) => content
    | _ => []
  let position ← ((record.get? "position").getD (.int 0)).toWhole
  return {
    id := (text "id").getD ""
    body := Body.ofRecord kind content
    position := position
    alignment := ((text "alignment").bind Alignment.ofName?).getD .center }

end Component

/-! ## Drafts -/

/-- The work in progress on the website of one settlement. -/
structure Draft where
  settlement : Text
  components : List Component
  css : Text
  updatedAt : Text
deriving DecidableEq

namespace Draft

def toJson (d : Draft) : Json :=
  .object [
    ("settlement_id", .text d.settlement),
    ("components", .list (d.components.map Component.toJson)),
    ("css", .text d.css), ("updated_at", .text d.updatedAt)]

/-- The component of an entry, none if the entry is not a record of a known kind. -/
def component? : Json → Except Fault (Option Component)
  | .object record =>
    match Component.ofRecord record with
    | .ok c => .ok (some c)
    | .error e => if e.isValueFault then .ok none else .error e
  | _ => .ok none

/-- The components among the entries. -/
def readComponents : List Json → Except Fault (List Component)
  | [] => .ok []
  | v :: rest => do
    let c ← component? v
    return c.toList ++ (← readComponents rest)

/-- The entries of the component list. A text or an object has entries too, but none that is a
component. -/
def entries (record : Entries Json) : Except Fault (List Json) :=
  match record.get? "components" with
  | none => .ok []
  | some (.list items) => .ok items
  | some (.text _) | some (.object _) => .ok []
  | some _ => .error .wrongKind

/-- The draft of a record, its components in the order of their positions. -/
def ofRecord (record : Entries Json) : Except Fault Draft := do
  let text (key : Text) : Text := ((record.get? key).map Json.display).getD ""
  let components ← readComponents (← entries record)
  return ⟨text "settlement_id", Component.byPosition components, text "css", text "updated_at"⟩

end Draft

end CivicSite
