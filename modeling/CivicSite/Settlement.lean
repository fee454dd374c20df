import CivicSite.Fault
import CivicSite.Text.Case

/-!
# Settlements

A settlement has a website to its name. Its record comes from the backend, where the region
may stand under `judet` or `region`; a record is accepted only with an id, a name and
coordinates on the globe.
-/

namespace CivicSite

/-- A settlement and whether its website is deployed. -/
structure Settlement where
  id : Text
  name : Text
  region : Text
  lat : Double
  lng : Double
  active : Bool
deriving DecidableEq

namespace Json

/-- The number that a value stands for: a number, a truth value, or a text that writes one. -/
def toDouble : Json → Except Fault (Except RecordFault Double)
  | int i => (Double.ofInt? i).elim (.error .tooLarge) fun x => .ok (.ok x)
  | bool b => .ok (.ok (Double.ofRatio false (if b then 1 else 0) 1))
  | double x => .ok (.ok x)
  | text s =>
    match Double.ofText? s with
    | some x => .ok (.ok x)
    | none => .ok (.error (.badNumeral s))
  | v => .ok (.error (.notANumber v.kindName))

end Json

/-- The id of a record: under `_id`, or under `id` where that key is missing. -/
def recordId (record : Entries Json) : Except RecordFault Text :=
  match record.get? "_id" <|> record.get? "id" with
  | none => .error .noId
  | some v => if v.isBlank then .error .noId else .ok v.display

namespace Settlement

/-- The name that the website is deployed under. -/
def siteName (s : Settlement) : Text :=
  s.name ++ "-" ++ Text.upper s.region

/-- The settlement, if its coordinates lie on the globe. -/
def validate (s : Settlement) : Except ValidationFault Unit :=
  if !s.lat.between (-90) 90 then .error (.latitude s.lat)
  else if !s.lng.between (-180) 180 then .error (.longitude s.lng)
  else .ok ()

def coordinate (record : Entries Json) (key : Text) : Except Fault Double := do
  match record.get? key with
  | none => .error (.validation (.settlementRecord (.missing key)))
  | some v =>
    match ← v.toDouble with
    | .ok x => .ok x
    | .error e => .error (.validation (.settlementRecord e))

/-- The settlement of a record, its coordinates not looked at. -/
def ofRecord (record : Entries Json) : Except Fault Settlement := do
  let id ← (recordId record).mapError (.validation ∘ .settlementRecord)
  let name ←
    match record.get? "name" with
    | some v => pure v.display
    | none => .error (.validation (.settlementRecord (.missing "name")))
  let region := ((record.get? "judet" <|> record.get? "region").map Json.display).getD ""
  let lat ← coordinate record "lat"
  let lng ← coordinate record "lng"
  let active := ((record.get? "active").map Json.isTruthy).getD false
  return ⟨id, name, region, lat, lng, active⟩

/-- The settlement of a record, if the record is accepted. -/
def parse (record : Entries Json) : Except Fault Settlement := do
  let s ← ofRecord record
  s.validate.mapError .validation
  return s

end Settlement

end CivicSite
