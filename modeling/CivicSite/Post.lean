import CivicSite.Settlement
import CivicSite.Timestamp.Iso

/-!
# Blog posts

Posts are read from records of the backend and listed with the newest first.
-/

namespace CivicSite

/-- A blog post of a settlement. -/
structure Post where
  id : Text
  title : Text
  description : Text
  content : Text
  settlement : Text
  date : Timestamp
deriving DecidableEq

/-- The timestamp that a value writes. -/
def Timestamp.ofJson : Json → Except TimestampError Timestamp
  | .text s => if s.isEmpty then .error (.notText (Json.literal (.text s))) else parseIso s
  | v => .error (.notText v.literal)

namespace Post

/-- Whether a post may be published: no text is missing, title and description are short. -/
def validate (p : Post) : Except ValidationFault Unit :=
  if p.title.isEmpty then .error .noTitle
  else if maxTitleLength < p.title.length then .error .longTitle
  else if p.description.isEmpty then .error .noDescription
  else if maxDescriptionLength < p.description.length then .error .longDescription
  else if p.content.isEmpty then .error .noContent
  else if p.settlement.isEmpty then .error .noSettlement
  else .ok ()

def toJson (p : Post) : Json :=
  .object [
    ("id", .text p.id), ("title", .text p.title), ("description", .text p.description),
    ("content", .text p.content), ("settlement", .text p.settlement),
    ("date", .text p.date.iso)]

/-- The id of the settlement that a record belongs to, which may be given as a whole record. -/
def owner (record : Entries Json) : Text :=
  match record.get? "settlement" with
  | some (.object o) =>
    ((Entries.get? o "_id" <|> Entries.get? o "id").map Json.display).getD ""
  | some v => v.display
  | none => ""

def ofRecord (record : Entries Json) : Except RecordFault Post := do
  let field (key : Text) : Text := ((record.get? key).map Json.display).getD ""
  let id ← recordId record
  let date ← (Timestamp.ofJson ((record.get? "date").getD .null)).mapError .timestamp
  return ⟨id, field "title", field "description", field "content", owner record, date⟩

/-- The post of a record, if the record is accepted. -/
def parse (record : Entries Json) : Except ValidationFault Post :=
  (ofRecord record).mapError .postRecord

/-! ## Order -/

/-- Whether a post may be listed before another: it is the newer one by the seconds of their
dates, or as new and not less by its id. -/
def mayPrecede (a b : Post) : Bool :=
  let x := a.date.seconds
  let y := b.date.seconds
  if x == y then b.id.le a.id else y.le x

/-- The posts with the newest first. Posts that may both come first keep their order. -/
def sorted (posts : List Post) : List Post :=
  posts.mergeSort mayPrecede

end Post

end CivicSite
