import CivicSite.Json.Reader
import CivicSite.Timestamp.Basic

/-!
# Faults

Every reason for which an operation does not answer, by the party that is at fault: the input,
the backend, the publishing webhook, a stored value, the file system. Each cause has one text,
given by `message`.
-/

namespace CivicSite

/-! ## Timestamps -/

/-- A length of time in days, seconds and microseconds, the last two not negative. -/
def durationText (micros : Int) : Text :=
  let part (name : Text) (n : Int) : List Text :=
    if n = 0 then [] else [name ++ "=" ++ toString n]
  let rest := micros % microsPerDay
  let parts := part "days" (micros / microsPerDay) ++ part "seconds" (rest / 1000000) ++
    part "microseconds" (rest % 1000000)
  let inner : Text := if parts.isEmpty then "0" else List.intercalate ", " parts
  "datetime.timedelta(" ++ inner ++ ")"

namespace TimestampError

def message : TimestampError → Text
  | notText literal => "Not a timestamp: " ++ literal
  | malformed text => "Invalid isoformat string: " ++ Text.quoted text
  | year n => "year " ++ toString n ++ " is out of range"
  | month => "month must be in 1..12"
  | day => "day is out of range for month"
  | hour => "hour must be in 0..23"
  | minute => "minute must be in 0..59"
  | second => "second must be in 0..59"
  | offset micros =>
    "offset must be a timedelta strictly between -timedelta(hours=24) and " ++
      "timedelta(hours=24), not " ++ durationText micros ++ "."

end TimestampError

/-! ## Records -/

/-- Why a record of the backend is not accepted. -/
inductive RecordFault where
  | noId
  | missing (field : Text)
  | badNumeral (text : Text)
  | notANumber (kind : Text)
  | timestamp (e : TimestampError)
deriving DecidableEq, Repr

namespace RecordFault

def message : RecordFault → Text
  | noId => "record has no id"
  | missing field => Text.quoted field
  | badNumeral text => "could not convert string to float: " ++ Text.quoted text
  | notANumber kind => "float() argument must be a string or a real number, not '" ++ kind ++ "'"
  | timestamp e => e.message

end RecordFault

/-! ## Input -/

/-- The most characters of a post's title. -/
def maxTitleLength : Nat := 30

/-- The most characters of a post's description. -/
def maxDescriptionLength : Nat := 100

/-- Why an input is rejected before anything is sent or generated. -/
inductive ValidationFault where
  | latitude (x : Double)
  | longitude (x : Double)
  | noTitle
  | longTitle
  | noDescription
  | longDescription
  | noContent
  | noSettlement
  | settlementRecord (e : RecordFault)
  | postRecord (e : RecordFault)
  | noComponents
deriving DecidableEq

namespace ValidationFault

def message : ValidationFault → Text
  | latitude x => "Latitude " ++ x.text ++ " is outside [-90, 90]"
  | longitude x => "Longitude " ++ x.text ++ " is outside [-180, 180]"
  | noTitle => "A blog post must have a title"
  | longTitle =>
    "A blog post title must have at most " ++ toString maxTitleLength ++ " characters"
  | noDescription => "A blog post must have a description"
  | longDescription =>
    "A blog post description must have at most " ++ toString maxDescriptionLength ++ " characters"
  | noContent => "A blog post must have content"
  | noSettlement => "A blog post must be associated with a settlement"
  | settlementRecord e => "Invalid settlement record: " ++ e.message
  | postRecord e => "Invalid blog post record: " ++ e.message
  | noComponents => "Adaugă cel puțin o componentă înainte de salvare."

end ValidationFault

/-! ## The backend -/

/-- Why the backend gives no usable answer. -/
inductive BackendFault where
  | unreachable (reason : Text)
  | refused (status : Int) (body : Text)
  | unexpected (body : Text)
  | notASettlement
  | notPosts
deriving DecidableEq, Repr

namespace BackendFault

def message : BackendFault → Text
  | unreachable reason => "Could not reach the server: " ++ reason
  | refused status _ => "Request failed with HTTP " ++ toString status
  | unexpected _ => "Unexpected response from the server"
  | notASettlement => "Settlement response is not an object"
  | notPosts => "Blog post response is not a list"

/-- The body that came with the answer, where it tells more. -/
def details? : BackendFault → Option Text
  | refused _ body => some body
  | unexpected body => some body
  | _ => none

def status? : BackendFault → Option Int
  | refused status _ => some status
  | _ => none

end BackendFault

/-! ## Publishing -/

/-- Why a site counts as not published. -/
inductive PublishFault where
  | unconfigured (setting : Text)
  | unreachable (reason : Text)
  | refused (status : Int) (body : Text)
  | unconfirmed (body : Text)
  | other (text : Text) (more? : Option Text)
deriving DecidableEq, Repr

namespace PublishFault

def message : PublishFault → Text
  | unconfigured setting => setting ++ " URL not configured"
  | unreachable reason => "Could not reach the webhook: " ++ reason
  | refused status _ => "Webhook answered with HTTP " ++ toString status
  | unconfirmed _ => "N8N did not return success status"
  | other text _ => text

/-- What the webhook had to say. -/
def details? : PublishFault → Option Text
  | refused _ body => some body
  | unconfirmed body => some body
  | other _ more? => more?
  | _ => none

end PublishFault

/-! ## Values -/

/-- Why a well-formed value cannot be used. -/
inductive ValueFault where
  | unknownType (name : Text)
  | timestamp (e : TimestampError)
  | unknownMode (name : Text)
  | notAnObject (path : Text)
  | tooManyDigits (count : Nat)
  | unknownLevel (name : Text)
  | nullCharacter
  | other (text : Text)
deriving DecidableEq, Repr

namespace ValueFault

def message : ValueFault → Text
  | unknownType name => "Unknown component type: " ++ Text.quoted name
  | timestamp e => e.message
  | unknownMode name => "Unknown preview mode: " ++ name
  | notAnObject path => path ++ " does not hold a JSON object"
  | tooManyDigits count =>
    "Exceeds the limit (" ++ toString Text.maxDigits ++ " digits) for integer string " ++
      "conversion: value has " ++ toString count ++ " digits; " ++
      "use sys.set_int_max_str_digits() to increase the limit"
  | unknownLevel name => "Unknown level: " ++ Text.quoted name
  | nullCharacter => "embedded null byte"
  | other text => text

end ValueFault

/-! ## The file system -/

/-- Why the file system refuses, with the path as it was asked for. -/
inductive SystemFault where
  | notFound (path : Text)
  | alreadyExists (path : Text)
  | notDirectory (path : Text)
  | isDirectory (path : Text)
  | tooLong (path : Text)
  | other (text : Text)
deriving DecidableEq, Repr

namespace SystemFault

def message : SystemFault → Text
  | notFound path => "[Errno 2] No such file or directory: " ++ Text.quoted path
  | alreadyExists path => "[Errno 17] File exists: " ++ Text.quoted path
  | notDirectory path => "[Errno 20] Not a directory: " ++ Text.quoted path
  | isDirectory path => "[Errno 21] Is a directory: " ++ Text.quoted path
  | tooLong path => "[Errno 36] File name too long: " ++ Text.quoted path
  | other text => text

end SystemFault

/-! ## All faults -/

/-- Why an operation does not answer. -/
inductive Fault where
  | validation (e : ValidationFault)
  | backend (e : BackendFault)
  | publishing (e : PublishFault)
  | value (e : ValueFault)
  | system (e : SystemFault)
  /-- A stored text is no JSON. -/
  | malformedJson
  /-- Stored bytes are no UTF-8. -/
  | malformedUtf8
  /-- A text that is to be stored or linked to has no UTF-8. -/
  | unencodable
  /-- The lists and objects of a value lie too deep in each other. -/
  | tooDeep
  /-- A value is of a kind that the operation is not made for. -/
  | wrongKind
  /-- A value that should be a text is none. -/
  | notText
  /-- A number is too large for the numbers it is brought to. -/
  | tooLarge
  | divisionByZero
  | unknownKey
deriving DecidableEq

namespace Fault

def ofReadError : Json.ReadError → Fault
  | .malformed => malformedJson
  | .tooManyDigits count => value (.tooManyDigits count)
  | .tooDeep => tooDeep

/-- Whether a fault is about the text of a value: the value itself, its JSON or its bytes. -/
def isValueFault : Fault → Bool
  | value _ | malformedJson | malformedUtf8 | unencodable => true
  | _ => false

def isSystemFault : Fault → Bool
  | system _ => true
  | _ => false

def shown? : Fault → Option Text
  | validation e => some e.message
  | backend e => some e.message
  | publishing e => some e.message
  | _ => none

end Fault

end CivicSite
