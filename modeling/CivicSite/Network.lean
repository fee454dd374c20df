import CivicSite.Json.Basic
import CivicSite.Text.Utf8

/-!
# The network

Requests that leave the program and what comes back. A network is what will be answered, in
order, and what was sent; a request takes the next answer and is added to what was sent. The
text of an answer is its bytes as UTF-8, damaged bytes replaced.
-/

namespace CivicSite

/-! ## Answers -/

/-- What comes of a request: an answer with a status and a body, or no answer for a reason. -/
inductive Outcome where
  | answer (status : Int) (body : ByteArray)
  | failure (reason : Text)

def bodyText (body : ByteArray) : Text := Text.decodeLossy body

/-! ## Requests -/

/-- What is published: the name of a site and its files. -/
structure Payload where
  name : Text
  files : Entries Text
deriving DecidableEq, Repr

def Payload.toJson (p : Payload) : Json :=
  .object [
    ("name", .text p.name),
    ("files-content", .object (p.files.map fun f => (f.1, .text f.2)))]

/-- A question to the backend. -/
structure Query where
  url : Text
  params : Option (Entries Text)
  headers : Entries Text
  timeout : Json

/-- A call of a webhook with something to send. -/
structure HookCall (α : Type) where
  method : Text
  url : Json
  payload : α
  timeout : Json

/-- A request of either sort. -/
inductive Request where
  | query (q : Query)
  | hook (h : HookCall Payload)

/-! ## Networks -/

/-- The answers to come, what comes when there are no more of them, and the requests sent,
newest first. -/
structure Network where
  answers : List Outcome
  otherwise : Outcome
  sent : List Request

namespace Network

def exchange (n : Network) (r : Request) : Outcome × Network :=
  match n.answers with
  | [] => (n.otherwise, { n with sent := r :: n.sent })
  | o :: rest => (o, { n with answers := rest, sent := r :: n.sent })

end Network

end CivicSite
