import CivicSite.Json.Reader
import CivicSite.Network
import CivicSite.Post
import CivicSite.Text.Percent

/-!
# The backend

Settlements and their posts are read from a backend that wraps every answer in two layers of
`data`. An answer is either what was asked for or one of the faults of the backend and its
records.
-/

namespace CivicSite

/-- How the backend is reached. -/
structure Backend where
  baseUrl : Text
  token : Json
  timeout : Json

namespace Backend

/-- The backend at an address, which has to be a text. Slashes at its end do not count. -/
def make (url token timeout : Json) : Except Fault Backend :=
  match url with
  | .text s => .ok ⟨Text.dropEndSlashes s, token, timeout⟩
  | _ => .error .notText

/-! ## Questions -/

def query (b : Backend) (path : Text) (params : Option (Entries Text)) : Query where
  url := b.baseUrl ++ "/" ++ path
  params := params
  headers := ("Accept", "application/json") ::
    if b.token.isTruthy then [("Authorization", "Bearer " ++ b.token.display)] else []
  timeout := b.timeout

/-- The question about a settlement, whose id is one segment of the path. -/
def settlementQuery (b : Backend) (id : Text) : Query :=
  b.query ("settlements/" ++ Text.percentEncode id fun _ => false) none

/-- The question about the posts of a settlement. -/
def postsQuery (b : Backend) (id : Text) : Query :=
  b.query "blog-posts" (some [("settlement", id)])

/-! ## Answers -/

/-- What is inside the two layers of an answer. -/
def unwrap? (v : Json) : Option Json :=
  match v with
  | .object outer =>
    match Entries.get? outer "data" with
    | some (.object inner) => Entries.get? inner "data"
    | _ => none
  | _ => none

/-- What an answer holds. -/
def payload (o : Outcome) : Except Fault Json :=
  match o with
  | .failure reason => .error (.backend (.unreachable reason))
  | .answer status body =>
    let text := bodyText body
    if 400 ≤ status then .error (.backend (.refused status text))
    else
      match Json.read text with
      | .error .tooDeep => .error .tooDeep
      | .error _ => .error (.backend (.unexpected text))
      | .ok v =>
        match unwrap? v with
        | some v => .ok v
        | none => .error (.backend (.unexpected text))

def settlement (o : Outcome) : Except Fault Settlement := do
  match ← payload o with
  | .object record => Settlement.parse record
  | _ => .error (.backend .notASettlement)

/-- The posts of the records among the items; items that are no records are passed over. -/
def parsePosts : List Json → Except ValidationFault (List Post)
  | [] => .ok []
  | .object record :: rest => do
    let p ← Post.parse record
    return p :: (← parsePosts rest)
  | _ :: rest => parsePosts rest

/-- The posts of an answer, newest first. -/
def posts (o : Outcome) : Except Fault (List Post) := do
  match ← payload o with
  | .list items => return Post.sorted (← (parsePosts items).mapError .validation)
  | _ => .error (.backend .notPosts)

/-! ## Exchanges -/

/-- Asks for a settlement. Its id has to have a place in a link. -/
def getSettlement (b : Backend) (id : Text) (n : Network) :
    Except Fault Settlement × Network :=
  if !id.isEncodable then (.error .unencodable, n)
  else
    let (o, n) := n.exchange (.query (b.settlementQuery id))
    (settlement o, n)

/-- Asks for the posts of a settlement. -/
def getPosts (b : Backend) (id : Text) (n : Network) : Except Fault (List Post) × Network :=
  let (o, n) := n.exchange (.query (b.postsQuery id))
  (posts o, n)

end Backend

end CivicSite
