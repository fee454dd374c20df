import CivicSite.Component.Record
import CivicSite.Json.Reader
import CivicSite.Json.Writer
import CivicSite.Store.Basic
import CivicSite.Supply

/-!
# The draft cache

Work in progress is kept in a store, one draft per settlement. The cache stands between the
session and a store that may fail: what cannot be read counts as absent, and what the file
system does not let be written is not written. Only JSON that lies too deep in itself stops a
reader, and only a value that the store cannot hold stops a writer.
-/

namespace CivicSite.DraftCache

def keyFor (settlement : Text) : Text := "website-draft:" ++ settlement

/-- The draft that a stored text holds. -/
def decode (text : Text) : Except Fault Draft := do
  match ← (Json.read text).mapError Fault.ofReadError with
  | .object record => Draft.ofRecord record
  | _ => .error .wrongKind

def encode (d : Draft) : Text := d.toJson.render .plain

variable {σ : Type}

/-- Whether a stored text that is faulty in this way counts as absent. -/
def isMiss : Fault → Bool
  | .wrongKind | .notText => true
  | e => e.isValueFault

/-- The draft of a settlement, none if there is none that can be read. -/
def load (store : Store σ) (settlement : Text) (s : σ) : Except Fault (Option Draft) × σ :=
  match store.get (keyFor settlement) s with
  | (.error e, s) => (if e.isValueFault || e.isSystemFault then .ok none else .error e, s)
  | (.ok none, s) => (.ok none, s)
  | (.ok (some text), s) =>
    match decode text with
    | .ok d => (.ok (some { d with settlement := settlement }), s)
    | .error e => (if isMiss e then .ok none else .error e, s)

/-- Stores a draft, dated by the clock. -/
def save (store : Store σ) (settlement : Text) (components : List Component) (css : Text)
    (clock : Supply) (s : σ) : Except Fault Draft × Supply × σ :=
  let (now, clock) := clock.draw
  let draft : Draft := ⟨settlement, components, css, now⟩
  match store.set (keyFor settlement) (encode draft) s with
  | (.ok (), s) => (.ok draft, clock, s)
  | (.error e, s) => (if e.isSystemFault then .ok draft else .error e, clock, s)

def clear (store : Store σ) (settlement : Text) (s : σ) : Except Fault Unit × σ :=
  match store.delete (keyFor settlement) s with
  | (.ok (), s) => (.ok (), s)
  | (.error e, s) => (if e.isValueFault || e.isSystemFault then .ok () else .error e, s)

end CivicSite.DraftCache
