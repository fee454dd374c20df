import CivicSite.Json.Reader
import CivicSite.Network
import CivicSite.Site
import CivicSite.Text.Blank
import CivicSite.Text.Case

/-!
# Publishing

A website is published through one of two webhooks: one creates the site, the other updates it.
Which one is called follows from whether the settlement counts as active, and it becomes active
when a creation is confirmed. A webhook confirms by one of two words, bare or wrapped in JSON.
-/

namespace CivicSite

/-! ## Confirmation -/

/-- The words that confirm a deployment. The second is how the workflow misspells it. -/
def confirmations : List Text := ["success", "suuccess"]

/-- The part of an answer that should be a word of confirmation: the status of an object, or of
the only item of a list, else the answer itself. -/
def statusOf : Json → Json
  | .object entries => (Entries.get? entries "status").getD .null
  | .list [.object entries] => (Entries.get? entries "status").getD .null
  | v => v

/-- Whether a value is a word of confirmation. -/
def isConfirmation : Json → Bool
  | .text word => confirmations.contains word
  | _ => false

/-- Whether the body of an answer confirms the deployment. A body that cannot be read does not,
unless it is too deep to tell. -/
def confirms (body : Text) : Except Fault Bool :=
  let text := Text.trim body
  if confirmations.contains text then .ok true
  else
    match Json.read text with
    | .ok v => .ok (isConfirmation (statusOf v))
    | .error .tooDeep => .error .tooDeep
    | .error _ => .ok false

/-! ## Webhooks -/

/-- What a call of a webhook is for. -/
inductive Action where
  | create
  | update
deriving DecidableEq, Repr

namespace Action

def name : Action → Text
  | create => "create"
  | update => "update"

/-- The setting that holds the address of an action's webhook. -/
def setting : Action → Text
  | create => "N8N_CREATE_SITE"
  | update => "N8N_UPDATE_SITE"

def forSettlement (s : Settlement) : Action := if s.active then update else create

end Action

/-- The addresses of the webhooks, and how they are called. -/
structure Webhooks where
  createUrl : Json
  updateUrl : Json
  updateMethod : Text
  timeout : Json

namespace Webhooks

/-- The seconds that a webhook may take. -/
def defaultTimeout : Json := .int 60

/-- The webhooks at two addresses. The method of updates has to be a text. -/
def make (createUrl updateUrl updateMethod timeout : Json) : Except Fault Webhooks :=
  match updateMethod with
  | .text m => .ok ⟨createUrl, updateUrl, Text.upper m, timeout⟩
  | _ => .error .notText

/-- The call for an action, if its webhook has an address. -/
def call {α : Type} (w : Webhooks) (a : Action) (payload : α) :
    Except PublishFault (HookCall α) :=
  let (url, method) : Json × Text :=
    match a with
    | .create => (w.createUrl, "POST")
    | .update => (w.updateUrl, w.updateMethod)
  if url.isTruthy then .ok ⟨method, url, payload, w.timeout⟩ else .error (.unconfigured a.setting)

/-- The body of an answer that is no refusal. -/
def answer : Outcome → Except PublishFault Text
  | .failure reason => .error (.unreachable reason)
  | .answer status body =>
    if 400 ≤ status then .error (.refused status (bodyText body)) else .ok (bodyText body)

end Webhooks

/-! ## Clients -/

/-- A way to publish: it takes an action and a payload and answers with a body. -/
structure PublishClient (ω : Type) where
  send : Action → Payload → ω → Except PublishFault Text × ω

def Webhooks.client (w : Webhooks) : PublishClient Network where
  send a payload n :=
    match w.call a payload with
    | .error e => (.error e, n)
    | .ok h =>
      let (o, n) := n.exchange (.hook h)
      (answer o, n)

/-! ## Publishing a website -/

/-- A deployment that was confirmed. -/
structure Deployment where
  action : Action
  response : Text
deriving DecidableEq, Repr

/-- What is sent for a website. -/
def payloadOf (c : SiteContent) (o : SiteOptions) : Payload :=
  ⟨c.settlement.siteName, (Site.generate c o).files⟩

/-- Publishes a website. The settlement that comes back is active if it was, or if this call
created its site. -/
def publish {ω : Type} (client : PublishClient ω) (c : SiteContent) (o : SiteOptions) (n : ω) :
    Except Fault Deployment × Settlement × ω :=
  if c.components.isEmpty then (.error (.validation .noComponents), c.settlement, n)
  else if !c.isLinkable then (.error .unencodable, c.settlement, n)
  else
    let action := Action.forSettlement c.settlement
    match client.send action (payloadOf c o) n with
    | (.error e, n) => (.error (.publishing e), c.settlement, n)
    | (.ok body, n) =>
      match confirms body with
      | .error e => (.error e, c.settlement, n)
      | .ok true => (.ok ⟨action, body⟩, { c.settlement with active := true }, n)
      | .ok false => (.error (.publishing (.unconfirmed body)), c.settlement, n)

end CivicSite
