import CivicSite.Proofs.Publishing.Confirmation

/-!
# Runs of publishing

A settlement is published again and again, each time with its own webhooks, content and answer. A
call of the publisher takes one of seven courses (`Course`): what it attempts, sends, answers and
leaves behind is read off there, once for all that follows. A run is a list of calls, and a
settlement is active after it if it was before or if some call of the run created its site
(`active_after`); which webhook a call attempts follows from that alone.
-/

namespace CivicSite

/-! ## The steps of publishing -/

section

variable {ω : Type} {client : PublishClient ω} {c : SiteContent} {o : SiteOptions} {n n' : ω}

theorem publish_of_empty (h : c.components = []) :
    publish client c o n = (.error (.validation .noComponents), c.settlement, n) :=
  if_pos (List.isEmpty_iff.mpr h)

theorem publish_of_unlinkable (h : c.components ≠ []) (hlink : c.isLinkable = false) :
    publish client c o n = (.error .unencodable, c.settlement, n) := by
  unfold publish
  rw [if_neg (mt List.isEmpty_iff.mp h), hlink]
  rfl

theorem publish_of_send_error (h : c.components ≠ []) (hlink : c.isLinkable = true)
    {e : PublishFault}
    (hsend : client.send (.forSettlement c.settlement) (payloadOf c o) n = (.error e, n')) :
    publish client c o n = (.error (.publishing e), c.settlement, n') := by
  have hlinked : ¬ (!c.isLinkable) = true := by simp [hlink]
  unfold publish
  rw [if_neg (mt List.isEmpty_iff.mp h), if_neg hlinked]
  dsimp only
  rw [hsend]

theorem publish_of_send_ok (h : c.components ≠ []) (hlink : c.isLinkable = true) {body : Text}
    (hsend : client.send (.forSettlement c.settlement) (payloadOf c o) n = (.ok body, n')) :
    publish client c o n =
      match confirms body with
      | .error e => (.error e, c.settlement, n')
      | .ok true =>
        (.ok ⟨.forSettlement c.settlement, body⟩, { c.settlement with active := true }, n')
      | .ok false => (.error (.publishing (.unconfirmed body)), c.settlement, n') := by
  have hlinked : ¬ (!c.isLinkable) = true := by simp [hlink]
  unfold publish
  rw [if_neg (mt List.isEmpty_iff.mp h), if_neg hlinked]
  dsimp only
  generalize client.send (.forSettlement c.settlement) (payloadOf c o) n = r at hsend ⊢
  subst hsend
  rfl

end

/-! ## What is attempted -/

/-- A client that keeps the actions that it is asked for, the newest first. -/
def PublishClient.logged {ω : Type} (client : PublishClient ω) :
    PublishClient (ω × List Action) where
  send action payload n :=
    let r := client.send action payload n.1
    (r.1, r.2, action :: n.2)

/-- Keeping the actions changes neither the answer nor the settlement nor the network. -/
theorem publish_logged {ω : Type} (client : PublishClient ω) (c : SiteContent) (o : SiteOptions)
    (n : ω) (log : List Action) :
    ∃ log', publish client.logged c o (n, log)
      = ((publish client c o n).1, (publish client c o n).2.1, (publish client c o n).2.2,
          log') := by
  by_cases hempty : c.components = []
  · exact ⟨log, by rw [publish_of_empty hempty, publish_of_empty hempty]⟩
  · cases hlink : c.isLinkable with
    | false =>
        exact ⟨log, by
          rw [publish_of_unlinkable hempty hlink, publish_of_unlinkable hempty hlink]⟩
    | true =>
        refine ⟨.forSettlement c.settlement :: log, ?_⟩
        rcases hsend : client.send (.forSettlement c.settlement) (payloadOf c o) n with ⟨r, n'⟩
        have hlogged : client.logged.send (.forSettlement c.settlement) (payloadOf c o) (n, log)
            = (r, n', .forSettlement c.settlement :: log) := by
          simp only [PublishClient.logged, hsend]
        cases r with
        | error e =>
            rw [publish_of_send_error hempty hlink hlogged,
              publish_of_send_error hempty hlink hsend]
        | ok body =>
            rw [publish_of_send_ok hempty hlink hlogged, publish_of_send_ok hempty hlink hsend]
            rcases confirms body with e | (_ | _) <;> rfl

/-! ## Calls -/

/-- A call of the publisher: the webhooks, the content of the website besides the settlement, and
what comes of a request if one is sent. -/
structure Call where
  webhooks : Webhooks
  components : List Component
  posts : List Post
  css : Text
  options : SiteOptions
  outcome : Outcome

/-- What a call did: its answer, the settlement after it, the requests that left the program, and
the actions that the client was asked for. -/
structure Effect where
  answer : Except Fault Deployment
  settlement : Settlement
  sent : List Request
  attempts : List Action

namespace Call

/-- The content of the website of a settlement. -/
def content (c : Call) (s : Settlement) : SiteContent := ⟨s, c.components, c.posts, c.css⟩

/-- The network of the call, which answers with its outcome. -/
def network (c : Call) : Network := ⟨[c.outcome], c.outcome, []⟩

/-- What the call does to a settlement. -/
def effect (s : Settlement) (c : Call) : Effect :=
  let r := publish c.webhooks.client.logged (c.content s) c.options (c.network, [])
  ⟨r.1, r.2.1, r.2.2.1.sent, r.2.2.2⟩

/-- What the call sends for a settlement, where its webhook has an address. -/
def request (s : Settlement) (c : Call) : Except PublishFault Request :=
  (c.webhooks.call (Action.forSettlement s) (payloadOf (c.content s) c.options)).map .hook

/-- The courses that a call can take. -/
inductive Course (s : Settlement) (c : Call) : Effect → Prop where
  /-- There is nothing to publish. -/
  | empty : c.components = [] → Course s c ⟨.error (.validation .noComponents), s, [], []⟩
  /-- The pages cannot link to a post. -/
  | unlinkable : c.components ≠ [] → (c.content s).isLinkable = false →
      Course s c ⟨.error .unencodable, s, [], []⟩
  /-- The webhook has no address. -/
  | unsent {e : PublishFault} : c.components ≠ [] → (c.content s).isLinkable = true →
      c.request s = .error e →
      Course s c ⟨.error (.publishing e), s, [], [.forSettlement s]⟩
  /-- There is no answer, or it is a refusal. -/
  | refused {r : Request} {e : PublishFault} : c.components ≠ [] →
      (c.content s).isLinkable = true → c.request s = .ok r →
      Webhooks.answer c.outcome = .error e →
      Course s c ⟨.error (.publishing e), s, [r], [.forSettlement s]⟩
  /-- The answer is too deep to tell. -/
  | bottomless {r : Request} {body : Text} : c.components ≠ [] →
      (c.content s).isLinkable = true → c.request s = .ok r →
      Webhooks.answer c.outcome = .ok body → Bottomless body →
      Course s c ⟨.error .tooDeep, s, [r], [.forSettlement s]⟩
  /-- The answer does not confirm. -/
  | unconfirmed {r : Request} {body : Text} : c.components ≠ [] →
      (c.content s).isLinkable = true → c.request s = .ok r →
      Webhooks.answer c.outcome = .ok body → ¬ Confirming body → ¬ Bottomless body →
      Course s c ⟨.error (.publishing (.unconfirmed body)), s, [r], [.forSettlement s]⟩
  /-- The answer confirms. -/
  | confirmed {r : Request} {body : Text} : c.components ≠ [] →
      (c.content s).isLinkable = true → c.request s = .ok r →
      Webhooks.answer c.outcome = .ok body → Confirming body →
      Course s c ⟨.ok ⟨.forSettlement s, body⟩, { s with active := true }, [r], [.forSettlement s]⟩

/-- Asking the webhooks without an address asks for the action and sends nothing. -/
theorem send_of_unsent {s : Settlement} {c : Call} {e : PublishFault}
    (h : c.request s = .error e) :
    c.webhooks.client.logged.send (.forSettlement s) (payloadOf (c.content s) c.options)
        (c.network, []) = (.error e, c.network, [.forSettlement s]) := by
  unfold request at h
  cases hcall : c.webhooks.call (.forSettlement s) (payloadOf (c.content s) c.options) with
  | error e' =>
      rw [hcall] at h
      cases h
      simp only [PublishClient.logged, Webhooks.client, hcall]
  | ok hook =>
      rw [hcall] at h
      cases h

/-- Asking the webhooks with an address sends one request, and its outcome is what comes back. -/
theorem send_of_sent {s : Settlement} {c : Call} {r : Request} (h : c.request s = .ok r) :
    c.webhooks.client.logged.send (.forSettlement s) (payloadOf (c.content s) c.options)
        (c.network, [])
      = (Webhooks.answer c.outcome, ⟨[], c.outcome, [r]⟩, [.forSettlement s]) := by
  unfold request at h
  cases hcall : c.webhooks.call (.forSettlement s) (payloadOf (c.content s) c.options) with
  | error e =>
      rw [hcall] at h
      cases h
  | ok hook =>
      rw [hcall] at h
      cases h
      simp only [PublishClient.logged, Webhooks.client, hcall]
      rfl

/-- Every call takes one of the courses. -/
theorem course (s : Settlement) (c : Call) : Course s c (c.effect s) := by
  unfold effect
  dsimp only
  by_cases hempty : c.components = []
  · rw [publish_of_empty (c := c.content s) hempty]
    exact .empty hempty
  · cases hlink : (c.content s).isLinkable with
    | false =>
        rw [publish_of_unlinkable (c := c.content s) hempty hlink]
        exact .unlinkable hempty hlink
    | true =>
        cases hrequest : c.request s with
        | error e =>
            rw [publish_of_send_error (c := c.content s) hempty hlink (send_of_unsent hrequest)]
            exact .unsent hempty hlink hrequest
        | ok r =>
            have hsend := send_of_sent hrequest
            cases hanswer : Webhooks.answer c.outcome with
            | error e =>
                rw [hanswer] at hsend
                rw [publish_of_send_error (c := c.content s) hempty hlink hsend]
                exact .refused hempty hlink hrequest hanswer
            | ok body =>
                rw [hanswer] at hsend
                rw [publish_of_send_ok (c := c.content s) hempty hlink hsend]
                rcases confirms_spec body with ⟨hc, hconfirms⟩ | ⟨hc, hno, hread⟩ | ⟨hc, hdeep⟩
                · rw [hc]
                  exact .confirmed hempty hlink hrequest hanswer hconfirms
                · rw [hc]
                  exact .unconfirmed hempty hlink hrequest hanswer hno hread
                · rw [hc]
                  exact .bottomless hempty hlink hrequest hanswer hdeep

/-! ## One call -/

/-- An answer has a body if it is no refusal, and then it is that of the answer. -/
theorem answer_eq_ok_iff {o : Outcome} {text : Text} :
    Webhooks.answer o = .ok text ↔
      ∃ status body, o = .answer status body ∧ status < 400 ∧ bodyText body = text := by
  cases o with
  | failure reason => exact ⟨(fun h => nomatch h), (fun ⟨_, _, h, _⟩ => nomatch h)⟩
  | answer status body =>
      unfold Webhooks.answer
      dsimp only
      by_cases hrefused : 400 ≤ status
      · rw [if_pos hrefused]
        refine ⟨(fun h => nomatch h), ?_⟩
        rintro ⟨_, _, h, hstatus, -⟩
        cases h
        omega
      · rw [if_neg hrefused]
        constructor
        · intro h
          cases h
          exact ⟨status, body, rfl, by omega, rfl⟩
        · rintro ⟨_, _, h, -, rfl⟩
          cases h
          rfl

/-- A creation that is confirmed: the client is asked for it, it is sent, and the answer to it is
no refusal and confirms. -/
structure Creates (s : Settlement) (c : Call) : Prop where
  attempts : (c.effect s).attempts = [.create]
  sent : (c.effect s).sent ≠ []
  confirmed : ∃ status body,
    c.outcome = .answer status body ∧ status < 400 ∧ Confirming (bodyText body)

theorem forSettlement_of_active {s : Settlement} (h : s.active = true) :
    Action.forSettlement s = .update := if_pos h

theorem forSettlement_of_inactive {s : Settlement} (h : s.active = false) :
    Action.forSettlement s = .create := if_neg (Bool.eq_false_iff.mp h)

/-- **A settlement is active after a call if it was before or the call created its site.** -/
theorem active_effect (s : Settlement) (c : Call) :
    (c.effect s).settlement.active = true ↔ s.active = true ∨ c.Creates s := by
  have hcourse := c.course s
  constructor
  · intro h
    by_cases hactive : s.active = true
    · exact .inl hactive
    · refine .inr ?_
      have hcreate := forSettlement_of_inactive (Bool.eq_false_iff.mpr hactive)
      generalize heffect : c.effect s = e at hcourse h
      cases hcourse with
      | confirmed hcons hlink hrequest hanswer hconfirms =>
          obtain ⟨status, body, houtcome, hstatus, rfl⟩ := answer_eq_ok_iff.mp hanswer
          refine ⟨?_, ?_, status, body, houtcome, hstatus, hconfirms⟩
          · rw [heffect, hcreate]
          · rw [heffect]
            exact List.cons_ne_nil _ _
      | _ => exact absurd h hactive
  · rintro (hactive | ⟨-, hsent, status, body, houtcome, hstatus, hconfirms⟩)
    · generalize c.effect s = e at hcourse
      cases hcourse with
      | confirmed => rfl
      | _ => exact hactive
    · have hanswer' := answer_eq_ok_iff.mpr ⟨status, body, houtcome, hstatus, rfl⟩
      generalize c.effect s = e at hcourse hsent
      cases hcourse with
      | empty => exact absurd rfl hsent
      | unlinkable => exact absurd rfl hsent
      | unsent => exact absurd rfl hsent
      | refused _ _ _ hanswer => cases hanswer'.symm.trans hanswer
      | bottomless _ _ _ hanswer hdeep =>
          cases hanswer'.symm.trans hanswer
          exact absurd hconfirms hdeep.not_confirming
      | unconfirmed _ _ _ hanswer hno =>
          cases hanswer'.symm.trans hanswer
          exact absurd hconfirms hno
      | confirmed => rfl

/-- Nothing but the mark of the site changes. -/
theorem settlement_effect (s : Settlement) (c : Call) :
    (c.effect s).settlement = { s with active := (c.effect s).settlement.active } := by
  have hcourse := c.course s
  generalize c.effect s = e at hcourse
  cases hcourse with
  | _ => rfl

/-- The client is asked for nothing but the action of the settlement. -/
theorem eq_of_mem_attempts {s : Settlement} {c : Call} {a : Action}
    (h : a ∈ (c.effect s).attempts) : a = .forSettlement s := by
  have hcourse := c.course s
  generalize c.effect s = e at hcourse h
  cases hcourse with
  | empty => cases h
  | unlinkable => cases h
  | _ => exact List.mem_singleton.mp h

/-- What leaves the program is the request for the action of the settlement, once if at all. -/
theorem sent_effect (s : Settlement) (c : Call) :
    (c.effect s).sent = [] ∨ ∃ r, c.request s = .ok r ∧ (c.effect s).sent = [r] := by
  have hcourse := c.course s
  generalize c.effect s = e at hcourse
  cases hcourse with
  | empty => exact .inl rfl
  | unlinkable => exact .inl rfl
  | unsent => exact .inl rfl
  | refused _ _ hrequest => exact .inr ⟨_, hrequest, rfl⟩
  | bottomless _ _ hrequest => exact .inr ⟨_, hrequest, rfl⟩
  | unconfirmed _ _ hrequest => exact .inr ⟨_, hrequest, rfl⟩
  | confirmed _ _ hrequest => exact .inr ⟨_, hrequest, rfl⟩

theorem effect_of_empty (s : Settlement) {c : Call} (h : c.components = []) :
    c.effect s = ⟨.error (.validation .noComponents), s, [], []⟩ := by
  have hcourse := c.course s
  generalize c.effect s = e at hcourse
  cases hcourse with
  | empty => rfl
  | unlinkable hcons => exact absurd h hcons
  | unsent hcons => exact absurd h hcons
  | refused hcons => exact absurd h hcons
  | bottomless hcons => exact absurd h hcons
  | unconfirmed hcons => exact absurd h hcons
  | confirmed hcons => exact absurd h hcons

/-- A call that fails leaves the settlement as it was. -/
theorem settlement_of_error {s : Settlement} {c : Call} {e : Fault}
    (h : (c.effect s).answer = .error e) : (c.effect s).settlement = s := by
  have hcourse := c.course s
  generalize c.effect s = r at hcourse h
  cases hcourse with
  | confirmed => cases h
  | _ => rfl

/-! ### Faults that are not about publishing -/

/-- The pages cannot link to a post that a blog lists if no link can hold its id. -/
theorem isLinkable_eq_false_iff (s : Settlement) (c : Call) :
    (c.content s).isLinkable = false ↔
      (∃ b ∈ c.components, b.kind = .blog) ∧ ∃ p ∈ c.posts, p.id.isEncodable = false := by
  simp [SiteContent.isLinkable, SiteContent.has, content]

/-- How a call ends in a fault that is neither one of its input nor one of publishing: a blog
lists a post whose id no link can hold, or the answer to what was sent is no refusal, but too deep
to tell. -/
inductive Escapes (s : Settlement) (c : Call) : Fault → Prop where
  | unlinkable {b : Component} {p : Post} : b ∈ c.components → b.kind = .blog → p ∈ c.posts →
      p.id.isEncodable = false → Escapes s c .unencodable
  | bottomless {status : Int} {body : ByteArray} : (c.effect s).sent ≠ [] →
      c.outcome = .answer status body → status < 400 → Bottomless (bodyText body) →
      Escapes s c .tooDeep

end Call

/-- Whether a fault is one of the input or one of publishing. -/
def Fault.isOfPublishing : Fault → Bool
  | validation _ | publishing _ => true
  | _ => false

namespace Call

/-- **These are all faults of other sorts, and they all happen.** -/
theorem escapes_iff (s : Settlement) (c : Call) (e : Fault) :
    (c.effect s).answer = .error e ∧ e.isOfPublishing = false ↔ Escapes s c e := by
  have hcourse := c.course s
  constructor
  · rintro ⟨hanswer, hsort⟩
    generalize heffect : c.effect s = r at hcourse hanswer
    cases hcourse with
    | unlinkable hcons hlink =>
        cases hanswer
        obtain ⟨⟨b, hb, hblog⟩, p, hp, hid⟩ := (isLinkable_eq_false_iff s c).mp hlink
        exact .unlinkable hb hblog hp hid
    | bottomless hcons hlink hrequest hbody hdeep =>
        cases hanswer
        obtain ⟨status, body, houtcome, hstatus, rfl⟩ := answer_eq_ok_iff.mp hbody
        refine .bottomless ?_ houtcome hstatus hdeep
        rw [heffect]
        exact List.cons_ne_nil _ _
    | confirmed => cases hanswer
    | _ =>
        cases hanswer
        cases hsort
  · intro hescape
    cases hescape with
    | unlinkable hb hblog hp hid =>
        have hlink := (isLinkable_eq_false_iff s c).mpr ⟨⟨_, hb, hblog⟩, _, hp, hid⟩
        generalize c.effect s = r at hcourse
        cases hcourse with
        | empty hnil =>
            rw [hnil] at hb
            cases hb
        | unlinkable => exact ⟨rfl, rfl⟩
        | unsent _ hlink' => cases hlink.symm.trans hlink'
        | refused _ hlink' => cases hlink.symm.trans hlink'
        | bottomless _ hlink' => cases hlink.symm.trans hlink'
        | unconfirmed _ hlink' => cases hlink.symm.trans hlink'
        | confirmed _ hlink' => cases hlink.symm.trans hlink'
    | bottomless hsent houtcome hstatus hdeep =>
        have hbody := answer_eq_ok_iff.mpr ⟨_, _, houtcome, hstatus, rfl⟩
        generalize c.effect s = r at hcourse hsent
        cases hcourse with
        | empty => exact absurd rfl hsent
        | unlinkable => exact absurd rfl hsent
        | unsent => exact absurd rfl hsent
        | refused _ _ _ hbody' => cases hbody.symm.trans hbody'
        | bottomless => exact ⟨rfl, rfl⟩
        | unconfirmed _ _ _ hbody' _ hread =>
            cases hbody.symm.trans hbody'
            exact absurd hdeep hread
        | confirmed _ _ _ hbody' hconfirms =>
            cases hbody.symm.trans hbody'
            exact absurd hconfirms hdeep.not_confirming

end Call

/-! ## Runs -/

/-- The settlement after calls. -/
def afterCalls (s : Settlement) : List Call → Settlement
  | [] => s
  | c :: rest => afterCalls (c.effect s).settlement rest

/-- Whether one of the calls is a creation that is confirmed. -/
def Created (s : Settlement) : List Call → Prop
  | [] => False
  | c :: rest => c.Creates s ∨ Created (c.effect s).settlement rest

/-- **A settlement is active after calls if it was before or one of them created its site.** -/
theorem active_afterCalls (s : Settlement) (calls : List Call) :
    (afterCalls s calls).active = true ↔ s.active = true ∨ Created s calls := by
  induction calls generalizing s with
  | nil => exact (or_iff_left id).symm
  | cons c rest ih =>
      calc (afterCalls (c.effect s).settlement rest).active = true
          ↔ (c.effect s).settlement.active = true ∨ Created (c.effect s).settlement rest := ih _
        _ ↔ (s.active = true ∨ c.Creates s) ∨ Created (c.effect s).settlement rest :=
          or_congr_left (c.active_effect s)
        _ ↔ s.active = true ∨ c.Creates s ∨ Created (c.effect s).settlement rest := or_assoc

/-- What holds of a call after any calls before it, `t` being the settlement as they left it. -/
structure Orderly (s : Settlement) (before : List Call) (t : Settlement) (c : Call) : Prop where
  /-- The mark of the site is never taken away. -/
  stays : t.active = true → (c.effect t).settlement.active = true
  /-- It is set by a confirmed creation and by nothing else. -/
  turns : t.active = false → ((c.effect t).settlement.active = true ↔ c.Creates t)
  /-- Nothing else of the settlement changes. -/
  rest : (c.effect t).settlement = { t with active := (c.effect t).settlement.active }
  /-- An update is attempted only for a site that is there. -/
  update : .update ∈ (c.effect t).attempts → s.active = true ∨ Created s before
  /-- A site is not created again. -/
  create : Created s before → .create ∉ (c.effect t).attempts
  /-- Without components nothing is attempted and nothing sent. -/
  empty : c.components = [] → c.effect t = ⟨.error (.validation .noComponents), t, [], []⟩
  /-- At most one request leaves the program, and it is that of the action attempted. -/
  once : (c.effect t).sent = [] ∨ ∃ r, c.request t = .ok r ∧ (c.effect t).sent = [r]
  /-- A call that fails leaves the settlement as it was. -/
  kept : ∀ e, (c.effect t).answer = .error e → (c.effect t).settlement = t
  /-- When a call fails for another reason than its input or the publishing. -/
  escapes : ∀ e, (c.effect t).answer = .error e ∧ e.isOfPublishing = false ↔ c.Escapes t e

/-- **Every call of every run is orderly.** -/
theorem publishing_orderly (s : Settlement) (before : List Call) (c : Call) :
    Orderly s before (afterCalls s before) c := by
  have hactive := active_afterCalls s before
  generalize afterCalls s before = t at hactive ⊢
  exact {
    stays := fun h => (c.active_effect t).mpr (.inl h)
    turns := fun h => by
      rw [c.active_effect t, h]
      exact or_iff_right Bool.false_ne_true
    rest := c.settlement_effect t
    update := fun h => by
      cases hmark : t.active with
      | true => exact hactive.mp hmark
      | false =>
          have haction := Call.eq_of_mem_attempts h
          rw [Call.forSettlement_of_inactive hmark] at haction
          cases haction
    create := fun hcreated h => by
      have haction := Call.eq_of_mem_attempts h
      rw [Call.forSettlement_of_active (hactive.mpr (.inr hcreated))] at haction
      cases haction
    empty := c.effect_of_empty t
    once := c.sent_effect t
    kept := fun e => Call.settlement_of_error
    escapes := c.escapes_iff t }

end CivicSite
