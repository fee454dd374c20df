import CivicSite.Proofs.Store.Export
import CivicSite.Proofs.Window.Refresh

/-!
# What is delivered is what is written

A website leaves the window through a webhook, as files in a directory, and as what the code page
shows. All three are made of the session, and the first two flush before. So it is the website as it
is being written (`Window.written`) that is sent and exported, and the code page shows the same one
when it is opened then (`Window.delivery_exact`).

Nothing is delivered that cannot be: no link holds a post whose id has no UTF-8, and no file holds
another text that has none. A call of a webhook does hold one, as it escapes what it carries.
-/

namespace CivicSite

/-! ## What a webhook is sent -/

/-- A call carries what it is for. -/
theorem payload_call {α : Type} {h : Webhooks} {a : Action} {p : α} {call : HookCall α}
    (hcall : h.call a p = .ok call) : call.payload = p := by
  cases a
  all_goals
    unfold Webhooks.call at hcall
    dsimp only at hcall
    split at hcall
    · cases hcall
      rfl
    · cases hcall

theorem sent_send (h : Webhooks) (a : Action) (p : Payload) (n : Network) :
    (h.client.send a p n).2.sent = n.sent ∨ ∃ call : HookCall Payload,
      (h.client.send a p n).2.sent = .hook call :: n.sent ∧ call.payload = p := by
  unfold Webhooks.client
  dsimp only
  cases hcall : h.call a p with
  | error e => exact .inl rfl
  | ok call =>
      refine .inr ⟨call, ?_, payload_call hcall⟩
      unfold Network.exchange
      cases n.answers <;> rfl

/-- Publishing makes at most one call, which carries the website. -/
theorem sent_publish (h : Webhooks) (c : SiteContent) (o : SiteOptions) (n : Network) :
    (publish h.client c o n).2.2.sent = n.sent ∨ ∃ call : HookCall Payload,
      (publish h.client c o n).2.2.sent = .hook call :: n.sent
        ∧ call.payload = payloadOf c o ∧ c.isLinkable = true := by
  unfold publish
  split
  · exact .inl rfl
  split
  · exact .inl rfl
  rename_i hlink
  have hlink : c.isLinkable = true := by simpa using hlink
  have hsent := sent_send h (.forSettlement c.settlement) (payloadOf c o) n
  dsimp only
  rcases hsend : h.client.send (.forSettlement c.settlement) (payloadOf c o) n with ⟨e | body, n'⟩
  · rw [hsend] at hsent
    exact hsent.imp_right fun ⟨call, hcall, hpayload⟩ => ⟨call, hcall, hpayload, hlink⟩
  · rw [hsend] at hsent
    dsimp only
    split
    all_goals
      exact hsent.imp_right fun ⟨call, hcall, hpayload⟩ => ⟨call, hcall, hpayload, hlink⟩

theorem Session.bundle_of_isLinkable {s : Session} (h : s.content.isLinkable = true)
    (o : SiteOptions) : s.bundle o = .ok (.generate s.content o) := by
  rw [bundle, Site.ofContent, if_pos h]

namespace Window

variable {w v : Window} {s s' : Session} {site : Site}

/-! ## What is written -/

/-- The content of the website as it is being written: that of the session, with the texts of the
form laid over the component that it was filled from, and with the styles as they stand in their
editor. -/
def written (w : Window) (s : Session) : SiteContent :=
  ⟨s.settlement, (w.form.overlay.tree s.tree).components, s.posts, w.css⟩

/-- **What is written is what the session has once it was flushed.** -/
theorem content_of_flush (hd : w.writing.Distinct) (hs : w.session? = some s)
    (hv : w.handle flush = (.ok (), v)) :
    ∃ s', v.session? = some s' ∧ s'.content = w.written s := by
  obtain ⟨hkeeps, hfree, hstuck⟩ := settles_flush hd
  rw [hv] at hkeeps hfree hstuck
  have hsynced : v.manuscript? = v.draft? :=
    synced_iff.mp (hfree fun h => not_error_ok () (hstuck h).2)
  obtain ⟨-, s', htaken, -⟩ := ensures_flush hs () v hv
  have hdraft : some (⟨s'.tree, s'.css⟩ : Manuscript)
      = some ⟨w.form.overlay.tree s.tree, w.css⟩ := by
    rw [← draft?_of_session htaken.session, ← hsynced, ← manuscript?_writing, hkeeps.manuscript,
      manuscript?_writing, manuscript?_of_session hs]
  obtain ⟨htree, hcss⟩ := Manuscript.mk.inj (Option.some.inj hdraft)
  refine ⟨s', htaken.session, ?_⟩
  rw [Session.content, written, htaken.source.1, htaken.source.2, htree, hcss]

/-- Flushing shows and sends nothing, and the settings stay what they are. -/
theorem turn_flush (w : Window) : w.Fixes (fun w => (w.turn, w.options)) flush :=
  fixes_flush (fun _ _ _ _ _ _ _ => rfl) w

/-! ## The code page -/

/-- The code page has the files of a website in its views once it is opened from another one. -/
def ShowsCode (w : Window) (site : Site) : Prop :=
  ∀ t ≠ Tab.code, ∃ v,
    w.handle (react (.turnTo t) >>= fun _ => react (.turnTo .code)) = (.ok .done, v)
    ∧ v.tab = .code ∧ v.code = viewsOf site

theorem handle_turnTo {t : Tab} (h : t ≠ w.tab) :
    w.handle (turnTo t) = ({ w with tab := t } : Window).handle showCode := by
  unfold turnTo
  rw [handle_get_bind, if_pos h, handle_bind, handle_set]

theorem handle_showCode_behind (hs : w.session? = some s) (htab : w.tab ≠ .code) :
    w.handle showCode = (.ok (), w) := by
  rw [handle_showCode hs, if_neg (mt beq_iff_eq.mp htab)]

theorem handle_showCode_front (hs : w.session? = some s) (htab : w.tab = .code)
    (hsite : s.bundle w.options = .ok site) :
    w.handle showCode = (.ok (), { w with code := viewsOf site }) := by
  rw [handle_showCode hs, if_pos (beq_iff_eq.mpr htab), hsite]

theorem showsCode_of_bundle (hs : w.session? = some s) (hsite : s.bundle w.options = .ok site) :
    w.ShowsCode site := by
  intro t ht
  -- whichever page was in front, it is another one than the code page first
  have hother : w.handle (turnTo t) = (.ok (), { w with tab := t }) := by
    by_cases htab : t = w.tab
    · subst htab
      unfold turnTo
      rw [handle_get_bind, if_neg (not_not.mpr rfl)]
      rfl
    · rw [handle_turnTo htab]
      exact handle_showCode_behind hs ht
  have hcode : ({ w with tab := t } : Window).handle (turnTo .code)
      = (.ok (), { w with tab := .code, code := viewsOf site }) := by
    rw [handle_turnTo (Ne.symm ht)]
    exact handle_showCode_front hs rfl hsite
  refine ⟨{ w with tab := .code, code := viewsOf site }, ?_, rfl, rfl⟩
  have hfirst : w.handle (react (.turnTo t)) = (.ok .done, { w with tab := t }) := by
    rw [handle_react_of_done rfl, handle_bind, carryOut, hother]
    rfl
  rw [handle_bind, hfirst]
  dsimp only
  rw [handle_react_of_done rfl, handle_bind, carryOut, hcode]
  rfl

/-! ## Publishing -/

/-- What matters of a window for what was sent of it and what can be shown of it. -/
def outgoing (w : Window) : List Sent × Option Session × SiteOptions :=
  (w.turn.sent, w.session?, w.options)

/-- The window while its website is being sent. -/
def sending (w : Window) : Window :=
  { w with publishing := true, turn := w.turn.notify .repaint }

/-- Before and after it sends the session, publishing sends nothing and leaves the session. -/
theorem outgoing_publish (hs : w.session? = some s) (hv : w.handle flush = (.ok (), v)) :
    (w.handle publish).2.outgoing = (v.sending.handle send).2.outgoing := by
  unfold publish sending
  rw [handle_get_bind, hs, if_pos Option.isSome_some, handle_bind, hv]
  dsimp only
  rw [handle_modify_bind, notify, handle_modify_bind, handle_bind, handle_attempt]
  rcases Window.handle _ send with ⟨e | _ | deployment, u⟩
  · dsimp only
    cases e.shown? <;> rfl
  · rfl
  · rfl

/-- Publishing that does not get past flushing sends nothing. -/
theorem sent_publish_of_error {e : Fault} (hs : w.session? = some s)
    (hv : w.handle flush = (.error e, v)) : (w.handle publish).2.turn.sent = w.turn.sent := by
  have hturn := turn_flush w
  rw [Fixes, hv] at hturn
  unfold publish
  rw [handle_get_bind, hs, if_pos Option.isSome_some, handle_bind, hv]
  exact congrArg (fun p => p.1.sent) hturn

/-- A call of a webhook is made or not, and it is the only one that is. -/
theorem sent_publication (w : Window) (s : Session) :
    (w.publication s).2.sent = w.turn.sent ∨ ∃ (x : Sent) (call : HookCall Payload),
      (w.publication s).2.sent = w.turn.sent ++ [x] ∧ x.request = .hook call
        ∧ call.payload = payloadOf s.content w.options ∧ s.content.isLinkable = true := by
  have hpublication : (w.publication s).2.sent = w.turn.sent
      ++ (CivicSite.publish w.webhooks.client s.content w.options
        { w.turn.network with sent := [] }).2.2.sent.reverse.map
          (⟨·, w.publishCaption, w.publishEnabled⟩) := rfl
  rw [hpublication]
  rcases sent_publish w.webhooks s.content w.options { w.turn.network with sent := [] } with
    hsent | ⟨call, hsent, hrest⟩
  · refine .inl ?_
    rw [hsent]
    exact List.append_nil _
  · refine .inr ⟨⟨.hook call, w.publishCaption, w.publishEnabled⟩, call, ?_, rfl, hrest⟩
    rw [hsent]
    rfl

/-- **What a webhook is sent is what is written**, and the code page shows that then. -/
theorem publish_delivers (hd : w.writing.Distinct) (hs : w.session? = some s) :
    (w.handle publish).2.turn.sent = w.turn.sent ∨ ∃ (x : Sent) (call : HookCall Payload),
      (w.handle publish).2.turn.sent = w.turn.sent ++ [x] ∧ x.request = .hook call
        ∧ call.payload = payloadOf (w.written s) w.options
        ∧ (w.handle publish).2.ShowsCode (.generate (w.written s) w.options) := by
  rcases hflush : w.handle flush with ⟨e | u, v⟩
  · exact .inl (sent_publish_of_error hs hflush)
  · obtain ⟨s', hs', hcontent⟩ := content_of_flush hd hs hflush
    have hfixed := turn_flush w
    rw [Fixes, hflush] at hfixed
    obtain ⟨hturn, hoptions⟩ := Prod.mk.inj hfixed
    have hout := outgoing_publish hs hflush
    rw [handle_send (w := v.sending) hs'] at hout
    obtain ⟨hsent, hout⟩ := Prod.mk.inj hout
    obtain ⟨hsession, hout⟩ := Prod.mk.inj hout
    rcases sent_publication v.sending s' with hnone | ⟨x, call, hcall, hrequest, hpayload, hlink⟩
    · refine .inl (hsent.trans (hnone.trans ?_))
      have hsame : v.turn.sent = w.turn.sent := congrArg Turn.sent hturn
      exact hsame
    · have hbundle : s'.bundle v.options = .ok (.generate (w.written s) w.options) := by
        rw [Session.bundle_of_isLinkable hlink, hcontent, hoptions]
      refine .inr ⟨x, call, ?_, hrequest, ?_, showsCode_of_bundle hsession ?_⟩
      · rw [hsent, ← hturn]
        exact hcall
      · rw [hpayload, hcontent, ← hoptions]
        rfl
      · -- a settlement that becomes active makes no other website
        obtain ⟨active, dirty, hactive⟩ :=
          Session.publish_session v.sending.webhooks.client v.sending.options s'
            { v.sending.turn.network with sent := [] }
        have hafter : (v.sending.publication s').1.2 = _ := hactive
        rw [hout, hafter]
        exact hbundle

/-! ## Exporting -/

/-- What is typed can be taken over, and the user chooses a directory that takes files of some
names. -/
structure Chooses (w : Window) (dir : Text) (names : List Text) : Prop where
  replied : w.turn.replies.head? = some dir
  named : dir ≠ []
  takes : ∃ v, w.handle flush = (.ok (), v) ∧ v.desk.stored.takes (Path.ofText dir) names = true

section Export

variable {dir : Text}

/-- An export tells how it went, and keeps what was written. -/
theorem handle_exportTo (hs : w.session? = some s) (hsite : s.bundle w.options = .ok site)
    (hresult : (site.exportTo (Path.ofText dir) w.desk.stored).1 = .error .unencodable
      ∨ ∃ paths, (site.exportTo (Path.ofText dir) w.desk.stored).1 = .ok paths) :
    (w.handle (exportTo dir)).1
        = (site.exportTo (Path.ofText dir) w.desk.stored).1.map (fun _ => ())
      ∧ (w.handle (exportTo dir)).2.desk.stored
        = (site.exportTo (Path.ofText dir) w.desk.stored).2 := by
  unfold exportTo
  rw [handle_get_bind, hs]
  dsimp only
  rw [handle_bind, handle_lift, hsite]
  dsimp only
  generalize site.exportTo (Path.ofText dir) w.desk.stored = written at hresult ⊢
  obtain ⟨result, disk⟩ := written
  rcases hresult with hresult | ⟨paths, hresult⟩
  all_goals
    obtain rfl : result = _ := hresult
    exact ⟨rfl, rfl⟩

theorem exportTo_of_bundle (hs : w.session? = some s) (hsite : s.bundle w.options = .ok site)
    (htakes : w.desk.stored.takes (Path.ofText dir) (site.files.map (·.1)) = true) :
    (site.files.all (·.2.isEncodable) = true →
      (w.handle (exportTo dir)).1 = .ok () ∧ ∀ f ∈ site.files,
        (w.handle (exportTo dir)).2.desk.stored.Holds ((Path.ofText dir).child f.1) f.2)
    ∧ (site.files.all (·.2.isEncodable) = false →
      (w.handle (exportTo dir)).1 = .error .unencodable)
    ∧ w.desk.stored.KeepsOthers (Path.ofText dir) (site.files.map (·.1))
      (w.handle (exportTo dir)).2.desk.stored := by
  obtain ⟨hwhole, hbroken⟩ := Site.exportTo_exact site htakes
  obtain ⟨hanswer, hdisk⟩ := handle_exportTo hs hsite (by
    cases hall : site.files.all (·.2.isEncodable) with
    | false => exact .inl (hbroken hall)
    | true => exact .inr ⟨_, (hwhole hall).1⟩)
  rw [hanswer, hdisk]
  refine ⟨fun hall => ⟨?_, (hwhole hall).2⟩, fun hall => ?_, Site.keepsOthers_exportTo site _ _⟩
  · rw [(hwhole hall).1]
    rfl
  · rw [hbroken hall]
    rfl

theorem exportTo_of_unlinkable (hs : w.session? = some s) (hlink : s.content.isLinkable = false) :
    w.handle (exportTo dir) = (.error .unencodable, w) := by
  have hbundle : s.bundle w.options = .error .unencodable := by
    rw [Session.bundle, Site.ofContent, hlink, if_neg Bool.false_ne_true]
  unfold exportTo
  rw [handle_get_bind, hs]
  dsimp only
  rw [handle_bind, handle_lift, hbundle]

/-- The window once the user chose a directory. -/
def asking (w : Window) : Window :=
  { w with turn := (w.turn.ask (.directory "Export Site")).2 }

/-- After the flush, the website is exported to the directory that the user chose. -/
theorem handle_exportSite (hs : w.session? = some s) (hreplied : w.turn.replies.head? = some dir)
    (hnamed : dir ≠ []) (hv : w.handle flush = (.ok (), v)) :
    w.handle exportSite = v.asking.handle (exportTo dir) := by
  have hreply : v.handle (ask (.directory "Export Site")) = (.ok (some dir), v.asking) := by
    have hturn := turn_flush w
    rw [Fixes, hv] at hturn
    have hturn : v.turn = w.turn := congrArg Prod.fst hturn
    rw [← hreplied, ← hturn]
    rfl
  unfold exportSite
  rw [handle_get_bind, hs, if_pos Option.isSome_some, handle_bind, hv]
  dsimp only
  rw [handle_bind, hreply]
  cases dir with
  | nil => exact absurd rfl hnamed
  | cons c rest => rfl

/-- **What is exported is what is written**, and the code page shows that then. -/
theorem exportSite_delivers (hd : w.writing.Distinct) (hs : w.session? = some s)
    (hdir : w.Chooses dir ((Site.generate (w.written s) w.options).files.map (·.1))) :
    let site := Site.generate (w.written s) w.options
    let exported := w.handle exportSite
    ((w.written s).isExportable w.options = true →
      exported.1 = .ok () ∧ exported.2.ShowsCode site
        ∧ ∀ f ∈ site.files, exported.2.desk.stored.Holds ((Path.ofText dir).child f.1) f.2)
    ∧ ((w.written s).isExportable w.options = false → exported.1 = .error .unencodable)
    ∧ (w.handle flush).2.desk.stored.KeepsOthers (Path.ofText dir) (site.files.map (·.1))
      exported.2.desk.stored := by
  obtain ⟨hreplied, hnamed, v, hflush, htakes⟩ := hdir
  obtain ⟨s', hs', hcontent⟩ := content_of_flush hd hs hflush
  have hoptions := turn_flush w
  rw [Fixes, hflush] at hoptions
  have hoptions : v.asking.options = w.options := congrArg Prod.snd hoptions
  have hs' : v.asking.session? = some s' := hs'
  have hkept := fixes_exportTo (f := fun w => (w.session?, w.options)) (fun _ _ _ => rfl)
    v.asking dir
  obtain ⟨hsession, hsame⟩ := Prod.mk.inj hkept
  rw [← hcontent, ← hoptions] at htakes ⊢
  dsimp only
  rw [handle_exportSite hs hreplied hnamed hflush, hflush]
  cases hlink : s'.content.isLinkable with
  | false =>
      rw [SiteContent.isExportable, hlink, Bool.false_and, exportTo_of_unlinkable hs' hlink]
      exact ⟨fun h => absurd h Bool.false_ne_true, fun _ => rfl, fun _ _ _ _ hread => hread⟩
  | true =>
      have hbundle := Session.bundle_of_isLinkable hlink v.asking.options
      rw [SiteContent.isExportable, hlink, Bool.true_and]
      generalize Site.generate s'.content v.asking.options = site at htakes hbundle ⊢
      obtain ⟨hwhole, hbroken, hkeeps⟩ := exportTo_of_bundle hs' hbundle htakes
      refine ⟨fun hall => ?_, hbroken, hkeeps⟩
      obtain ⟨hanswer, hheld⟩ := hwhole hall
      exact ⟨hanswer, showsCode_of_bundle (hsession.trans hs') (hsame ▸ hbundle), hheld⟩

end Export

/-! ## Every delivery -/

/-- **What is shipped is what is on the screen.** In every window, with all that is typed in it, a
call of a webhook carries the website that is being written, and an export to a directory that takes
its files writes them and leaves its other files, unless a link or a file cannot hold one of its
texts; they can if the texts have UTF-8. The code page shows the same files if it is opened then. A
listing of posts and a page for them are among the files just if a blog is among the components. -/
theorem delivery_exact (h : w.Reachable fun _ _ => True) (hs : w.session? = some s) :
    let content := w.written s
    let site := Site.generate content w.options
    let published := (w.handle (react (.press .publish))).2
    let exported := w.handle (react (.press .exportSite))
    (published.turn.sent = w.turn.sent ∨ ∃ (x : Sent) (call : HookCall Payload),
      published.turn.sent = w.turn.sent ++ [x] ∧ x.request = .hook call
        ∧ call.payload = payloadOf content w.options ∧ published.ShowsCode site)
    ∧ (w.foresee (.press .exportSite) = .done → ∀ dir, w.Chooses dir (site.files.map (·.1)) →
      (content.isExportable w.options = true →
        exported.1 = .ok .done ∧ exported.2.ShowsCode site
          ∧ ∀ f ∈ site.files, exported.2.desk.stored.Holds ((Path.ofText dir).child f.1) f.2)
      ∧ (content.isExportable w.options = false → exported.1 = .error .unencodable)
      ∧ (w.handle flush).2.desk.stored.KeepsOthers (Path.ofText dir) (site.files.map (·.1))
        exported.2.desk.stored)
    ∧ (content.Encodable → content.isExportable w.options = true)
    ∧ ∀ name ∈ (["blog.html", "post.html"] : List Text),
      name ∈ site.files.map (·.1) ↔ content.has .blog = true := by
  refine ⟨?_, fun hdone dir hdir => ?_, fun h => h.isExportable w.options, fun name hname => ?_⟩
  · by_cases hdone : w.foresee (.press .publish) = .done
    · rw [handle_react_done hdone]
      exact publish_delivers h.distinct hs
    · rw [handle_react_of_ne hdone]
      exact .inl rfl
  · obtain ⟨hwhole, hbroken, hkeeps⟩ := exportSite_delivers h.distinct hs hdir
    have hreact : w.handle (react (.press .exportSite))
        = w.handle (exportSite >>= fun _ => pure .done) := handle_react_of_done hdone
    rw [handle_bind] at hreact
    rcases hexport : w.handle exportSite with ⟨e | u, v⟩
    · rw [hexport] at hreact hwhole hbroken hkeeps
      rw [hreact]
      refine ⟨fun h => ?_, fun h => congrArg _ (Except.error.inj (hbroken h)), hkeeps⟩
      exact nomatch (hwhole h).1
    · rw [hexport] at hreact hwhole hbroken hkeeps
      rw [hreact]
      exact ⟨fun h => ⟨rfl, (hwhole h).2⟩, fun h => absurd (hbroken h) nofun, hkeeps⟩
  · rw [Site.names_generate]
    exact Site.mem_fileNames _ name hname

/-- Whether a website can be created with ids that are new. -/
def createsAnew (w : Window) : Bool :=
  match w.session? with
  | none => false
  | some s =>
    s.tree.isEmpty && w.form.component?.isNone
      && decide (w.desk.ids.drawn (s.tree.seed s.settlement.name w.desk.ids).2.2).Nodup

theorem Reachable.creates (h : w.Reachable fun _ _ => True) (hw : w.createsAnew = true) :
    (w.handle (react (.press .create))).2.Reachable fun _ _ => True := by
  refine h.reacts ⟨fun s e hs he => ?_, nofun⟩ trivial
  obtain rfl := Option.some.inj he
  unfold createsAnew at hw
  rw [hs] at hw
  simp only [Bool.and_eq_true, decide_eq_true_eq] at hw
  obtain ⟨⟨hempty, hform⟩, hnodup⟩ := hw
  refine ⟨Supply.allNew_iff.mpr ⟨hnodup, fun id _ hid => ?_⟩, fun id _ hid => ?_⟩
  · have hnone : s.tree.components = [] := List.isEmpty_iff.mp hempty
    rw [Tree.ids, hnone] at hid
    exact List.not_mem_nil hid
  · rw [hid] at hform
    cases hform

/-- Whether publishing calls a webhook, and the website can be exported to a directory. -/
def delivers (w : Window) (dir : Text) : Bool :=
  match w.session?, w.handle flush with
  | some s, (.ok (), v) =>
    let content := w.written s
    (w.handle (react (.press .publish))).2.turn.sent.length != w.turn.sent.length
      && w.foresee (.press .exportSite) == .done && w.turn.replies.head? == some dir
      && dir != [] && decide content.Encodable
      && v.desk.stored.takes (Path.ofText dir)
        ((Site.generate content w.options).files.map (·.1))
  | _, _ => false

/-- A website that was just created for a settlement. -/
theorem delivery_exact_created :
    let ids : Supply := .ofSequence fun n => List.replicate (n + 1) 'c'
    let answer (body : String) : Outcome := .answer 200 body.toUTF8
    let place := answer
      "\x7b\"data\":\x7b\"data\":\x7b\"id\":\"a\",\"name\":\"A\",\"lat\":0,\"lng\":0\x7d\x7d\x7d"
    let posts := answer "\x7b\"data\":\x7b\"data\":[]\x7d\x7d"
    let turn : Turn := .start ["a", "out"] ⟨[place, posts], .failure "", []⟩
    let settings := { Settings.default with createUrl := .text "u" }
    ∃ w, build settings 2024 ⟨ids, ids, .empty⟩ turn = .ok w
      ∧ let opened := (w.handle (react (.press .openSettlement))).2
        let created := (opened.handle (react (.press .create))).2
        let published := (created.handle (react (.press .publish))).2
        let exported := created.handle (react (.press .exportSite))
        ∃ s, created.session? = some s
          ∧ let content := created.written s
            let site := Site.generate content created.options
            (∃ (x : Sent) (call : HookCall Payload),
              published.turn.sent = created.turn.sent ++ [x] ∧ x.request = .hook call
                ∧ call.payload = payloadOf content created.options ∧ published.ShowsCode site)
            ∧ exported.1 = .ok .done ∧ exported.2.ShowsCode site
            ∧ ∀ f ∈ site.files,
              exported.2.desk.stored.Holds ((Path.ofText "out").child f.1) f.2 := by
  intro ids answer place posts turn settings
  have hbuilt : (build settings 2024 ⟨ids, ids, .empty⟩ turn).toOption.any (fun w : Window =>
      let opened := (w.handle (react (.press .openSettlement))).2
      w.reply? == some "a" && w.opensWhole "a" && opened.createsAnew
        && (opened.handle (react (.press .create))).2.delivers "out") = true := by
    decide +kernel
  obtain ⟨w, hw, hchecked⟩ := exists_ok_of_any hbuilt
  refine ⟨w, hw, ?_⟩
  simp only [Bool.and_eq_true, beq_iff_eq] at hchecked
  obtain ⟨⟨⟨hreply, hwhole⟩, hanew⟩, hdelivers⟩ := hchecked
  have hopened := (Reachable.built hw).opens (session?_of_build hw) hreply hwhole
  have hcreated := (hopened.mono fun _ _ _ => trivial).creates hanew
  dsimp only
  generalize ((w.handle (react (.press .openSettlement))).2.handle (react (.press .create))).2
    = created at hcreated hdelivers ⊢
  unfold delivers at hdelivers
  rcases hs : created.session? with _ | s
  · rw [hs] at hdelivers
    cases hdelivers
  rcases hflush : created.handle flush with ⟨e | u, v⟩
  · rw [hs, hflush] at hdelivers
    cases hdelivers
  rw [hs, hflush] at hdelivers
  simp only [Bool.and_eq_true, bne_iff_ne, beq_iff_eq, decide_eq_true_eq] at hdelivers
  obtain ⟨⟨⟨⟨⟨hcalled, hdone⟩, hreplied⟩, hnamed⟩, hencodable⟩, htakes⟩ := hdelivers
  obtain ⟨hpublished, hexported, hexportable, -⟩ := delivery_exact hcreated hs
  refine ⟨s, rfl, hpublished.resolve_left fun hsame => hcalled (congrArg _ hsame), ?_⟩
  exact (hexported hdone _ ⟨hreplied, hnamed, v, hflush, htakes⟩).1 (hexportable hencodable)

end Window

end CivicSite
