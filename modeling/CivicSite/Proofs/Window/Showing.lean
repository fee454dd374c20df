import CivicSite.Proofs.Window.Refresh

/-!
# What every window shows

A window is calm as long as every gesture was answered: none stopped at a fault that was left to the
caller. What a calm window shows is its session (`Window.display_exact`), down to the row that is
current after a component was added or moved. The ids that gestures bring in must not be empty.
-/

namespace CivicSite

namespace Window

variable {w v : Window} {s : Session} {g : Gesture} {e : Tree.Edit} {c : Component}

/-! ## Calm windows -/

/-- The windows that answered gestures lead to. Between two gestures the user gets ready to reply,
the network to answer, and other programs may change the disk. -/
inductive Calm : Window → Prop where
  | built {settings : Settings} {year : Int} {desk : Desk Disk} {turn : Turn} {w : Window}
      (h : build settings year desk turn = .ok w) : Calm w
  | between {w : Window} (h : Calm w) (turn : Turn) (disk : Disk) (visible : Bool) :
      Calm { w.withDisk disk with turn := turn, visible := visible }
  | reacts {w v : Window} {g : Gesture} {answer : Response} (h : Calm w)
      (hids : ∀ id ∈ w.comingIds g, id ≠ []) (hanswer : w.handle (react g) = (.ok answer, v)) :
      Calm v

theorem quiet_of_build {settings : Settings} {year : Int} {desk : Desk Disk} {turn : Turn}
    (h : build settings year desk turn = .ok w) : w.publishing = false := by
  obtain ⟨backend, -, h⟩ := of_bind_ok h
  obtain ⟨drafts, -, h⟩ := of_bind_ok h
  obtain ⟨webhooks, -, h⟩ := of_bind_ok h
  cases h
  rfl

theorem Calm.current (h : w.Calm) : w.Current := by
  induction h with
  | built h => exact current_of_none (quiet_of_build h) (session?_of_build h)
  | between _ turn disk visible ih => exact ih.of_face rfl
  | reacts _ hids hanswer ih => exact ih.ensures_react hids _ _ hanswer

/-! ## What is shown -/

/-- The window shows a session as it is. -/
structure Displays (w : Window) (s : Session) : Prop where
  /-- The rows are the captions and ids of the components, in order. -/
  rows : w.rows = s.tree.components.map Row.ofComponent
  /-- The form holds the component of the current row. -/
  form : w.form.component? = w.currentId?
  formless : w.form.component? = none ↔ w.row? = none
  /-- The preview is that of the listing after the search, or of the website on the screen. -/
  preview : ∃ html, (if w.pane.listing then s.listingPreview w.pane.search 1
      else s.preview w.pane.screen.name w.year) = .ok html
    ∧ w.pane.document? = some ⟨html, some "about:blank"⟩
  /-- The code, if it is in front, is that of the files; files that there are not are empty. -/
  code : w.tab = .code → ∃ site, s.bundle w.options = .ok site
    ∧ w.code = codeFiles.map fun name => (name, (site.files.get? name).getD "")
  publish : w.isEnabled (.publish) = !s.tree.isEmpty
  exportSite : w.isEnabled (.exportSite) = !s.tree.isEmpty

theorem Current.displays (h : w.Current) (hs : w.session? = some s) : w.Displays s where
  rows := (h.loaded s hs).rows
  form := (h.loaded s hs).form
  formless := by
    rw [(h.loaded s hs).form]
    exact (h.loaded s hs).toLists.currentId?_eq_none
  preview := (h.pictures s hs).preview
  code := (h.pictures s hs).code
  publish := by
    rw [isEnabled, publishEnabled, h.quiet, Bool.not_false, Bool.and_true]
    exact (h.loaded s hs).controls
  exportSite := (h.loaded s hs).controls

/-! ## The row of a component that was added or moved -/

/-- The buttons that add and move components. -/
def placing : List Gesture := [.press .add, .press .up, .press .down]

/-- What is added has the next id, and what is moved is the current component. It stands at its
position then. -/
theorem placed_of_accepted (hg : g ∈ placing) (he : g.edit? w s = some e)
    (hc : (e.run s.tree w.desk.ids).1 = .accepted c) :
    (e.run s.tree w.desk.ids).2.1.components[c.position.toNat]? = some c
      ∧ some c.id = if g = .press .add then some (w.desk.ids.item w.desk.ids.taken)
        else w.currentId? := by
  have hmoved {direction : Text} (he : w.currentId?.map (fun id => .move id direction) = some e) :
      (e.run s.tree w.desk.ids).2.1.components[c.position.toNat]? = some c
        ∧ some c.id = w.currentId? := by
    obtain ⟨id, hid, rfl⟩ := Option.map_eq_some_iff.mp he
    obtain ⟨hplace, hcid⟩ := Tree.move_placed (t := s.tree) (Prod.ext hc rfl)
    exact ⟨hplace, by rw [hcid, hid]⟩
  simp only [placing, List.mem_cons, List.not_mem_nil, or_false] at hg
  rcases hg with rfl | rfl | rfl
  · obtain rfl := Option.some.inj he
    obtain ⟨hplace, hcid⟩ := Tree.add_placed (t := s.tree) (Prod.ext hc rfl)
    rw [if_pos rfl]
    exact ⟨hplace, congrArg some hcid⟩
  · rw [if_neg nofun]
    exact hmoved he
  · rw [if_neg nofun]
    exact hmoved he

theorem rowFor_of_lt {cs : List Component} {row : Nat} (h : row < cs.length) :
    rowFor cs row = some row := by
  have hne : cs.isEmpty = false := by
    cases cs with
    | nil => exact absurd h (Nat.not_lt_zero row)
    | cons c rest => rfl
  rw [rowFor, hne, if_neg Bool.false_ne_true, Nat.min_eq_left (by omega)]

/-- The current row of a current window is the one that it shows a tree with. -/
theorem Current.row_of_shows (h : v.Current) {t : Tree} {row : Nat} (hshows : v.Shows t row)
    (hc : t.components[row]? = some c) : v.row? = some row ∧ v.currentId? = some c.id := by
  obtain ⟨hrow, s', hs', hids⟩ := hshows
  rw [rowFor_of_lt (List.getElem?_eq_some_iff.mp hc).1] at hrow
  refine ⟨hrow, ?_⟩
  rw [(h.loaded s' hs').toLists.currentId?, hrow, Option.bind_some, hids, Tree.ids, Component.ids,
    List.getElem?_map, hc]
  rfl

/-- What is done was carried out to its end. -/
theorem carryOut_of_react (hv : w.handle (react g) = (.ok .done, v)) :
    w.handle (carryOut g) = (.ok (), v) := by
  unfold react at hv
  rw [handle_get_bind] at hv
  split at hv
  · rw [handle_bind] at hv
    rcases hr : w.handle (carryOut g) with ⟨e | u, v'⟩
    · rw [hr] at hv
      cases hv
    · rw [hr] at hv
      cases hv
      rfl
  · rename_i hother
    exact absurd (Except.ok.inj (Prod.mk.inj hv).1) hother

theorem Current.row_of_placing (h : w.Current) (hs : w.session? = some s) (hg : g ∈ placing)
    (he : g.edit? w s = some e) (hc : (e.run s.tree w.desk.ids).1 = .accepted c)
    (hids : ∀ id ∈ w.comingIds g, id ≠ []) (hv : w.handle (react g) = (.ok .done, v)) :
    v.row? = some c.position.toNat ∧ v.currentId? = some c.id := by
  have hcarried := carryOut_of_react hv
  rw [comingIds_edit hs he] at hids
  obtain ⟨hcurrent, hshows⟩ := h.ensures_edit hs he hids () v hcarried
  have hrow : (g.row? w (.accepted c)).getD (w.row?.getD 0) = c.position.toNat := by
    simp only [placing, List.mem_cons, List.not_mem_nil, or_false] at hg
    rcases hg with rfl | rfl | rfl
    · rfl
    · rfl
    · rfl
  exact hcurrent.row_of_shows (hrow ▸ hshows c hc) (placed_of_accepted hg he hc).1

/-- **Nothing stale is shown.** A calm window displays its session. And once a component was added
or moved, the current row is its row. -/
theorem display_exact (h : w.Calm) (hs : w.session? = some s) :
    w.Displays s
    ∧ ∀ g ∈ placing, ∀ e c v, g.edit? w s = some e → (e.run s.tree w.desk.ids).1 = .accepted c →
      (∀ id ∈ w.comingIds g, id ≠ []) → w.handle (react g) = (.ok .done, v) →
      v.row? = some c.position.toNat ∧ v.currentId? = some c.id
      ∧ some c.id = if g = .press .add then some (w.desk.ids.item w.desk.ids.taken)
        else w.currentId? := by
  refine ⟨h.current.displays hs, fun g hg e c v he hc hids hv => ?_⟩
  obtain ⟨hrow, hid⟩ := h.current.row_of_placing hs hg he hc hids hv
  exact ⟨hrow, hid, (placed_of_accepted hg he hc).2⟩

/-- Whether the settlement that the user names is opened, and a component can be added then. -/
def opensAndAdds (w : Window) : Bool :=
  match w.handle (react (.press .openSettlement)) with
  | (.ok _, w') =>
    (w.comingIds (.press .openSettlement) ++ w'.comingIds (.press .add)).all (!·.isEmpty)
      && (w'.session?.any fun s => (s.tree.add w'.newKind.name w'.desk.ids).1.isAccepted)
      && (w'.handle (react (.press .add))).1 == .ok .done
  | _ => false

/-- A header that is added to the website of a settlement that was just opened. -/
theorem display_exact_added :
    let ids : Supply := .ofSequence fun n => List.replicate (n + 1) 'c'
    let answer (body : String) : Outcome := .answer 200 body.toUTF8
    let place := answer
      "\x7b\"data\":\x7b\"data\":\x7b\"id\":\"a\",\"name\":\"A\",\"lat\":0,\"lng\":0\x7d\x7d\x7d"
    let posts := answer "\x7b\"data\":\x7b\"data\":[]\x7d\x7d"
    ∃ w, build .default 2024 ⟨ids, ids, .empty⟩
        (.start ["a"] ⟨[place, posts], .failure "", []⟩) = .ok w
      ∧ let opened := (w.handle (react (.press .openSettlement))).2
        let added := (opened.handle (react (.press .add))).2
        ∃ s c, opened.session? = some s ∧ opened.Displays s
          ∧ (s.tree.add opened.newKind.name opened.desk.ids).1 = .accepted c
          ∧ added.row? = some c.position.toNat ∧ added.currentId? = some c.id := by
  intro ids answer place posts
  have hbuilt : (build .default 2024 ⟨ids, ids, .empty⟩
      (.start ["a"] ⟨[place, posts], .failure "", []⟩)).toOption.any opensAndAdds = true := by
    decide +kernel
  obtain ⟨w, hw, hchecked⟩ := exists_ok_of_any hbuilt
  refine ⟨w, hw, ?_⟩
  dsimp only [opensAndAdds] at hchecked
  rcases hopen : w.handle (react (.press .openSettlement)) with ⟨e | answer, w'⟩
  · rw [hopen] at hchecked
    cases hchecked
  rw [hopen] at hchecked
  simp only [Bool.and_eq_true, List.all_eq_true, List.mem_append, beq_iff_eq] at hchecked
  obtain ⟨⟨hids, haccepted⟩, hadds⟩ := hchecked
  have hnamed {id : Text} (hid : id ∈ w.comingIds (.press .openSettlement)
      ∨ id ∈ w'.comingIds (.press .add)) : id ≠ [] := by
    rintro rfl
    cases hids [] hid
  have hcalm : w'.Calm := (Calm.built hw).reacts (fun _ hid => hnamed (.inl hid)) hopen
  obtain ⟨s, hs, haccepted⟩ := Option.any_eq_true _ _ |>.mp haccepted
  cases hc : (s.tree.add w'.newKind.name w'.desk.ids).1 with
  | accepted c =>
      have hadd : w'.handle (react (.press .add))
          = (.ok .done, (w'.handle (react (.press .add))).2) := Prod.ext hadds rfl
      obtain ⟨hdisplays, hplaced⟩ := display_exact hcalm hs
      obtain ⟨hrow, hid, -⟩ := hplaced (.press .add) (by decide) _ c _ rfl hc
        (fun _ hid => hnamed (.inr hid)) hadd
      exact ⟨s, c, hs, hdisplays, hc, hrow, hid⟩
  | _ =>
      rw [hc] at haccepted
      cases haccepted

end Window

end CivicSite
