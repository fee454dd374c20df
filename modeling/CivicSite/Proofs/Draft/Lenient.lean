import CivicSite.Proofs.Session.Reopening

/-!
# Drafts of any text

Nobody vouches for what is stored under the key of a draft. This file follows any text through the
cache, reader by reader, and sorts what comes of it (`DraftCache.Outcome`): a draft in good order, a
miss, or one of two faults that no reader turns into a miss.

- **Depth**: JSON whose lists and objects lie too deep in each other stops the reader.
- **Size**: a component of a known kind whose position is an infinite number (`1e999`, `Infinity`)
  stops the decoder, since no whole number stands for it. In any other field, and in entries that
  are no components, such a number does no harm.

A session that opens such a draft answers just if the cache does.
-/

namespace CivicSite

/-! ## Numbers that are no whole numbers -/

/-- Whether a value is an infinite number. -/
def Json.isInfinite : Json → Bool
  | .double (.infinite _) => true
  | _ => false

/-- Every value stands for a whole number, except for the infinite ones. -/
theorem Json.toWhole_cases (v : Json) :
    (v.isInfinite = true ∧ v.toWhole = .error .tooLarge)
      ∨ (v.isInfinite = false ∧ ∃ i, v.toWhole = .ok i) := by
  cases v with
  | double x =>
      cases x with
      | infinite negative => exact .inl ⟨rfl, rfl⟩
      | nan => exact .inr ⟨rfl, _, rfl⟩
      | finite negative units h => exact .inr ⟨rfl, _, rfl⟩
  | null => exact .inr ⟨rfl, _, rfl⟩
  | bool b => exact .inr ⟨rfl, _, rfl⟩
  | int i => exact .inr ⟨rfl, _, rfl⟩
  | text s => exact .inr ⟨rfl, _, rfl⟩
  | list items => exact .inr ⟨rfl, _, rfl⟩
  | object entries => exact .inr ⟨rfl, _, rfl⟩

/-! ## Entries -/

namespace Draft

/-- The kind that a record names. -/
def kindOf? (record : Entries Json) : Option Kind :=
  Kind.ofName? (((record.get? "type").map Json.display).getD "")

/-- Whether an entry is a component of a known kind at an infinite position. -/
def overflows : Json → Bool
  | .object (record : Entries Json) =>
    (kindOf? record).isSome && ((record.get? "position").getD (.int 0)).isInfinite
  | _ => false

/-- A record of a known kind is a component of that kind, unless its position is infinite. A record
of no known kind is at fault in its value only. -/
theorem ofRecord_cases (record : Entries Json) :
    (kindOf? record = none ∧ ∃ e, Component.ofRecord record = .error e ∧ e.isValueFault = true)
      ∨ ∃ k, kindOf? record = some k
        ∧ (((record.get? "position").getD (.int 0)).isInfinite = true
            ∧ Component.ofRecord record = .error .tooLarge
          ∨ ((record.get? "position").getD (.int 0)).isInfinite = false
            ∧ ∃ c, Component.ofRecord record = .ok c ∧ c.kind = k) := by
  unfold Component.ofRecord
  cases hk : kindOf? record with
  | none =>
      unfold kindOf? at hk
      refine .inl ⟨rfl, ?_⟩
      dsimp only
      rw [hk]
      exact ⟨_, rfl, rfl⟩
  | some k =>
      unfold kindOf? at hk
      refine .inr ⟨k, rfl, ?_⟩
      dsimp only
      rw [hk]
      rcases ((record.get? "position").getD (.int 0)).toWhole_cases
        with ⟨hinf, hwhole⟩ | ⟨hinf, i, hwhole⟩
      · refine .inl ⟨hinf, ?_⟩
        dsimp only
        rw [hwhole]
        rfl
      · refine .inr ⟨hinf, ?_⟩
        dsimp only
        rw [hwhole]
        exact ⟨_, rfl, Body.kind_ofFields k _⟩

/-- An entry is a component or is passed over, unless it overflows. -/
theorem component?_cases (v : Json) :
    (overflows v = true ∧ component? v = .error .tooLarge)
      ∨ (overflows v = false ∧ ∃ c?, component? v = .ok c?) := by
  cases v with
  | object record =>
      unfold overflows component?
      dsimp only
      rcases ofRecord_cases record
        with ⟨hkind, e, he, hvalue⟩ | ⟨k, hkind, ⟨hinf, hrecord⟩ | ⟨hinf, c, hrecord, -⟩⟩
      · rw [hkind, he]
        refine .inr ⟨rfl, none, ?_⟩
        dsimp only
        rw [if_pos hvalue]
      · rw [hkind, hinf, hrecord]
        exact .inl ⟨rfl, rfl⟩
      · rw [hkind, hinf, hrecord]
        exact .inr ⟨rfl, some c, rfl⟩
  | null => exact .inr ⟨rfl, none, rfl⟩
  | bool b => exact .inr ⟨rfl, none, rfl⟩
  | int i => exact .inr ⟨rfl, none, rfl⟩
  | double x => exact .inr ⟨rfl, none, rfl⟩
  | text s => exact .inr ⟨rfl, none, rfl⟩
  | list items => exact .inr ⟨rfl, none, rfl⟩

/-- A component is of the kind that its record names. -/
theorem kindOf?_of_component? {v : Json} {c : Component} (h : component? v = .ok (some c)) :
    ∃ record : Entries Json, v = .object record ∧ kindOf? record = some c.kind := by
  cases v with
  | object record =>
      refine ⟨record, rfl, ?_⟩
      unfold component? at h
      dsimp only at h
      rcases ofRecord_cases record with ⟨-, e, he, hvalue⟩ | ⟨k, hkind, ⟨-, he⟩ | ⟨-, c', hc', hk⟩⟩
      · rw [he] at h
        dsimp only at h
        rw [if_pos hvalue] at h
        cases h
      · rw [he] at h
        cases h
      · rw [hc'] at h
        cases h
        rw [hkind, hk]
  | _ => cases h

/-- The components of a list are those of its entries, if no entry overflows. -/
theorem readComponents_cases (items : List Json) :
    (items.any overflows = true ∧ readComponents items = .error .tooLarge)
      ∨ (items.any overflows = false ∧ ∃ cs, readComponents items = .ok cs
        ∧ ∀ c, c ∈ cs ↔ ∃ v ∈ items, component? v = .ok (some c)) := by
  induction items with
  | nil => exact .inr ⟨rfl, [], rfl, fun c => by simp⟩
  | cons v rest ih =>
      rw [List.any_cons, readComponents]
      rcases component?_cases v with ⟨hv, hcomponent⟩ | ⟨hv, c?, hcomponent⟩
      · rw [hv, hcomponent]
        exact .inl ⟨rfl, rfl⟩
      · rw [hv, Bool.false_or, hcomponent]
        rcases ih with ⟨hrest, hread⟩ | ⟨hrest, cs, hread, hmem⟩
        · rw [hrest, hread]
          exact .inl ⟨rfl, rfl⟩
        · rw [hrest, hread]
          refine .inr ⟨rfl, c?.toList ++ cs, rfl, fun c => ?_⟩
          simp only [List.mem_append, Option.mem_toList, hmem, List.mem_cons, exists_eq_or_imp,
            hcomponent, Except.ok.injEq]

theorem ofRecord_eq (record : Entries Json) :
    ofRecord record = (entries record).bind fun items =>
      (readComponents items).map fun cs =>
        ⟨((record.get? "settlement_id").map Json.display).getD "", Component.byPosition cs,
          ((record.get? "css").map Json.display).getD "",
          ((record.get? "updated_at").map Json.display).getD ""⟩ := by
  unfold ofRecord
  cases entries record with
  | error e => rfl
  | ok items =>
      show (readComponents items >>= _) = (readComponents items).map _
      cases readComponents items with
      | error e => rfl
      | ok cs => rfl

/-- What is no list of components is of the wrong kind. -/
theorem isMiss_of_entries {record : Entries Json} {e : Fault} (h : entries record = .error e) :
    DraftCache.isMiss e = true := by
  unfold entries at h
  split at h
  · cases h
  · cases h
  · cases h
  · cases h
  · cases h
    rfl

end Draft

/-! ## Texts -/

namespace DraftCache

/-- The entries of the component list in a stored text. -/
def entriesOf (text : Text) : List Json :=
  match Json.read text with
  | .ok (.object record) =>
    match Draft.entries record with
    | .ok items => items
    | .error _ => []
  | _ => []

/-- A draft in good order: its components are those of the entries, by position. -/
structure Faithful (text : Text) (draft : Draft) : Prop where
  ordered : draft.components.Pairwise fun a b => a.position ≤ b.position
  entries : ∀ c, c ∈ draft.components ↔ ∃ v ∈ entriesOf text, Draft.component? v = .ok (some c)

/-- What a stored text may be decoded to. -/
inductive Outcome (text : Text) : Except Fault Draft → Prop where
  | deep (h : Json.read text = .error .tooDeep)
      (hlarge : (entriesOf text).any Draft.overflows = false) : Outcome text (.error .tooDeep)
  | large (h : (entriesOf text).any Draft.overflows = true)
      (hdeep : Json.read text ≠ .error .tooDeep) : Outcome text (.error .tooLarge)
  | miss {e : Fault} (h : isMiss e = true) (hdeep : Json.read text ≠ .error .tooDeep)
      (hlarge : (entriesOf text).any Draft.overflows = false) : Outcome text (.error e)
  | draft {d : Draft} (h : Faithful text d) (hdeep : Json.read text ≠ .error .tooDeep)
      (hlarge : (entriesOf text).any Draft.overflows = false) : Outcome text (.ok d)

/-- The record of a draft that was read, decoded. -/
theorem outcome_of_record {text : Text} {record : Entries Json}
    (h : Json.read text = .ok (.object record)) : Outcome text (Draft.ofRecord record) := by
  have hdeep : Json.read text ≠ .error .tooDeep := by
    rw [h]
    nofun
  cases hentries : Draft.entries record with
  | error e =>
      have hmiss : isMiss e = true := Draft.isMiss_of_entries hentries
      have hnone : entriesOf text = [] := by
        rw [entriesOf, h]
        dsimp only
        rw [hentries]
      rw [Draft.ofRecord_eq, hentries]
      exact .miss hmiss hdeep (by rw [hnone]; rfl)
  | ok items =>
      have hitems : entriesOf text = items := by
        rw [entriesOf, h]
        dsimp only
        rw [hentries]
      rw [Draft.ofRecord_eq, hentries, Except.bind]
      rcases Draft.readComponents_cases items with ⟨hlarge, hread⟩ | ⟨hlarge, cs, hread, hmem⟩
      · rw [hread]
        exact .large (hitems ▸ hlarge) hdeep
      · rw [hread]
        refine .draft ⟨Component.pairwise_byPosition cs, fun c => ?_⟩ hdeep (hitems ▸ hlarge)
        rw [(Component.byPosition_perm cs).mem_iff, hitems, hmem]

/-- **Whatever text is stored**, it is decoded to a draft in good order or missed, or one of two
faults stops the decoder. -/
theorem outcome_decode (text : Text) : Outcome text (decode text) := by
  unfold decode
  cases hread : Json.read text with
  | error e =>
      have hnone : entriesOf text = [] := by
        rw [entriesOf, hread]
      have hlarge : (entriesOf text).any Draft.overflows = false := by
        rw [hnone]
        rfl
      cases e with
      | malformed => exact .miss rfl (by rw [hread]; nofun) hlarge
      | tooManyDigits count => exact .miss rfl (by rw [hread]; nofun) hlarge
      | tooDeep => exact .deep hread hlarge
  | ok v =>
      cases v with
      | object record => exact outcome_of_record hread
      | _ =>
          have hnone : entriesOf text = [] := by
            rw [entriesOf, hread]
          refine .miss rfl (by rw [hread]; nofun) ?_
          rw [hnone]
          rfl

/-! ## The cache -/

variable {σ : Type} {store : Store σ} {settlement text : Text} {s stored : σ}

/-- What loading makes of a stored text. -/
theorem load_of_get (h : store.get (keyFor settlement) s = (.ok (some text), stored)) :
    load store settlement s
      = (match decode text with
        | .ok d => .ok (some { d with settlement := settlement })
        | .error e => if isMiss e then .ok none else .error e, stored) := by
  unfold load
  rw [h]
  dsimp only
  cases decode text with
  | ok d => rfl
  | error e => rfl

end DraftCache

/-! ## Sessions -/

namespace Session

variable {σ : Type} {store : Store σ}

/-- **A corrupt draft, exactly.** Whatever text is stored for a settlement, loading it gives a draft
in good order or none, and a session opens to a well-formed tree or stays as it was. Two things only
are not passed over: JSON that is too deep, and a component at an infinite position. -/
theorem corrupt_draft_exact {s : Session} {d : Desk σ} {text : Text} {stored : σ}
    (h : store.get (DraftCache.keyFor s.settlement.id) d.stored = (.ok (some text), stored)) :
    let loaded := DraftCache.load store s.settlement.id d.stored
    let opened := s.open? (some store) d
    (loaded.1 = .error .tooDeep ↔ Json.read text = .error .tooDeep)
      ∧ (loaded.1 = .error .tooLarge ↔ (DraftCache.entriesOf text).any Draft.overflows = true)
      ∧ (∀ e, loaded.1 = .error e → e = .tooDeep ∨ e = .tooLarge)
      ∧ (∀ draft, loaded.1 = .ok (some draft) →
          draft.settlement = s.settlement.id
          ∧ draft.components.Pairwise (fun a b => a.position ≤ b.position)
          ∧ (∀ c ∈ draft.components, c.Proper ∧ ∃ record : Entries Json,
            .object record ∈ DraftCache.entriesOf text ∧ Draft.kindOf? record = some c.kind)
          ∧ (∀ c, c ∈ draft.components
            ↔ ∃ v ∈ DraftCache.entriesOf text, Draft.component? v = .ok (some c))
          ∧ opened.2.1.tree = (Tree.ofList draft.components d.ids).1
          ∧ opened.2.1.tree.WellFormed
          ∧ opened.2.1.css = draft.css)
      ∧ ((∀ draft, loaded.1 ≠ .ok (some draft)) → opened.2.1 = s)
      ∧ opened.1 = loaded.1.map Option.isSome
      ∧ loaded.2 = stored ∧ opened.2.2.stored = stored := by
  intro loaded opened
  have houtcome := DraftCache.outcome_decode text
  have hloaded : loaded = _ := DraftCache.load_of_get h
  have hopened : opened = takeUp s d loaded := open?_eq_takeUp store s d
  generalize DraftCache.decode text = r at houtcome hloaded
  rw [hopened, hloaded]
  cases houtcome with
  | deep hdeep hlarge =>
      refine ⟨iff_of_true rfl hdeep, iff_of_false nofun (Bool.not_eq_true _ ▸ hlarge), ?_, nofun,
        fun _ => rfl, rfl, rfl, rfl⟩
      rintro e ⟨⟩
      exact .inl rfl
  | large hlarge hdeep =>
      refine ⟨iff_of_false nofun hdeep, iff_of_true rfl hlarge, ?_, nofun, fun _ => rfl, rfl, rfl,
        rfl⟩
      rintro e ⟨⟩
      exact .inr rfl
  | miss hmiss hdeep hlarge =>
      dsimp only
      rw [if_pos hmiss]
      exact ⟨iff_of_false nofun hdeep, iff_of_false nofun (Bool.not_eq_true _ ▸ hlarge),
        fun e he => (nomatch he), nofun, fun _ => rfl, rfl, rfl, rfl⟩
  | @draft found hfaithful hdeep hlarge =>
      refine ⟨iff_of_false nofun hdeep, iff_of_false nofun (Bool.not_eq_true _ ▸ hlarge),
        fun e he => (nomatch he), ?_, fun hnone => absurd rfl (hnone _), rfl, rfl, rfl⟩
      rintro draft ⟨⟩
      refine ⟨rfl, hfaithful.ordered, fun c hc => ⟨c.proper, ?_⟩, hfaithful.entries, rfl,
        Tree.wellFormed_ofList found.components d.ids, rfl⟩
      obtain ⟨v, hv, hcomponent⟩ := (hfaithful.entries c).mp hc
      obtain ⟨record, rfl, hkind⟩ := Draft.kindOf?_of_component? hcomponent
      exact ⟨record, hv, hkind⟩

/-- A header at an infinite position. -/
theorem corrupt_draft_exact_infinite :
    let text : Text := "\x7b\"components\": [\x7b\"type\": \"header\", \"position\": 1e999\x7d]\x7d"
    (DraftCache.load Store.memory "a" [(DraftCache.keyFor "a", text)]).1 = .error .tooLarge := by
  -- the text is kept from being evaluated where it plays no part
  have hgeneral : ∀ text : Text, (DraftCache.entriesOf text).any Draft.overflows = true →
      (DraftCache.load Store.memory "a" [(DraftCache.keyFor "a", text)]).1 = .error .tooLarge := by
    intro text hlarge
    let s : Session := .start ⟨"a", "A", "", .nan, .nan, false⟩ []
    let d : Desk (Entries Text) :=
      ⟨.ofSequence fun _ => "", .ofSequence fun _ => "", [(DraftCache.keyFor "a", text)]⟩
    have hget : Store.memory.get (DraftCache.keyFor s.settlement.id) d.stored
        = (.ok (some text), d.stored) := rfl
    exact (corrupt_draft_exact hget).2.1.mpr hlarge
  exact hgeneral _ (by decide +kernel)

end Session

end CivicSite
