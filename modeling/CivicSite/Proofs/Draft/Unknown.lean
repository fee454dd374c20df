import CivicSite.Proofs.Draft.Lenient

/-!
# Unknown data in drafts

A draft may hold data that no reader knows: keys under which nothing is looked up, and entries of
the component list that are no components. This file says when one draft is another with such data
put in at any places (`Draft.Grown`), level by level, as the readers go through it:

- a *record* grew by keys that are not known, and what stands under the known keys may have grown
  too;
- the *content* of a component grew by keys that are no fields of its kind;
- the *component list* grew by entries that are no objects or objects of no known kind (`Foreign`).

At each level the reader gives what it gave before. The kind of an entry is found out before
anything else in it is read, so even a foreign entry at an infinite position is passed over.
-/

namespace CivicSite

/-! ## Lists with elements put in -/

/-- A list with further elements at any places. What was there may have changed to what counts as
the same (`same`), and what was put in counts for nothing (`idle`). -/
inductive Interspersed {α : Type} (same : α → α → Prop) (idle : α → Prop) :
    List α → List α → Prop where
  | nil : Interspersed same idle [] []
  | keep {a b : α} {as bs : List α} (h : same a b) (rest : Interspersed same idle as bs) :
      Interspersed same idle (a :: as) (b :: bs)
  | put {b : α} {as bs : List α} (h : idle b) (rest : Interspersed same idle as bs) :
      Interspersed same idle as (b :: bs)

namespace Entries

/-- A record with further keys that are not among those known. What stands under a key that was
there may have grown as well. -/
def Grown (known : List Text) (grown : Text → Json → Json → Prop) :
    Entries Json → Entries Json → Prop :=
  Interspersed (fun e e' => e.1 = e'.1 ∧ grown e.1 e.2 e'.2) fun e => e.1 ∉ known

variable {known : List Text} {grown : Text → Json → Json → Prop} {record record' : Entries Json}
variable {key : Text}

/-- Under a known key stands what stood there, grown. -/
theorem Grown.get? (h : Grown known grown record record') (hkey : key ∈ known) :
    Option.Rel (grown key) (record.get? key) (record'.get? key) := by
  induction h with
  | nil => exact .none
  | @keep e e' es es' he _ ih =>
      obtain ⟨hname, hvalue⟩ := he
      rw [get?_cons, get?_cons, ← hname]
      by_cases heq : e.1 = key
      · rw [if_pos (beq_iff_eq.mpr heq), if_pos (beq_iff_eq.mpr heq)]
        exact .some (heq ▸ hvalue)
      · rw [if_neg (mt beq_iff_eq.mp heq), if_neg (mt beq_iff_eq.mp heq)]
        exact ih
  | @put e' es es' he _ ih =>
      have hne : e'.1 ≠ key := fun heq => he (heq ▸ hkey)
      rw [get?_cons, if_neg (mt beq_iff_eq.mp hne)]
      exact ih

theorem Grown.get?_eq (h : Grown known grown record record') (hkey : key ∈ known)
    (hsame : ∀ v v', grown key v v' → v = v') : record'.get? key = record.get? key := by
  have hrel := h.get? hkey
  generalize record.get? key = v?, record'.get? key = v?' at hrel
  cases hrel with
  | none => rfl
  | some hgrown => exact congrArg some (hsame _ _ hgrown).symm

end Entries

/-- A value that stayed as it was, or an object whose record grew. -/
inductive Json.ObjectGrown (grown : Entries Json → Entries Json → Prop) : Json → Json → Prop where
  | same (v : Json) : Json.ObjectGrown grown v v
  | object {record record' : Entries Json} (h : grown record record') :
      Json.ObjectGrown grown (.object record) (.object record')

/-! ## Components -/

namespace Body

/-- The keys of a body's record: the names of the fields of a kind. -/
def keys (kind? : Option Kind) : List Text :=
  match kind? with
  | some k => k.fields.map Field.name
  | none => []

theorem ofRecord_grown {k : Kind} {record record' : Entries Json}
    (h : Entries.Grown (keys (some k)) (fun _ v v' => v = v') record record') :
    ofRecord k record' = ofRecord k record := by
  refine ofFields_congr fun f hf => ?_
  have hkey : f.name ∈ keys (some k) := List.mem_map_of_mem hf
  rw [h.get?_eq hkey fun _ _ heq => heq]

end Body

namespace Component

/-- The keys of a component's record. -/
def keys : List Text := ["id", "type", "content", "position", "alignment"]

/-- The content in a component's record. -/
def contentOf (record : Entries Json) : Entries Json :=
  match record.get? "content" with
  | some (.object content) => content
  | _ => []

/-- What may have grown in a component's record: the content, by keys that are no fields of the
kind. -/
def PartGrown (kind? : Option Kind) (key : Text) (v v' : Json) : Prop :=
  if key = "content" then
    Json.ObjectGrown (Entries.Grown (Body.keys kind?) fun _ w w' => w = w') v v'
  else v = v'

/-- A component's record with unknown data put in. -/
def Grown (record record' : Entries Json) : Prop :=
  Entries.Grown keys (PartGrown (Draft.kindOf? record)) record record'

variable {record record' : Entries Json}

theorem ofRecord_eq (record : Entries Json) :
    ofRecord record =
      match Draft.kindOf? record with
      | none => .error (.value (.unknownType (((record.get? "type").map Json.display).getD "")))
      | some k => ((record.get? "position").getD (.int 0)).toWhole.map fun position =>
        ⟨((record.get? "id").map Json.display).getD "", Body.ofRecord k (contentOf record),
          position,
          (((record.get? "alignment").map Json.display).bind Alignment.ofName?).getD .center⟩ := by
  unfold ofRecord Draft.kindOf?
  dsimp only
  cases Kind.ofName? (((record.get? "type").map Json.display).getD "") with
  | none => rfl
  | some k =>
      dsimp only
      cases ((record.get? "position").getD (.int 0)).toWhole with
      | error e => rfl
      | ok position => rfl

theorem Grown.get?_eq (h : Grown record record') {key : Text} (hkey : key ∈ keys)
    (hne : key ≠ "content") : record'.get? key = record.get? key := by
  refine Entries.Grown.get?_eq h hkey fun v v' hgrown => ?_
  rwa [PartGrown, if_neg hne] at hgrown

theorem Grown.kindOf?_eq (h : Grown record record') :
    Draft.kindOf? record' = Draft.kindOf? record := by
  rw [Draft.kindOf?, Draft.kindOf?, h.get?_eq (by decide) (by decide)]

theorem Grown.content (h : Grown record record') {k : Kind} (hk : Draft.kindOf? record = some k) :
    Body.ofRecord k (contentOf record') = Body.ofRecord k (contentOf record) := by
  have hrel : Option.Rel (PartGrown (Draft.kindOf? record) "content") (record.get? "content")
      (record'.get? "content") := Entries.Grown.get? h (by decide)
  unfold contentOf
  generalize record.get? "content" = v?, record'.get? "content" = v?' at hrel
  cases hrel with
  | none => rfl
  | some hgrown =>
      rw [PartGrown, if_pos rfl, hk] at hgrown
      cases hgrown with
      | same => rfl
      | object hcontent => exact Body.ofRecord_grown hcontent

/-- **A component is read without what it does not know.** -/
theorem ofRecord_grown (h : Grown record record') : ofRecord record' = ofRecord record := by
  have hid : record'.get? "id" = record.get? "id" :=
    h.get?_eq (by decide) (by decide)
  have htype : record'.get? "type" = record.get? "type" :=
    h.get?_eq (by decide) (by decide)
  have hposition : record'.get? "position" = record.get? "position" :=
    h.get?_eq (by decide) (by decide)
  have halignment : record'.get? "alignment" = record.get? "alignment" :=
    h.get?_eq (by decide) (by decide)
  rw [ofRecord_eq, ofRecord_eq, h.kindOf?_eq, hid, htype, hposition, halignment]
  cases hk : Draft.kindOf? record with
  | none => rfl
  | some k =>
      dsimp only
      rw [h.content hk]

end Component

/-! ## Drafts -/

namespace Draft

/-- An entry of a component list that is no component: it is no object, or of no known kind. -/
def Foreign : Json → Prop
  | .object record => kindOf? record = none
  | _ => True

theorem component?_foreign {v : Json} (h : Foreign v) : component? v = .ok none := by
  cases v with
  | object record =>
      rcases ofRecord_cases record with ⟨-, e, he, hvalue⟩ | ⟨k, hk, -⟩
      · rw [component?, he]
        dsimp only
        rw [if_pos hvalue]
      · cases hk.symm.trans h
  | null => rfl
  | bool b => rfl
  | int i => rfl
  | double x => rfl
  | text s => rfl
  | list items => rfl

theorem component?_grown {v v' : Json} (h : Json.ObjectGrown Component.Grown v v') :
    component? v' = component? v := by
  cases h with
  | same => rfl
  | object hrecord => rw [component?, component?, Component.ofRecord_grown hrecord]

/-- A component list with unknown data put in: foreign entries, and data in its components. -/
abbrev ItemsGrown : List Json → List Json → Prop :=
  Interspersed (Json.ObjectGrown Component.Grown) Foreign

theorem readComponents_grown {items items' : List Json} (h : ItemsGrown items items') :
    readComponents items' = readComponents items := by
  induction h with
  | nil => rfl
  | keep hentry _ ih => rw [readComponents, readComponents, component?_grown hentry, ih]
  | put hforeign _ ih =>
      rw [readComponents, component?_foreign hforeign, ih]
      cases readComponents _ with
      | error e => rfl
      | ok cs => rfl

/-- What stands under the key of the components: the list may have grown. -/
inductive ListGrown : Json → Json → Prop where
  | same (v : Json) : ListGrown v v
  | list {items items' : List Json} (h : ItemsGrown items items') :
      ListGrown (.list items) (.list items')

/-- The keys of a draft's record. -/
def keys : List Text := ["settlement_id", "components", "css", "updated_at"]

def PartGrown (key : Text) (v v' : Json) : Prop :=
  if key = "components" then ListGrown v v' else v = v'

/-- A draft's record with unknown data put in at any places: keys in the draft, in its components
and in their contents, and foreign entries in the component list. -/
def Grown (record record' : Entries Json) : Prop := Entries.Grown keys PartGrown record record'

variable {record record' : Entries Json}

theorem Grown.get?_eq (h : Grown record record') {key : Text} (hkey : key ∈ keys)
    (hne : key ≠ "components") : record'.get? key = record.get? key := by
  refine Entries.Grown.get?_eq h hkey fun v v' hgrown => ?_
  rwa [PartGrown, if_neg hne] at hgrown

/-- The components of a draft that grew are those of the draft. -/
theorem Grown.components (h : Grown record record') :
    (entries record').bind readComponents = (entries record).bind readComponents := by
  have hrel : Option.Rel (PartGrown "components") (record.get? "components")
      (record'.get? "components") := Entries.Grown.get? h (by decide)
  unfold entries
  generalize record.get? "components" = v?, record'.get? "components" = v?' at hrel
  cases hrel with
  | none => rfl
  | some hgrown =>
      rw [PartGrown, if_pos rfl] at hgrown
      cases hgrown with
      | same => rfl
      | list hitems => exact readComponents_grown hitems

/-- **A draft is read without what it does not know.** -/
theorem ofRecord_grown (h : Grown record record') : ofRecord record' = ofRecord record := by
  have hsettlement : record'.get? "settlement_id" = record.get? "settlement_id" :=
    h.get?_eq (by decide) (by decide)
  have hcss : record'.get? "css" = record.get? "css" :=
    h.get?_eq (by decide) (by decide)
  have hupdated : record'.get? "updated_at" = record.get? "updated_at" :=
    h.get?_eq (by decide) (by decide)
  have hmap (x : Except Fault (List Json)) (make : List Component → Draft) :
      (x.bind fun items => (readComponents items).map make) = (x.bind readComponents).map make := by
    cases x with
    | error e => rfl
    | ok items => rfl
  rw [ofRecord_eq, ofRecord_eq, hsettlement, hcss, hupdated, hmap, hmap, h.components]

end Draft

/-! ## Sessions -/

namespace Session

variable {σ : Type} {store : Store σ} {s : Session} {d d' : Desk σ} {record record' : Entries Json}

/-- The store holds a draft for a session: a text that reads as the record. -/
def HoldsRecord (store : Store σ) (s : Session) (d : Desk σ) (record : Entries Json) : Prop :=
  ∃ text stored, store.get (DraftCache.keyFor s.settlement.id) d.stored = (.ok (some text), stored)
    ∧ Json.read text = .ok (.object record)

/-- What loading makes of a decoded draft. -/
def loadedAs (settlement : Text) : Except Fault Draft → Except Fault (Option Draft)
  | .ok draft => .ok (some { draft with settlement := settlement })
  | .error e => if DraftCache.isMiss e then .ok none else .error e

theorem open?_of_holdsRecord (h : HoldsRecord store s d record) :
    ∃ stored, s.open? (some store) d
      = takeUp s d (loadedAs s.settlement.id (Draft.ofRecord record), stored) := by
  obtain ⟨text, stored, hget, hread⟩ := h
  have hdecode : DraftCache.decode text = Draft.ofRecord record := by
    unfold DraftCache.decode
    rw [hread]
    rfl
  refine ⟨stored, ?_⟩
  rw [open?_eq_takeUp, DraftCache.load_of_get hget, hdecode]
  cases Draft.ofRecord record with
  | error e => rfl
  | ok draft => rfl

/-- What a session takes up does not depend on what the store is left as. -/
theorem takeUp_congr (hids : d'.ids = d.ids) (r : Except Fault (Option Draft))
    (stored stored' : σ) :
    let opened := takeUp s d (r, stored)
    let opened' := takeUp s d' (r, stored')
    opened'.1 = opened.1 ∧ opened'.2.1 = opened.2.1 ∧ opened'.2.2.ids = opened.2.2.ids := by
  rcases r with e | _ | draft
  · exact ⟨rfl, rfl, hids⟩
  · exact ⟨rfl, rfl, hids⟩
  · simp only [takeUp, hids, and_self]

/-- **Unknown data is ignored.** A draft with unknown data put in is read as the same draft, and a
session that opens it answers the same, has the same tree with the same repairs and the same styles,
and draws the same ids. -/
theorem unknown_data_ignored (h : Draft.Grown record record') :
    Draft.ofRecord record' = Draft.ofRecord record
      ∧ ∀ {σ : Type} (store : Store σ) (s : Session) (d d' : Desk σ),
        HoldsRecord store s d record → HoldsRecord store s d' record' → d'.ids = d.ids
        → let opened := s.open? (some store) d
          let opened' := s.open? (some store) d'
          opened'.1 = opened.1 ∧ opened'.2.1 = opened.2.1 ∧ opened'.2.2.ids = opened.2.2.ids
          ∧ ∀ draft, Draft.ofRecord record = .ok draft →
            opened'.1 = .ok true ∧ opened'.2.1.css = draft.css
            ∧ (opened'.2.1.tree, opened'.2.2.ids) = Tree.ofList draft.components d.ids := by
  have hdraft := Draft.ofRecord_grown h
  refine ⟨hdraft, ?_⟩
  intro σ store s d d' hrecord hrecord' hids opened opened'
  obtain ⟨stored, hopened⟩ : ∃ stored, opened = _ := open?_of_holdsRecord hrecord
  obtain ⟨stored', hopened'⟩ : ∃ stored, opened' = _ := open?_of_holdsRecord hrecord'
  rw [hdraft] at hopened'
  rw [hopened, hopened']
  obtain ⟨hanswer, hsession, hdrawn⟩ := takeUp_congr (s := s) hids
    (loadedAs s.settlement.id (Draft.ofRecord record)) stored stored'
  refine ⟨hanswer, hsession, hdrawn, ?_⟩
  intro draft hok
  rw [hok, loadedAs, takeUp, hids]
  exact ⟨rfl, rfl, rfl⟩

set_option maxRecDepth 2000 in
/-- A map, and the same draft with a colour in the map and an exhibit at an infinite position. -/
theorem unknown_data_ignored_exhibit :
    let text : Text := "\x7b\"components\":[\x7b\"type\":\"map\"\x7d]\x7d"
    let text' : Text := "\x7b\"components\":[\x7b\"type\":\"map\",\"hue\":3\x7d,"
      ++ "\x7b\"type\":\"exhibit\",\"position\":1e999\x7d]\x7d"
    let s : Session := .start ⟨"a", "A", "", .nan, .nan, false⟩ []
    let desk (text : Text) : Desk (Entries Text) :=
      ⟨.ofSequence fun n => List.replicate n 'c', .ofSequence fun _ => "",
        [("website-draft:a", text)]⟩
    let opened := s.open? (some Store.memory) (desk text)
    let opened' := s.open? (some Store.memory) (desk text')
    opened'.1 = .ok true ∧ opened'.2.1 = opened.2.1 ∧ opened'.2.2.ids = opened.2.2.ids := by
  intro text text' s desk opened opened'
  let map : Entries Json := [("type", .text "map")]
  let map' : Entries Json := [("type", .text "map"), ("hue", .int 3)]
  let exhibit : Entries Json := [("type", .text "exhibit"), ("position", .double (.infinite false))]
  have hmap : Component.Grown map map' := by
    refine .keep ⟨rfl, ?type⟩ (.put (by decide) .nil)
    case type => rw [Component.PartGrown, if_neg (by decide)]
  have hexhibit : Draft.kindOf? exhibit = none := by decide
  have hgrown : Draft.Grown [("components", .list [.object map])]
      [("components", .list [.object map', .object exhibit])] := by
    refine .keep ⟨rfl, ?components⟩ .nil
    case components =>
      rw [Draft.PartGrown, if_pos rfl]
      exact .list (.keep (.object hmap) (.put hexhibit .nil))
  have hholds : HoldsRecord Store.memory s (desk text) [("components", .list [.object map])] :=
    ⟨text, _, rfl, rfl⟩
  have hholds' : HoldsRecord Store.memory s (desk text')
      [("components", .list [.object map', .object exhibit])] := ⟨text', _, rfl, rfl⟩
  obtain ⟨-, hsessions⟩ := unknown_data_ignored hgrown
  obtain ⟨-, hsession, hids, hread⟩ := hsessions Store.memory s _ _ hholds hholds' rfl
  exact ⟨(hread _ rfl).1, hsession, hids⟩

end Session

end CivicSite
