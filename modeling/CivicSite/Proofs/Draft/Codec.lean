import CivicSite.DraftCache
import CivicSite.Proofs.Json.RoundTrip

/-!
# Drafts that are stored and read back

A draft is stored as one line of JSON. Reading it gives the same draft, with its components in the
order of their positions: unset fields are left out and read as unset, empty ones are kept, kinds
and alignments are found by their names. The one limit is that of the numerals of positions.
-/

namespace CivicSite

/-! ## Components -/

namespace Body

theorem ofRecord_toEntries (b : Body) : ofRecord b.kind b.toEntries = b := by
  cases b with
  | header t => cases t <;> rfl
  | hero t s => cases t <;> cases s <;> rfl
  | about t d => cases t <;> cases d <;> rfl
  | services t d => cases t <;> cases d <;> rfl
  | blog t => cases t <;> rfl
  | map t => cases t <;> rfl
  | contact t d => cases t <;> cases d <;> rfl
  | footer => rfl

theorem keys_toEntries_sublist (b : Body) :
    (b.toEntries.map Prod.fst).Sublist (b.kind.fields.map Field.name) := by
  unfold toEntries
  induction b.kind.fields with
  | nil => exact List.Sublist.refl _
  | cons f rest ih =>
      rw [List.filterMap_cons]
      split
      · exact ih.cons _
      · rename_i hf
        obtain ⟨s, -, rfl⟩ := Option.map_eq_some_iff.mp hf
        exact ih.cons_cons _

theorem mem_toEntries {b : Body} {e : Text × Json} (h : e ∈ b.toEntries) :
    ∃ s, e.2 = .text s := by
  obtain ⟨f, -, hf⟩ := List.mem_filterMap.mp h
  obtain ⟨s, -, rfl⟩ := Option.map_eq_some_iff.mp hf
  exact ⟨s, rfl⟩

end Body

theorem Kind.nodup_fields (k : Kind) : (k.fields.map Field.name).Nodup := by
  cases k <;> decide

namespace Component

theorem ofRecord_of_get? {c : Component} {record : Entries Json}
    (hid : record.get? "id" = some (.text c.id))
    (htype : record.get? "type" = some (.text c.kind.name))
    (hcontent : record.get? "content" = some (.object c.body.toEntries))
    (hposition : record.get? "position" = some (.int c.position))
    (halignment : record.get? "alignment" = some (.text c.alignment.name)) :
    ofRecord record = .ok c := by
  have hkind : Kind.ofName? c.kind.name = some c.kind := Kind.ofName?_name c.kind
  have hbody : Body.ofRecord c.kind c.body.toEntries = c.body := Body.ofRecord_toEntries c.body
  simp only [ofRecord, hid, htype, hcontent, hposition, halignment, Option.map_some,
    Option.getD_some, Json.display, hkind, hbody, Json.toWhole, Option.bind_some,
    Alignment.ofName?_name]
  rfl

/-- The record of a component reads as the component. -/
theorem component?_toJson (c : Component) : Draft.component? c.toJson = .ok (some c) := by
  have hrecord : ofRecord [("id", .text c.id), ("type", .text c.kind.name),
      ("content", .object c.body.toEntries), ("position", .int c.position),
      ("alignment", .text c.alignment.name)] = .ok c := by
    apply ofRecord_of_get? <;> rfl
  unfold toJson Draft.component?
  simp only [hrecord]

/-- The record of a component is read back from its text. -/
theorem readable_toJson {c : Component} (h : c.position.natAbs < Json.numeralLimit) :
    c.toJson.Readable .plain := by
  have hkeeps (s : Text) : Json.Style.plain.Keeps s := Json.Style.keeps_of_not_ascii rfl s
  have hcontent : (Json.object c.body.toEntries).Readable .plain := by
    refine ⟨(Body.keys_toEntries_sublist c.body).nodup (Kind.nodup_fields c.kind), ?_⟩
    refine Json.entriesReadable_iff.mpr fun e he => ?_
    obtain ⟨s, hs⟩ := Body.mem_toEntries he
    rw [hs]
    exact ⟨hkeeps e.1, hkeeps s⟩
  have hkeys : (["id", "type", "content", "position", "alignment"].map Text.ofString).Nodup := by
    decide
  exact ⟨hkeys, ⟨hkeeps _, hkeeps _⟩, ⟨hkeeps _, hkeeps _⟩, ⟨hkeeps _, hcontent⟩, ⟨hkeeps _, h⟩,
    ⟨hkeeps _, hkeeps _⟩, trivial⟩

theorem depthOfEntries_toEntries (b : Body) : Json.depthOfEntries b.toEntries = 0 := by
  have h : ∀ es : List (Text × Json), (∀ e ∈ es, ∃ s, e.2 = .text s) →
      Json.depthOfEntries es = 0 := by
    intro es hes
    induction es with
    | nil => rfl
    | cons e rest ih =>
        obtain ⟨⟨s, hs⟩, hrest⟩ := List.forall_mem_cons.mp hes
        obtain ⟨k, v⟩ := e
        rw [Json.depthOfEntries, ih hrest, show v = .text s from hs]
        rfl
  exact h _ fun e he => Body.mem_toEntries he

theorem depth_toJson (c : Component) : c.toJson.depth = 2 := by
  simp [toJson, Json.depth, Json.depthOfEntries, depthOfEntries_toEntries]

end Component

/-! ## Drafts -/

namespace Draft

theorem readComponents_toJson (cs : List Component) :
    readComponents (cs.map Component.toJson) = .ok cs := by
  induction cs with
  | nil => rfl
  | cons c rest ih =>
      rw [List.map_cons, readComponents, Component.component?_toJson, ih]
      rfl

theorem depth_toJson_le (d : Draft) : d.toJson.depth ≤ 4 := by
  have h : ∀ cs : List Component, Json.depthOfItems (cs.map Component.toJson) ≤ 2 := by
    intro cs
    induction cs with
    | nil => exact Nat.zero_le 2
    | cons c rest ih =>
        rw [List.map_cons, Json.depthOfItems, Component.depth_toJson]
        exact Nat.max_le.mpr ⟨Nat.le_refl 2, ih⟩
  have hlist := h d.components
  simp only [toJson, Json.depth, Json.depthOfEntries]
  omega

theorem readable_toJson {d : Draft}
    (h : ∀ c ∈ d.components, c.position.natAbs < Json.numeralLimit) :
    d.toJson.Readable .plain := by
  have hkeeps (s : Text) : Json.Style.plain.Keeps s := Json.Style.keeps_of_not_ascii rfl s
  have hkeys :
      (["settlement_id", "components", "css", "updated_at"].map Text.ofString).Nodup := by decide
  have hlist : Json.ItemsReadable .plain (d.components.map Component.toJson) := by
    refine Json.itemsReadable_iff.mpr fun v hv => ?_
    obtain ⟨c, hc, rfl⟩ := List.mem_map.mp hv
    exact Component.readable_toJson (h c hc)
  exact ⟨hkeys, ⟨hkeeps _, hkeeps _⟩, ⟨hkeeps _, hlist⟩, ⟨hkeeps _, hkeeps _⟩,
    ⟨hkeeps _, hkeeps _⟩, trivial⟩

end Draft

/-- **What is stored of a draft reads as the draft**, its components in order. -/
theorem DraftCache.decode_encode {d : Draft}
    (h : ∀ c ∈ d.components, c.position.natAbs < Json.numeralLimit) :
    decode (encode d) = .ok { d with components := Component.byPosition d.components } := by
  have hread : Json.read (encode d) = .ok d.toJson :=
    Json.read_render (Nat.le_trans d.depth_toJson_le (by decide)) (Draft.readable_toJson h)
  have hrecord : Draft.ofRecord [("settlement_id", .text d.settlement),
      ("components", .list (d.components.map Component.toJson)),
      ("css", .text d.css), ("updated_at", .text d.updatedAt)]
      = .ok { d with components := Component.byPosition d.components } := by
    show (do
      let cs ← Draft.readComponents (d.components.map Component.toJson)
      pure (⟨d.settlement, Component.byPosition cs, d.css, d.updatedAt⟩ : Draft)) = _
    rw [Draft.readComponents_toJson]
    rfl
  unfold decode
  rw [hread]
  exact hrecord

end CivicSite
