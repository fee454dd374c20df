import CivicSite.Proofs.Json.Contents

/-!
# Keys of objects that were read

However often a text repeats a key, no object that is read holds it twice: an entry is only ever put
under its key, whatever the text is.
-/

namespace CivicSite.Json

mutual

/-- No object in a value repeats a key. -/
def DistinctKeys : Json → Prop
  | list items => ItemsDistinct items
  | object entries => (entries.map Prod.fst).Nodup ∧ EntriesDistinct entries
  | _ => True

/-- No object in the items does. -/
def ItemsDistinct : List Json → Prop
  | [] => True
  | v :: rest => DistinctKeys v ∧ ItemsDistinct rest

/-- No object in the values does. -/
def EntriesDistinct : List (Text × Json) → Prop
  | [] => True
  | (_, v) :: rest => DistinctKeys v ∧ EntriesDistinct rest

end

theorem itemsDistinct_iff {items : List Json} :
    ItemsDistinct items ↔ ∀ v ∈ items, DistinctKeys v := by
  induction items with
  | nil => exact ⟨fun _ _ hv => (List.not_mem_nil hv).elim, fun _ => trivial⟩
  | cons v rest ih => rw [ItemsDistinct, ih, List.forall_mem_cons]

theorem entriesDistinct_iff {entries : List (Text × Json)} :
    EntriesDistinct entries ↔ ∀ e ∈ entries, DistinctKeys e.2 := by
  induction entries with
  | nil => exact ⟨fun _ _ he => (List.not_mem_nil he).elim, fun _ => trivial⟩
  | cons e rest ih =>
      obtain ⟨k, v⟩ := e
      rw [EntriesDistinct, ih, List.forall_mem_cons]

theorem closed_distinctKeys : Closed DistinctKeys where
  null := trivial
  bool _ := trivial
  int _ _ := trivial
  double _ := trivial
  list _ := itemsDistinct_iff.mpr
  object _ hkeys hentries := ⟨hkeys, entriesDistinct_iff.mpr fun e he => (hentries e he).2⟩

/-- No object in a value that was read repeats a key. -/
theorem distinctKeys_of_read {s : Text} {v : Json} (h : read s = .ok v) : v.DistinctKeys :=
  holds_of_read closed_distinctKeys (I := fun _ => True) (fun _ _ _ _ => trivial) trivial
    (fun _ _ _ _ => trivial) h

end CivicSite.Json
