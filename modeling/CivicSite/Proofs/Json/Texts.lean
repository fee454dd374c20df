import CivicSite.Proofs.Json.Encodable

/-!
# Texts in values

Where characters are written as they are, a value is written in characters just if all texts in it
are: its strings and the keys of its objects. All else in it is written in ASCII.
-/

namespace CivicSite.Json

mutual

/-- The strings in a value, and the keys. -/
def texts : Json → List Text
  | text s => [s]
  | list items => textsOfItems items
  | object entries => textsOfEntries entries
  | null | bool _ | int _ | double _ => []

def textsOfItems : List Json → List Text
  | [] => []
  | v :: rest => texts v ++ textsOfItems rest

def textsOfEntries : List (Text × Json) → List Text
  | [] => []
  | (k, v) :: rest => k :: texts v ++ textsOfEntries rest

end

/-- All of the texts have UTF-8. -/
def AllCharacters (ts : List Text) : Prop := ∀ t ∈ ts, t.isEncodable = true

theorem allCharacters_append {ts us : List Text} :
    AllCharacters (ts ++ us) ↔ AllCharacters ts ∧ AllCharacters us := List.forall_mem_append

theorem allCharacters_cons {t : Text} {ts : List Text} :
    AllCharacters (t :: ts) ↔ t.isEncodable = true ∧ AllCharacters ts := List.forall_mem_cons

theorem allCharacters_nil : AllCharacters [] := List.forall_mem_nil _

variable {style : Style}

mutual

/-- **A value is written in characters just if all texts in it are.** -/
theorem isEncodable_write (hstyle : style.asciiOnly = false) (v : Json) (depth : Nat) :
    (write style depth v).isEncodable = true ↔ AllCharacters v.texts := by
  cases v with
  | null => exact iff_of_true (Text.isEncodable_ofString _) allCharacters_nil
  | bool b =>
      refine iff_of_true ?_ allCharacters_nil
      cases b <;> exact Text.isEncodable_ofString _
  | int i => exact iff_of_true (Text.isEncodable_ofString _) allCharacters_nil
  | double x => exact iff_of_true (isEncodable_writeDouble x) allCharacters_nil
  | text s =>
      rw [write, hstyle, isEncodable_writeText, texts, allCharacters_cons]
      exact (and_iff_left allCharacters_nil).symm
  | list items =>
      cases items with
      | nil => exact iff_of_true (Text.isEncodable_ofString _) allCharacters_nil
      | cons v rest =>
          simp only [write, texts, textsOfItems, Text.isEncodable_append,
            Text.isEncodable_ofString, isEncodable_lineBreak, isEncodable_write hstyle v,
            isEncodable_writeItems hstyle rest, allCharacters_append, true_and, and_true]
  | object entries =>
      cases entries with
      | nil => exact iff_of_true (Text.isEncodable_ofString _) allCharacters_nil
      | cons e rest =>
          obtain ⟨k, v⟩ := e
          simp only [write, texts, textsOfEntries, hstyle, Text.isEncodable_append,
            Text.isEncodable_ofString, isEncodable_lineBreak, isEncodable_writeText,
            isEncodable_write hstyle v, isEncodable_writeTexts hstyle rest, allCharacters_append,
            allCharacters_cons, true_and, and_true, List.cons_append, and_assoc]

theorem isEncodable_writeItems (hstyle : style.asciiOnly = false) (items : List Json)
    (depth : Nat) : (writeItems style depth items).isEncodable = true
      ↔ AllCharacters (textsOfItems items) := by
  cases items with
  | nil => exact iff_of_true rfl allCharacters_nil
  | cons v rest =>
      simp only [writeItems, textsOfItems, Text.isEncodable_append, isEncodable_separator,
        isEncodable_write hstyle v, isEncodable_writeItems hstyle rest, allCharacters_append,
        true_and]

theorem isEncodable_writeTexts (hstyle : style.asciiOnly = false) (entries : List (Text × Json))
    (depth : Nat) : (writeEntries style depth entries).isEncodable = true
      ↔ AllCharacters (textsOfEntries entries) := by
  cases entries with
  | nil => exact iff_of_true rfl allCharacters_nil
  | cons e rest =>
      obtain ⟨k, v⟩ := e
      simp only [writeEntries, textsOfEntries, hstyle, Text.isEncodable_append,
        Text.isEncodable_ofString, isEncodable_separator, isEncodable_writeText,
        isEncodable_write hstyle v, isEncodable_writeTexts hstyle rest, allCharacters_append,
        allCharacters_cons, true_and, and_true, List.cons_append, and_assoc]

end

end CivicSite.Json
