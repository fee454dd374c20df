import CivicSite.Proofs.Json.RoundTrip
import CivicSite.Proofs.Text.Upper

/-!
# Values with their halves joined

A text may hold two halves of one character. Written with escapes it cannot be told from the text
with the character (`Json.render_joinedText`), so that is what is read. A text with nothing to join
has nothing to join in capitals either (`Text.isJoined_upper`).
-/

namespace CivicSite

/-! ## Capitals -/

theorem CodePoint.exists_lone {c : CodePoint} (h : c.isHigh = true ∨ c.isLow = true) :
    ∃ half, c = .lone half := by
  cases c with
  | char c => rcases h with h | h <;> cases h
  | lone half => exact ⟨half, rfl⟩

/-- **Capitals make no pairs of halves.** -/
theorem Text.isJoined_upper {s : Text} (h : s.IsJoined) : (upper s).IsJoined := by
  induction s with
  | nil => exact List.isChain_nil
  | cons c rest ih =>
      obtain ⟨hnext, hrest⟩ := List.isChain_cons.mp h
      rw [upper, List.flatMap_cons]
      refine List.isChain_append.mpr ⟨?_, ih hrest, fun d hd e he hpair => ?_⟩
      · -- a capital form with half a pair in it is nothing but that half
        by_cases hlone : ∃ half, .lone half ∈ upperChar c
        · obtain ⟨half, hmem⟩ := hlone
          obtain rfl := lone_mem_upperChar_iff.mp hmem
          rw [upperChar_of_mem hmem]
          exact List.isChain_singleton _
        · refine List.Pairwise.isChain (List.pairwise_of_forall_mem_list fun d hd e _ hpair => ?_)
          obtain ⟨half, rfl⟩ := CodePoint.exists_lone (.inl hpair.1)
          exact hlone ⟨half, hd⟩
      · obtain ⟨high, rfl⟩ := CodePoint.exists_lone (.inl hpair.1)
        obtain ⟨low, rfl⟩ := CodePoint.exists_lone (.inr hpair.2)
        obtain rfl := lone_mem_upperChar_iff.mp (List.mem_of_getLast? hd)
        cases rest with
        | nil => cases he
        | cons f rest =>
            have hhead : CodePoint.lone low ∈ (upperChar f).head? := by
              rw [List.flatMap_cons, List.head?_append_of_ne_nil _ (upperChar_ne_nil f)] at he
              exact he
            obtain rfl := lone_mem_upperChar_iff.mp (List.mem_of_head? hhead)
            exact hnext _ rfl hpair

/-! ## Values -/

namespace Json

/-- A text with its halves joined, and any other value as it is. -/
def joinedText : Json → Json
  | text s => text s.joined
  | v => v

variable {style : Style}

theorem depth_joinedText (v : Json) : v.joinedText.depth = v.depth := by
  cases v <;> rfl

theorem Readable.joinedText {v : Json} (h : v.Readable style) : v.joinedText.Readable style := by
  cases v with
  | text s => exact fun _ => Text.isJoined_joined s
  | _ => exact h

theorem readable_text_joinedText (s : Text) : (text s).joinedText.Readable style := fun _ =>
  Text.isJoined_joined s

/-- What can be read again where characters are escaped has nothing to join. -/
theorem joinedText_of_readable (hascii : style.asciiOnly = true) {v : Json}
    (h : v.Readable style) : v.joinedText = v := by
  cases v with
  | text s => exact congrArg text (Text.joined_eq_of_isJoined (h hascii))
  | _ => rfl

theorem isBlank_joinedText (v : Json) : v.joinedText.isBlank = v.isBlank := by
  cases v with
  | text s =>
      show s.joined.isEmpty = s.isEmpty
      fun_cases Text.joined s <;> rfl
  | _ => rfl

theorem write_joinedText (hascii : style.asciiOnly = true) (v : Json) (depth : Nat) :
    write style depth v.joinedText = write style depth v := by
  cases v with
  | text s =>
      show writeText style.asciiOnly s.joined = writeText style.asciiOnly s
      rw [hascii, writeText_joined]
  | _ => rfl

theorem writeEntries_joinedText (hascii : style.asciiOnly = true) (entries : Entries Json)
    (depth : Nat) : writeEntries style depth (entries.map fun e => (e.1, e.2.joinedText))
      = writeEntries style depth entries := by
  induction entries with
  | nil => rfl
  | cons e rest ih =>
      obtain ⟨k, v⟩ := e
      rw [List.map_cons, writeEntries, writeEntries, write_joinedText hascii, ih]

/-- **What is written with escapes does not show whether halves were joined.** -/
theorem render_joinedText (hascii : style.asciiOnly = true) (entries : Entries Json) :
    (object (entries.map fun e => (e.1, e.2.joinedText))).render style
      = (object entries).render style := by
  cases entries with
  | nil => rfl
  | cons e rest =>
      obtain ⟨k, v⟩ := e
      simp only [List.map_cons, render, write, write_joinedText hascii,
        writeEntries_joinedText hascii]

end Json

end CivicSite
