import CivicSite.Proofs.Backend.Answers
import CivicSite.Proofs.Timestamp.Iso

/-!
# Posts read back

The record of a post holds its five texts as they are and its date as it is written. The reader
shows each text, and a text is shown as it is; so a post is read back from its record as soon as
its id is not empty and its date was read (`Post.parse_toJson`), which holds of every post that was
itself read (`Post.parse_again`).
-/

namespace CivicSite

namespace Timestamp

variable {s : Text} {d : Timestamp}

theorem ofJson_text (h : s ≠ []) : ofJson (.text s) = parseIso s := by
  rw [ofJson, if_neg (by rwa [List.isEmpty_iff])]

/-- Only texts that are not empty are read. -/
theorem exists_text_of_ofJson {v : Json} (h : ofJson v = .ok d) :
    ∃ s, v = .text s ∧ parseIso s = .ok d := by
  unfold ofJson at h
  split at h
  · split at h
    · cases h
    · exact ⟨_, rfl, h⟩
  · cases h

theorem isLegible_of_ofJson {v : Json} (h : ofJson v = .ok d) : IsLegible d.offset := by
  obtain ⟨s, -, hs⟩ := exists_text_of_ofJson h
  exact isLegible_of_parseIso hs

theorem iso_ne_nil (t : Timestamp) : t.iso ≠ [] := by
  rw [iso_eq, localChars, List.append_assoc, List.cons_append]
  exact fun hnil => List.append_ne_nil_of_right_ne_nil _ (List.cons_ne_nil _ _)
    (List.map_eq_nil_iff.mp hnil)

theorem ofJson_iso (h : IsLegible d.offset) : ofJson (.text d.iso) = .ok d := by
  rw [ofJson_text d.iso_ne_nil, parseIso_iso d h]

end Timestamp

namespace Post

variable {record : Entries Json} {p : Post}

/-- A record of the texts of a post, with its date as it is written, reads as the post. -/
theorem parse_of_get? (hmissing : record.get? "_id" = none)
    (hid : record.get? "id" = some (.text p.id)) (hne : p.id ≠ [])
    (htitle : record.get? "title" = some (.text p.title))
    (hdescription : record.get? "description" = some (.text p.description))
    (hcontent : record.get? "content" = some (.text p.content))
    (hsettlement : record.get? "settlement" = some (.text p.settlement))
    (hdate : record.get? "date" = some (.text p.date.iso))
    (hlegible : Timestamp.IsLegible p.date.offset) : parse record = .ok p := by
  have hrecord : recordId record = .ok p.id := by
    rw [recordId, hmissing, hid]
    exact if_neg (by rwa [Json.isBlank, List.isEmpty_iff])
  have howner : owner record = p.settlement := by
    rw [owner, hsettlement]
    rfl
  unfold parse ofRecord
  simp only [hrecord, htitle, hdescription, hcontent, howner, hdate, Option.map_some,
    Option.getD_some, Json.display, Timestamp.ofJson_iso hlegible]
  rfl

theorem parse_toJson (hid : p.id ≠ []) (hdate : Timestamp.IsLegible p.date.offset) :
    ∃ record, p.toJson = .object record ∧ parse record = .ok p := by
  refine ⟨_, rfl, ?_⟩
  exact parse_of_get? rfl rfl hid rfl rfl rfl rfl rfl hdate

/-- A post that was read has an id and a date that can be read back. -/
theorem of_parse (h : parse record = .ok p) :
    p.id ≠ [] ∧ Timestamp.IsLegible p.date.offset := by
  unfold parse ofRecord at h
  cases hid : recordId record with
  | error e =>
      rw [hid] at h
      cases h
  | ok id =>
      cases hdate : Timestamp.ofJson ((record.get? "date").getD .null) with
      | error e =>
          rw [hid, hdate] at h
          cases h
      | ok date =>
          rw [hid, hdate] at h
          obtain rfl := Except.ok.inj h
          exact ⟨Settlement.recordId_ne_nil hid, Timestamp.isLegible_of_ofJson hdate⟩

/-- What was read once is the same when it is read again. -/
theorem parse_again (h : parse record = .ok p) :
    ∃ again, p.toJson = .object again ∧ parse again = .ok p :=
  parse_toJson (of_parse h).1 (of_parse h).2

/-- A date that was read from a text is read back from the text it is written as, and so is every
post of that date from its record. The date is in universal time unless its text writes a sign
behind the date; and what is written without an offset, or with a `Z` in its place, is read in
universal time. -/
theorem read_back_exact {s : Text} {d : Timestamp} (h : Timestamp.ofJson (.text s) = .ok d) :
    (∀ p : Post, p.id ≠ [] → p.date = d →
      ∃ record, p.toJson = .object record ∧ parse record = .ok p) ∧
    Timestamp.ofJson (.text d.iso) = .ok d ∧
    (¬Timestamp.HasSign s → d.offset = 0) ∧
    Timestamp.ofJson (.text (Text.ofChars d.localChars)) = .ok d.inUtc ∧
    Timestamp.ofJson (.text (Text.ofChars (d.localChars ++ ['Z']))) = .ok d.inUtc := by
  have hlegible := Timestamp.isLegible_of_ofJson h
  refine ⟨fun p hid hdate => ?_, Timestamp.ofJson_iso hlegible, fun hsign => ?_, ?_, ?_⟩
  · exact parse_toJson hid (hdate ▸ hlegible)
  · obtain ⟨t, ht, hparse⟩ := Timestamp.exists_text_of_ofJson h
    obtain rfl := Json.text.inj ht
    exact Timestamp.offset_eq_zero hparse hsign
  · rw [Timestamp.ofJson_text (by simp [Text.ofChars, d.localChars_ne_nil]), d.parseIso_localChars]
  · rw [Timestamp.ofJson_text (by simp [Text.ofChars]), d.parseIso_localChars_zulu]

/-- The evening of a day of a week, with a `Z`. -/
theorem read_back_exact_week :
    Timestamp.ofJson (.text "2021-W01-4T18:45Z") = .ok ⟨⟨2021, 1, 7, 18, 45, 0, 0, 0⟩, by decide⟩ ∧
      Timestamp.ofJson (.text "2021-01-07T18:45:00+00:00")
        = .ok ⟨⟨2021, 1, 7, 18, 45, 0, 0, 0⟩, by decide⟩ := by
  have hread : Timestamp.ofJson (.text "2021-W01-4T18:45Z")
      = .ok ⟨⟨2021, 1, 7, 18, 45, 0, 0, 0⟩, by decide⟩ := by decide +kernel
  exact ⟨hread, (read_back_exact hread).2.1⟩

end Post

end CivicSite
