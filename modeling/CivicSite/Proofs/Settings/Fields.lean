import CivicSite.Proofs.Json.Halves
import CivicSite.Proofs.Settings.Loading

/-!
# What loaded settings hold

Values from a file were read once and can be read again; a text from the environment may hold two
halves of one character, which come back as the character. The only blank that a loaded field can
have is the one that is its default. So nothing is lost of settings that were loaded when they are
saved (`Settings.Loaded.storable`).
-/

namespace CivicSite

namespace Settings

variable {c s : Settings} {name : Text} {v : Json}

/-! ## Settings as entries -/

theorem keys_toEntries (s : Settings) : (s.toEntries.map Prod.fst).Nodup := by
  show fieldNames.Nodup
  decide

/-- What holds of all fields by their names holds of all entries. -/
theorem forall_toEntries {P : Text → Json → Prop} : (∀ e ∈ s.toEntries, P e.1 e.2) ↔
    ∀ name ∈ fieldNames, ∀ v, s.value? name = some v → P name v :=
  ⟨fun h name _ v hv => h (name, v) (Entries.mem_of_get? hv), fun h e he =>
    h e.1 (List.mem_map_of_mem he) e.2 (Entries.get?_of_mem (keys_toEntries s) he)⟩

/-- The style that settings are saved in. -/
def savedStyle : Json.Style := ⟨true, some 2⟩

/-- The settings with the halves in their texts joined. -/
def joined (s : Settings) : Settings :=
  ⟨s.apiUrl.joinedText, s.publicApiUrl.joinedText, s.token.joinedText, s.createUrl.joinedText,
    s.updateUrl.joinedText, s.updateMethod.joinedText, s.logLevel.joinedText,
    s.lastSettlement.joinedText, s.dataDir⟩

theorem toEntries_joined (s : Settings) :
    s.joined.toEntries = s.toEntries.map fun e => (e.1, e.2.joinedText) := rfl

theorem value?_joined (s : Settings) (name : Text) :
    s.joined.value? name = (s.value? name).map Json.joinedText := by
  rw [value?, toEntries_joined, Entries.get?_map]
  rfl

/-- Values that can be read again once they were saved, their halves joined. -/
def IsReadable (s : Settings) : Prop := ∀ e ∈ s.toEntries, e.2.joinedText.Readable savedStyle

/-! ## Entries that were read -/

/-- Entries that were read: no key repeats, and every value can be read again. -/
structure WereRead (entries : Entries Json) : Prop where
  distinct : (entries.map Prod.fst).Nodup
  readable : ∀ e ∈ entries, e.2.Readable savedStyle

/-- A text from a file is one in UTF-8. -/
theorem exists_string_of_readText {d : Disk} {p : Path} {t : Text}
    (h : Store.readText d p = .ok t) : ∃ s : String, t = Text.ofString s := by
  unfold Store.readText at h
  cases hread : d.readFile p with
  | error e =>
      rw [hread] at h
      cases h
  | ok bytes =>
      rw [hread] at h
      simp only [Bind.bind, Except.bind] at h
      split at h
      · cases h
        exact ⟨_, rfl⟩
      · cases h

/-- The entries of a file are none, or those of an object that was read. -/
theorem readFile_cases {d : Disk} {p : Path} {entries : Entries Json}
    (h : readFile d p = .ok entries) :
    entries = [] ∨ ∃ s : String, Json.read (Text.ofString s) = .ok (.object entries) := by
  unfold readFile at h
  cases hexists : d.exists? p with
  | error e =>
      rw [hexists] at h
      cases h
  | ok there =>
      rw [hexists] at h
      cases there with
      | false =>
          cases h
          exact .inl rfl
      | true =>
          simp only [Bind.bind, Except.bind, pure, Except.pure, Bool.not_true, Bool.false_eq_true,
            if_false] at h
          cases htext : Store.readText d p with
          | error e =>
              rw [htext] at h
              dsimp only at h
              split at h <;> cases h
              exact .inl rfl
          | ok t =>
              obtain ⟨s, rfl⟩ := exists_string_of_readText htext
              rw [htext] at h
              dsimp only at h
              cases hread : Json.read (Text.ofString s) with
              | error e =>
                  rw [hread] at h
                  simp only [Except.mapError] at h
                  split at h <;> cases h
                  exact .inl rfl
              | ok v =>
                  rw [hread] at h
                  cases v with
                  | object entries' =>
                      cases h
                      exact .inr ⟨s, hread⟩
                  | _ =>
                      cases h
                      exact .inl rfl

theorem wereRead_of_readFile {d : Disk} {p : Path} {entries : Entries Json}
    (h : readFile d p = .ok entries) : WereRead entries := by
  rcases readFile_cases h with rfl | ⟨s, hread⟩
  · exact ⟨List.nodup_nil, nofun⟩
  · obtain ⟨hdistinct, hvalues⟩ :=
      Json.readable_of_read (Text.isEncodable_ofString s) hread savedStyle
    exact ⟨hdistinct, fun e he => (Json.entriesReadable_iff.mp hvalues e he).2⟩

/-! ## What a loaded field holds -/

/-- The form in which a field holds a value: method and level are in capitals. -/
def inForm (name : Text) : Json → Json
  | .text t => if name = "n8n_update_method" ∨ name = "log_level" then .text (Text.upper t)
    else .text t
  | v => v

theorem inForm_inForm (name : Text) (v : Json) : inForm name (inForm name v) = inForm name v := by
  cases v with
  | text t =>
      by_cases hcapital : name = "n8n_update_method" ∨ name = "log_level"
      · simp only [inForm, if_pos hcapital, Text.upper_upper]
      · simp only [inForm, if_neg hcapital]
  | _ => rfl

section Field

variable {dir : Path} {env : Entries Text} {entries : Entries Json}

/-- What is in effect, in its form, is what a field holds. -/
theorem Loaded.value?_eq (h : Loaded dir env entries s) (hname : name ∈ fieldNames) :
    s.value? name = (inEffect env entries name).map (inForm name) := by
  by_cases hmethod : name = "n8n_update_method"
  · subst hmethod
    obtain ⟨t, ht, hvalue⟩ := h.method
    rw [ht]
    exact congrArg some hvalue
  · by_cases hlevel : name = "log_level"
    · subst hlevel
      obtain ⟨t, ht, hvalue⟩ := h.level
      rw [ht]
      exact congrArg some hvalue
    · have hsame : inForm name = id := by
        funext v
        cases v with
        | text t => exact if_neg (not_or.mpr ⟨hmethod, hlevel⟩)
        | _ => rfl
      rw [h.others name hname hmethod hlevel, hsame, Option.map_id, id]

/-- A value that a field can hold: it can be saved and read again, and is not blank, unless the
field has no default. -/
structure IsHeld (name : Text) (v : Json) : Prop where
  readable : v.joinedText.Readable savedStyle
  given : v.isBlank = true → v = .null ∧ default.value? name = some .null

theorem isHeld_default (hname : name ∈ fieldNames) (h : default.value? name = some v) :
    IsHeld name v := by
  have hnull {name : Text} (hnone : default.value? name = some .null) :
      ∀ v, default.value? name = some v → IsHeld name v := fun v hv =>
    Option.some_inj.mp (hnone.symm.trans hv) ▸ ⟨trivial, fun _ => ⟨rfl, hnone⟩⟩
  have htext {name : Text} {t : Text} (hsome : default.value? name = some (.text t))
      (ht : t.isEmpty = false) : ∀ v, default.value? name = some v → IsHeld name v := fun v hv =>
    Option.some_inj.mp (hsome.symm.trans hv) ▸ ⟨Json.readable_text_joinedText t, fun hblank =>
      absurd (ht.symm.trans hblank) Bool.false_ne_true⟩
  have hfields : ∀ name ∈ fieldNames, ∀ v, default.value? name = some v → IsHeld name v :=
    forall_fieldNames.mpr ⟨htext rfl rfl, hnull rfl, hnull rfl, hnull rfl, hnull rfl,
      htext rfl rfl, htext rfl rfl, hnull rfl⟩
  exact hfields name hname v h

theorem isHeld_inEffect (hread : WereRead entries) (hname : name ∈ fieldNames)
    (h : inEffect env entries name = some v) : IsHeld name v := by
  rcases inEffect_cases h with hvariable | ⟨-, ⟨hget, hgiven⟩ | hdefault⟩
  · obtain ⟨-, t, -, hgiven, rfl⟩ := exists_of_overriding hvariable
    exact ⟨Json.readable_text_joinedText t, fun hblank =>
      absurd (hgiven.symm.trans hblank) Bool.false_ne_true⟩
  · exact ⟨(hread.readable _ (Entries.mem_of_get? hget)).joinedText, fun hblank =>
      absurd (hgiven.symm.trans hblank) Bool.false_ne_true⟩
  · exact isHeld_default hname hdefault

theorem IsHeld.inForm (h : IsHeld name v) : IsHeld name (inForm name v) := by
  cases v with
  | text t =>
      rw [Settings.inForm]
      by_cases hcapital : name = "n8n_update_method" ∨ name = "log_level"
      · rw [if_pos hcapital]
        exact ⟨Json.readable_text_joinedText _, fun hblank =>
          absurd (h.given ((Text.isEmpty_upper t).symm.trans hblank)).1 nofun⟩
      · rwa [if_neg hcapital]
  | _ => exact h

theorem joinedText_inForm (name : Text) (h : v.joinedText = v) :
    (inForm name v).joinedText = inForm name v := by
  cases v with
  | text t =>
      rw [inForm]
      split
      · have ht : t.IsJoined := Text.joined_eq_iff.mp (Json.text.inj h)
        exact congrArg Json.text (Text.joined_eq_of_isJoined (Text.isJoined_upper ht))
      · exact h
  | _ => rfl

theorem joinedText_overriding (henv : ∀ e ∈ env, e.2.IsJoined) (h : overriding env name = some v) :
    v.joinedText = v := by
  obtain ⟨key, t, hget, -, rfl⟩ := exists_of_overriding h
  exact congrArg Json.text (Text.joined_eq_of_isJoined (henv _ (Entries.mem_of_get? hget)))

/-- Nothing is to be joined but what the environment brings. -/
theorem joinedText_inEffect (hread : WereRead entries)
    (henv : ∀ w, overriding env name = some w → w.joinedText = w) (hname : name ∈ fieldNames)
    (h : inEffect env entries name = some v) : v.joinedText = v := by
  rcases inEffect_cases h with hvariable | ⟨-, ⟨hget, -⟩ | hdefault⟩
  · exact henv v hvariable
  · exact Json.joinedText_of_readable rfl (hread.readable _ (Entries.mem_of_get? hget))
  · have hfields : ∀ name ∈ fieldNames,
        (default.value? name).map Json.joinedText = default.value? name :=
      forall_fieldNames.mpr ⟨rfl, rfl, rfl, rfl, rfl, rfl, rfl, rfl⟩
    have hsame := hfields name hname
    rw [hdefault] at hsame
    exact Option.some_inj.mp hsame

/-- A field that nothing overrides has nothing to join. -/
theorem Loaded.map_joinedText (h : Loaded dir env entries c) (hread : WereRead entries)
    (henv : ∀ w, overriding env name = some w → w.joinedText = w) (hname : name ∈ fieldNames) :
    (c.value? name).map Json.joinedText = c.value? name := by
  obtain ⟨v, hv⟩ := exists_inEffect env entries hname
  rw [h.value?_eq hname, hv]
  exact congrArg some (joinedText_inForm name (joinedText_inEffect hread henv hname hv))

theorem Loaded.joined_eq (h : Loaded dir env entries c) (hread : WereRead entries)
    (henv : ∀ e ∈ env, e.2.IsJoined) : c.joined = c := by
  refine ext_value? (fun name hname => ?_) rfl
  rw [value?_joined]
  exact h.map_joinedText hread (fun w hw => joinedText_overriding henv hw) hname

/-- Fields that are in their form stay so. -/
theorem Loaded.map_inForm (h : Loaded dir env entries c) (hname : name ∈ fieldNames) :
    (c.value? name).map (inForm name) = c.value? name := by
  rw [h.value?_eq hname, Option.map_map]
  exact congrArg (Option.map · _) (funext (inForm_inForm name))

/-- Settings of which nothing is lost when they are saved. -/
structure Storable (c : Settings) : Prop where
  method : ∃ t, c.updateMethod = .text t
  level : ∃ t, c.logLevel = .text t
  held : ∀ name ∈ fieldNames, ∃ v, c.value? name = some v ∧ IsHeld name v

/-- **What a loaded field holds can be saved and read again.** -/
theorem Loaded.storable (h : Loaded dir env entries c) (hread : WereRead entries) : c.Storable where
  method := by
    obtain ⟨t, -, ht⟩ := h.method
    exact ⟨_, ht⟩
  level := by
    obtain ⟨t, -, ht⟩ := h.level
    exact ⟨_, ht⟩
  held name hname := by
    obtain ⟨v, hv⟩ := exists_inEffect env entries hname
    exact ⟨inForm name v, (h.value?_eq hname).trans (congrArg (Option.map (inForm name)) hv),
      (isHeld_inEffect hread hname hv).inForm⟩

theorem Storable.isReadable (h : c.Storable) : c.IsReadable := by
  refine (forall_toEntries (P := fun _ v => v.joinedText.Readable savedStyle)).mpr
    fun name hname v hv => ?_
  obtain ⟨w, hw, hheld⟩ := h.held name hname
  obtain rfl := Option.some_inj.mp (hw.symm.trans hv)
  exact hheld.readable

end Field

end Settings

end CivicSite
