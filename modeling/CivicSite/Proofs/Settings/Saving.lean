import CivicSite.Proofs.Settings.Fields
import CivicSite.Proofs.Store.Export

/-!
# Saving the settings and loading them again

A saved file has an entry for every field. Loading leaves out those that are blank, and gives the
default in their place, which is what a blank field had (`Settings.inEffect_saved`). What stands in
the way of saving is only depth: a value that was read may lie too deep in itself to be written
(`Settings.saving_exact`).
-/

namespace CivicSite

namespace Settings

variable {c s : Settings} {name : Text} {v : Json}

/-! ## The text that is saved -/

/-- No setting lies deeper in itself than can be saved. -/
def IsShallow (s : Settings) : Prop := ∀ e ∈ s.toEntries, e.2.depth ≤ maxDepth

theorem isShallow_iff :
    s.IsShallow ↔ ∀ name ∈ fieldNames, ∀ v, s.value? name = some v → v.depth ≤ maxDepth :=
  forall_toEntries (P := fun _ v => v.depth ≤ maxDepth)

theorem text_of_isShallow (h : s.IsShallow) :
    s.text = .ok ((Json.object s.toEntries).render savedStyle) := by
  have hnone : (s.toEntries.any fun e => maxDepth < e.2.depth) = false := by
    refine List.any_eq_false.mpr fun e he => ?_
    rw [decide_eq_true_eq]
    exact Nat.not_lt.mpr (h e he)
  rw [text, record, hnone]
  rfl

theorem text_of_not_isShallow (h : ¬ s.IsShallow) : s.text = .error .tooDeep := by
  have hdeep : (s.toEntries.any fun e => maxDepth < e.2.depth) = true := by
    refine List.any_eq_true.mpr ?_
    simp only [IsShallow, not_forall, Nat.not_le] at h
    obtain ⟨e, he, hlt⟩ := h
    exact ⟨e, he, decide_eq_true hlt⟩
  rw [text, record, hdeep]
  rfl

/-- **What is saved is read as the settings, their halves joined.** -/
theorem read_text (hshallow : s.IsShallow) (hreadable : s.IsReadable) :
    Json.read ((Json.object s.toEntries).render savedStyle) = .ok (.object s.joined.toEntries) := by
  rw [← Json.render_joinedText rfl, ← toEntries_joined]
  refine Json.read_render ?_ ⟨keys_toEntries s.joined, Json.entriesReadable_iff.mpr fun e he => ?_⟩
  · have hdepth : Json.depthOfEntries s.joined.toEntries ≤ maxDepth := by
      refine Json.depthOfEntries_le fun e he => ?_
      obtain ⟨e', he', rfl⟩ := List.mem_map.mp (toEntries_joined s ▸ he)
      rw [Json.depth_joinedText]
      exact hshallow e' he'
    exact Nat.le_trans (Nat.succ_le_succ hdepth) (by decide)
  · obtain ⟨e', he', rfl⟩ := List.mem_map.mp (toEntries_joined s ▸ he)
    refine ⟨fun _ => Text.isJoined_of_isEncodable ?_, hreadable e' he'⟩
    have hkeys : ∀ key ∈ fieldNames, key.isEncodable = true := by decide
    exact hkeys e'.1 (List.mem_map_of_mem he')

/-! ## Saved entries -/

/-- **Nothing is lost of what was saved**: what the environment does not set is in effect as it
was. -/
theorem inEffect_saved (env : Entries Text) (hv : c.value? name = some v) (hheld : IsHeld name v) :
    inEffect env c.joined.toEntries name = (overriding env name <|> some v.joinedText) := by
  have hget : Entries.get? c.joined.toEntries name = some v.joinedText := by
    show c.joined.value? name = _
    rw [value?_joined, hv]
    rfl
  unfold inEffect
  cases overriding env name with
  | some w => rfl
  | none =>
      rw [hget, Option.filter_some, Json.isBlank_joinedText]
      cases hblank : v.isBlank with
      | false => rfl
      | true =>
          obtain ⟨rfl, hdefault⟩ := hheld.given hblank
          exact hdefault

/-! ## Saving -/

section Save

variable {path? : Option Path} {d d' : Disk} {p : Path} {dir : Path}

/-- Settings with a data directory need not make one to be saved. -/
theorem settingsPath_of_dataDir (h : c.dataDir = some dir) (path? : Option Path) (d : Disk) :
    c.settingsPath path? d = (.ok (path?.getD (dir.child "settings.json")), d) := by
  cases path? with
  | some p => rfl
  | none =>
      rw [settingsPath, locate, h]
      rfl

theorem save_of_not_isShallow (hpath : c.settingsPath path? d = (.ok p, d)) (h : ¬c.IsShallow) :
    c.save path? d = (.error .tooDeep, d) := by
  rw [save, hpath, text_of_not_isShallow h]

/-- The text that is saved has UTF-8. -/
theorem exists_string_of_isShallow (h : c.IsShallow) :
    ∃ t : String, c.text = .ok (Text.ofString t) := by
  have hascii : savedStyle.asciiOnly = true := rfl
  obtain ⟨t, ht⟩ := Text.isEncodable_iff.mp
    (Json.isEncodable_write_ascii hascii (.object c.toEntries) 0)
  exact ⟨t, (text_of_isShallow h).trans (congrArg Except.ok ht)⟩

/-- **What is saved is on the disk**, if it does not lie too deep and there is a place for it. -/
theorem exists_save (hpath : c.settingsPath path? d = (.ok p, d)) (hshallow : c.IsShallow)
    (hfree : d.isFree p = true) :
    ∃ (d' : Disk) (t : String), c.save path? d = (.ok (), d') ∧ c.text = .ok (Text.ofString t)
      ∧ d'.readFile p = .ok t.toUTF8 := by
  obtain ⟨t, ht⟩ := exists_string_of_isShallow hshallow
  obtain ⟨place, bytes, hlocate, hplace, hdisk, -, hwrites⟩ :=
    Disk.writeFile_of_isFree hfree (Text.ofString t)
  obtain ⟨hresult, rfl⟩ := hwrites t (Text.string?_ofString t)
  refine ⟨d.put place (.file t.toUTF8), t, ?_, ht, ?_⟩
  · rw [save, hpath, ht]
    exact Prod.ext hresult hdisk
  · exact Disk.readFile_of_locate (Disk.locate_put _ hplace hlocate)
      (Disk.nodeAt?_put_self _ hplace)

theorem isFree_of_save (hpath : c.settingsPath path? d = (.ok p, d))
    (h : c.save path? d = (.ok (), d')) : c.IsShallow ∧ d.isFree p = true := by
  by_cases hshallow : c.IsShallow
  · refine ⟨hshallow, ?_⟩
    rw [save, hpath, text_of_isShallow hshallow] at h
    exact Disk.isFree_of_writeFile h
  · rw [save_of_not_isShallow hpath hshallow] at h
    cases h

/-- The bytes that were saved say what the settings are. -/
theorem contents_saved {t : String} (ht : c.text = .ok (Text.ofString t))
    (hreadable : c.IsReadable) :
    contents (some t.toUTF8) = c.joined.toEntries ∧ ¬IsTooDeep t.toUTF8 := by
  have hshallow : c.IsShallow := by
    refine Classical.byContradiction fun hnot => ?_
    rw [text_of_not_isShallow hnot] at ht
    cases ht
  have hread : Json.read (Text.ofString t) = .ok (.object c.joined.toEntries) := by
    rw [← Except.ok.inj ((text_of_isShallow hshallow).symm.trans ht)]
    exact read_text hshallow hreadable
  refine ⟨?_, ?_⟩
  · rw [contents, Text.fromUTF8?_toUTF8]
    dsimp only
    rw [hread]
  · rintro ⟨s, hs, hdeep⟩
    rw [Text.fromUTF8?_toUTF8] at hs
    obtain rfl := Option.some_inj.mp hs
    rw [hread] at hdeep
    cases hdeep

end Save

/-! ## Saved settings under another environment -/

/-- What the environment puts in the place of what was saved, each field in its form. -/
structure Returned (dir : Path) (env : Entries Text) (c s : Settings) : Prop where
  dataDir : s.dataDir = some dir
  fields : ∀ name ∈ fieldNames, s.value? name
    = (overriding env name <|> (c.value? name).map Json.joinedText).map (inForm name)

/-- What an environment puts in the place of what other settings hold, method and level in
capitals. Nothing else differs but the data directory. -/
structure Replaced (dir : Path) (env : Entries Text) (c s : Settings) : Prop where
  dataDir : s.dataDir = some dir
  fields : ∀ name ∈ fieldNames,
    s.value? name = ((overriding env name).map (inForm name) <|> c.value? name)

/-- Where there is nothing to join, what was saved is given back as it was. -/
theorem Returned.replaced {dir dir' : Path} {env env' : Entries Text} {entries : Entries Json}
    (h : Returned dir' env' c s) (hloaded : Loaded dir env entries c) (hjoined : c.joined = c) :
    Replaced dir' env' c s := by
  refine ⟨h.dataDir, fun name hname => ?_⟩
  rw [h.fields name hname, ← value?_joined, hjoined]
  cases overriding env' name with
  | some v => rfl
  | none => exact hloaded.map_inForm hname

theorem Replaced.eq_of_none {dir : Path} {env : Entries Text} (h : Replaced dir env c s)
    (hnone : ∀ name ∈ fieldNames, overriding env name = none) :
    s = { c with dataDir := some dir } := by
  refine ext_value? (fun name hname => ?_) h.dataDir
  rw [h.fields name hname, hnone name hname]
  rfl

section Load

variable {home : Path} {env : Entries Text} {path? : Option Path} {d d₁ : Disk}

/-- The file that the settings of an environment are in: the one given, or that of the data
directory. -/
def filePath (home : Path) (env : Entries Text) (path? : Option Path) : Path :=
  path?.getD ((dataDirOf home env).child "settings.json")

/-- Settings that were loaded come from entries that were read. -/
theorem load_cases (h : load home env path? d = (.ok c, d₁)) :
    d.makeDirectory (dataDirOf home env) = (.ok (), d₁) ∧
    ∃ entries, readFile d₁ (filePath home env path?) = .ok entries
      ∧ fromEntries (dataDirOf home env) env entries = .ok c := by
  unfold load at h
  dsimp only at h
  rcases hmake : d.makeDirectory (dataDirOf home env) with ⟨e | u, d'⟩
  · rw [hmake] at h
    cases h
  · rw [hmake] at h
    obtain ⟨hloaded, rfl⟩ := Prod.mk.inj h
    rw [filePath]
    cases hread : readFile d' (path?.getD ((dataDirOf home env).child "settings.json")) with
    | error e =>
        rw [hread] at hloaded
        cases hloaded
    | ok entries =>
        rw [hread] at hloaded
        exact ⟨rfl, entries, rfl, hloaded⟩

theorem load_of_readFile {entries : Entries Json}
    (hmade : d.makeDirectory (dataDirOf home env) = (.ok (), d₁))
    (hread : readFile d₁ (filePath home env path?) = .ok entries) :
    load home env path? d = (fromEntries (dataDirOf home env) env entries, d₁) := by
  unfold load
  dsimp only
  rw [hmade]
  dsimp only
  rw [← filePath, hread]
  rfl

theorem loaded_of_fromEntries {dir : Path} {entries : Entries Json} (hread : WereRead entries)
    (h : fromEntries dir env entries = .ok c) : Loaded dir env entries c := by
  rcases fromEntries_cases dir hread.distinct with ⟨-, s, hs, hloaded⟩ | ⟨-, herror⟩
  · exact Except.ok.inj (hs.symm.trans h) ▸ hloaded
  · rw [herror] at h
    cases h

/-- A field that has to be a text is one under every environment. -/
theorem exists_text_saved {t : Text} (hv : c.value? name = some (.text t))
    (hheld : IsHeld name (.text t)) :
    ∃ t, inEffect env c.joined.toEntries name = some (.text t) := by
  rw [inEffect_saved env hv hheld]
  cases hvariable : overriding env name with
  | some v =>
      obtain ⟨t, rfl⟩ := exists_text_of_isText (isText_overriding hvariable)
      exact ⟨t, rfl⟩
  | none => exact ⟨t.joined, rfl⟩

/-- **What was saved is given back**, but for what the environment sets and the data directory. -/
theorem Storable.fromEntries_saved (h : c.Storable) (dir : Path) (env : Entries Text) :
    ∃ s, fromEntries dir env c.joined.toEntries = .ok s ∧ Returned dir env c s := by
  obtain ⟨method, hmethod⟩ := h.method
  obtain ⟨level, hlevel⟩ := h.level
  have htext {name : Text} {t : Text} (hname : name ∈ fieldNames)
      (hv : c.value? name = some (.text t)) :
      ∃ t, inEffect env c.joined.toEntries name = some (.text t) := by
    obtain ⟨v, hv', hheld⟩ := h.held name hname
    obtain rfl := Option.some_inj.mp (hv'.symm.trans hv)
    exact exists_text_saved hv hheld
  have htexts : HasTexts env c.joined.toEntries :=
    ⟨htext (by decide) (congrArg some hmethod), htext (by decide) (congrArg some hlevel)⟩
  rcases fromEntries_cases dir (keys_toEntries c.joined) with ⟨-, s, hs, hloaded⟩ | ⟨hnot, -⟩
  · refine ⟨s, hs, hloaded.dataDir, fun name hname => ?_⟩
    obtain ⟨v, hv, hheld⟩ := h.held name hname
    rw [hloaded.value?_eq hname, inEffect_saved env hv hheld, hv]
    rfl
  · exact absurd htexts hnot

/-- **Saved settings come back**, wherever a file that they were saved to lies. -/
theorem Storable.load_saved (h : c.Storable) {t : String} (ht : c.text = .ok (Text.ofString t))
    (hfile : d.readFile (filePath home env path?) = .ok t.toUTF8)
    (hmade : d.makeDirectory (dataDirOf home env) = (.ok (), d₁)) :
    ∃ s, load home env path? d = (.ok s, d₁) ∧ Returned (dataDirOf home env) env c s := by
  have hstays := Disk.stays_makeDirectory (filePath home env path?) (dataDirOf home env) d
  rw [hmade] at hstays
  obtain ⟨hcontents, hdepth⟩ := contents_saved ht h.isReadable
  have hholds : Holds d₁ (filePath home env path?) (some t.toUTF8) := hstays _ hfile
  have hentries := readFile_eq hholds fun bytes hbytes => Option.some_inj.mp hbytes ▸ hdepth
  rw [hcontents] at hentries
  obtain ⟨s, hs, hreturned⟩ := h.fromEntries_saved (dataDirOf home env) env
  exact ⟨s, (load_of_readFile hmade hentries).trans (congrArg (·, d₁) hs), hreturned⟩

/-- Settings that were loaded can be saved just if none of them lies too deep in itself and there is
a place for the file, and saving them stops before the file is touched where one does. Under every
environment that the saved file is loaded under then, settings are loaded just if the data directory
can be made: they are those that were saved, but for what the environment sets and the data
directory, and for halves that the first environment left unjoined. -/
theorem saving_exact (hload : load home env path? d = (.ok c, d₁)) (d₂ : Disk) :
    ((∃ d₃, c.save path? d₂ = (.ok (), d₃)) ↔
      c.IsShallow ∧ d₂.isFree (filePath home env path?) = true) ∧
    (¬c.IsShallow → c.save path? d₂ = (.error .tooDeep, d₂)) ∧
    ∀ d₃, c.save path? d₂ = (.ok (), d₃) →
      ∀ home' env' path'?, filePath home' env' path'? = filePath home env path? →
        ((∃ s d₄, load home' env' path'? d₃ = (.ok s, d₄)) ↔
          ∃ d₄, d₃.makeDirectory (dataDirOf home' env') = (.ok (), d₄)) ∧
        ∀ s d₄, load home' env' path'? d₃ = (.ok s, d₄) →
          Returned (dataDirOf home' env') env' c s ∧
          ((∀ e ∈ env, e.2.IsJoined) → Replaced (dataDirOf home' env') env' c s ∧
            ((∀ name ∈ fieldNames, overriding env' name = none) →
              s = { c with dataDir := some (dataDirOf home' env') })) := by
  obtain ⟨-, entries, hfile, hfrom⟩ := load_cases hload
  have hread : WereRead entries := wereRead_of_readFile hfile
  have hloaded : Loaded (dataDirOf home env) env entries c := loaded_of_fromEntries hread hfrom
  have hpath (d : Disk) : c.settingsPath path? d = (.ok (filePath home env path?), d) :=
    settingsPath_of_dataDir hloaded.dataDir path? d
  refine ⟨⟨fun ⟨d₃, hsave⟩ => isFree_of_save (hpath d₂) hsave, fun ⟨hshallow, hfree⟩ => ?_⟩,
    save_of_not_isShallow (hpath d₂), fun d₃ hsave home' env' path'? hsame => ?_⟩
  · obtain ⟨d₃, -, hsave, -⟩ := exists_save (hpath d₂) hshallow hfree
    exact ⟨d₃, hsave⟩
  · obtain ⟨hshallow, hfree⟩ := isFree_of_save (hpath d₂) hsave
    obtain ⟨d₃', t, hsave', ht, hbytes⟩ := exists_save (hpath d₂) hshallow hfree
    obtain rfl : d₃' = d₃ := congrArg Prod.snd (hsave'.symm.trans hsave)
    have hback {d₄ : Disk} (hmade : d₃'.makeDirectory (dataDirOf home' env') = (.ok (), d₄)) :=
      (hloaded.storable hread).load_saved ht (hsame ▸ hbytes) hmade
    refine ⟨⟨fun ⟨s, d₄, hload'⟩ => ⟨d₄, (load_cases hload').1⟩, fun ⟨d₄, hmade⟩ => ?_⟩,
      fun s d₄ hload' => ?_⟩
    · obtain ⟨s, hload', -⟩ := hback hmade
      exact ⟨s, d₄, hload'⟩
    · obtain ⟨s', hload'', hreturned⟩ := hback (load_cases hload').1
      obtain rfl := Except.ok.inj (congrArg Prod.fst (hload''.symm.trans hload'))
      refine ⟨hreturned, fun henv => ?_⟩
      have hreplaced := hreturned.replaced hloaded (hloaded.joined_eq hread henv)
      exact ⟨hreplaced, hreplaced.eq_of_none⟩

/-- A token of the environment is saved, and a method of a later one is put in capitals. -/
theorem saving_exact_method :
    let env : Entries Text := [("TOWNSITE_DATA_DIR", "data"), ("TOWNSITE_TOKEN", "t")]
    let env' : Entries Text := [("TOWNSITE_DATA_DIR", "data"), ("N8N_UPDATE_METHOD", "put")]
    let c : Settings := { default with token := .text "t", dataDir := some (.ofText "data") }
    ∃ d₁ d₃ d₄, load .here env none .empty = (.ok c, d₁) ∧ c.save none d₁ = (.ok (), d₃) ∧
      load .here env' none d₃ = (.ok { c with updateMethod := .text "PUT" }, d₄) := by
  intro env env' c
  let dir : Path := .ofText "data"
  let d₁ : Disk := ⟨[(dir, .directory)]⟩
  have hload : load .here env none .empty = (.ok c, d₁) := rfl
  obtain ⟨hiff, -, hlater⟩ := saving_exact hload d₁
  have hshallow : c.IsShallow := by
    have hzero : ∀ e ∈ c.toEntries, e.2.depth = 0 := by decide
    exact fun e he => hzero e he ▸ Nat.zero_le maxDepth
  obtain ⟨d₃, hsave⟩ := hiff.mpr ⟨hshallow, rfl⟩
  -- the text that is saved is kept from being evaluated
  have hmade : d₃.makeDirectory (dataDirOf .here env') = (.ok (), d₃) := by
    obtain ⟨t, ht⟩ := exists_string_of_isShallow hshallow
    rw [save, settingsPath_of_dataDir rfl, ht] at hsave
    dsimp only at hsave
    rw [Disk.writeFile, Text.string?_ofString] at hsave
    obtain rfl : _ = d₃ := congrArg Prod.snd hsave
    rfl
  obtain ⟨hmade_iff, hback⟩ := hlater d₃ hsave .here env' none rfl
  obtain ⟨s, d₄, hload'⟩ := hmade_iff.mpr ⟨d₃, hmade⟩
  have hjoined : ∀ e ∈ env, e.2.IsJoined := fun e he => by
    have hencodable : ∀ e ∈ env, e.2.isEncodable = true := by decide
    exact Text.isJoined_of_isEncodable (hencodable e he)
  obtain ⟨hdir, hfields⟩ := ((hback s d₄ hload').2 hjoined).1
  have hs : s = { c with updateMethod := .text "PUT" } := by
    obtain ⟨h1, h2, h3, h4, h5, h6, h7, h8⟩ := forall_fieldNames.mp hfields
    exact ext_value? (forall_fieldNames.mpr ⟨h1, h2, h3, h4, h5, h6, h7, h8⟩) hdir
  exact ⟨d₁, d₃, d₄, hload, hsave, hs ▸ hload'⟩

end Load

end Settings

end CivicSite
