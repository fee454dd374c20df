import CivicSite.Proofs.Settings.Saving
import CivicSite.Proofs.Window.Frame

/-!
# Settings after a run

The window remembers the settlement that was opened last by saving its settings, all of them, and
they are what the file and the environment said together. So what the environment of a run set is in
the file from the first settlement on that is opened (`remembering_exact`), and is loaded from there
when no variable sets it any more.

Along a run the settings file holds what it held before, or the settings as they are
(`Recorded.stores`): whatever else is written lies in files of other names.
-/

namespace CivicSite

/-! ## Files of other names -/

/-- A file is in a directory, which need not be made then. -/
theorem Disk.makeDirectory_of_readFile {d : Disk} {dir : Path} {name : Text} {bytes : ByteArray}
    (hname : 0 < sizeOf name) (h : d.readFile (dir.child name) = .ok bytes) :
    d.makeDirectory dir = (.ok (), d) := by
  obtain ⟨q, hlocate, -⟩ := readFile_eq_ok h
  obtain ⟨hask, hfollow⟩ := locate_eq_ok hlocate
  obtain ⟨place, hdir, hnode, -⟩ := follow_child_eq_ok hname hfollow
  have hask' : isUnaskable dir = false := by
    have hparent := isUnaskable_parent hask
    rwa [Path.parent, Path.child, List.dropLast_concat] at hparent
  rw [makeDirectory, hask', if_neg Bool.false_ne_true,
    makeWithin_of_hasDirectory ⟨place, hdir, hnode⟩]

/-- Writing drafts leaves the files of other names as they are. -/
theorem Store.stays_of_rewrites {dir dir' : Path} {name name' : Text} {d d' : Disk}
    (hname : Disk.IsFileName name) (hname' : Disk.IsFileName name') (hne : name ≠ name')
    (h : Rewrites (dir'.child name') d d') : Disk.Stays (dir.child name) d d' := by
  rcases h with rfl | ⟨es, rfl⟩
  · exact .refl _ _
  · unfold writeEntries
    have hmade := Disk.stays_makeDirectory (dir.child name) (dir'.child name').parent d
    rcases hmake : d.makeDirectory (dir'.child name').parent with ⟨e | u, d'⟩
    · rwa [hmake] at hmade
    · rw [hmake] at hmade
      exact hmade.trans (Disk.stays_writeFile_of_ne hname hname' hne d' _)

namespace Settings

variable {c s : Settings} {dir : Path} {env : Entries Text} {entries : Entries Json} {name : Text}

theorem isFileName : Disk.IsFileName "settings.json" ∧ Disk.IsFileName "drafts.json" := by
  unfold Disk.IsFileName
  decide

/-! ## The settlement that was opened last -/

/-- The settings once settlements were opened, one after another. -/
def withOpened (c : Settings) (ids : List Text) : Settings :=
  match ids.getLast? with
  | some id => { c with lastSettlement := .text id }
  | none => c

theorem withOpened_concat (c : Settings) (ids : List Text) (id : Text) :
    c.withOpened (ids ++ [id]) = { c.withOpened ids with lastSettlement := .text id } := by
  unfold withOpened
  rw [List.getLast?_concat]
  cases ids.getLast? <;> rfl

theorem dataDir_withOpened (c : Settings) (ids : List Text) :
    (c.withOpened ids).dataDir = c.dataDir := by
  unfold withOpened
  cases ids.getLast? <;> rfl

theorem value?_lastSettlement (c : Settings) (v : Json) (h : name ∈ fieldNames) :
    { c with lastSettlement := v }.value? name
      = if "last_settlement_id" = name then some v else c.value? name :=
  value?_set (s := c) h "last_settlement_id"

/-- A text of any length can be saved. -/
theorem IsShallow.withOpened (h : c.IsShallow) (ids : List Text) :
    (c.withOpened ids).IsShallow := by
  unfold Settings.withOpened
  cases ids.getLast? with
  | none => exact h
  | some id =>
      refine isShallow_iff.mpr fun name hname v hv => ?_
      rw [value?_lastSettlement c _ hname] at hv
      split at hv
      · rw [← Option.some_inj.mp hv]
        exact Nat.zero_le maxDepth
      · exact isShallow_iff.mp h name hname v hv

theorem Storable.remembered (h : c.Storable) {id : Text} (hid : id.isEmpty = false) :
    { c with lastSettlement := .text id }.Storable where
  method := h.method
  level := h.level
  held name hname := by
    rw [value?_lastSettlement c _ hname]
    split
    · exact ⟨.text id, rfl, Json.readable_text_joinedText id, fun hblank =>
        absurd (hid.symm.trans hblank) Bool.false_ne_true⟩
    · exact h.held name hname

/-! ## Files of texts -/

/-- The entries of a file that has a text for a field, or nothing. -/
def AllTexts (entries : Entries Json) : Prop := ∀ e ∈ entries, e.2 = .null ∨ e.2.isText = true

theorem AllTexts.isUsable (h : AllTexts entries) (env : Entries Text) : IsUsable env entries :=
  fun _ _ _ v hv => h (_, v) (Entries.mem_of_get? hv)

/-- Such a file is loaded under every environment. -/
theorem AllTexts.fromEntries (h : AllTexts entries) (hread : WereRead entries) (dir : Path)
    (env : Entries Text) :
    ∃ s, Settings.fromEntries dir env entries = .ok s ∧ Loaded dir env entries s := by
  have hsame := (fromEntries_texts_iff dir env hread.distinct).mpr (h.isUsable env)
  rcases fromEntries_cases dir (distinct_texts hread.distinct) with ⟨-, s, hs, -⟩ | ⟨hnot, -⟩
  · rw [hs] at hsame
    exact ⟨s, hsame, loaded_of_fromEntries hread hsame⟩
  · exact absurd (hasTexts_texts hread.distinct) hnot

theorem AllTexts.isShallow (h : AllTexts entries) (hloaded : Loaded dir env entries c) :
    c.IsShallow := by
  have hdepth {v : Json} (hv : v = .null ∨ v.isText = true) (name : Text) :
      (inForm name v).depth = 0 := by
    rcases hv with rfl | htext
    · rfl
    · obtain ⟨t, rfl⟩ := exists_text_of_isText htext
      rw [inForm]
      split <;> rfl
  refine isShallow_iff.mpr fun name hname v hv => ?_
  rw [hloaded.value?_eq hname] at hv
  obtain ⟨w, hw, rfl⟩ := Option.map_eq_some_iff.mp hv
  have htext : w = .null ∨ w.isText = true := by
    rcases inEffect_cases hw with hvariable | ⟨-, ⟨hget, -⟩ | hdefault⟩
    · exact .inr (isText_overriding hvariable)
    · exact h (name, w) (Entries.mem_of_get? hget)
    · obtain ⟨u, hu, hnull⟩ := exists_default hname
      exact Option.some_inj.mp (hu.symm.trans hdefault) ▸ hnull
  rw [hdepth htext name]
  exact Nat.zero_le maxDepth

/-! ## What is overwritten -/

/-- What a field holds that a variable set, once it was saved and loaded again. -/
def savedForm (name : Text) (v : Json) : Json := inForm name (inForm name v).joinedText

/-- What is loaded after a run in place of what was loaded before: the settlement that was opened
last, and all that the environment of the run had set. -/
structure Overwritten (env : Entries Text) (last : Text) (before after : Settings) : Prop where
  dataDir : after.dataDir = before.dataDir
  lastSettlement : after.lastSettlement = .text last
  others : ∀ name ∈ fieldNames, name ≠ "last_settlement_id" →
    after.value? name = ((overriding env name).map (savedForm name) <|> before.value? name)

/-- No variable sets the settlement that was opened last. -/
theorem overriding_lastSettlement (env : Entries Text) :
    overriding env "last_settlement_id" = none := rfl

/-- Nothing but that settlement differs just if the environment set what was loaded anyway. -/
theorem Overwritten.eq_iff {last : Text} {before after : Settings}
    (h : Overwritten env last before after) :
    after = { before with lastSettlement := .text last } ↔
      ∀ name ∈ fieldNames, ∀ v, overriding env name = some v →
        before.value? name = some (savedForm name v) := by
  constructor
  · intro heq name hname v hv
    have hne : name ≠ "last_settlement_id" := by
      rintro rfl
      cases (overriding_lastSettlement env).symm.trans hv
    have hvalue := h.others name hname hne
    rw [hv, heq, value?_lastSettlement before _ hname, if_neg hne.symm] at hvalue
    exact hvalue
  · intro hsame
    refine ext_value? (fun name hname => ?_) h.dataDir
    rw [value?_lastSettlement before _ hname]
    split
    · rename_i heq
      rw [← heq]
      exact congrArg some h.lastSettlement
    · rename_i hne
      rw [h.others name hname fun heq => hne heq.symm]
      cases hv : overriding env name with
      | some v => exact (hsame name hname v hv).symm
      | none => rfl

theorem Returned.overwritten {dir' : Path} {env' : Entries Text} {last : Text}
    {before after : Settings} (hread : WereRead entries) (hloaded : Loaded dir env entries c)
    (hbefore : Loaded dir' env' entries before)
    (hnone : ∀ name ∈ fieldNames, overriding env' name = none) (hlast : last.IsJoined)
    (h : Returned dir' env' { c with lastSettlement := .text last } after) :
    Overwritten env last before after where
  dataDir := h.dataDir.trans hbefore.dataDir.symm
  lastSettlement := by
    have hvalue := h.fields "last_settlement_id" (by decide)
    rw [overriding_lastSettlement] at hvalue
    have hlast' : after.lastSettlement = .text last.joined := Option.some_inj.mp hvalue
    rw [hlast', Text.joined_eq_of_isJoined hlast]
  others name hname hne := by
    have hrest : inEffect env entries name
        = (overriding env name <|> inEffect env' entries name) := by
      rw [inEffect, inEffect, hnone name hname]
      rfl
    rw [h.fields name hname, hnone name hname, value?_lastSettlement c _ hname,
      if_neg fun heq => hne heq.symm, hloaded.value?_eq hname, hrest]
    cases overriding env name with
    | some v => rfl
    | none =>
        have hjoined : (before.value? name).map Json.joinedText = before.value? name :=
          hbefore.map_joinedText hread (fun w hw =>
            absurd (hw.symm.trans (hnone name hname)) (Option.some_ne_none w)) hname
        show (((inEffect env' entries name).map (inForm name)).map Json.joinedText).map
          (inForm name) = before.value? name
        rw [← hbefore.value?_eq hname, hjoined, hbefore.map_inForm hname]

end Settings

namespace Window

open Settings (filePath dataDirOf fieldNames overriding)

variable {c : Settings} {dir : Path} {bytes : ByteArray} {ids ids' : List Text} {w v : Window}

/-! ## Runs -/

/-- The settings of a run are those that it began with and the settlement that was opened last. The
settings file holds what it held before, or these settings once a settlement was opened. -/
structure Recorded (c : Settings) (dir : Path) (bytes : ByteArray) (ids : List Text) (w : Window) :
    Prop where
  settings : w.settings = c.withOpened ids
  drafts : w.drafts = dir.child "drafts.json"
  given : ∀ id ∈ ids, id.isEmpty = false ∧ id.isEncodable = true
  file : (ids = [] ∧ w.desk.stored.readFile (dir.child "settings.json") = .ok bytes) ∨
    ids ≠ [] ∧ ∃ t : String, (c.withOpened ids).text = .ok (Text.ofString t) ∧
      w.desk.stored.readFile (dir.child "settings.json") = .ok t.toUTF8

/-- As long as the settings file stays, what is recorded does. -/
theorem Recorded.of_stays (h : Recorded c dir bytes ids w) (hsettings : v.settings = w.settings)
    (hdrafts : v.drafts = w.drafts)
    (hstays : Disk.Stays (dir.child "settings.json") w.desk.stored v.desk.stored) :
    Recorded c dir bytes ids v where
  settings := hsettings.trans h.settings
  drafts := hdrafts.trans h.drafts
  given := h.given
  file := h.file.imp (fun ⟨hids, hread⟩ => ⟨hids, hstays _ hread⟩)
    fun ⟨hids, t, ht, hread⟩ => ⟨hids, t, ht, hstays _ hread⟩

theorem Recorded.readFile (h : Recorded c dir bytes ids w) :
    ∃ bytes, w.desk.stored.readFile (dir.child "settings.json") = .ok bytes := by
  rcases h.file with ⟨-, hread⟩ | ⟨-, t, -, hread⟩
  · exact ⟨bytes, hread⟩
  · exact ⟨t.toUTF8, hread⟩

/-- **Every piece of a gesture keeps the record.** -/
theorem Recorded.stores (hdir : c.dataDir = some dir) (hshallow : c.IsShallow)
    (hs : Stores w ids' v) (h : Recorded c dir bytes ids w) :
    Recorded c dir bytes (ids ++ ids') v := by
  induction hs generalizing ids with
  | @drafts w v hsettings hdrafts hdisk =>
      rw [List.append_nil]
      rw [h.drafts] at hdisk
      exact h.of_stays hsettings hdrafts (Store.stays_of_rewrites Settings.isFileName.1
        Settings.isFileName.2 (by decide) hdisk)
  | website w s place =>
      rw [List.append_nil]
      have hother : ∀ listing post, ("settings.json" : Text) ∉ Site.fileNames listing post := by
        decide
      exact h.of_stays rfl rfl (Site.stays_exportTo s Settings.isFileName.1
        (Site.names_files s ▸ hother _ _) w.desk.stored)
  | @settings w id hgiven hid =>
      have hsaved :
          c.withOpened (ids ++ [id]) = { w.settings with lastSettlement := .text id } := by
        rw [Settings.withOpened_concat, h.settings]
      have hdir' : (c.withOpened (ids ++ [id])).dataDir = some dir :=
        (Settings.dataDir_withOpened c _).trans hdir
      obtain ⟨old, hold⟩ := h.readFile
      obtain ⟨d, t, hsave, ht, hread⟩ := Settings.exists_save
        (Settings.settingsPath_of_dataDir hdir' none w.desk.stored) (hshallow.withOpened _)
        (Disk.isFree_of_readFile hold)
      rw [hsaved] at hsave
      refine ⟨hsaved.symm, h.drafts, fun id' hmem => ?_, .inr ⟨by simp, t, ht, ?_⟩⟩
      · rcases List.mem_append.mp hmem with hmem | hmem
        · exact h.given id' hmem
        · obtain rfl := List.mem_singleton.mp hmem
          exact ⟨hgiven, hid⟩
      · show (({ w.settings with lastSettlement := .text id }.save none w.desk.stored).2).readFile _
          = _
        rw [hsave]
        exact hread
  | trans _ _ ih ih' =>
      rw [← List.append_assoc]
      exact ih' (ih h)

/-- The runs of the window with the settlements that were opened in them, from a disk that the
settings were loaded from. Between two gestures the user gets ready to reply, the network to answer,
and other programs may change the disk, but for the settings file. -/
inductive Run (c : Settings) (d : Disk) : List Text → Window → Prop where
  | built {year : Int} {desk : Desk Disk} {turn : Turn} {w : Window} (hdesk : desk.stored = d)
      (h : build c year desk turn = .ok w) : Run c d [] w
  | between {ids : List Text} {w : Window} (h : Run c d ids w) (turn : Turn) {disk : Disk}
      (visible : Bool) (hdisk : ∀ dir, c.dataDir = some dir →
        Disk.Stays (dir.child "settings.json") w.desk.stored disk) :
      Run c d ids { w.withDisk disk with turn := turn, visible := visible }
  | reacts {ids : List Text} {w : Window} (h : Run c d ids w) (g : Gesture) :
      Run c d (ids ++ w.opens g) (w.handle (react g)).2

/-- Starting the program begins a run. -/
theorem Run.of_begin {year : Int} {desk : Desk Disk} {turn : Turn}
    (h : begin c year desk turn = .ok w) : ∃ ids, Run c desk.stored ids w := by
  obtain ⟨v, hv, h⟩ := of_bind_ok h
  obtain ⟨u, -, h⟩ := of_bind_ok h
  cases h
  have hbuilt : Run c desk.stored [] v := .built rfl hv
  have hshown := hbuilt.between v.turn true fun dir _ => .refl _ v.desk.stored
  have hasked := hshown.reacts (.press .openSettlement)
  rw [handle_react_done rfl] at hasked
  exact ⟨_, hasked⟩

theorem recorded_of_build {year : Int} {desk : Desk Disk} {turn : Turn}
    (hdir : c.dataDir = some dir)
    (hread : desk.stored.readFile (dir.child "settings.json") = .ok bytes)
    (h : build c year desk turn = .ok w) : Recorded c dir bytes [] w := by
  obtain ⟨backend, -, h⟩ := of_bind_ok h
  have hpath : c.draftsPath desk.stored = (.ok (dir.child "drafts.json"), desk.stored) := by
    rw [Settings.draftsPath, Settings.locate, hdir]
    rfl
  rw [hpath] at h
  obtain ⟨drafts, hdrafts, h⟩ := of_bind_ok h
  obtain rfl := Except.ok.inj hdrafts
  obtain ⟨webhooks, -, h⟩ := of_bind_ok h
  cases h
  exact ⟨rfl, rfl, fun id hid => absurd hid List.not_mem_nil, .inl ⟨rfl, hread⟩⟩

/-- **Every run keeps the record.** -/
theorem Run.recorded {d : Disk} (hdir : c.dataDir = some dir) (hshallow : c.IsShallow)
    (hread : d.readFile (dir.child "settings.json") = .ok bytes) (h : Run c d ids w) :
    Recorded c dir bytes ids w := by
  induction h with
  | built hdesk h => exact recorded_of_build hdir (hdesk ▸ hread) h
  | between _ turn visible hdisk ih => exact ih.of_stays rfl rfl (hdisk dir hdir)
  | @reacts _ v _ g ih => exact ih.stores hdir hshallow (stores_react v g)

/-! ## Before and after a run -/

/-- **What a run leaves in the settings file.** A file of texts is loaded with an environment, and
the window runs with the settings. Without the variables the file is loaded again afterwards, and
gives what it would have given before as long as no settlement was opened. From then on it gives
the settlement that was opened last, and in every field that a variable of the run had set, what the
variable said. So nothing but that settlement differs just if the variables said what was there
anyway. -/
theorem remembering_exact {home home' : Path} {env env' : Entries Text} {path'? : Option Path}
    {d₀ d₁ : Disk} (hread : d₀.readFile (filePath home env none) = .ok bytes)
    (htexts : Settings.AllTexts (Settings.contents (some bytes)))
    (hload : Settings.load home env none d₀ = (.ok c, d₁)) (hrun : Run c d₁ ids w)
    (hsame : filePath home' env' path'? = filePath home env none)
    (hnone : ∀ name ∈ fieldNames, overriding env' name = none) :
    (dataDirOf home' env' = dataDirOf home env →
      d₀.makeDirectory (dataDirOf home' env') = (.ok (), d₀) ∧
        w.desk.stored.makeDirectory (dataDirOf home' env') = (.ok (), w.desk.stored)) ∧
    ∀ d₂ d₃, d₀.makeDirectory (dataDirOf home' env') = (.ok (), d₂) →
      w.desk.stored.makeDirectory (dataDirOf home' env') = (.ok (), d₃) →
      ∃ before after, Settings.load home' env' path'? d₀ = (.ok before, d₂) ∧
        Settings.load home' env' path'? w.desk.stored = (.ok after, d₃) ∧
        (ids = [] → after = before) ∧
        ∀ last ∈ ids.getLast?, Settings.Overwritten env last before after ∧
          (after = { before with lastSettlement := .text last } ↔
            ∀ name ∈ fieldNames, ∀ v, overriding env name = some v →
              before.value? name = some (Settings.savedForm name v)) := by
  have hname : 0 < Disk.sizeOf "settings.json" := Settings.isFileName.1.2
  have hmade := Disk.makeDirectory_of_readFile hname hread
  obtain ⟨hmade', entries, hfile, hfrom⟩ := Settings.load_cases hload
  obtain rfl : d₀ = d₁ := (Prod.mk.inj (hmade.symm.trans hmade')).2
  have hdepth : ∀ bytes' ∈ some bytes, ¬Settings.IsTooDeep bytes' := by
    intro bytes' hbytes hdeep
    obtain rfl := Option.some_inj.mp hbytes
    cases hfile.symm.trans (Settings.readFile_of_isTooDeep hread hdeep)
  obtain rfl : entries = Settings.contents (some bytes) :=
    Except.ok.inj (hfile.symm.trans (Settings.readFile_eq hread hdepth))
  have hentries : Settings.WereRead _ := Settings.wereRead_of_readFile hfile
  have hloaded := Settings.loaded_of_fromEntries hentries hfrom
  have hrecorded := hrun.recorded hloaded.dataDir (htexts.isShallow hloaded) hread
  refine ⟨fun hdirs => ?_, fun d₂ d₃ hmade₂ hmade₃ => ?_⟩
  · obtain ⟨bytes', hread'⟩ := hrecorded.readFile
    rw [hdirs]
    exact ⟨hmade, Disk.makeDirectory_of_readFile hname hread'⟩
  obtain ⟨before, hbefore, hloaded'⟩ := htexts.fromEntries hentries (dataDirOf home' env') env'
  -- loading a disk on which the file is as it was
  have hunchanged {d d' : Disk} (hread : d.readFile (filePath home env none) = .ok bytes)
      (hmade : d.makeDirectory (dataDirOf home' env') = (.ok (), d')) :
      Settings.load home' env' path'? d = (.ok before, d') := by
    have hstays := Disk.stays_makeDirectory (filePath home' env' path'?) (dataDirOf home' env') d
    rw [hmade] at hstays
    have hholds : Settings.Holds d' (filePath home' env' path'?) (some bytes) :=
      hstays _ (hsame ▸ hread)
    rw [Settings.load_of_readFile hmade (Settings.readFile_eq hholds hdepth), hbefore]
  rcases hrecorded.file with ⟨rfl, hread'⟩ | ⟨hne, t, ht, hread'⟩
  · exact ⟨before, before, hunchanged hread hmade₂, hunchanged hread' hmade₃, fun _ => rfl, nofun⟩
  · obtain ⟨last, hlast⟩ := Option.ne_none_iff_exists'.mp (mt List.getLast?_eq_none_iff.mp hne)
    obtain ⟨hgiven, hencodable⟩ := hrecorded.given last (List.mem_of_getLast? hlast)
    have hafter : c.withOpened ids = { c with lastSettlement := .text last } := by
      rw [Settings.withOpened, hlast]
    rw [hafter] at ht
    have hsaved : w.desk.stored.readFile (filePath home' env' path'?) = .ok t.toUTF8 := by
      rw [hsame]
      exact hread'
    obtain ⟨after, hload', hreturned⟩ :=
      ((hloaded.storable hentries).remembered hgiven).load_saved ht hsaved hmade₃
    have hoverwritten := hreturned.overwritten hentries hloaded hloaded' hnone
      (Text.isJoined_of_isEncodable hencodable)
    refine ⟨before, after, hunchanged hread hmade₂, hload', fun hnil => absurd hnil hne,
      fun last' hlast' => ?_⟩
    obtain rfl := Option.some_inj.mp (hlast.symm.trans hlast')
    exact ⟨hoverwritten, hoverwritten.eq_iff⟩

/-- A token that the environment of a run set is loaded from the file afterwards. -/
theorem remembering_exact_token :
    let dir : Path := .ofText "data"
    let env : Entries Text := [("TOWNSITE_DATA_DIR", "data"), ("TOWNSITE_TOKEN", "t")]
    let env' : Entries Text := [("TOWNSITE_DATA_DIR", "data")]
    let disk : Disk := ⟨[(dir, .directory),
      (dir.child "settings.json", .file "\x7b\"token\": \"f\"\x7d".toUTF8)]⟩
    let c : Settings := { Settings.default with token := .text "t", dataDir := some dir }
    let ids : Supply := .ofSequence fun n => List.replicate n 'c'
    (Settings.load .here env none disk).1 = .ok c ∧
    (Settings.load .here env' none disk).1 = .ok { c with token := .text "f" } ∧
    ∃ w, build c 2024 ⟨ids, ids, disk⟩ (.start ["a"] ⟨answersForA, .failure "", []⟩) = .ok w ∧
      (Settings.load .here env' none (w.handle (react (.press .openSettlement))).2.desk.stored).1
        = .ok { c with lastSettlement := .text "a" } := by
  intro dir env env' disk c ids
  let entries : Entries Json := [("token", .text "f")]
  -- the bytes are kept from being evaluated where they play no part
  have hgeneral : ∀ bytes : ByteArray, ¬Settings.IsTooDeep bytes →
      Settings.contents (some bytes) = entries →
      let disk : Disk := ⟨[(dir, .directory), (dir.child "settings.json", .file bytes)]⟩
      (Settings.load .here env none disk).1 = .ok c ∧
      (Settings.load .here env' none disk).1 = .ok { c with token := .text "f" } ∧
      ∀ w, Run c disk ["a"] w →
        (Settings.load .here env' none w.desk.stored).1
          = .ok { c with lastSettlement := .text "a" } := by
    intro bytes hdepth hcontents disk
    have hread : disk.readFile (filePath .here env none) = .ok bytes := rfl
    have hdepth' : ∀ bytes' ∈ some bytes, ¬Settings.IsTooDeep bytes' := fun bytes' h =>
      Option.some_inj.mp h ▸ hdepth
    have hfound : Settings.Holds disk (filePath .here env none) (some bytes) := hread
    have hfound' : Settings.Holds disk (filePath .here env' none) (some bytes) := hread
    have hload : Settings.load .here env none disk = (.ok c, disk) := by
      rw [Settings.load_eq rfl hfound hdepth', hcontents]
      rfl
    have hbefore :
        Settings.load .here env' none disk = (.ok { c with token := .text "f" }, disk) := by
      rw [Settings.load_eq rfl hfound' hdepth', hcontents]
      rfl
    refine ⟨congrArg Prod.fst hload, congrArg Prod.fst hbefore, fun w hrun => ?_⟩
    have htexts : Settings.AllTexts (Settings.contents (some bytes)) := by
      rw [hcontents]
      exact fun e he => List.mem_singleton.mp he ▸ .inr rfl
    have hnone : ∀ name ∈ fieldNames, overriding env' name = none :=
      Settings.forall_fieldNames.mpr ⟨rfl, rfl, rfl, rfl, rfl, rfl, rfl, rfl⟩
    have hsame : filePath .here env' none = filePath .here env none := rfl
    obtain ⟨hmakes, hloads⟩ := remembering_exact hread htexts hload hrun hsame hnone
    obtain ⟨hmade, hmade'⟩ := hmakes rfl
    obtain ⟨before, after, hload₁, hload₂, -, hlast⟩ := hloads _ _ hmade hmade'
    obtain rfl := Except.ok.inj (congrArg Prod.fst (hbefore.symm.trans hload₁))
    obtain ⟨hdir, hid, hothers⟩ := (hlast "a" rfl).1
    have hafter : after = { c with lastSettlement := .text "a" } := by
      refine Settings.ext_value? (Settings.forall_fieldNames.mpr ⟨?_, ?_, ?_, ?_, ?_, ?_, ?_,
        congrArg some hid⟩) hdir
      all_goals exact hothers _ (by decide) (by decide)
    exact (congrArg Prod.fst hload₂).trans (congrArg Except.ok hafter)
  have hjson : Json.read (Text.ofString "\x7b\"token\": \"f\"\x7d") = .ok (.object entries) := rfl
  have hdepth : ¬Settings.IsTooDeep "\x7b\"token\": \"f\"\x7d".toUTF8 := by
    rintro ⟨s, hs, hdeep⟩
    rw [Text.fromUTF8?_toUTF8] at hs
    obtain rfl := Option.some_inj.mp hs
    cases hjson.symm.trans hdeep
  have hcontents : Settings.contents (some "\x7b\"token\": \"f\"\x7d".toUTF8) = entries := by
    rw [Settings.contents, Text.fromUTF8?_toUTF8]
    dsimp only
    rw [hjson]
  obtain ⟨hload, hbefore, hafter⟩ := hgeneral _ hdepth hcontents
  have hbuilt : (build c 2024 ⟨ids, ids, disk⟩
      (.start ["a"] ⟨answersForA, .failure "", []⟩)).toOption.any
        (fun w : Window => decide (w.opens (.press .openSettlement) = ["a"])) = true := by
    decide +kernel
  obtain ⟨w, hw, hchecked⟩ := exists_ok_of_any hbuilt
  have hrun := (Run.built rfl hw).reacts (.press .openSettlement)
  rw [of_decide_eq_true hchecked] at hrun
  exact ⟨hload, hbefore, w, hw, hafter _ hrun⟩

end Window

end CivicSite
