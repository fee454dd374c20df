import CivicSite.Proofs.Store.Refinement
import CivicSite.Proofs.Text.Upper
import CivicSite.Settings

/-!
# Loading the settings

A file sets fields one after another and the environment sets some of them again, and each only
touches its own. Since no object that is read repeats a key, the value of a field is the one of its
variable, else the one of its entry, else the default (`Settings.value?_overridden`). What bytes the
file holds makes no difference beyond that: whatever cannot be understood counts as no entries
(`Settings.readFile_eq`).

Values are taken as they are, so a field may come to hold what is no text. Loading stops where that
is the method or the level, which are brought to capitals, and nowhere else
(`Settings.loading_exact`).
-/

namespace CivicSite

/-! ## Entries -/

namespace Entries

variable {α β : Type} {entries : Entries α} {key : Text}

theorem get?_eq_none (h : key ∉ entries.map Prod.fst) : entries.get? key = none := by
  induction entries with
  | nil => rfl
  | cons e rest ih =>
      obtain ⟨hne, hrest⟩ := not_or.mp (mt List.mem_cons.mpr h)
      rw [get?_cons, if_neg (fun heq => hne (eq_of_beq heq).symm), ih hrest]

theorem mem_of_get? {v : α} (h : entries.get? key = some v) : (key, v) ∈ entries := by
  obtain ⟨e, he, rfl⟩ := Option.map_eq_some_iff.mp h
  have hkey := List.find?_some he
  exact eq_of_beq hkey ▸ List.mem_of_find?_eq_some he

theorem get?_of_mem (hdistinct : (entries.map Prod.fst).Nodup) {v : α} (h : (key, v) ∈ entries) :
    entries.get? key = some v := by
  induction entries with
  | nil => cases h
  | cons e rest ih =>
      obtain ⟨hnotMem, hrest⟩ := List.nodup_cons.mp hdistinct
      rw [get?_cons]
      rcases List.mem_cons.mp h with rfl | hmem
      · exact if_pos (beq_self_eq_true _)
      · have hne : ¬(e.1 == key) = true := fun heq =>
          hnotMem (eq_of_beq heq ▸ List.mem_map_of_mem (f := Prod.fst) hmem)
        rw [if_neg hne, ih hrest hmem]

theorem get?_map (f : α → β) (entries : Entries α) (key : Text) :
    Entries.get? (entries.map fun e => (e.1, f e.2)) key = (entries.get? key).map f := by
  induction entries with
  | nil => rfl
  | cons e rest ih =>
      rw [List.map_cons, get?_cons, get?_cons, ih]
      split <;> rfl

/-- With distinct keys, what is left out is not found, and nothing else is found in its place. -/
theorem get?_filter (h : (entries.map Prod.fst).Nodup) (p : α → Bool) (key : Text) :
    Entries.get? (entries.filter (p ·.2)) key = (entries.get? key).filter p := by
  induction entries with
  | nil => rfl
  | cons e rest ih =>
      obtain ⟨hnotMem, hrest⟩ := List.nodup_cons.mp h
      rw [List.filter_cons, get?_cons]
      by_cases hkey : e.1 = key
      · subst hkey
        rw [if_pos (beq_self_eq_true _)]
        cases hp : p e.2 with
        | true => simp [hp, get?_cons, Option.filter_some]
        | false => simp [hp, ih hrest, get?_eq_none hnotMem, Option.filter_some]
      · rw [if_neg (mt eq_of_beq hkey), ← ih hrest]
        cases hp : p e.2 with
        | true => simp [get?_cons, hkey]
        | false => simp

end Entries

/-- Whether a value is a text. -/
def Json.isText : Json → Bool
  | .text _ => true
  | _ => false

namespace Settings

/-! ## Fields by their names -/

/-- The names of the fields that a file or the environment may set. -/
def fieldNames : List Text := setters.map Prod.fst

/-- The value of a field, by its name. -/
def value? (s : Settings) (name : Text) : Option Json := s.toEntries.get? name

theorem forall_fieldNames {P : Text → Prop} : (∀ name ∈ fieldNames, P name) ↔
    P "api_url" ∧ P "public_api_url" ∧ P "token" ∧ P "n8n_create_url" ∧ P "n8n_update_url" ∧
      P "n8n_update_method" ∧ P "log_level" ∧ P "last_settlement_id" := by
  simp [fieldNames, setters]

variable {s t : Settings} {name : Text} {v : Json}

/-- To set a field is to put the value in its place, and to touch nothing else. -/
theorem toEntries_set (h : name ∈ fieldNames) :
    (s.set name v).toEntries = s.toEntries.put name v ∧ (s.set name v).dataDir = s.dataDir := by
  have hfields : ∀ name ∈ fieldNames, (s.set name v).toEntries = s.toEntries.put name v ∧
      (s.set name v).dataDir = s.dataDir :=
    forall_fieldNames.mpr ⟨⟨rfl, rfl⟩, ⟨rfl, rfl⟩, ⟨rfl, rfl⟩, ⟨rfl, rfl⟩, ⟨rfl, rfl⟩,
      ⟨rfl, rfl⟩, ⟨rfl, rfl⟩, ⟨rfl, rfl⟩⟩
  exact hfields name h

/-- Other names are passed over. -/
theorem set_of_not_mem (h : name ∉ fieldNames) : s.set name v = s := by
  have hnone : setters.lookup name = none := by
    refine List.lookup_eq_none_iff.mpr fun e he => ?_
    exact bne_iff_ne.mpr fun hname => h (List.mem_map.mpr ⟨e, he, hname.symm⟩)
  rw [set, hnone]

theorem dataDir_set (s : Settings) (name : Text) (v : Json) :
    (s.set name v).dataDir = s.dataDir := by
  by_cases h : name ∈ fieldNames
  · exact (toEntries_set h).2
  · rw [set_of_not_mem h]

theorem value?_set (h : name ∈ fieldNames) (other : Text) :
    (s.set other v).value? name = if other = name then some v else s.value? name := by
  by_cases hother : other ∈ fieldNames
  · simp only [value?, (toEntries_set hother).1, Entries.get?_put, beq_iff_eq]
  · rw [set_of_not_mem hother, if_neg]
    rintro rfl
    exact hother h

/-- Settings are told apart by their fields and their data directory. -/
theorem ext_value? (h : ∀ name ∈ fieldNames, s.value? name = t.value? name)
    (hdir : s.dataDir = t.dataDir) : s = t := by
  obtain ⟨h1, h2, h3, h4, h5, h6, h7, h8⟩ := forall_fieldNames.mp h
  cases s
  cases t
  simp only [Settings.mk.injEq]
  exact ⟨Option.some_inj.mp h1, Option.some_inj.mp h2, Option.some_inj.mp h3,
    Option.some_inj.mp h4, Option.some_inj.mp h5, Option.some_inj.mp h6,
    Option.some_inj.mp h7, Option.some_inj.mp h8, hdir⟩

/-! ## Many fields at once -/

/-- Sets what there is a value for, one after another. -/
def assign (values : Entries (Option Json)) (s : Settings) : Settings :=
  values.foldl (fun s e => match e.2 with
    | some v => s.set e.1 v
    | none => s) s

theorem assign_cons (e : Text × Option Json) (values : Entries (Option Json)) (s : Settings) :
    assign (e :: values) s = assign values (match e.2 with
      | some v => s.set e.1 v
      | none => s) := rfl

theorem dataDir_assign (values : Entries (Option Json)) (s : Settings) :
    (assign values s).dataDir = s.dataDir := by
  induction values generalizing s with
  | nil => rfl
  | cons e rest ih =>
      rw [assign_cons, ih]
      split
      · exact dataDir_set _ _ _
      · rfl

/-- No name twice: then each field is set by its own entry, and by no other. -/
theorem value?_assign {values : Entries (Option Json)} (hdistinct : (values.map Prod.fst).Nodup)
    (h : name ∈ fieldNames) (s : Settings) :
    (assign values s).value? name = ((values.get? name).join <|> s.value? name) := by
  induction values generalizing s with
  | nil => rfl
  | cons e rest ih =>
      obtain ⟨key, value⟩ := e
      obtain ⟨hnotMem, hrest⟩ := List.nodup_cons.mp hdistinct
      rw [assign_cons, ih hrest, Entries.get?_cons]
      by_cases hkey : key = name
      · subst hkey
        rw [Entries.get?_eq_none hnotMem]
        cases value with
        | some v => simp [value?_set h]
        | none => simp
      · cases value with
        | some v => simp [value?_set h, hkey]
        | none => simp [hkey]

/-! ## The file and the environment -/

/-- What the entries of a file set: all but what is blank. -/
def fileValues (entries : Entries Json) : Entries (Option Json) :=
  entries.map fun e => (e.1, if e.2.isBlank then none else some e.2)

theorem ofEntries_eq (entries : Entries Json) :
    ofEntries entries = assign (fileValues entries) default := by
  rw [ofEntries, assign, fileValues, List.foldl_map]
  refine congrArg (fun f => List.foldl f default entries) (funext fun s => funext fun e => ?_)
  cases e.2.isBlank <;> rfl

/-- What the environment sets: all that has a variable which is not empty. -/
def envValues (env : Entries Text) : Entries (Option Json) :=
  overrides.map fun o => (o.2, ((env.get? o.1).filter (!·.isEmpty)).map .text)

theorem overridden_eq (env : Entries Text) (s : Settings) :
    overridden env s = assign (envValues env) s := by
  rw [overridden, assign, envValues, List.foldl_map]
  refine congrArg (fun f => List.foldl f s overrides) (funext fun s => funext fun o => ?_)
  dsimp only
  cases env.get? o.1 with
  | none => rfl
  | some v =>
      show (if v.isEmpty then s else s.set o.2 (.text v)) = _
      rw [Option.filter_some]
      cases v.isEmpty <;> rfl

/-- What a variable that is not empty sets a field to. -/
def overriding (env : Entries Text) (name : Text) : Option Json := ((envValues env).get? name).join

/-- The value of a field: what the environment sets, else what the entries of the file do, else the
default. -/
def inEffect (env : Entries Text) (entries : Entries Json) (name : Text) : Option Json :=
  overriding env name <|> (entries.get? name).filter (!·.isBlank) <|> default.value? name

theorem value?_overridden {env : Entries Text} {entries : Entries Json}
    (hdistinct : (entries.map Prod.fst).Nodup) (h : name ∈ fieldNames) :
    (overridden env (ofEntries entries)).value? name = inEffect env entries name := by
  have hvariables : ((envValues env).map Prod.fst).Nodup := by
    rw [envValues, List.map_map]
    show (overrides.map Prod.snd).Nodup
    decide
  have hfile : ((fileValues entries).map Prod.fst).Nodup := by
    rw [fileValues, List.map_map]
    exact hdistinct
  have hvalue :
      ((fileValues entries).get? name).join = (entries.get? name).filter (!·.isBlank) := by
    rw [fileValues, Entries.get?_map fun v : Json => if v.isBlank then none else some v]
    cases entries.get? name with
    | none => rfl
    | some v => cases hblank : v.isBlank <;> simp [hblank, Option.filter_some]
  rw [overridden_eq, ofEntries_eq, value?_assign hvariables h, value?_assign hfile h, hvalue]
  rfl

theorem dataDir_overridden (env : Entries Text) (entries : Entries Json) :
    (overridden env (ofEntries entries)).dataDir = none := by
  rw [overridden_eq, ofEntries_eq, dataDir_assign, dataDir_assign]
  rfl

/-- Settings are in effect alike if each of their fields is. -/
theorem overridden_congr {env : Entries Text} {entries entries' : Entries Json}
    (hdistinct : (entries.map Prod.fst).Nodup) (hdistinct' : (entries'.map Prod.fst).Nodup)
    (h : ∀ name ∈ fieldNames, inEffect env entries name = inEffect env entries' name) :
    overridden env (ofEntries entries) = overridden env (ofEntries entries') := by
  refine ext_value? (fun name hname => ?_) ?_
  · rw [value?_overridden hdistinct hname, value?_overridden hdistinct' hname, h name hname]
  · rw [dataDir_overridden, dataDir_overridden]

/-! ## Capitals -/

/-- A text that is its own capital form. -/
def IsCapital (v : Json) : Prop := ∃ s, v = .text s ∧ Text.upper s = s

/-- Method and level are brought to capitals, if they are texts. -/
theorem normalized_cases (s : Settings) :
    (∃ method level, s.updateMethod = .text method ∧ s.logLevel = .text level ∧
      s.normalized = .ok { s with
        updateMethod := .text (Text.upper method), logLevel := .text (Text.upper level) }) ∨
    (¬((∃ method, s.updateMethod = .text method) ∧ ∃ level, s.logLevel = .text level) ∧
      s.normalized = .error .notText) := by
  have hfault {v : Json} (h : ¬∃ t, v = .text t) : capitals v = .error .notText := by
    cases v with
    | text t => exact absurd ⟨t, rfl⟩ h
    | null | bool _ | int _ | double _ | list _ | object _ => rfl
  by_cases hmethod : ∃ method, s.updateMethod = .text method
  · obtain ⟨method, hmethod⟩ := hmethod
    by_cases hlevel : ∃ level, s.logLevel = .text level
    · obtain ⟨level, hlevel⟩ := hlevel
      refine Or.inl ⟨method, level, hmethod, hlevel, ?_⟩
      rw [normalized, hmethod, hlevel]
      rfl
    · refine Or.inr ⟨fun h => hlevel h.2, ?_⟩
      rw [normalized, hmethod, hfault hlevel]
      rfl
  · refine Or.inr ⟨fun h => hmethod h.1, ?_⟩
    rw [normalized, hfault hmethod]
    rfl

/-! ## From entries to settings -/

/-- The settings that the entries of a file give, or the fault of loading them. -/
def fromEntries (dir : Path) (env : Entries Text) (entries : Entries Json) :
    Except Fault Settings :=
  (overridden env (ofEntries entries)).normalized.map fun s => { s with dataDir := some dir }

/-- The method and the level that are in effect are texts. -/
def HasTexts (env : Entries Text) (entries : Entries Json) : Prop :=
  (∃ method, inEffect env entries "n8n_update_method" = some (.text method)) ∧
    ∃ level, inEffect env entries "log_level" = some (.text level)

/-- Settings that hold what is in effect, the method and the level in capitals. -/
structure Loaded (dir : Path) (env : Entries Text) (entries : Entries Json) (s : Settings) :
    Prop where
  dataDir : s.dataDir = some dir
  method : ∃ method, inEffect env entries "n8n_update_method" = some (.text method) ∧
    s.updateMethod = .text (Text.upper method)
  level : ∃ level, inEffect env entries "log_level" = some (.text level) ∧
    s.logLevel = .text (Text.upper level)
  others : ∀ name ∈ fieldNames, name ≠ "n8n_update_method" → name ≠ "log_level" →
    s.value? name = inEffect env entries name

section Outcome

variable {dir : Path} {env : Entries Text} {entries : Entries Json}

theorem Loaded.isCapital (h : Loaded dir env entries s) :
    IsCapital s.updateMethod ∧ IsCapital s.logLevel := by
  obtain ⟨method, -, hmethod⟩ := h.method
  obtain ⟨level, -, hlevel⟩ := h.level
  exact ⟨⟨_, hmethod, Text.upper_upper method⟩, ⟨_, hlevel, Text.upper_upper level⟩⟩

/-- Loading fails in one way only, and only for a method or a level that is no text. -/
theorem fromEntries_cases (dir : Path) (hdistinct : (entries.map Prod.fst).Nodup) :
    (HasTexts env entries ∧ ∃ s, fromEntries dir env entries = .ok s ∧ Loaded dir env entries s) ∨
      (¬HasTexts env entries ∧ fromEntries dir env entries = .error .notText) := by
  have hvalue : ∀ name ∈ fieldNames,
      (overridden env (ofEntries entries)).value? name = inEffect env entries name :=
    fun name hname => value?_overridden hdistinct hname
  unfold fromEntries
  generalize overridden env (ofEntries entries) = s at hvalue
  have hmethod : inEffect env entries "n8n_update_method" = some s.updateMethod :=
    (hvalue "n8n_update_method" (by decide)).symm
  have hlevel : inEffect env entries "log_level" = some s.logLevel :=
    (hvalue "log_level" (by decide)).symm
  rcases s.normalized_cases with ⟨method, level, hm, hl, hok⟩ | ⟨hnot, herror⟩
  · rw [hm] at hmethod
    rw [hl] at hlevel
    rw [hok]
    refine Or.inl ⟨⟨⟨method, hmethod⟩, level, hlevel⟩, _, rfl, rfl, ⟨method, hmethod, rfl⟩,
      ⟨level, hlevel, rfl⟩, fun name hname hne hne' => ?_⟩
    show ((s.set "n8n_update_method" (.text (Text.upper method))).set "log_level"
      (.text (Text.upper level))).value? name = _
    rw [value?_set hname, if_neg hne'.symm, value?_set hname, if_neg hne.symm, hvalue name hname]
  · rw [herror]
    refine Or.inr ⟨fun h => hnot ?_, rfl⟩
    obtain ⟨⟨method, hm⟩, level, hl⟩ := h
    exact ⟨⟨method, Option.some_inj.mp (hmethod.symm.trans hm)⟩,
      level, Option.some_inj.mp (hlevel.symm.trans hl)⟩

/-! ## Values that cannot be used -/

/-- The entries of a file without those that are no texts. -/
def texts (entries : Entries Json) : Entries Json := entries.filter (·.2.isText)

theorem distinct_texts (hdistinct : (entries.map Prod.fst).Nodup) :
    ((texts entries).map Prod.fst).Nodup :=
  List.Nodup.sublist (List.Sublist.map _ List.filter_sublist) hdistinct

/-- What overrides a field is the text of a variable that is not empty. -/
theorem exists_of_overriding {name : Text} {v : Json} (h : overriding env name = some v) :
    ∃ key t, env.get? key = some t ∧ t.isEmpty = false ∧ v = .text t := by
  have hmem := Entries.mem_of_get? (Option.join_eq_some_iff.mp h)
  obtain ⟨o, -, ho⟩ := List.mem_map.mp hmem
  obtain ⟨t, ht, rfl⟩ := Option.map_eq_some_iff.mp (Prod.mk.inj ho).2
  obtain ⟨hget, hgiven⟩ := Option.filter_eq_some_iff.mp ht
  exact ⟨o.1, t, hget, Bool.not_eq_true' _ |>.mp hgiven, rfl⟩

theorem isText_overriding {name : Text} {v : Json} (h : overriding env name = some v) :
    v.isText = true := by
  obtain ⟨-, t, -, -, rfl⟩ := exists_of_overriding h
  rfl

theorem exists_default (h : name ∈ fieldNames) :
    ∃ v, default.value? name = some v ∧ (v = .null ∨ v.isText = true) := by
  have hfields : ∀ name ∈ fieldNames,
      ∃ v, default.value? name = some v ∧ (v = .null ∨ v.isText = true) :=
    forall_fieldNames.mpr ⟨⟨_, rfl, Or.inr rfl⟩, ⟨_, rfl, Or.inl rfl⟩, ⟨_, rfl, Or.inl rfl⟩,
      ⟨_, rfl, Or.inl rfl⟩, ⟨_, rfl, Or.inl rfl⟩, ⟨_, rfl, Or.inr rfl⟩, ⟨_, rfl, Or.inr rfl⟩,
      ⟨_, rfl, Or.inl rfl⟩⟩
  exact hfields name h

/-- What is in effect comes from the environment, else from the file, else it is the default. -/
theorem inEffect_cases {v : Json} (h : inEffect env entries name = some v) :
    overriding env name = some v ∨ overriding env name = none ∧
      (entries.get? name = some v ∧ v.isBlank = false ∨ default.value? name = some v) := by
  unfold inEffect at h
  cases hvariable : overriding env name with
  | some w =>
      rw [hvariable] at h
      exact .inl h
  | none =>
      rw [hvariable] at h
      cases hfile : (entries.get? name).filter (!·.isBlank) with
      | some w =>
          rw [hfile] at h
          obtain rfl := Option.some_inj.mp h
          obtain ⟨hget, hgiven⟩ := Option.filter_eq_some_iff.mp hfile
          exact .inr ⟨rfl, .inl ⟨hget, (Bool.not_eq_true' _).mp hgiven⟩⟩
      | none =>
          rw [hfile] at h
          exact .inr ⟨rfl, .inr h⟩

theorem exists_inEffect (env : Entries Text) (entries : Entries Json) (h : name ∈ fieldNames) :
    ∃ v, inEffect env entries name = some v := by
  obtain ⟨w, hw, -⟩ := exists_default h
  unfold inEffect
  cases overriding env name with
  | some v => exact ⟨v, rfl⟩
  | none =>
      cases (entries.get? name).filter (!·.isBlank) with
      | some v => exact ⟨v, rfl⟩
      | none => exact ⟨w, hw⟩

theorem exists_text_of_isText {v : Json} (h : v.isText = true) : ∃ t, v = .text t := by
  cases v with
  | text t => exact ⟨t, rfl⟩
  | null | bool _ | int _ | double _ | list _ | object _ => cases h

/-- Without them there is a text in effect wherever the default is one. -/
theorem exists_text_inEffect (hdistinct : (entries.map Prod.fst).Nodup) {t : Text}
    (hdefault : default.value? name = some (.text t)) :
    ∃ t, inEffect env (texts entries) name = some (.text t) := by
  unfold inEffect
  cases hvariable : overriding env name with
  | some v =>
      obtain ⟨t, rfl⟩ := exists_text_of_isText (isText_overriding hvariable)
      exact ⟨t, rfl⟩
  | none =>
      rw [texts, Entries.get?_filter hdistinct]
      cases hfile : ((entries.get? name).filter (·.isText)).filter (!·.isBlank) with
      | some v =>
          have htext := (Option.filter_eq_some_iff.mp (Option.filter_eq_some_iff.mp hfile).1).2
          obtain ⟨t, rfl⟩ := exists_text_of_isText htext
          exact ⟨t, rfl⟩
      | none => exact ⟨t, hdefault⟩

theorem hasTexts_texts (hdistinct : (entries.map Prod.fst).Nodup) : HasTexts env (texts entries) :=
  ⟨exists_text_inEffect hdistinct rfl, exists_text_inEffect hdistinct rfl⟩

/-- What the file says counts for no field, unless it is a text or missing. -/
def IsUsable (env : Entries Text) (entries : Entries Json) : Prop :=
  ∀ name ∈ fieldNames, overriding env name = none →
    ∀ v, entries.get? name = some v → v = .null ∨ v.isText = true

theorem inEffect_texts (hdistinct : (entries.map Prod.fst).Nodup) (h : IsUsable env entries)
    (hname : name ∈ fieldNames) :
    inEffect env entries name = inEffect env (texts entries) name := by
  unfold inEffect
  cases hvariable : overriding env name with
  | some v => rfl
  | none =>
      rw [texts, Entries.get?_filter hdistinct]
      cases hfile : entries.get? name with
      | none => rfl
      | some v =>
          rcases h name hname hvariable v hfile with rfl | htext
          · rfl
          · have hkept : (some v).filter Json.isText = some v := by
              rw [Option.filter_some, if_pos htext]
            rw [hkept]

/-- Settings that hold what is in effect without the values that are no texts hold what is in
effect with them only if there are none. -/
theorem isUsable_of_loaded (hdistinct : (entries.map Prod.fst).Nodup)
    (h : Loaded dir env entries s) (htexts : Loaded dir env (texts entries) s) :
    IsUsable env entries := by
  intro name hname hvariable v hfile
  refine Classical.byContradiction fun hnot => ?_
  obtain ⟨hnull, htext⟩ := not_or.mp hnot
  have hblank : v.isBlank = false := by
    cases v with
    | null => exact absurd rfl hnull
    | text t => exact absurd rfl htext
    | bool _ | int _ | double _ | list _ | object _ => rfl
  have hv : inEffect env entries name = some v := by
    rw [inEffect, hvariable, hfile, Option.filter_some, hblank]
    rfl
  have hdefault : inEffect env (texts entries) name = default.value? name := by
    rw [inEffect, hvariable, texts, Entries.get?_filter hdistinct, hfile, Option.filter_some,
      if_neg htext]
    rfl
  have htextual {t : Text} (ht : inEffect env entries name = some (.text t)) : False := by
    rw [hv] at ht
    obtain rfl := Option.some_inj.mp ht
    exact htext rfl
  -- a method or a level that was loaded is a text, and any other field would have to hold both the
  -- value and the default
  by_cases hmethod : name = "n8n_update_method"
  · subst hmethod
    obtain ⟨t, ht, -⟩ := h.method
    exact htextual ht
  · by_cases hlevel : name = "log_level"
    · subst hlevel
      obtain ⟨t, ht, -⟩ := h.level
      exact htextual ht
    · have heq := (h.others name hname hmethod hlevel).symm.trans
        (htexts.others name hname hmethod hlevel)
      obtain ⟨w, hw, hwtext⟩ := exists_default hname
      rw [hv, hdefault, hw] at heq
      obtain rfl := Option.some_inj.mp heq
      exact hnot hwtext

/-- The values that are no texts make no difference just if there are none. -/
theorem fromEntries_texts_iff (dir : Path) (env : Entries Text)
    (hdistinct : (entries.map Prod.fst).Nodup) :
    fromEntries dir env entries = fromEntries dir env (texts entries) ↔ IsUsable env entries := by
  constructor
  · intro h
    rcases fromEntries_cases dir (distinct_texts hdistinct) with ⟨-, s, hs, htexts⟩ | ⟨hnot, -⟩
    · rcases fromEntries_cases dir hdistinct with ⟨-, s', hs', hloaded⟩ | ⟨-, herror⟩
      · obtain rfl := Except.ok.inj (hs'.symm.trans (h.trans hs))
        exact isUsable_of_loaded hdistinct hloaded htexts
      · rw [hs, herror] at h
        cases h
    · exact absurd (hasTexts_texts hdistinct) hnot
  · intro h
    have hcongr := overridden_congr hdistinct (distinct_texts hdistinct) fun name hname =>
      inEffect_texts hdistinct h hname
    rw [fromEntries, fromEntries, hcongr]

end Outcome

/-! ## The file -/

/-- What the bytes of a settings file say. Where they are no UTF-8, the text is no JSON, or the
JSON is no object, it is nothing, and so it is where there is no file. -/
def contents : Option ByteArray → Entries Json
  | none => []
  | some bytes =>
    match String.fromUTF8? bytes with
    | some s =>
      match Json.read s with
      | .ok (.object entries) => entries
      | _ => []
    | none => []

/-- Bytes of JSON whose lists and objects lie too deep in each other for the reader. -/
def IsTooDeep (bytes : ByteArray) : Prop :=
  ∃ s : String, String.fromUTF8? bytes = some s ∧ Json.read s = .error .tooDeep

/-- Whether a file with these bytes is found under a path, or nothing where there are none. -/
def Holds (d : Disk) (p : Path) : Option ByteArray → Prop
  | none => d.exists? p = .ok false
  | some bytes => d.readFile p = .ok bytes

theorem distinct_contents (content : Option ByteArray) :
    ((contents content).map Prod.fst).Nodup := by
  unfold contents
  split
  · exact List.nodup_nil
  · split
    · split
      · rename_i hread
        exact (Json.distinctKeys_of_read hread).1
      · exact List.nodup_nil
    · exact List.nodup_nil

/-- **No content of the file is a fault**, but for JSON that is too deep. -/
theorem readFile_eq {d : Disk} {p : Path} {content : Option ByteArray} (h : Holds d p content)
    (hdepth : ∀ bytes ∈ content, ¬IsTooDeep bytes) : readFile d p = .ok (contents content) := by
  cases content with
  | none =>
      rw [readFile, show d.exists? p = .ok false from h]
      rfl
  | some bytes =>
      have hread : d.readFile p = .ok bytes := h
      unfold readFile Store.readText contents
      rw [Disk.exists?_of_readFile hread, hread]
      simp only [Bind.bind, Except.bind, pure, Except.pure]
      cases hutf8 : String.fromUTF8? bytes with
      | none => rfl
      | some s =>
          dsimp only
          cases hread : Json.read (Text.ofString s) with
          | ok v => cases v <;> rfl
          | error e =>
              cases e with
              | tooDeep => exact absurd ⟨s, hutf8, hread⟩ (hdepth bytes rfl)
              | malformed => rfl
              | tooManyDigits count => rfl

theorem readFile_of_isTooDeep {d : Disk} {p : Path} {bytes : ByteArray}
    (h : d.readFile p = .ok bytes) (hdeep : IsTooDeep bytes) : readFile d p = .error .tooDeep := by
  obtain ⟨s, hs, hread⟩ := hdeep
  unfold readFile Store.readText
  rw [Disk.exists?_of_readFile h, h]
  simp only [Bind.bind, Except.bind, pure, Except.pure, hs]
  rw [hread]
  rfl

section Load

variable {home : Path} {env : Entries Text} {d d' : Disk} {content : Option ByteArray}

theorem load_eq (hmade : d.makeDirectory (dataDirOf home env) = (.ok (), d'))
    (hfound : Holds d' ((dataDirOf home env).child "settings.json") content)
    (hdepth : ∀ bytes ∈ content, ¬IsTooDeep bytes) :
    load home env none d = (fromEntries (dataDirOf home env) env (contents content), d') := by
  unfold load
  dsimp only
  rw [hmade]
  dsimp only [Option.getD_none]
  rw [readFile_eq hfound hdepth]
  rfl

/-- Where the data directory can be made, no bytes of the settings file stop the settings from being
loaded, but for a method or a level that is in effect and no text. Settings that are loaded hold
what is in effect, the method and the level as texts that are their own capital forms. They are
those of a file without the values that are no texts just if there are none, but where the
environment goes before the file. -/
theorem loading_exact (hmade : d.makeDirectory (dataDirOf home env) = (.ok (), d'))
    (hfound : Holds d' ((dataDirOf home env).child "settings.json") content)
    (hdepth : ∀ bytes ∈ content, ¬IsTooDeep bytes) :
    (load home env none d).2 = d' ∧
    ((∃ s, (load home env none d).1 = .ok s) ↔ HasTexts env (contents content)) ∧
    (∀ e, (load home env none d).1 = .error e → e = .notText) ∧
    (∀ s, (load home env none d).1 = .ok s →
      Loaded (dataDirOf home env) env (contents content) s ∧
        IsCapital s.updateMethod ∧ IsCapital s.logLevel) ∧
    ∃ promised, Loaded (dataDirOf home env) env (texts (contents content)) promised ∧
      (IsCapital promised.updateMethod ∧ IsCapital promised.logLevel) ∧
      ((load home env none d).1 = .ok promised ↔ IsUsable env (contents content)) := by
  rw [load_eq hmade hfound hdepth]
  have hdistinct := distinct_contents content
  generalize contents content = entries at hdistinct
  generalize dataDirOf home env = dir
  have hkept := fromEntries_texts_iff dir env hdistinct
  rcases fromEntries_cases dir (distinct_texts hdistinct) with
    ⟨-, promised, hpromised, hloaded⟩ | ⟨hnot, -⟩
  case inr => exact absurd (hasTexts_texts hdistinct) hnot
  rw [hpromised] at hkept
  rcases fromEntries_cases dir hdistinct with ⟨htexts, s, hs, hloaded'⟩ | ⟨hnot, herror⟩
  · rw [hs] at hkept ⊢
    refine ⟨rfl, ⟨fun _ => htexts, fun _ => ⟨s, rfl⟩⟩, fun e he => ?_, fun s' hs' => ?_,
      promised, hloaded, hloaded.isCapital, hkept⟩
    · cases he
    · obtain rfl := Except.ok.inj hs'
      exact ⟨hloaded', hloaded'.isCapital⟩
  · rw [herror] at hkept ⊢
    refine ⟨rfl, ⟨fun ⟨s, hs⟩ => ?_, fun htexts => absurd htexts hnot⟩, fun e he => ?_,
      fun s' hs' => ?_, promised, hloaded, hloaded.isCapital, hkept⟩
    · cases hs
    · exact (Except.error.inj he).symm
    · cases hs'

/-- A method that is a number. -/
theorem loading_exact_number :
    let bytes := "\x7b\"n8n_update_method\": 5\x7d".toUTF8
    let dir : Path := .ofText "data"
    let d : Disk := ⟨[(dir, .directory), (dir.child "settings.json", .file bytes)]⟩
    (load .here [("TOWNSITE_DATA_DIR", "data")] none d).1 = .error .notText := by
  let dir : Path := .ofText "data"
  let env : Entries Text := [("TOWNSITE_DATA_DIR", "data")]
  let entries : Entries Json := [("n8n_update_method", .int 5)]
  -- the bytes are kept from being evaluated where they play no part
  have hgeneral : ∀ bytes : ByteArray, ¬IsTooDeep bytes → contents (some bytes) = entries →
      (load .here env none ⟨[(dir, .directory), (dir.child "settings.json", .file bytes)]⟩).1
        = .error .notText := by
    intro bytes hdepth hcontents
    let d : Disk := ⟨[(dir, .directory), (dir.child "settings.json", .file bytes)]⟩
    have hmade : d.makeDirectory (dataDirOf .here env) = (.ok (), d) := rfl
    have hfound : Holds d ((dataDirOf .here env).child "settings.json") (some bytes) := rfl
    have hexact := loading_exact hmade hfound fun bytes' h => Option.some_inj.mp h ▸ hdepth
    rw [hcontents] at hexact
    have hnumber : inEffect env entries "n8n_update_method" = some (.int 5) := rfl
    have hnot : ¬HasTexts env entries := by
      rintro ⟨⟨method, hmethod⟩, -⟩
      rw [hnumber] at hmethod
      cases hmethod
    cases hload : (load .here env none d).1 with
    | ok s => exact absurd (hexact.2.1.mp ⟨s, hload⟩) hnot
    | error e => exact congrArg _ (hexact.2.2.1 e hload)
  have hread : Json.read (Text.ofString "\x7b\"n8n_update_method\": 5\x7d")
      = .ok (.object entries) := rfl
  refine hgeneral _ ?_ ?_
  · rintro ⟨s, hs, hdeep⟩
    rw [Text.fromUTF8?_toUTF8] at hs
    obtain rfl := Option.some_inj.mp hs
    rw [hread] at hdeep
    cases hdeep
  · rw [contents, Text.fromUTF8?_toUTF8]
    dsimp only
    rw [hread]

end Load

end Settings

end CivicSite
