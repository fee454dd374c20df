import CivicSite.Proofs.Backend.Answers
import CivicSite.Proofs.Json.Joined
import CivicSite.Proofs.Script.Literal
import CivicSite.Proofs.Settings.Saving
import CivicSite.Site

/-!
# The settings of a script

All that a script knows of its website stands in five lines at its start. The rest is one of four
texts, by whether there is a blog and whether there is a map (`Script.site_eq`). Each setting stands
in its line as a literal, which ends neither the line nor the element of the script, and from which
it is read back (`Script.inert_literal`, `Script.isLiteral_text`).

A text is read back with its halves joined, so two halves that make a pair come back as one
character (`Script.halves_not_read_back`). No text has such halves that comes from the backend
(`Backend.isJoined_of_settlement`), and no API address that comes from a settings file
(`Settings.readable_siteApiUrl`).
-/

namespace CivicSite

namespace Script

/-! ## The lines of a script -/

/-- What follows the settings of a website. -/
def bodyCode (hasBlog hasMap : Bool) : List Code :=
  (if hasBlog then blogConstants else []) ++ (if hasMap then mapConstants else []) ++
    (parts hasBlog hasMap).flatMap fun part => .line "" :: part

def body (hasBlog hasMap : Bool) : Text := Code.text (bodyCode hasBlog hasMap)

theorem text_line_cons (t : Text) {cs : List Code} (h : Code.linesOf 0 cs ≠ []) :
    Code.text (.line t :: cs) = t ++ "\n" ++ Code.text cs := by
  have hline : Code.indented 0 t = t := by
    unfold Code.indented
    split
    · exact (List.isEmpty_iff.mp ‹_›).symm
    · rfl
  rw [Code.text, Code.linesOf, Code.lines, hline, List.singleton_append,
    List.intercalate_cons_of_ne_nil h]
  rfl

theorem linesOf_ne_nil_of_mem {t : Text} {cs : List Code} (h : .line t ∈ cs) :
    Code.linesOf 0 cs ≠ [] := by
  induction cs with
  | nil => cases h
  | cons c rest ih =>
      rw [Code.linesOf]
      rcases List.mem_cons.mp h with rfl | h
      · rw [Code.lines]
        exact List.cons_ne_nil _ _
      · exact fun hnil => ih h (List.append_eq_nil_iff.mp hnil).2

theorem linesOf_bodyCode_ne_nil (hasBlog hasMap : Bool) :
    Code.linesOf 0 (bodyCode hasBlog hasMap) ≠ [] := by
  have hstart : start hasBlog hasMap ∈ parts hasBlog hasMap :=
    List.mem_append_right _ (List.mem_singleton.mpr rfl)
  refine @linesOf_ne_nil_of_mem "" _ (List.mem_append_right _ ?_)
  exact List.mem_flatMap.mpr ⟨_, hstart, List.mem_cons_self⟩

theorem site_eq (apiUrl : Json) (s : Settlement) (hasBlog hasMap : Bool) :
    site apiUrl s hasBlog hasMap
      = "// Configuration" ++ "\nconst API_URL = " ++ literal apiUrl ++ ";"
        ++ "\nconst SETTLEMENT_ID = " ++ literal (.text s.id) ++ ";"
        ++ "\nconst SETTLEMENT_NAME = " ++ literal (.text s.name) ++ ";"
        ++ "\nconst SETTLEMENT_REGION = " ++ literal (.text s.region) ++ ";"
        ++ "\nconst LOCATION = \x7b lat: " ++ literal (.double s.lat) ++ ", lng: "
        ++ literal (.double s.lng) ++ " \x7d;\n" ++ body hasBlog hasMap := by
  unfold body
  have hcode : settings apiUrl s hasBlog hasMap ++ (parts hasBlog hasMap).flatMap (.line "" :: ·)
      = .line "// Configuration" :: (settlementConstants apiUrl s ++ bodyCode hasBlog hasMap) := by
    simp only [settings, bodyCode, List.cons_append, List.append_assoc]
  unfold site
  rw [hcode]
  simp only [settlementConstants, constant, List.cons_append, List.nil_append]
  have hmore (t : Text) (cs : List Code) : Code.linesOf 0 (.line t :: cs) ≠ [] :=
    linesOf_ne_nil_of_mem List.mem_cons_self
  rw [text_line_cons _ (hmore _ _), text_line_cons _ (hmore _ _), text_line_cons _ (hmore _ _),
    text_line_cons _ (hmore _ _), text_line_cons _ (hmore _ _),
    text_line_cons _ (linesOf_bodyCode_ne_nil _ _)]
  simp only [location, List.append_assoc]
  generalize literal apiUrl = api, literal (.text s.id) = id, literal (.text s.name) = name,
    literal (.text s.region) = region, literal (.double s.lat) = lat, literal (.double s.lng) = lng,
    Code.text (bodyCode hasBlog hasMap) = rest
  rfl

end Script

/-! ## Where settlements come from -/

namespace Settlement

theorem fields_of_parse {record : Entries Json} {s : Settlement} (h : parse record = .ok s) :
    recordId record = .ok s.id ∧ (∃ v, record.get? "name" = some v ∧ s.name = v.display)
      ∧ s.region = ((record.get? "judet" <|> record.get? "region").map Json.display).getD "" := by
  have hnamed : ¬ ((∃ e, recordId record = .error e) ∨ record.get? "name" = none) := by
    intro hunnamed
    obtain ⟨e, he⟩ := parse_of_unnamed hunnamed
    rw [he] at h
    cases h
  cases hid : recordId record with
  | error e => exact absurd (.inl ⟨e, hid⟩) hnamed
  | ok id =>
      cases hname : record.get? "name" with
      | none => exact absurd (.inr hname) hnamed
      | some name =>
          obtain ⟨region, active, hregion, hparse⟩ := parse_of_named hid hname
          rw [hparse] at h
          cases hlat : coordinate record "lat" with
          | error e =>
              rw [hlat] at h
              cases h
          | ok lat =>
              cases hlng : coordinate record "lng" with
              | error e =>
                  rw [hlat, hlng] at h
                  cases h
              | ok lng =>
                  rw [hlat, hlng] at h
                  simp only [Except.bind] at h
                  generalize validate _ = valid at h
                  cases valid with
                  | error e => cases h
                  | ok u =>
                      cases h
                      exact ⟨rfl, ⟨name, rfl, rfl⟩, hregion⟩

/-- The texts of a settlement have their halves joined. -/
structure IsJoined (s : Settlement) : Prop where
  id : s.id.IsJoined
  name : s.name.IsJoined
  region : s.region.IsJoined

theorem isJoined_of_parse {record : Entries Json} (hrecord : (Json.object record).Joined)
    {s : Settlement} (h : parse record = .ok s) : s.IsJoined := by
  obtain ⟨hid, ⟨name, hname, hsname⟩, hregion⟩ := fields_of_parse h
  have horElse {a b : Text} {v : Json} (hv : (record.get? a <|> record.get? b) = some v) :
      v.Joined := by
    cases ha : record.get? a with
    | none =>
        rw [ha] at hv
        exact hrecord.get? hv
    | some w =>
        rw [ha] at hv
        cases hv
        exact hrecord.get? ha
  refine ⟨?_, ?_, ?_⟩
  · unfold recordId at hid
    split at hid
    · cases hid
    · rename_i v hv
      split at hid
      · cases hid
      · rw [← Except.ok.inj hid]
        exact (horElse hv).display
  · rw [hsname]
    exact (hrecord.get? hname).display
  · rw [hregion]
    cases hv : (record.get? "judet" <|> record.get? "region") with
    | none => exact List.isChain_nil
    | some v => exact (horElse hv).display

end Settlement

namespace Backend

theorem joined_of_holds {o : Outcome} {v : Json} (h : Holds o v) : v.Joined := by
  obtain ⟨status, body, outer, inner, -, -, hread, houter, hinner⟩ := h
  have hbody : (bodyText body).isEncodable = true := by
    unfold bodyText Text.decodeLossy
    split
    · exact Text.isEncodable_ofString _
    · exact Text.isEncodable_ofChars _
  exact ((Json.joined_of_read hbody hread).get? houter).get? hinner

/-- **The texts of a settlement that the backend gives have their halves joined.** -/
theorem isJoined_of_settlement {o : Outcome} {s : Settlement} (h : settlement o = .ok s) :
    s.IsJoined := by
  unfold settlement at h
  have hpayload := payload_cases o
  generalize payload o = r at hpayload h
  cases hpayload with
  | deep _ => cases h
  | faulty _ _ _ => cases h
  | @value _ v hv =>
      cases v with
      | object record => exact Settlement.isJoined_of_parse (joined_of_holds hv) h
      | _ => cases h

end Backend

/-! ## Where the address of the API comes from -/

namespace Settings

/-- **The address that loaded settings give can be read back**, if the environment holds no halves
that are to be joined. -/
theorem readable_siteApiUrl {home : Path} {env : Entries Text} {path? : Option Path} {d d' : Disk}
    {s : Settings} (henv : ∀ e ∈ env, e.2.IsJoined) (h : load home env path? d = (.ok s, d')) :
    s.siteApiUrl.Readable .ascii := by
  obtain ⟨-, entries, hfile, hfrom⟩ := load_cases h
  have hread : WereRead entries := wereRead_of_readFile hfile
  have hloaded : Loaded (dataDirOf home env) env entries s := loaded_of_fromEntries hread hfrom
  have hfield {name : Text} (hname : name ∈ fieldNames) {v : Json}
      (hv : s.value? name = some v) : v.Readable .ascii := by
    obtain ⟨w, hw, hheld⟩ := (hloaded.storable hread).held name hname
    obtain rfl := Option.some_inj.mp (hw.symm.trans hv)
    have hsame : w.joinedText = w := by
      have hvalue := value?_joined s name
      rw [hloaded.joined_eq hread henv, hv] at hvalue
      exact (Option.some_inj.mp hvalue).symm
    have hreadable := hheld.readable
    rw [hsame] at hreadable
    exact hreadable.mono fun _ hkeeps _ => hkeeps rfl
  unfold siteApiUrl
  split
  · exact @hfield "public_api_url" (by decide) _ rfl
  · exact @hfield "api_url" (by decide) _ rfl

end Settings

/-! ## Settings and script -/

namespace Script

/-- **The data of a website changes nothing in its script but the settings.** The script is one of
four texts, but for the literals in the five lines at its start. Each of these is printable ASCII
without markup, so it stands on its line, and is read back as what it was written from. A text is
read back with the halves of pairs joined, which leaves its code units as they are. It is thus read
back exactly if there is nothing in it to be joined, as in every text that has UTF-8 and in all
texts of a settlement that the backend gives. An API address need not be a text, for settings may
hold any value under its name. It is read back with its keys in order, if it can be read back at all
and is not too deep for the reader; where settings were loaded it can be, unless the environment
brings in halves that are to be joined. -/
theorem settings_exact (c : SiteContent) (url : Json) (year : Int) :
    (∃ api id name region lat lng : Text,
      Site.script c ⟨url, year⟩
        = "// Configuration" ++ "\nconst API_URL = " ++ api ++ ";"
          ++ "\nconst SETTLEMENT_ID = " ++ id ++ ";"
          ++ "\nconst SETTLEMENT_NAME = " ++ name ++ ";"
          ++ "\nconst SETTLEMENT_REGION = " ++ region ++ ";"
          ++ "\nconst LOCATION = \x7b lat: " ++ lat ++ ", lng: " ++ lng ++ " \x7d;\n"
          ++ body (c.has .blog) (c.has .map)
      ∧ Inert api
      ∧ (∀ t, url = .text t → IsLiteral api (.text t.joined))
      ∧ (url.Readable .ascii → url.depth ≤ Json.maxDepth → IsLiteral api url.sortKeys)
      ∧ IsLiteral id (.text c.settlement.id.joined)
      ∧ IsLiteral name (.text c.settlement.name.joined)
      ∧ IsLiteral region (.text c.settlement.region.joined)
      ∧ IsLiteral lat (.double c.settlement.lat)
      ∧ IsLiteral lng (.double c.settlement.lng))
    ∧ (∀ t : Text, t.joined.units = t.units ∧ (t.joined = t ↔ t.IsJoined)
      ∧ (t.isEncodable = true → t.IsJoined))
    ∧ (∀ (o : Outcome) (s : Settlement), Backend.settlement o = .ok s → s.IsJoined)
    ∧ ∀ (home : Path) (env : Entries Text) (path? : Option Path) (d d' : Disk) (s : Settings),
      (∀ e ∈ env, e.2.IsJoined) → Settings.load home env path? d = (.ok s, d') →
      s.siteApiUrl.Readable .ascii := by
  refine ⟨?_, fun t => ⟨t.units_joined, Text.joined_eq_iff, Text.isJoined_of_isEncodable⟩,
    fun o s h => Backend.isJoined_of_settlement h,
    fun home env path? d d' s henv h => Settings.readable_siteApiUrl henv h⟩
  refine ⟨_, _, _, _, _, _, site_eq url c.settlement (c.has .blog) (c.has .map),
    inert_literal url, ?_, fun hreadable hdepth => isLiteral_of_readable hdepth hreadable,
    isLiteral_text _, isLiteral_text _, isLiteral_text _, isLiteral_double _, isLiteral_double _⟩
  rintro t rfl
  exact isLiteral_text t

/-- Two halves that make a pair are read back as one character, so a name may be read back as
another text. An address that is a number is read back as the number. -/
theorem halves_not_read_back :
    let name : Text := [.lone 0x3D, .lone 0x600]
    let c : SiteContent := ⟨⟨"s1", name, "sb", default, default, true⟩, [], [], ""⟩
    (∃ id region lat lng : Text, Site.script c ⟨.int 5, 2024⟩
      = "// Configuration" ++ "\nconst API_URL = " ++ "5" ++ ";"
        ++ "\nconst SETTLEMENT_ID = " ++ id ++ ";"
        ++ "\nconst SETTLEMENT_NAME = " ++ "\"\\ud83d\\ude00\"" ++ ";"
        ++ "\nconst SETTLEMENT_REGION = " ++ region ++ ";"
        ++ "\nconst LOCATION = \x7b lat: " ++ lat ++ ", lng: " ++ lng ++ " \x7d;\n"
        ++ body false false)
    ∧ Json.read "\"\\ud83d\\ude00\"" = .ok (.text [.char '😀']) ∧ name ≠ [.char '😀']
    ∧ Json.read "5" = .ok (.int 5) := by
  intro name c
  have hurl : literal (.int 5) = "5" := by decide
  have hname : literal (.text name) = "\"\\ud83d\\ude00\"" := by decide
  have hjoined : name.joined = [.char '😀'] := by decide
  have hscript := site_eq (.int 5) c.settlement false false
  rw [hurl, hname] at hscript
  refine ⟨⟨_, _, _, _, hscript⟩, ?_, by decide, ?_⟩
  · rw [← hname, ← hjoined]
    exact (isLiteral_text name).read
  · have hshort : 5 < Json.numeralLimit := by decide +kernel
    rw [← hurl]
    exact (isLiteral_of_readable (v := .int 5) (Nat.zero_le _) hshort).read

end Script

end CivicSite
