import CivicSite.Json.Writer
import CivicSite.Site
import CivicSite.Store.File
import CivicSite.Text.Case

/-!
# Settings

The settings of the editor come from a file in its data directory, and variables of the
environment go before what the file says. Values are kept as whatever JSON the file holds;
only the method of updates and the log level have to be texts, which are brought to capitals.
-/

namespace CivicSite

/-- The settings of the editor. -/
structure Settings where
  apiUrl : Json
  publicApiUrl : Json
  token : Json
  createUrl : Json
  updateUrl : Json
  updateMethod : Json
  logLevel : Json
  lastSettlement : Json
  dataDir : Option Path

namespace Settings

/-! ## Fields -/

/-- The settings where nothing is set. -/
def default : Settings :=
  ⟨.text defaultApiUrl, .null, .null, .null, .null, .text "POST", .text "INFO", .null, none⟩

/-- The settings under the names that they are stored under. -/
def toEntries (s : Settings) : Entries Json := [
  ("api_url", s.apiUrl), ("public_api_url", s.publicApiUrl), ("token", s.token),
  ("n8n_create_url", s.createUrl), ("n8n_update_url", s.updateUrl),
  ("n8n_update_method", s.updateMethod), ("log_level", s.logLevel),
  ("last_settlement_id", s.lastSettlement)]

/-- The names of the settings, and how each is set. -/
def setters : List (Text × (Settings → Json → Settings)) := [
  ("api_url", fun s v => { s with apiUrl := v }),
  ("public_api_url", fun s v => { s with publicApiUrl := v }),
  ("token", fun s v => { s with token := v }),
  ("n8n_create_url", fun s v => { s with createUrl := v }),
  ("n8n_update_url", fun s v => { s with updateUrl := v }),
  ("n8n_update_method", fun s v => { s with updateMethod := v }),
  ("log_level", fun s v => { s with logLevel := v }),
  ("last_settlement_id", fun s v => { s with lastSettlement := v })]

/-- The settings with one of them set, by its name. Other names are passed over. -/
def set (s : Settings) (name : Text) (v : Json) : Settings :=
  match setters.lookup name with
  | some setter => setter s v
  | none => s

/-- The settings of stored entries. What is null or the empty text is not set. -/
def ofEntries (entries : Entries Json) : Settings :=
  entries.foldl (fun s e => if e.2.isBlank then s else s.set e.1 e.2) default

/-- The address that published pages read posts from. -/
def siteApiUrl (s : Settings) : Json :=
  if s.publicApiUrl.isTruthy then s.publicApiUrl else s.apiUrl

/-! ## The environment -/

/-- The variables that go before the file, with the settings that they set. -/
def overrides : List (Text × Text) := [
  ("TOWNSITE_API_URL", "api_url"), ("TOWNSITE_PUBLIC_API_URL", "public_api_url"),
  ("TOWNSITE_TOKEN", "token"), ("N8N_CREATE_SITE", "n8n_create_url"),
  ("N8N_UPDATE_SITE", "n8n_update_url"), ("N8N_UPDATE_METHOD", "n8n_update_method"),
  ("TOWNSITE_LOG_LEVEL", "log_level")]

/-- The settings with those that the environment sets. An empty variable sets nothing. -/
def overridden (env : Entries Text) (s : Settings) : Settings :=
  overrides.foldl (fun s o =>
    match env.get? o.1 with
    | some v => if v.isEmpty then s else s.set o.2 (.text v)
    | none => s) s

/-- The home directory of the user. -/
def defaultHome : Path := Path.ofText "home"

/-- The data directory of a user who names none. -/
def userDataDir (home : Path) : Path :=
  ((home.child ".local").child "share").child "Townsite"

/-- The data directory that an environment names. -/
def dataDirOf (home : Path) (env : Entries Text) : Path :=
  match env.get? "TOWNSITE_DATA_DIR" with
  | some dir => if dir.isEmpty then userDataDir home else Path.ofText dir
  | none => userDataDir home

/-! ## Loading and saving -/

/-- A value that is a text, in capitals. -/
def capitals : Json → Except Fault Json
  | .text s => .ok (.text (Text.upper s))
  | _ => .error .notText

/-- The settings with method and level in capitals. -/
def normalized (s : Settings) : Except Fault Settings := do
  let updateMethod ← capitals s.updateMethod
  let logLevel ← capitals s.logLevel
  return { s with updateMethod := updateMethod, logLevel := logLevel }

/-- The entries of a settings file. A file that is missing or is not understood has none. -/
def readFile (d : Disk) (p : Path) : Except Fault (Entries Json) := do
  if !(← d.exists? p) then return []
  match (Store.readText d p).bind fun text => (Json.read text).mapError Fault.ofReadError with
  | .ok (.object entries) => return entries
  | .ok _ => return []
  | .error e => if e.isValueFault then return [] else throw e

/-- Loads the settings, from the file given or the one in the data directory, which is made. -/
def load (home : Path) (env : Entries Text) (path? : Option Path) (d : Disk) :
    Except Fault Settings × Disk :=
  let dir := dataDirOf home env
  match d.makeDirectory dir with
  | (.error e, d) => (.error e, d)
  | (.ok (), d) =>
    let settings := do
      let entries ← readFile d (path?.getD (dir.child "settings.json"))
      let s ← (overridden env (ofEntries entries)).normalized
      return { s with dataDir := some dir }
    (settings, d)

/-- The data directory, which is made if the settings do not name it. -/
def locate (s : Settings) (d : Disk) : Except Fault Path × Disk :=
  match s.dataDir with
  | some dir => (.ok dir, d)
  | none =>
    let dir := userDataDir defaultHome
    let (made, d) := d.makeDirectory dir
    (made.map fun _ => dir, d)

/-- The file that drafts are kept in. -/
def draftsPath (s : Settings) (d : Disk) : Except Fault Path × Disk :=
  let (dir, d) := s.locate d
  (dir.map (·.child "drafts.json"), d)

/-- How many lists and objects of a setting may lie in each other when settings are saved. -/
def maxDepth : Nat := 488

def record (s : Settings) : Except Fault Json :=
  if s.toEntries.any fun e => maxDepth < e.2.depth then .error .tooDeep
  else .ok (.object s.toEntries)

def text (s : Settings) : Except Fault Text :=
  s.record.map (·.render ⟨true, some 2⟩)

/-- The file that the settings are saved to, the one in the data directory if none is given. -/
def settingsPath (s : Settings) (path? : Option Path) (d : Disk) : Except Fault Path × Disk :=
  match path? with
  | some p => (.ok p, d)
  | none =>
    let (dir, d) := s.locate d
    (dir.map (·.child "settings.json"), d)

/-- Saves the settings, to the file given or the one in the data directory. -/
def save (s : Settings) (path? : Option Path) (d : Disk) : Except Fault Unit × Disk :=
  match s.settingsPath path? d with
  | (.error e, d) => (.error e, d)
  | (.ok p, d) =>
    match s.text with
    | .error e => (.error e, d)
    | .ok text => d.writeFile p text

/-! ## The log level -/

/-- The names of log levels and their numbers. -/
def logLevels : Entries Int := [
  ("CRITICAL", 50), ("FATAL", 50), ("ERROR", 40), ("WARNING", 30), ("WARN", 30), ("INFO", 20),
  ("DEBUG", 10), ("NOTSET", 0)]

/-- What two names that are no levels mean to a log: the layout of its messages, and the ways to
write layouts. -/
def logWords : Entries Fault := [
  ("BASIC_FORMAT", .value (.unknownLevel "%(levelname)s:%(name)s:%(message)s")),
  ("_STYLES", .wrongKind)]

/-- The number of a log level. Other names stand for `INFO`, except for those that mean something
else to a log. -/
def logLevelNumber (name : Text) : Except Fault Int :=
  match logWords.get? name with
  | some e => .error e
  | none => .ok ((logLevels.get? name).getD 20)

end Settings

end CivicSite
