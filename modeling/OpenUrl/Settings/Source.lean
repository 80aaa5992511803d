import OpenUrl.Failure
import OpenUrl.Json.Typed
import OpenUrl.Log.Notice
import OpenUrl.Settings
import OpenUrl.Surroundings
import OpenUrl.Text.Integer
import OpenUrl.Toml.Typed

/-!
# Where settings come from

A file, named or found in a standard place, supplies the fields it has; variables of the
environment override them field by field. The poll interval of a file, and that of the
result, must not be zero.
-/
namespace OpenUrl.Settings

open OpenUrl.Log (Notice)
open OpenUrl.Surroundings
open OpenUrl.Text (IntegerFault)

/-- Why there are no settings. -/
inductive Fault
  | fileNotFound (path : String)
  | noFile
  | unreadable (f : TextFault)
  | badToml (message : String)
  | badJson (message : String)
  | unknownFormat (extension : String)
  | badPollInterval (f : IntegerFault)
  | badWaitTimeout (f : IntegerFault)
  | zeroPollInterval
  deriving DecidableEq, Repr

namespace Fault

def message : Fault → String
  | fileNotFound path => "Config file not found: " ++ path
  | noFile => "No config file found in any of the standard locations"
  | unreadable f => "Failed to read config file: " ++ f.message
  | badToml m => "Invalid TOML format: " ++ m
  | badJson m => "Invalid JSON format: " ++ m
  | unknownFormat e => "Unsupported config format: " ++ e
  | badPollInterval f => "Invalid poll interval: " ++ f.message
  | badWaitTimeout f => "Invalid wait timeout: " ++ f.message
  | zeroPollInterval => "poll_interval_ms must be greater than zero"

def failure (f : Fault) : Failure := .config f.message

end Fault

/-! ## Files -/

/-- The two files of a name in a folder. -/
def filesNamed (folder stem : String) : List String :=
  [Path.join folder (stem ++ ".toml"), Path.join folder (stem ++ ".json")]

/-- The standard places, in the order in which they are tried: the working folder under two
names, the folder of the user, and the folder of the executable. Nothing stands in a user's
folder whose name is not Unicode. -/
def candidates (s : Surroundings) : List String :=
  (match s.files.workingFolder? with
    | some here => filesNamed here fileStem ++ filesNamed here "config"
    | none => []) ++
  (match s.environment.text? "HOME" with
    | some home => filesNamed (Path.join home ".config") fileStem
    | none => []) ++
  (match s.executable with
    | some program => filesNamed (Path.parent program) fileStem
    | none => [])

/-- The first standard place where something stands. -/
def locate (s : Surroundings) : Option String := (candidates s).find? s.files.present

/-- What the text of a file says, by the extension of its name. Without one it is TOML. -/
def ofText (path text : String) : Except Fault Settings :=
  match (Path.extension? path).getD "toml" with
  | "toml" => (record.ofToml text).mapError .badToml
  | "json" => (record.ofJson text).mapError .badJson
  | e => .error (.unknownFormat e)

def validate (s : Settings) : Except Fault Settings :=
  if s.pollInterval = 0 then .error .zeroPollInterval else .ok s

/-- The settings of a file that is there. -/
def ofFile (files : FileTree) (path : String) : Except Fault Settings := do
  let text ← (files.readText path).mapError .unreadable
  let s ← ofText path text
  validate s

/-- The settings of the named file, or of the one in a standard place. -/
def loadFile (s : Surroundings) (path : Option String) : Except Fault Settings × List Notice :=
  match path with
  | some p =>
    if s.files.present p then (ofFile s.files p, [.settingsFile p])
    else (.error (.fileNotFound p), [])
  | none =>
    match locate s with
    | some p => (ofFile s.files p, [.settingsFile p])
    | none => (.error .noFile, [])

/-! ## Variables -/

/-- The text of an override. One that holds blanks only counts as not set. -/
def override? (e : Environment) (suffix : String) : Option String :=
  (e.text? (variableStem ++ suffix)).filter fun v => !Text.allBlank v

/-- Milliseconds; outer blanks do not count. -/
def readMillis (value : String) : Except IntegerFault UInt64 := Text.readUInt64 (Text.trim value)

/-- The words for yes, in any case and with outer blanks. All else means no. -/
def readSwitch (value : String) : Bool :=
  ["1", "true", "yes", "on"].contains (Text.lower (Text.trim value))

/-- Override the fields whose variables are set, and check the result. -/
def applyVariables (e : Environment) (s : Settings) : Except Fault Settings := do
  let pollInterval ← match override? e "POLL_INTERVAL_MS" with
    | some v => (readMillis v).mapError .badPollInterval
    | none => .ok s.pollInterval
  let waitTimeout ← match override? e "WAIT_TIMEOUT_MS" with
    | some v => (readMillis v).mapError .badWaitTimeout
    | none => .ok s.waitTimeout
  let logLevel := (override? e "LOG_LEVEL").getD s.logLevel
  let jsonLogs := match override? e "JSON_LOGS" with
    | some v => readSwitch v
    | none => s.jsonLogs
  validate ⟨pollInterval, waitTimeout, logLevel, jsonLogs⟩

/-- The settings of a run: those of the file in a standard place or the defaults, under the
variables. -/
def load (s : Surroundings) : Except Fault Settings × List Notice :=
  match locate s with
  | some p =>
    let (r, notices) := loadFile s (some p)
    (r.bind (applyVariables s.environment), notices)
  | none => (applyVariables s.environment default, [.settingsAbsent])

@[simp] theorem validate_eq_ok {s t : Settings} :
    validate s = .ok t ↔ s.pollInterval ≠ 0 ∧ t = s := by
  unfold validate
  split <;> simp_all [eq_comm]

end OpenUrl.Settings
