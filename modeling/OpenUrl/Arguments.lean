import OpenUrl.Text.Integer

/-!
# Command-line arguments

A command line is a list of options, some of which take the word behind them as their
value, whatever it looks like. Reading cuts the words into options from left to right; what
the options mean together is a separate fold, in which later values replace earlier ones.
-/
namespace OpenUrl

open OpenUrl.Text (IntegerFault)

/-- The options that take a value. -/
inductive Valued
  | config
  | pid
  | timeout
  | criterion
  deriving DecidableEq, Repr

/-- One option with its value. -/
inductive CommandOption
  | help
  | json
  | config (path : String)
  | pid (pid : Int32)
  | timeout (millis : UInt64)
  | criterion (pair : String)
  deriving DecidableEq, Repr

/-- What a word stands for where an option has to begin. -/
inductive Flag
  | help
  | json
  | valued (v : Valued)
  deriving DecidableEq, Repr

namespace Flag

/-- The flag that a word spells. -/
def ofWord? : String → Option Flag
  | "-h" | "--help" => some help
  | "--json" => some json
  | "--config" => some (valued .config)
  | "--pid" => some (valued .pid)
  | "--timeout-ms" => some (valued .timeout)
  | "--match" => some (valued .criterion)
  | _ => none

/-- The long spelling. -/
def word : Flag → String
  | help => "--help"
  | json => "--json"
  | valued .config => "--config"
  | valued .pid => "--pid"
  | valued .timeout => "--timeout-ms"
  | valued .criterion => "--match"

@[simp] theorem ofWord?_word (f : Flag) : ofWord? f.word = some f := by
  rcases f with _ | _ | v
  · rfl
  · rfl
  · cases v <;> rfl

end Flag

structure Arguments where
  /-- The settings file to use in place of those in the standard places. -/
  configPath : Option String
  /-- The process to describe before listening. -/
  pid : Option Int32
  /-- The wait in milliseconds, in place of the settings' one. -/
  timeout : Option UInt64
  /-- Pairs of criteria, not yet read. -/
  criteria : List String
  /-- Report in JSON rather than in plain text. -/
  json : Bool
  /-- Only show how the program is used. -/
  help : Bool
  deriving DecidableEq, Repr

namespace Arguments

/-- Why the words are no command line. -/
inductive Fault
  | missingValue (flag : String)
  | badPid (value : String) (f : IntegerFault)
  | badTimeout (value : String) (f : IntegerFault)
  | unknown (word : String)
  deriving DecidableEq, Repr

def Fault.message : Fault → String
  | missingValue flag => flag ++ " requires a value"
  | badPid value f => "invalid --pid value '" ++ value ++ "': " ++ f.message
  | badTimeout value f => "invalid --timeout-ms value '" ++ value ++ "': " ++ f.message
  | unknown word => "unknown argument '" ++ word ++ "'"

/-- How the program is used. -/
def usage : String := "\n".intercalate [
  "urlbridge-probe - wait for one open-URL Apple Event and report it",
  "",
  "USAGE:",
  "    urlbridge-probe [OPTIONS]",
  "",
  "OPTIONS:",
  "    --config <PATH>      Config file (TOML or JSON)",
  "    --pid <PID>          Print application info for PID before listening",
  "    --timeout-ms <MS>    How long to wait for a URL (default: config)",
  "    --match <KEY=VALUE>  App criterion checked against the sender, repeatable",
  "                         (display_name, bundle_id, bundle_path, executable_path)",
  "    --json               Print reports as JSON lines",
  "    -h, --help           Show this help message"]

/-- The option that a flag makes with its value. -/
def readValue (v : Valued) (value : String) : Except Fault CommandOption :=
  match v with
  | .config => .ok (.config value)
  | .pid =>
    match Text.readInt32 value with
    | .ok n => .ok (.pid n)
    | .error f => .error (.badPid value f)
  | .timeout =>
    match Text.readUInt64 value with
    | .ok n => .ok (.timeout n)
    | .error f => .error (.badTimeout value f)
  | .criterion => .ok (.criterion value)

/-- Cut the words into options. The first that cannot be completed decides, whatever comes
behind it. -/
def options : List String → Except Fault (List CommandOption)
  | [] => .ok []
  | word :: words =>
    match Flag.ofWord? word with
    | none => .error (.unknown word)
    | some .help => (options words).map (.help :: ·)
    | some .json => (options words).map (.json :: ·)
    | some (.valued v) =>
      match words with
      | [] => .error (.missingValue word)
      | value :: words =>
        match readValue v value with
        | .error f => .error f
        | .ok o => (options words).map (o :: ·)

/-- No option given. -/
def none : Arguments := ⟨.none, .none, .none, [], false, false⟩

/-- Take one more option into account. -/
def add (a : Arguments) : CommandOption → Arguments
  | .help => { a with help := true }
  | .json => { a with json := true }
  | .config path => { a with configPath := some path }
  | .pid n => { a with pid := some n }
  | .timeout ms => { a with timeout := some ms }
  | .criterion pair => { a with criteria := a.criteria ++ [pair] }

/-- What options mean together. -/
def ofOptions (os : List CommandOption) : Arguments := os.foldl add none

/-- Read a command line, without the program's name. -/
def read (words : List String) : Except Fault Arguments := (options words).map ofOptions

@[simp] theorem options_nil : options [] = .ok [] := rfl

theorem options_unknown {word : String} (h : Flag.ofWord? word = .none) (words : List String) :
    options (word :: words) = .error (.unknown word) := by
  simp [options, h]

theorem options_valued {word : String} {v : Valued} (h : Flag.ofWord? word = some (.valued v))
    (value : String) (words : List String) :
    options (word :: value :: words) =
      match readValue v value with
      | .error f => .error f
      | .ok o => (options words).map (o :: ·) := by
  rw [options]
  simp only [h]

end Arguments

end OpenUrl
