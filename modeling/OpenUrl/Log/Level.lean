import OpenUrl.Text.Blank

/-!
# Log levels

Five levels from error to trace. A level lets through its own notices and all graver ones.
-/
namespace OpenUrl.Log

inductive Level
  | error
  | warn
  | info
  | debug
  | trace
  deriving DecidableEq, Repr

namespace Level

/-- Graver levels come first. -/
def rank : Level → Nat
  | error => 1
  | warn => 2
  | info => 3
  | debug => 4
  | trace => 5

/-- A threshold lets through what is at least as grave. -/
def admits (threshold level : Level) : Bool := level.rank ≤ threshold.rank

/-- The name in log lines. -/
def name : Level → String
  | error => "ERROR"
  | warn => "WARN"
  | info => "INFO"
  | debug => "DEBUG"
  | trace => "TRACE"

/-- The name in a filter. -/
def directive : Level → String
  | error => "error"
  | warn => "warn"
  | info => "info"
  | debug => "debug"
  | trace => "trace"

/-- The level that a settings value names. Case and outer blanks do not count, and what
names no level means `info`. -/
def ofSetting (text : String) : Level :=
  match Text.upper (Text.trim text) with
  | "TRACE" => trace
  | "DEBUG" => debug
  | "WARN" | "WARNING" => warn
  | "ERROR" => error
  | _ => info

end Level

end OpenUrl.Log
