import OpenUrl.Record
import OpenUrl.Text.Quoted

/-!
# Settings

The four values that shape a run. Every one has a default, so no file at all and an
empty file mean the same.
-/
namespace OpenUrl

structure Settings where
  /-- The longest pause between two looks at the stop request, in milliseconds. -/
  pollInterval : UInt64
  /-- How long a receiver waits for the next event, in milliseconds. -/
  waitTimeout : UInt64
  /-- The name of the log level, as given. -/
  logLevel : String
  /-- Log lines are objects of JSON rather than plain text. -/
  jsonLogs : Bool
  deriving DecidableEq, Repr

namespace Settings

def defaultPollInterval : UInt64 := 100

def defaultWaitTimeout : UInt64 := 4000

def defaultLogLevel : String := "info"

/-- The file name, without extension, under which settings are looked for. -/
def fileStem : String := "urlbridge"

/-- What the names of all overrides in the environment start with. -/
def variableStem : String := "URLBRIDGE_"

def default : Settings := ⟨defaultPollInterval, defaultWaitTimeout, defaultLogLevel, false⟩

/-- The written form; absent values keep their defaults. -/
def record : Record Settings where
  name := "BridgeConfig"
  blank := default
  fields := [
    { name := "poll_interval_ms", kind := .natural, get := pollInterval,
      put := fun v s => { s with pollInterval := v } },
    { name := "wait_timeout_ms", kind := .natural, get := waitTimeout,
      put := fun v s => { s with waitTimeout := v } },
    { name := "log_level", kind := .text, get := logLevel,
      put := fun v s => { s with logLevel := v } },
    { name := "json_logs", kind := .flag, get := jsonLogs,
      put := fun v s => { s with jsonLogs := v } }]
  complete := false
  closed := false

/-- A diagnostic picture of the settings. -/
def picture (s : Settings) : String :=
  "BridgeConfig \x7b poll_interval_ms: " ++ toString s.pollInterval ++
    ", wait_timeout_ms: " ++ toString s.waitTimeout ++
    ", log_level: " ++ Text.quoted s.logLevel ++
    ", json_logs: " ++ toString s.jsonLogs ++ " \x7d"

end Settings

end OpenUrl
