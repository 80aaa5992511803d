import OpenUrl.Log.Level
import OpenUrl.Phase

/-!
# Notices

Everything the program logs, by what happened. Level, message, fields and the place a
filter knows a notice by are functions of the notice. The text of a URL occurs in
`eventPayload` only, which is logged at the trace level.
-/
namespace OpenUrl.Log

inductive Notice
  | stopRequested
  | stopIgnored (phase : Phase)
  | eventDropped (senderPid : Int32) (phase : Phase)
  | eventReceived (senderPid : Int32) (urlBytes : Nat)
  | eventPayload (url : String)
  | eventDiscarded (failure : Failure) (senderPid : Int32)
  | waitTimedOut (timeout : UInt64)
  | slotClaimed
  | slotTaken
  | slotReleased
  | criteriaJudged (matched : Bool) (bundleId : String)
  | settingsAbsent
  | settingsFile (path : String)
  | lookupUnsupported (pid : Int32)
  | lookupMissed (pid : Int32)
  | lookupFound (pid : Int32) (bundleId : String)
  | awaitingEvent (timeout : UInt64)
  | handlerInstalled
  | registrationFailed (failure : Failure)
  | bridgeStarted (pollInterval : UInt64)
  | handlerRemoved
  | bridgeStopped (delivered : UInt64)
  | loggingReady (level : String) (json : Bool)
  | variablesLoaded (path : String)
  | variablesAbsent (reason : String)
  | probeFailed (reason : String)
  deriving DecidableEq, Repr

/-- The value of a field. -/
inductive Shown
  /-- Shown as it is. -/
  | plain (text : String)
  /-- A word of the program; quoted in lines of text. -/
  | word (text : String)
  | number (value : Int)
  | flag (value : Bool)
  /-- The address of an object, which differs from run to run. -/
  | address
  /-- A time span in milliseconds, which differs from run to run. -/
  | elapsed
  deriving DecidableEq, Repr

namespace Notice

def level : Notice → Level
  | registrationFailed _ | probeFailed _ => .error
  | eventDiscarded .. | slotTaken => .warn
  | settingsFile _ | awaitingEvent _ | bridgeStarted _ | bridgeStopped _ => .info
  | stopIgnored _ | eventPayload _ | criteriaJudged .. => .trace
  | stopRequested | eventDropped .. | eventReceived .. | waitTimedOut _ | slotClaimed
  | slotReleased | settingsAbsent | lookupUnsupported _ | lookupMissed _ | lookupFound ..
  | handlerInstalled | handlerRemoved | loggingReady .. | variablesLoaded _
  | variablesAbsent _ => .debug

def message : Notice → String
  | stopRequested => "stop requested"
  | stopIgnored _ => "stop ignored, bridge not running"
  | eventDropped .. => "URL event dropped, bridge not running"
  | eventReceived .. => "URL event received"
  | eventPayload _ => "URL event payload"
  | eventDiscarded .. => "URL event discarded"
  | waitTimedOut _ => "wait_for_url timed out"
  | slotClaimed => "handler_slot.claimed"
  | slotTaken => "handler_slot.already_claimed"
  | slotReleased => "handler_slot.released"
  | criteriaJudged .. => "app criteria evaluated"
  | settingsAbsent => "No config file found, using defaults"
  | settingsFile _ => "Loading configuration from file"
  | lookupUnsupported _ => "process lookup unsupported on this platform"
  | lookupMissed _ | lookupFound .. => "running application lookup"
  | awaitingEvent _ => "waiting for a URL event"
  | handlerInstalled => "get-URL handler installed"
  | registrationFailed _ => "URL event handler registration failed"
  | bridgeStarted _ => "URL event bridge started"
  | handlerRemoved => "get-URL handler removed"
  | bridgeStopped _ => "URL event bridge stopped"
  | loggingReady .. => "logging initialized"
  | variablesLoaded _ => "loaded .env"
  | variablesAbsent _ => "no .env loaded"
  | probeFailed _ => "probe failed"

/-- The named values, in the order in which they are written. -/
def fields : Notice → List (String × Shown)
  | stopRequested => [("phase", .word "stop")]
  | stopIgnored p => [("phase", .word "stop"), ("state", .plain p.name)]
  | eventDropped pid p => [("sender_pid", .number pid.toInt), ("state", .plain p.name)]
  | eventReceived pid n => [("sender_pid", .number pid.toInt), ("url_len", .number n)]
  | eventPayload url => [("url", .plain url)]
  | eventDiscarded f pid => [("error", .plain f.message), ("sender_pid", .number pid.toInt)]
  | waitTimedOut ms => [("timeout_ms", .number ms.toNat)]
  | slotClaimed | slotTaken | slotReleased | settingsAbsent => []
  | criteriaJudged m b => [("matched", .flag m), ("bundle_id", .plain b)]
  | settingsFile path => [("path", .plain path)]
  | lookupUnsupported pid => [("pid", .number pid.toInt)]
  | lookupMissed pid => [("pid", .number pid.toInt), ("found", .flag false)]
  | lookupFound pid b =>
    [("pid", .number pid.toInt), ("found", .flag true), ("bundle_id", .plain b)]
  | awaitingEvent ms => [("timeout_ms", .number ms.toNat)]
  | handlerInstalled => [("phase", .word "register")]
  | registrationFailed f => [("error", .plain f.message)]
  | bridgeStarted ms => [("poll_interval_ms", .number ms.toNat)]
  | handlerRemoved => [("phase", .word "unregister"), ("handler", .address)]
  | bridgeStopped n => [("duration_ms", .elapsed), ("delivered", .number n.toNat)]
  | loggingReady l j => [("level", .plain l), ("json", .flag j)]
  | variablesLoaded path => [("path", .plain path)]
  | variablesAbsent r => [("error", .plain r)]
  | probeFailed r => [("error", .plain r)]

/-- The place in the program a filter knows the notice by. -/
def target : Notice → String
  | stopRequested | stopIgnored _ => "urlbridge_core::bridge::lifecycle"
  | eventDropped .. | eventReceived .. | eventPayload _ => "urlbridge_core::bridge::dispatcher"
  | eventDiscarded .. | waitTimedOut _ => "urlbridge_core::channel"
  | slotClaimed | slotTaken | slotReleased => "urlbridge_core::bridge::slot"
  | criteriaJudged .. => "urlbridge_core::matching"
  | settingsAbsent | settingsFile _ => "urlbridge_infra::config::loader"
  | lookupUnsupported _ => "urlbridge_infra::platform::fallback"
  | lookupMissed _ | lookupFound .. => "urlbridge_infra::platform::macos::running_app"
  | awaitingEvent _ => "urlbridge_api::probe"
  | handlerInstalled | registrationFailed _ | bridgeStarted _ | handlerRemoved
  | bridgeStopped _ => "urlbridge_infra::platform::macos::url_events"
  | loggingReady .. => "urlbridge_infra::observability::logging"
  | variablesLoaded _ | variablesAbsent _ | probeFailed _ => "urlbridge_probe"

end Notice

/-- The value of a field as a text of its own. -/
def Shown.text : Shown → String
  | plain t | word t => t
  | number v => toString v
  | flag b => toString b
  | address => "<ptr>"
  | elapsed => "<ms>"

/-- The notices of `ns` that a threshold lets through. -/
def select (threshold : Level) (ns : List Notice) : List Notice :=
  ns.filter fun n => threshold.admits n.level

@[simp] theorem select_append (l : Level) (ms ns : List Notice) :
    select l (ms ++ ns) = select l ms ++ select l ns := by
  simp [select]

end OpenUrl.Log
