/-!
# Failures

What can go wrong between the system and the host, by cause. The wording of a failure,
its label for structured logs and whether it is final are functions of the cause.
-/
namespace OpenUrl

/-- Why an operation of the bridge did not do its work. -/
inductive Failure
  /-- The system refused or could not accept the event handler. -/
  | registration (reason : String)
  /-- The bridge is running already. -/
  | alreadyRunning
  /-- Another bridge of the process owns the handler registration. -/
  | alreadyClaimed
  /-- The system's interface cannot be used here. -/
  | platform (reason : String)
  /-- A settings file or an override of the environment could not be used. -/
  | config (reason : String)
  /-- The caller's input is malformed. -/
  | invalidInput (reason : String)
  /-- No event came within the wait. -/
  | timeout (reason : String)
  /-- Every sender of the hand-off is gone. -/
  | channelClosed
  deriving DecidableEq, Repr

namespace Failure

/-- The cause's name where a failure is written as data. -/
def tag : Failure → String
  | registration _ => "Registration"
  | alreadyRunning => "AlreadyRunning"
  | alreadyClaimed => "AlreadyClaimed"
  | platform _ => "Platform"
  | config _ => "Config"
  | invalidInput _ => "InvalidInput"
  | timeout _ => "Timeout"
  | channelClosed => "ChannelClosed"

/-- The text a failure carries, if its cause has one. -/
def reason? : Failure → Option String
  | registration r | platform r | config r | invalidInput r | timeout r => some r
  | alreadyRunning | alreadyClaimed | channelClosed => none

/-- The label of structured logs. -/
def label : Failure → String
  | registration _ => "registration"
  | alreadyRunning => "already_running"
  | alreadyClaimed => "already_claimed"
  | platform _ => "platform"
  | config _ => "config"
  | invalidInput _ => "invalid_input"
  | timeout _ => "timeout"
  | channelClosed => "channel_closed"

/-- After a final failure the bridge can never deliver an event. -/
def isFatal : Failure → Bool
  | registration _ | platform _ | alreadyClaimed => true
  | _ => false

def message : Failure → String
  | registration r => "Registration error: " ++ r
  | alreadyRunning => "Bridge is already running"
  | alreadyClaimed => "URL event handler already claimed by another bridge in this process"
  | platform r => "Platform error: " ++ r
  | config r => "Configuration error: " ++ r
  | invalidInput r => "Invalid input: " ++ r
  | timeout r => "Timeout: " ++ r
  | channelClosed => "URL event channel closed"

/-- The failure of a wait in which no event came. -/
def waitTimeout : Failure := timeout "failed to get url event, timeout reached"

/-- The form of a cause: alone, or waiting for its text. -/
inductive Form
  /-- Carries nothing. -/
  | plain (failure : Failure)
  /-- Carries a text. -/
  | worded (build : String → Failure)

/-- The tags in the order in which messages list them. -/
def tags : List String :=
  ["Registration", "AlreadyRunning", "AlreadyClaimed", "Platform", "Config", "InvalidInput",
    "Timeout", "ChannelClosed"]

def ofTag? : String → Option Form
  | "Registration" => some (.worded registration)
  | "AlreadyRunning" => some (.plain alreadyRunning)
  | "AlreadyClaimed" => some (.plain alreadyClaimed)
  | "Platform" => some (.worded platform)
  | "Config" => some (.worded config)
  | "InvalidInput" => some (.worded invalidInput)
  | "Timeout" => some (.worded timeout)
  | "ChannelClosed" => some (.plain channelClosed)
  | _ => none

theorem ofTag?_tag (f : Failure) :
    ofTag? f.tag = some (match f with
      | registration _ => .worded registration
      | platform _ => .worded platform
      | config _ => .worded config
      | invalidInput _ => .worded invalidInput
      | timeout _ => .worded timeout
      | f => .plain f) := by
  cases f <;> rfl

end Failure

/-- The result of an operation that may fail. -/
abbrev Outcome (α : Type) := Except Failure α

end OpenUrl
