import OpenUrl.Phase
import OpenUrl.Probe.Run

/-!
# Systems without open-URL events

Where the system has no such events a bridge can be made but never runs, and no process
has a known application.
-/
namespace OpenUrl.Unsupported

open OpenUrl.Log (Notice)

/-- Whether events can be received. -/
def isSupported : Bool := false

/-- The only outcome of a start. -/
def startFailure : Failure := .platform "URL event handling is only supported on macOS"

/-- A diagnostic picture of the bridge. -/
def picture : String := "FallbackUrlBridge \x7b .. \x7d"

/-- No event is ever delivered. -/
def delivered : UInt64 := 0

def lookup (pid : Int32) : Application × List Notice :=
  (Application.none, [.lookupUnsupported pid])

/-- The phase never changes, so there is nothing to stop. -/
def handleStop : Bool × List Notice := (Phase.idle.requestStop.1, [.stopIgnored .idle])

/-- Listening fails as soon as the bridge is started. -/
def listen (s : Settings) : Probe.Hearing × List Notice :=
  (.error (.start startFailure), [.awaitingEvent s.waitTimeout])

def platform : Probe.Platform Unit where
  lookup _ pid := lookup pid
  listen s _ := ((listen s).1, (), (listen s).2)

end OpenUrl.Unsupported
