import OpenUrl.Record

/-!
# Open-URL events

What the system hands over: a URL text and the process that sent it. Neither is checked
or changed on the way.
-/
namespace OpenUrl

/-- One decoded event. -/
structure Event where
  /-- The text exactly as it came; empty when the event carried none. -/
  url : String
  /-- The sender's process, 0 when the event carried none. -/
  senderPid : Int32
  deriving DecidableEq, Repr

/-- The written form of an event; both parts are needed. -/
def Event.record : Record Event where
  name := "UrlEvent"
  blank := ⟨"", 0⟩
  fields := [
    { name := "url", kind := .text, get := url, put := fun v e => { e with url := v } },
    { name := "sender_pid", kind := .integer, get := senderPid,
      put := fun v e => { e with senderPid := v } }]
  complete := true
  closed := false

end OpenUrl
