import OpenUrl.Criteria
import OpenUrl.Event
import OpenUrl.Json.Value
import OpenUrl.Log.Notice
import OpenUrl.Sink

/-!
# Reports

What the probe prints: the application behind a process, and an event with its sender and
the verdict of the criteria. Both are written as lines of text or as one line of JSON.
-/
namespace OpenUrl

open OpenUrl.Log (Notice)

/-- Write the line for each part of an application. -/
def Application.writeLines (a : Application) : Writer :=
  (Writer.line ("  name:       " ++ a.localizedName)).andThen <|
  (Writer.line ("  bundle id:  " ++ a.bundleIdentifier)).andThen <|
  (Writer.line ("  bundle:     " ++ a.bundleUrl)).andThen <|
  Writer.line ("  executable: " ++ a.executableUrl)

/-- An event, what is known about its sender, and the verdict, if criteria were given. -/
structure Report where
  url : String
  senderPid : Int32
  sender : Application
  matched : Option Bool
  deriving DecidableEq, Repr

namespace Report

/-- The verdict on a sender; there is none without criteria. -/
def verdict (c : Criteria) (sender : Application) : Option Bool :=
  if c.isEmpty then none else some (c.holds sender)

/-- The report on an event. -/
def ofEvent (e : Event) (sender : Application) (c : Criteria) : Report :=
  ⟨e.url, e.senderPid, sender, verdict c sender⟩

/-- What is logged while criteria are judged. -/
def verdictNotices (c : Criteria) (sender : Application) : List Notice :=
  match verdict c sender with
  | none => []
  | some matched => [.criteriaJudged matched sender.bundleIdentifier]

def verdictJson : Option Bool → Json.Value
  | none => .null
  | some b => .boolean b

/-- The written form in JSON. -/
def toJson (r : Report) : Json.Value :=
  .object [("url", .text r.url), ("sender_pid", .number (.whole r.senderPid.toInt)),
    ("sender", Application.record.toJson r.sender), ("matched", verdictJson r.matched)]

/-- Write the verdict, if there is one. -/
def writeVerdict : Option Bool → Writer
  | none => .nothing
  | some true => .line "criteria: matched"
  | some false => .line "criteria: not matched"

/-- Write a report as one line of JSON or as lines of text. -/
def write (r : Report) (json : Bool) : Writer :=
  if json then (Writer.text r.toJson.compact).andThen (Writer.line "")
  else
    (Writer.line ("url: " ++ r.url)).andThen <|
    (Writer.line ("sender pid: " ++ toString r.senderPid)).andThen <|
    (if r.sender.isEmpty then Writer.line "  (sender not found)"
      else r.sender.writeLines).andThen <|
    writeVerdict r.matched

end Report

namespace Application

/-- The written form, in JSON, of the application behind a process. -/
def withPid (a : Application) (pid : Int32) : Json.Value :=
  .object (("pid", .number (.whole pid.toInt)) :: record.jsonFields a)

/-- Write the application behind a process as one line of JSON or as lines of text. -/
def write (a : Application) (pid : Int32) (json : Bool) : Writer :=
  if json then (Writer.text (a.withPid pid).compact).andThen (Writer.line "")
  else if a.isEmpty then Writer.line ("pid " ++ toString pid ++ ": no running application")
  else (Writer.line ("pid " ++ toString pid ++ ":")).andThen a.writeLines

end Application

@[simp] theorem Report.verdict_none (sender : Application) :
    Report.verdict Criteria.none sender = .none := rfl

@[simp] theorem Report.verdictNotices_none (sender : Application) :
    Report.verdictNotices Criteria.none sender = [] := rfl

end OpenUrl
