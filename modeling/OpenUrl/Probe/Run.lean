import OpenUrl.Probe.Context
import OpenUrl.Report

/-!
# A run of the probe

First the application that was asked for is described, then one event is waited for, then
it is reported with its sender. Nothing is written between the two parts.
-/
namespace OpenUrl.Probe

open OpenUrl.Log (Notice)

/-- Why no event was heard. -/
inductive Deafness
  /-- There is no bridge. -/
  | creation (f : Failure)
  /-- There is no thread to wait on, for the reason that the system gave. -/
  | spawn (reason : String)
  /-- The bridge did not run. -/
  | start (f : Failure)
  /-- There is nothing to wait with, for the reason that the system gave. -/
  | runtime (reason : String)
  /-- The wait ended without an event. -/
  | wait (f : Failure)
  /-- Listening did not come to an end of its own. -/
  | interrupted
  deriving DecidableEq, Repr

namespace Deafness

/-- The failure behind it, if the bridge or the wait failed. -/
def failure? : Deafness → Option Failure
  | creation f | start f | wait f => some f
  | spawn _ | runtime _ | interrupted => none

def message : Deafness → String
  | creation f => "failed to create URL bridge: " ++ f.message
  | spawn reason => "failed to spawn wait thread: " ++ reason
  | start f => "URL bridge failed: " ++ f.message
  | runtime reason => "failed to build wait runtime: " ++ reason
  | wait f => f.message
  | interrupted => "interrupted"

end Deafness

/-- The outcome of listening. -/
abbrev Hearing := Except Deafness Event

/-- What the probe needs of the system it runs on, whose state is `σ`. -/
structure Platform (σ : Type) where
  /-- The application that owns a process. -/
  lookup : σ → Int32 → Application × List Notice
  /-- Wait for one event. -/
  listen : Settings → σ → Hearing × σ × List Notice

/-- Why a run failed. -/
inductive Fault
  /-- What was to be printed did not fit. -/
  | output
  | hearing (d : Deafness)
  deriving DecidableEq, Repr

def Fault.message : Fault → String
  | output => Sink.fullMessage
  | hearing d => d.message

/-- A finished run. -/
structure Run (σ : Type) where
  outcome : Except Fault Report
  out : Sink
  system : σ
  notices : List Notice

variable {σ : Type}

/-- Describe the application that the arguments ask for. The answer tells whether all of it
was written. -/
def describe (p : Platform σ) (a : Arguments) (system : σ) (out : Sink) :
    Bool × Sink × List Notice :=
  match a.pid with
  | none => (true, out, [])
  | some pid =>
    let (app, notices) := p.lookup system pid
    let (fitted, out) := app.write pid a.json out
    (fitted, out, notices)

/-- Report an event with its sender. -/
def report (p : Platform σ) (c : Context) (a : Arguments) (system : σ) (out : Sink) (e : Event) :
    Run σ :=
  let (sender, notices) := p.lookup system e.senderPid
  let r := Report.ofEvent e sender c.criteria
  let (fitted, out) := r.write a.json out
  ⟨if fitted then .ok r else .error .output, out, system,
    notices ++ Report.verdictNotices c.criteria sender⟩

/-- A whole run. -/
def run (p : Platform σ) (c : Context) (a : Arguments) (system : σ) (out : Sink) : Run σ :=
  match describe p a system out with
  | (false, out, notices) => ⟨.error .output, out, system, notices⟩
  | (true, out, described) =>
    match p.listen c.settings system with
    | (.error d, system, heard) => ⟨.error (.hearing d), out, system, described ++ heard⟩
    | (.ok e, system, heard) =>
      let r := report p c a system out e
      { r with notices := described ++ heard ++ r.notices }

end OpenUrl.Probe
