import OpenUrl.Desktop.Start

/-!
# Sessions on a desktop process

Bridges by number, all with one callback that writes events down and follows rules, and the
answer to every step. Each step runs to its end before the next; what is still held at the
end is dropped then.
-/
namespace OpenUrl.Desktop

open OpenUrl.Log (Notice)

/-- What a rule has the callback do. -/
inductive Deed
  /-- Stop the bridge. -/
  | stop
  | panic
  deriving DecidableEq, Repr

/-- A deed for the events of a URL. -/
structure Rule where
  url : String
  deed : Deed
  deriving DecidableEq, Repr

def Deed.reaction : Deed → Reaction
  | stop => ⟨[.life .requestStop], false, []⟩
  | panic => ⟨[], true, []⟩

/-- The callback that writes events down and follows the first rule for their URL. -/
def ruled (rules : List Rule) : Host (List Event) where
  receive seen e :=
    (seen ++ [e],
      match rules.find? fun r => r.url == e.url with
      | some r => r.deed.reaction
      | none => .quiet)

structure Session where
  machine : Machine (List Event)
  /-- The guard of a claim on the slot that no bridge made. -/
  claim : Option Nat

namespace Session

inductive Step
  | new (pollInterval : UInt64)
  | start (b : Nat) (s : Setting)
  /-- Start on another thread. -/
  | startElsewhere (b : Nat)
  | stop (b : Nat)
  | isRunning (b : Nat)
  | delivered (b : Nat)
  | picture (b : Nat)
  /-- Stop through a handle made now. -/
  | newHandleStop (b : Nat)
  /-- Stop through the handle made with the bridge. -/
  | handleStop (b : Nat)
  | handleIsRunning (b : Nat)
  | drop (b : Nat)
  /-- An Apple Event outside any run. -/
  | deliver (e : AppleEvent)
  /-- Look a process up, on this thread or on another. -/
  | lookup (pid : Int32) (elsewhere : Bool)
  | isSupported
  | claimSlot
  | releaseSlot
  deriving DecidableEq, Repr

inductive Answer
  | ok
  | failure (f : Failure)
  | panicked
  | bridge (n : Nat)
  | noBridge
  | flag (b : Bool)
  | count (n : UInt64)
  | text (s : String)
  | application (a : Application)
  /-- The fuel has run out. -/
  | unfinished
  deriving DecidableEq, Repr

def fresh (apps : List (Int32 × RunningApplication)) : Session :=
  ⟨⟨{ State.fresh .stops with apps := apps }, [], [], none⟩, none⟩

def state (s : Session) : State := s.machine.state

def setState (s : Session) (p : State) : Session :=
  { s with machine := { s.machine with state := p } }

/-- A bridge that was made and not dropped. -/
def bridge? (s : Session) (b : Nat) : Option Bridge :=
  s.state.bridges[b]?.filter Bridge.alive

/-- Have the main thread do its agenda to the end. -/
def finish (h : Host (List Event)) (s : Session) (m : Machine (List Event)) :
    Answer × Session × Visible :=
  let (m, v) := m.run h (m.state.patience 1)
  let answer := match m.agenda, m.ending with
    | [], none | [], some .finished => .ok
    | [], some (.failed f) => .failure f
    | [], some .panicked => .panicked
    | _, _ => .unfinished
  (answer, { s with machine := m }, v)

def stop (s : Session) (b : Nat) : Bool × Session × Visible :=
  let (stopped, p, notices) := s.state.stop b
  (stopped, s.setState p, ⟨[], notices⟩)

/-- The answer of a bridge that has to be there. -/
def withBridge (s : Session) (b : Nat) (f : Bridge → Answer × Session × Visible) :
    Answer × Session × Visible :=
  match s.bridge? b with
  | none => (.noBridge, s, .nothing)
  | some x => f x

/-- One step. -/
def step (h : Host (List Event)) (s : Session) : Step → Answer × Session × Visible
  | .new pollInterval =>
    match s.state.newBridge pollInterval with
    | (.ok b, p, notices) => (.bridge b, s.setState p, ⟨[], notices⟩)
    | (.error f, p, notices) => (.failure f, s.setState p, ⟨[], notices⟩)
  | .start b t =>
    let s := s.setState (s.state.set t)
    s.withBridge b fun _ => s.finish h (s.machine.start b true)
  | .startElsewhere b =>
    s.withBridge b fun _ =>
      let (answer, s, v) := s.finish h (s.machine.start b false)
      (answer, s, { v with notices := [] })
  | .stop b =>
    s.withBridge b fun _ =>
      let (_, s, v) := s.stop b
      (.ok, s, v)
  | .isRunning b => s.withBridge b fun x => (.flag x.gate.lifecycle.isRunning, s, .nothing)
  | .delivered b => s.withBridge b fun x => (.count x.gate.delivered, s, .nothing)
  | .picture b => s.withBridge b fun x => (.text x.picture, s, .nothing)
  | .newHandleStop b =>
    s.withBridge b fun _ =>
      let (stopped, s, v) := s.stop b
      (.flag stopped, s, v)
  | .handleStop b =>
    let (stopped, s, v) := s.stop b
    (.flag stopped, s, v)
  | .handleIsRunning b => (.flag (s.state.isRunning b), s, .nothing)
  | .drop b =>
    let (there, p, notices) := s.state.dropBridge b
    (.flag there, s.setState p, ⟨[], notices⟩)
  | .deliver e => s.finish h (s.machine.receive e)
  | .lookup pid elsewhere =>
    let (a, notices) := s.state.lookup pid
    (.application a, s, ⟨[], if elsewhere then [] else notices⟩)
  | .isSupported => (.flag State.isSupported, s, .nothing)
  | .claimSlot =>
    match s.state.slot.claim with
    | (.ok guard, slot, notices) =>
      (.ok, { s.setState { s.state with slot := slot } with claim := some guard },
        ⟨[], notices⟩)
    | (.error f, slot, notices) =>
      (.failure f, s.setState { s.state with slot := slot }, ⟨[], notices⟩)
  | .releaseSlot =>
    match s.claim with
    | none => (.flag false, s, .nothing)
    | some guard =>
      let (held, slot, notices) := s.state.slot.drop guard
      (.flag held, { s.setState { s.state with slot := slot } with claim := none },
        ⟨[], notices⟩)

/-- What is shown of a step. -/
structure Shown where
  answer : Answer
  notes : List Note
  /-- Whether the slot is claimed after it. -/
  claimed : Bool
  deriving DecidableEq, Repr

/-- The notices at the end: the claim is released first, then the bridges are dropped. -/
def close (h : Host (List Event)) (s : Session) : List Notice :=
  let (_, s, v) := s.step h .releaseSlot
  ((List.range s.state.bridges.length).foldl (fun (p, notices) b =>
    let (_, p, more) := State.dropBridge p b
    (p, notices ++ more)) (s.state, v.notices)).2

/-- The answers to the steps, the events written down, and all notices. -/
def run (h : Host (List Event)) (s : Session) :
    List Step → List Shown × List Event × List Notice
  | [] => ([], s.machine.host, s.close h)
  | step :: steps =>
    let (answer, s, v) := s.step h step
    let (answers, seen, notices) := run h s steps
    (⟨answer, v.notes, s.state.slot.claimed⟩ :: answers, seen, v.notices ++ notices)

end Session

end OpenUrl.Desktop
