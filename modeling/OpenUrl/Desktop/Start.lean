import OpenUrl.Desktop.State
import OpenUrl.Gate.Delivery

/-!
# Running a bridge

A start runs on the main thread as an agenda of tasks, each one indivisible; between any two
of them other threads may stop the bridge. A panic of the callback drops the tasks to come,
except for those that clean up.
-/
namespace OpenUrl.Desktop

open OpenUrl.Log (Notice)

/-- How a start ends. -/
inductive Ending
  /-- The bridge has run until it was stopped. -/
  | finished
  | failed (f : Failure)
  | panicked
  deriving DecidableEq, Repr

/-- One thing that the main thread has to do. -/
inductive Task
  /-- Begin a run, on the main thread or not. -/
  | begin (b : Nat) (onMain : Bool)
  /-- Register the bridge; the run's guard is kept for the end. -/
  | install (b guard : Nat)
  /-- Log that the bridge has started. -/
  | announce (b : Nat)
  /-- Have the process launched, if that has not been done. -/
  | launch (b : Nat)
  /-- Something that happens while the process is launched. -/
  | duringLaunch (b : Nat) (a : LaunchAction)
  /-- The process is launched. -/
  | launched
  /-- A panic came while the process was launched. -/
  | poison
  /-- See whether the bridge has been asked to stop, else go on. -/
  | check (b : Nat)
  /-- Look at the event queue. -/
  | next (b : Nat)
  /-- Send an event on to the application. -/
  | send (name : Option String) (e : Option AppleEvent)
  /-- The event manager delivers an Apple Event. -/
  | deliver (e : AppleEvent)
  /-- The next step of a call at the gate of the bridge. -/
  | serve (b call : Nat)
  /-- Somebody stops the bridge. -/
  | stop (b : Nat)
  | uninstall
  | dealloc
  /-- Drop the run's guard. -/
  | finish (b guard : Nat)
  /-- Log that the bridge has stopped, and return. -/
  | report (b : Nat)
  | conclude (e : Ending)
  deriving DecidableEq, Repr

/-- The process, the host behind the callback of its bridges, and the main thread. -/
structure Machine (σ : Type) where
  state : State
  host : σ
  agenda : List Task
  /-- How the last start ended. -/
  ending : Option Ending

/-- What a task makes visible. -/
structure Visible where
  notes : List Note
  notices : List Notice
  deriving DecidableEq, Repr

namespace Visible

def nothing : Visible := ⟨[], []⟩

def append (v w : Visible) : Visible := ⟨v.notes ++ w.notes, v.notices ++ w.notices⟩

end Visible

/-- What is left of a task when the main thread unwinds. -/
def Task.cleanup : Task → List Task
  | launched => [poison]
  | uninstall => [uninstall]
  | dealloc => [dealloc]
  | finish b g => [finish b g]
  | poison => [poison]
  | _ => []

/-- The agenda of a main thread that unwinds. -/
def unwound (agenda : List Task) : List Task :=
  agenda.flatMap Task.cleanup ++ [.conclude .panicked]

def selector : String := "handleGetURLEvent:withReplyEvent:"

/-- The failure of a start on another thread. -/
def offMainFailure : Failure :=
  .platform "AppleEventUrlBridge::start must be called from the main thread"

/-- The failure of a start without an event manager. -/
def noManagerFailure : Failure :=
  .registration "could not install get-URL handler: NSAppleEventManager unavailable"

/-- The tasks of a registered bridge. -/
def running (b guard : Nat) : List Task :=
  [.announce b, .launch b, .check b, .uninstall, .dealloc, .finish b guard, .report b]

/-- The tasks that an action of the script makes. -/
def Action.tasks (b : Nat) : Action → List Task
  | ordinary name => [.send (some name) none]
  | deliver e => [.deliver e]
  | deferred e => [.send none (some e)]
  | batch es => es.map .deliver
  | idle => []
  | stop => [.stop b]

namespace Machine

variable {σ : Type}

/-- Begin a start of a bridge. -/
def start (m : Machine σ) (b : Nat) (onMain : Bool) : Machine σ :=
  { m with agenda := [.begin b onMain], ending := none }

/-- Begin the delivery of an Apple Event outside any run. -/
def receive (m : Machine σ) (e : AppleEvent) : Machine σ :=
  { m with agenda := [.deliver e], ending := none }

/-- The next step of a call at a gate, if it is possible now. -/
def serve? (h : Host σ) (m : Machine σ) (b call : Nat) (rest : List Task) :
    Option (Machine σ × Visible) := do
  let g ← m.state.gate? b
  let (d, notices) ← Delivery.advance? h ⟨g, m.host⟩ call
  let agenda := match d.gate.verdict? call with
    | none => .serve b call :: rest
    | some .panicked => unwound rest
    | some _ => rest
  some (⟨m.state.setGate b d.gate, d.host, agenda, m.ending⟩, ⟨[], notices⟩)

/-- Do the first task. `none` if there is none, or if it cannot be done now. -/
def step? (h : Host σ) (m : Machine σ) : Option (Machine σ × Visible) :=
  let p := m.state
  match m.agenda with
  | [] => none
  | task :: rest =>
    let go (p : State) (agenda : List Task) (v : Visible) : Option (Machine σ × Visible) :=
      some ({ m with state := p, agenda := agenda }, v)
    match task with
    | .begin b onMain =>
      if onMain then
        match p.gate? b with
        | none => none
        | some g =>
          match g.lifecycle.beginGuarded with
          | (.ok guard, l) =>
            go (p.setGate b { g with lifecycle := l }) (.install b guard :: rest) .nothing
          | (.error f, _) => go p (.conclude (.failed f) :: rest) .nothing
      else go p (.conclude (.failed offMainFailure) :: rest) .nothing
    | .install b guard =>
      if p.managerThere then
        go (p.register b) (running b guard ++ rest)
          ⟨[.install openUrlCode openUrlCode selector], [.handlerInstalled]⟩
      else
        go p (.finish b guard :: .conclude (.failed noManagerFailure) :: rest)
          ⟨[], [.registrationFailed noManagerFailure]⟩
    | .announce b =>
      let poll := (p.bridges[b]?.map Bridge.pollInterval).getD 0
      go p rest ⟨[], [.bridgeStarted poll]⟩
    | .launch b =>
      match p.launching with
      | .done => go p rest .nothing
      | .poisoned => go p (unwound rest) .nothing
      | .notYet =>
        go { p with launchActions := [] }
          (p.launchActions.map (.duringLaunch b) ++ .launched :: rest) ⟨[.finishLaunching], []⟩
    | .duringLaunch _ (.deliver e) => go p (.deliver e :: rest) .nothing
    | .duringLaunch b .stop => go p (.stop b :: rest) .nothing
    | .launched => go { p with launching := .done } rest .nothing
    | .poison => go { p with launching := .poisoned } rest .nothing
    | .check b =>
      if p.stopRequested b then go p rest .nothing
      else go p (.next b :: .check b :: rest) .nothing
    | .next b =>
      let poll := (p.bridges[b]?.map Bridge.pollInterval).getD 0
      match p.script, p.scriptEnd with
      | a :: script, _ => go { p with script := script } (a.tasks b ++ rest) ⟨[.next poll], []⟩
      | [], .stops => go p (.stop b :: rest) ⟨[.exhausted], []⟩
      | [], .idles => go p rest .nothing
    | .send name e =>
      go p ((e.map Task.deliver).toList ++ rest) ⟨[.sendEvent name], []⟩
    | .deliver e =>
      match p.handler? e with
      | none => go p rest ⟨[.unhandled e.eventClass e.identifier], []⟩
      | some b =>
        match p.gate? b with
        | none => none
        | some g =>
          go (p.setGate b (g.push e.decode)) (.serve b g.calls.length :: rest)
            ⟨[.deliver e.eventClass e.identifier], []⟩
    | .serve b call => m.serve? h b call rest
    | .stop b =>
      let (_, p, notices) := p.stop b
      go p rest ⟨[], notices⟩
    | .uninstall =>
      go p.unregister rest ⟨[.remove openUrlCode openUrlCode], [.handlerRemoved]⟩
    | .dealloc => go p rest ⟨[.dealloc], []⟩
    | .finish b guard =>
      let (p, notices) := p.live b (.dropGuard guard)
      go p rest ⟨[], notices⟩
    | .report b =>
      let delivered := ((p.gate? b).map Gate.delivered).getD 0
      go p (.conclude .finished :: rest) ⟨[], [.bridgeStopped delivered]⟩
    | .conclude e => some ({ m with agenda := rest, ending := some e }, .nothing)

/-- Do tasks while there are any, without other threads between them. Every task takes
fuel. -/
def run (h : Host σ) : Nat → Machine σ → Machine σ × Visible
  | 0, m => (m, .nothing)
  | fuel + 1, m =>
    match m.step? h with
    | none => (m, .nothing)
    | some (m, v) =>
      let (m, w) := run h fuel m
      (m, v.append w)

end Machine

/-- How many Apple Events an action delivers at most. -/
def Action.deliveries : Action → Nat
  | deliver _ | deferred _ => 1
  | batch es => es.length
  | ordinary _ | idle | stop => 0

/-- How many Apple Events a script delivers at most. -/
def deliveries : List Action → Nat
  | [] => 0
  | a :: as => a.deliveries + deliveries as

/-- Fuel for a start, if no callback does more than `acts` acts and scripts end with a stop. -/
def State.patience (p : State) (acts : Nat) : Nat :=
  let events := p.launchActions.length + deliveries p.script
  events * (acts + 9) + 4 * p.script.length + 2 * p.launchActions.length + 20

/-- What may happen in the process. A start, the drop of a bridge, an Apple Event outside any
run and a new setting of the system need a main thread that has nothing to do. -/
inductive Move
  /-- The next task of the main thread. -/
  | main
  /-- A stop from another thread. -/
  | stop (b : Nat)
  | new (pollInterval : UInt64)
  | start (b : Nat) (onMain : Bool)
  | drop (b : Nat)
  | receive (e : AppleEvent)
  | set (t : Setting)
  /-- Others than the bridges use the slot. -/
  | slot (m : Slot.Move)
  deriving DecidableEq, Repr

namespace Machine

variable {σ : Type}

/-- The state after a move and what is visible of it, if the move is possible. -/
def move? (h : Host σ) (m : Machine σ) : Move → Option (Machine σ × Visible)
  | .main => m.step? h
  | .stop b =>
    let (_, p, notices) := m.state.stop b
    some ({ m with state := p }, ⟨[], notices⟩)
  | .new pollInterval =>
    let (_, p, notices) := m.state.newBridge pollInterval
    some ({ m with state := p }, ⟨[], notices⟩)
  | .start b onMain =>
    if m.agenda.isEmpty && ((m.state.bridges[b]?).any Bridge.alive) then
      some (m.start b onMain, .nothing)
    else none
  | .drop b =>
    if m.agenda.isEmpty then
      let (_, p, notices) := m.state.dropBridge b
      some ({ m with state := p }, ⟨[], notices⟩)
    else none
  | .receive e => if m.agenda.isEmpty then some (m.receive e, .nothing) else none
  | .set t => if m.agenda.isEmpty then some ({ m with state := m.state.set t }, .nothing) else none
  | .slot move => do
    let (p, notices) ← m.state.slotStep? move
    some ({ m with state := p }, ⟨[], notices⟩)

/-- The states that some moves lead to. -/
inductive Reachable (h : Host σ) (start : Machine σ) : Machine σ → Prop
  | start : Reachable h start start
  | step {m n : Machine σ} {move : Move} {v : Visible} :
      Reachable h start m → m.move? h move = some (n, v) → Reachable h start n

end Machine

end OpenUrl.Desktop
