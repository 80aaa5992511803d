import OpenUrl.Desktop.Start
import OpenUrl.Handoff
import OpenUrl.Probe.Run

/-!
# Listening for one event

The main thread runs a bridge whose callback sends into a hand-off; a worker waits there for
the first event and stops the bridge. Stopping a bridge that does not run yet has no effect,
so the worker first waits for it to run; that wait and the one for the event share one
deadline. The steps of both threads, and time, may be interleaved in any order.
-/
namespace OpenUrl

open OpenUrl.Desktop
open OpenUrl.Log (Notice)
open OpenUrl.Probe (Deafness Hearing)

namespace Listening

/-- Where the worker is. -/
inductive Worker
  /-- Not started. -/
  | absent
  /-- About to note when to give up. -/
  | starting
  /-- About to see whether the bridge runs. -/
  | polling
  /-- It saw the bridge not running, and is about to see whether there is time left. -/
  | doubting
  /-- Asleep until a moment. -/
  | sleeping (wake : Nat)
  /-- About to see how much time is left. -/
  | ready
  /-- Waiting at the hand-off for a time that ends at a moment. -/
  | waiting (time wake : Nat)
  /-- About to stop the bridge. -/
  | stopping (h : Hearing)
  /-- About to drop the receiver. -/
  | closing (h : Hearing)
  | done (h : Hearing)

/-- How listening ends: with an outcome, or in a panic. -/
inductive Ending
  | heard (h : Hearing)
  | panicked

/-- Where the main thread is. -/
inductive Main
  /-- About to make the bridge. -/
  | entering
  /-- About to start the worker. -/
  | created
  /-- About to start the bridge. -/
  | spawned
  /-- In the run of the bridge. -/
  | running
  /-- About to drop the bridge, with what comes of it. -/
  | leaving (e : Desktop.Ending)
  /-- About to drop the bridge, which has no worker. -/
  | retreating (reason : String)
  /-- Waiting for the worker. -/
  | joining
  | ended (e : Ending)

/-- How often the worker sees whether the bridge runs, in milliseconds. -/
def startupPoll : Nat := 10

end Listening

open Listening (Worker Main)

structure Listening where
  /-- The process, its main thread in a run of the bridge, and the hand-off as host. -/
  machine : Machine Handoff
  settings : Settings
  /-- Whether the thread that listens is the main thread. -/
  onMain : Bool
  /-- The bridge, once it is made. -/
  bridge : Nat
  main : Main
  worker : Worker
  /-- The time in milliseconds. -/
  clock : Nat
  /-- When the worker gives up. -/
  deadline : Nat

namespace Listening

/-- About to listen in a process. -/
def enter (p : State) (s : Settings) (onMain : Bool) : Listening :=
  ⟨⟨p, .fresh, [], none⟩, s, onMain, p.bridges.length, .entering, .absent, 0, 0⟩

def state (l : Listening) : State := l.machine.state

def setState (l : Listening) (p : State) : Listening :=
  { l with machine := { l.machine with state := p } }

def setHandoff (l : Listening) (h : Handoff) : Listening :=
  { l with machine := { l.machine with host := h } }

/-- Drop the bridge, and with its callback the sender. -/
def dropBridge (l : Listening) (next : Main) : Listening × List Notice :=
  let (_, p, notices) := l.state.dropBridge l.bridge
  ({ (l.setState p).setHandoff l.machine.host.dropSender with main := next }, notices)

/-- The next step of the main thread, if it is possible now. -/
def mainStep? (l : Listening) : Option (Listening × List Notice) :=
  match l.main with
  | .entering =>
    match l.state.newBridge l.settings.pollInterval with
    | (.ok b, p, notices) => some ({ l.setState p with bridge := b, main := .created }, notices)
    | (.error f, p, notices) =>
      some ({ l.setState p with main := .ended (.heard (.error (.creation f))) }, notices)
  | .created =>
    some ({ l with main := .spawned, worker := .starting }, [])
  | .spawned =>
    some ({ l with main := .running, machine := l.machine.start l.bridge l.onMain },
      [.awaitingEvent l.settings.waitTimeout])
  | .running =>
    match l.machine.step? Handoff.callback with
    | some (m, v) => some ({ l with machine := m }, v.notices)
    | none =>
      match l.machine.agenda, l.machine.ending with
      | [], some e => some ({ l with main := .leaving e }, [])
      | _, _ => none
  | .leaving e =>
    some <| l.dropBridge <|
      match e with
      | .finished => .joining
      | .failed f => .ended (.heard (.error (.start f)))
      | .panicked => .ended .panicked
  | .retreating reason => some (l.dropBridge (.ended (.heard (.error (.spawn reason)))))
  | .joining =>
    match l.worker with
    | .done h => some ({ l with main := .ended (.heard h) }, [])
    | _ => none
  | .ended _ => none

/-- The next step of the worker, if it is possible now. At the hand-off it looks for an event
before it looks at the time. -/
def workerStep? (l : Listening) : Option (Listening × List Notice) :=
  let go (w : Worker) : Option (Listening × List Notice) := some ({ l with worker := w }, [])
  match l.worker with
  | .absent | .done _ => none
  | .starting =>
    some ({ l with
      worker := .polling
      deadline := l.clock + l.settings.waitTimeout.toNat }, [])
  | .polling => go (if l.state.isRunning l.bridge then .ready else .doubting)
  | .doubting => go (if l.clock < l.deadline then .sleeping (l.clock + startupPoll) else .ready)
  | .sleeping wake => if wake ≤ l.clock then go .polling else none
  | .ready => go (.waiting (l.deadline - l.clock) (l.clock + (l.deadline - l.clock)))
  | .waiting time wake =>
    match l.machine.host.look with
    | (.event e, h) => some ({ l.setHandoff h with worker := .stopping (.ok e) }, [])
    | (.closed, h) =>
      some ({ l.setHandoff h with worker := .stopping (.error (.wait .channelClosed)) }, [])
    | (.pending, _) =>
      if wake ≤ l.clock then
        some ({ l with worker := .stopping (.error (.wait .waitTimeout)) },
          [.waitTimedOut (UInt64.ofNat time)])
      else none
  | .stopping h =>
    let (_, p, notices) := l.state.stop l.bridge
    some ({ l.setState p with worker := .closing h }, notices)
  | .closing h => some ({ l.setHandoff l.machine.host.dropReceiver with worker := .done h }, [])

/-- What may happen at any time. -/
inductive Move
  | main
  /-- The system has no thread for the worker. -/
  | noThread (reason : String)
  | worker
  /-- The system has nothing for the worker to wait with. The bridge is not stopped then. -/
  | noRuntime (reason : String)
  /-- A millisecond passes. -/
  | tick
  /-- Others than the bridges use the slot. -/
  | slot (m : Slot.Move)

/-- The state after a move and what is logged, if the move is possible. -/
def move? (l : Listening) : Move → Option (Listening × List Notice)
  | .main => l.mainStep?
  | .noThread reason =>
    match l.main with
    | .created =>
      some ({ l.setHandoff l.machine.host.dropReceiver with main := .retreating reason }, [])
    | _ => none
  | .worker => l.workerStep?
  | .noRuntime reason =>
    match l.worker with
    | .ready => some ({ l with worker := .closing (.error (.runtime reason)) }, [])
    | _ => none
  | .tick => some ({ l with clock := l.clock + 1 }, [])
  | .slot m => do
    let (p, notices) ← l.state.slotStep? m
    some (l.setState p, notices)

/-- The states that some moves lead to. -/
inductive Reachable (start : Listening) : Listening → Prop
  | start : Reachable start start
  | step {l k : Listening} {m : Move} {notices : List Notice} :
      Reachable start l → l.move? m = some (k, notices) → Reachable start k

/-- Whether the main thread only looks at a queue that stays empty. -/
def isIdle (l : Listening) : Bool :=
  match l.machine.agenda with
  | .check b :: _ => l.state.script.isEmpty && !l.state.stopRequested b
  | _ => false

/-- The moment at which the worker goes on by itself. -/
def wake? (l : Listening) : Option Nat :=
  match l.worker with
  | .sleeping wake | .waiting _ wake => some wake
  | _ => none

/-- One step of a schedule that answers like any other in which the bridge begins in time: the
main thread while it has something to do, then the worker, then time passes. -/
def scheduled? (l : Listening) : Option (Listening × List Notice) :=
  let main := if l.isIdle then none else l.mainStep?
  match main, l.workerStep? with
  | some r, _ => some r
  | none, some r => some r
  | none, none =>
    match l.wake? with
    | some wake => if l.clock < wake then some ({ l with clock := wake }, []) else none
    | none => none

/-- Listen by the schedule until listening ends. Every step takes fuel. -/
def run : Nat → Listening → Listening × List Notice
  | 0, l => (l, [])
  | fuel + 1, l =>
    match l.main with
    | .ended _ => (l, [])
    | _ =>
      match l.scheduled? with
      | none => (l, [])
      | some (l, notices) =>
        let (l, more) := run fuel l
        (l, notices ++ more)

/-- What came of listening. -/
def hearing (l : Listening) : Hearing :=
  match l.main with
  | .ended (.heard h) => h
  | _ => .error .interrupted

/-- Listen on the main thread of a process. -/
def listen (s : Settings) (p : State) : Hearing × State × List Notice :=
  let (l, notices) := (enter p s true).run (p.patience 0 + 40)
  (l.hearing, l.state, notices)

/-- A desktop system as the probe sees it. -/
def platform : Probe.Platform State where
  lookup := State.lookup
  listen := listen

end Listening

end OpenUrl
