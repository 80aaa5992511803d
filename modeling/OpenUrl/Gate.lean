import OpenUrl.Event
import OpenUrl.Lifecycle

/-!
# The gate of a callback

Any number of threads may hand events to the callback of a bridge. Each of them goes through
one gate, which a single thread holds at a time; behind it the thread looks whether the
bridge is running and, if so, calls back and counts. The steps of different threads, and
changes of the lifecycle by anyone, may be interleaved in any order.
-/
namespace OpenUrl

open OpenUrl.Log (Notice)

/-- What a callback does beside its own work. -/
inductive Act
  /-- It changes the lifecycle of its bridge. -/
  | life (m : Lifecycle.Move)
  /-- It has a thread of its own hand over another event. -/
  | spawn (e : Event)
  deriving DecidableEq, Repr

/-- How a callback reacts to an event. -/
structure Reaction where
  acts : List Act
  /-- It panics after its acts. -/
  panics : Bool
  notices : List Notice
  deriving DecidableEq, Repr

/-- The reaction of a callback that does nothing else. -/
def Reaction.quiet : Reaction := ⟨[], false, []⟩

/-- How handing over an event ends. -/
inductive Verdict
  | delivered
  | dropped
  | panicked
  deriving DecidableEq, Repr

/-- Where a thread is that hands over an event. -/
inductive Stage
  /-- In front of the gate. -/
  | waiting
  /-- It holds the gate and has not looked at the lifecycle yet. -/
  | holding
  /-- It saw the bridge running. -/
  | admitted
  /-- It saw the bridge not running. -/
  | refused
  /-- In the callback, with the acts to come. -/
  | inside (acts : List Act) (panics : Bool)
  | returned
  | counted
  | unwinding
  | done (v : Verdict)
  deriving DecidableEq, Repr

/-- One thread that hands over an event. -/
structure Call where
  event : Event
  stage : Stage
  deriving DecidableEq, Repr

structure Gate where
  lifecycle : Lifecycle
  /-- The call that holds the gate. -/
  holder : Option Nat
  /-- How many callbacks have returned. -/
  delivered : UInt64
  /-- All calls ever made, by number. -/
  calls : List Call
  deriving DecidableEq, Repr

namespace Gate

/-- Nothing has been handed over, and the bridge has never run. -/
def fresh : Gate := ⟨.fresh, none, 0, []⟩

def stage? (g : Gate) (i : Nat) : Option Stage := g.calls[i]?.map Call.stage

def event? (g : Gate) (i : Nat) : Option Event := g.calls[i]?.map Call.event

def setStage (g : Gate) (i : Nat) (s : Stage) : Gate :=
  { g with calls := g.calls.modify i fun c => { c with stage := s } }

/-- One indivisible step. -/
inductive Move
  /-- A thread begins to hand over an event. -/
  | call (e : Event)
  | acquire (i : Nat)
  /-- Look at the lifecycle. -/
  | check (i : Nat)
  /-- The callback begins, and will react as given. -/
  | enter (i : Nat) (r : Reaction)
  /-- The callback's next act. -/
  | act (i : Nat)
  | leave (i : Nat)
  | unwind (i : Nat)
  | count (i : Nat)
  | release (i : Nat)
  /-- Somebody changes the lifecycle. -/
  | life (m : Lifecycle.Move)
  deriving DecidableEq, Repr

/-- A new call in front of the gate. -/
def push (g : Gate) (e : Event) : Gate := { g with calls := g.calls ++ [⟨e, .waiting⟩] }

/-- Change the lifecycle. -/
def live (g : Gate) (m : Lifecycle.Move) : Gate × List Notice :=
  let (l, notices) := g.lifecycle.step m
  ({ g with lifecycle := l }, notices)

def perform (g : Gate) : Act → Gate × List Notice
  | .life m => g.live m
  | .spawn e => (g.push e, [])

/-- What is logged when a call has looked at the lifecycle. The notice of a dropped event names the
phase that the call saw; that somebody may change it before the notice is written is left out. -/
def checkNotices (e : Event) (p : Phase) : List Notice :=
  if p = .running then [.eventReceived e.senderPid e.url.utf8ByteSize, .eventPayload e.url]
  else [.eventDropped e.senderPid p]

/-- The state after a move and what is logged, if the move is possible. -/
def step? (g : Gate) : Move → Option (Gate × List Notice)
  | .call e => some (g.push e, [])
  | .life m => some (g.live m)
  | .acquire i =>
    match g.stage? i, g.holder with
    | some .waiting, none => some ({ g with holder := some i }.setStage i .holding, [])
    | _, _ => none
  | .check i =>
    match g.calls[i]? with
    | some ⟨e, .holding⟩ =>
      let p := g.lifecycle.phase
      some (g.setStage i (if p = .running then .admitted else .refused), checkNotices e p)
    | _ => none
  | .enter i r =>
    match g.stage? i with
    | some .admitted => some (g.setStage i (.inside r.acts r.panics), r.notices)
    | _ => none
  | .act i =>
    match g.stage? i with
    | some (.inside (a :: as) panics) => some ((g.setStage i (.inside as panics)).perform a)
    | _ => none
  | .leave i =>
    match g.stage? i with
    | some (.inside [] false) => some (g.setStage i .returned, [])
    | _ => none
  | .unwind i =>
    match g.stage? i with
    | some (.inside [] true) => some (g.setStage i .unwinding, [])
    | _ => none
  | .count i =>
    match g.stage? i with
    | some .returned => some ({ g with delivered := g.delivered + 1 }.setStage i .counted, [])
    | _ => none
  | .release i =>
    match g.stage? i with
    | some .counted => some ({ g with holder := none }.setStage i (.done .delivered), [])
    | some .refused => some ({ g with holder := none }.setStage i (.done .dropped), [])
    | some .unwinding => some ({ g with holder := none }.setStage i (.done .panicked), [])
    | _ => none

/-- The states that some moves lead to. -/
inductive Reachable (start : Gate) : Gate → Prop
  | start : Reachable start start
  | step {g h : Gate} {m : Move} {notices : List Notice} :
      Reachable start g → g.step? m = some (h, notices) → Reachable start h

/-- Take the moves that are possible, in order, and pass over the others. -/
def run (g : Gate) : List Move → Gate × List Notice
  | [] => (g, [])
  | m :: ms =>
    match g.step? m with
    | none => g.run ms
    | some (h, notices) =>
      let (h, more) := h.run ms
      (h, notices ++ more)

/-- The next step of call `i` itself; `r` is how the callback will react. -/
def next? (g : Gate) (i : Nat) (r : Reaction) : Option Move :=
  match g.stage? i with
  | some .waiting => some (.acquire i)
  | some .holding => some (.check i)
  | some .admitted => some (.enter i r)
  | some (.inside (_ :: _) _) => some (.act i)
  | some (.inside [] false) => some (.leave i)
  | some (.inside [] true) => some (.unwind i)
  | some .returned => some (.count i)
  | some .counted | some .refused | some .unwinding => some (.release i)
  | some (.done _) | none => none

/-- How call `i` has ended. -/
def verdict? (g : Gate) (i : Nat) : Option Verdict :=
  match g.stage? i with
  | some (.done v) => some v
  | _ => none

/-- A diagnostic picture of the gate. -/
def picture (g : Gate) : String :=
  "UrlDispatcher \x7b state: " ++ g.lifecycle.phase.name ++ ", delivered: " ++
    toString g.delivered ++ ", .. \x7d"

@[simp] theorem calls_push (g : Gate) (e : Event) :
    (g.push e).calls = g.calls ++ [⟨e, .waiting⟩] := rfl

@[simp] theorem holder_setStage (g : Gate) (i : Nat) (s : Stage) :
    (g.setStage i s).holder = g.holder := rfl

@[simp] theorem lifecycle_setStage (g : Gate) (i : Nat) (s : Stage) :
    (g.setStage i s).lifecycle = g.lifecycle := rfl

@[simp] theorem delivered_setStage (g : Gate) (i : Nat) (s : Stage) :
    (g.setStage i s).delivered = g.delivered := rfl

theorem stage?_setStage (g : Gate) (i j : Nat) (s : Stage) :
    (g.setStage i s).stage? j =
      if i = j then (g.stage? j).map fun _ => s else g.stage? j := by
  unfold stage? setStage
  simp only [List.getElem?_modify]
  split <;> cases g.calls[j]? <;> simp

@[simp] theorem event?_setStage (g : Gate) (i j : Nat) (s : Stage) :
    (g.setStage i s).event? j = g.event? j := by
  unfold event? setStage
  simp only [List.getElem?_modify]
  split <;> cases g.calls[j]? <;> simp

end Gate

end OpenUrl
