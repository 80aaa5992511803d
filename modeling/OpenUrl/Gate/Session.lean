import OpenUrl.Handoff

/-!
# Sessions on a gate

A lifecycle, a gate on it, a hand-off, and stop handles, with the answer to every step. The
callback either sends into the hand-off or writes the events down and follows rules.
-/
namespace OpenUrl.Gate

open OpenUrl.Log (Notice)

/-- What a rule has the callback do. -/
inductive Deed
  | stop
  | finish
  | begin
  | panic
  | spawn (url : String)
  | spawnThenStop (url : String)
  | spawnThenPanic (url : String)
  deriving DecidableEq, Repr

/-- A deed for the events of a URL. -/
structure Rule where
  url : String
  deed : Deed
  deriving DecidableEq, Repr

def Deed.reaction : Deed → Reaction
  | stop => ⟨[.life .requestStop], false, []⟩
  | finish => ⟨[.life .finish], false, []⟩
  | begin => ⟨[.life .begin], false, []⟩
  | panic => ⟨[], true, []⟩
  | spawn url => ⟨[.spawn ⟨url, 0⟩], false, []⟩
  | spawnThenStop url => ⟨[.spawn ⟨url, 0⟩, .life .requestStop], false, []⟩
  | spawnThenPanic url => ⟨[.spawn ⟨url, 0⟩], true, []⟩

/-- The reaction of the first rule for a URL. -/
def reactionTo (rules : List Rule) (url : String) : Reaction :=
  match rules.find? fun r => r.url == url with
  | some r => r.deed.reaction
  | none => .quiet

/-- The host of a session. -/
structure Desk where
  /-- The events written down, in order. -/
  seen : List Event
  handoff : Handoff
  deriving Repr

/-- The callback that writes events down and follows rules. -/
def ruled (rules : List Rule) : Host Desk where
  receive d e := ({ d with seen := d.seen ++ [e] }, reactionTo rules e.url)

/-- The callback that sends into the hand-off. -/
def sending : Host Desk where
  receive d e :=
    let (h, r) := Handoff.callback.receive d.handoff e
    ({ d with handoff := h }, r)

structure Session where
  delivery : Delivery Desk
  /-- The run guards by number. -/
  guards : List Nat
  /-- How many stop handles there are. -/
  handles : Nat

namespace Session

inductive Step
  | begin
  | beginGuarded
  | dropGuard (guard : Nat)
  /-- Take a guard, hand over an event if one is given, and panic. -/
  | panicGuarded (e : Option Event)
  | requestStop
  | isRunning
  | stopRequested
  | finish
  | newHandle
  /-- Stop through a handle, on this thread or on another. -/
  | handleStop (elsewhere : Bool)
  | handleIsRunning
  | dispatch (e : Event)
  /-- So many threads hand over so many events each. -/
  | dispatchThreads (threads each : Nat)
  | phase
  | pictures
  | tryReceive
  | wait (timeout : UInt64)
  | dropReceiver
  deriving DecidableEq, Repr

inductive Answer
  | ok
  | failure (f : Failure)
  | guard (n : Nat)
  | flag (b : Bool)
  | panicked
  | index (n : Nat)
  | verdict (v : Option Verdict) (others : List Verdict)
  | phase (p : Phase)
  | pictures (texts : List String)
  | event (e : Event)
  | nothing
  | noReceiver
  deriving DecidableEq, Repr

def fresh : Session := ⟨⟨.fresh, [], .fresh⟩, [], 0⟩

def gate (s : Session) : Gate := s.delivery.gate

def lifecycle (s : Session) : Lifecycle := s.gate.lifecycle

def setLifecycle (s : Session) (l : Lifecycle) : Session :=
  { s with delivery := { s.delivery with gate := { s.gate with lifecycle := l } } }

def desk (s : Session) : Desk := s.delivery.host

def setHandoff (s : Session) (h : Handoff) : Session :=
  { s with delivery := { s.delivery with host := { s.desk with handoff := h } } }

/-- Whether `e` comes before `f` by process, then by URL. -/
def before (e f : Event) : Bool :=
  e.senderPid < f.senderPid || (e.senderPid == f.senderPid && !(f.url < e.url))

/-- The events of some threads, each with its own number as process. -/
def threadEvents (threads each : Nat) : List Event :=
  (List.range threads).flatMap fun i => (List.range each).map fun j =>
    ⟨"t" ++ toString i ++ "/" ++ toString j, Int32.ofNat i⟩

/-- Hand over events one after another; the answer counts those delivered. -/
def dispatchAll (h : Host Desk) (fuel : Nat) (d : Delivery Desk) : List Event → Nat × Delivery Desk
  | [] => (0, d)
  | e :: es =>
    let (verdict, _, d, _) := d.dispatch h fuel e
    let (n, d) := dispatchAll h fuel d es
    (if verdict = some .delivered then n + 1 else n, d)

/-- Stop, with the notices if the stop is asked for on this thread. -/
def stop (s : Session) (elsewhere : Bool) : Answer × Session × List Notice :=
  let (stopped, l, notices) := s.lifecycle.requestStop
  (.flag stopped, s.setLifecycle l, if elsewhere then [] else notices)

/-- One step. Every event that is handed over comes with fuel for the threads that its
callback starts. -/
def step (h : Host Desk) (fuel : Nat) (s : Session) : Step → Answer × Session × List Notice
  | .begin =>
    match s.lifecycle.begin with
    | (.ok _, l) => (.ok, s.setLifecycle l, [])
    | (.error f, l) => (.failure f, s.setLifecycle l, [])
  | .beginGuarded =>
    match s.lifecycle.beginGuarded with
    | (.ok g, l) =>
      (.guard s.guards.length, { s.setLifecycle l with guards := s.guards ++ [g] }, [])
    | (.error f, l) => (.failure f, s.setLifecycle l, [])
  | .dropGuard n =>
    match s.guards[n]? with
    | none => (.flag false, s, [])
    | some g =>
      let (held, l) := s.lifecycle.dropGuard g
      (.flag held, s.setLifecycle l, [])
  | .panicGuarded e =>
    match s.lifecycle.beginGuarded with
    | (.error f, l) => (.failure f, s.setLifecycle l, [])
    | (.ok g, l) =>
      let s := s.setLifecycle l
      let (s, notices) := match e with
        | none => (s, [])
        | some e =>
          let (_, _, d, notices) := s.delivery.dispatch h fuel e
          ({ s with delivery := d }, notices)
      (.panicked, s.setLifecycle (s.lifecycle.dropGuard g).2, notices)
  | .requestStop => s.stop false
  | .isRunning => (.flag s.lifecycle.isRunning, s, [])
  | .stopRequested => (.flag s.lifecycle.stopRequested, s, [])
  | .finish => (.ok, s.setLifecycle s.lifecycle.finish, [])
  | .newHandle => (.index s.handles, { s with handles := s.handles + 1 }, [])
  | .handleStop elsewhere => s.stop elsewhere
  | .handleIsRunning => (.flag s.lifecycle.isRunning, s, [])
  | .dispatch e =>
    let (verdict, others, d, notices) := s.delivery.dispatch h fuel e
    (.verdict verdict others, { s with delivery := d }, notices)
  | .dispatchThreads threads each =>
    let old := s.desk.seen
    let (n, d) := dispatchAll h fuel s.delivery (threadEvents threads each)
    let new := (d.host.seen.drop old.length).mergeSort before
    (.index n, { s with delivery := { d with host := { d.host with seen := old ++ new } } }, [])
  | .phase => (.phase s.lifecycle.phase, s, [])
  | .pictures => (.pictures [s.gate.picture, s.lifecycle.picture], s, [])
  | .tryReceive =>
    match s.desk.handoff.tryReceive with
    | (some e, t) => (.event e, s.setHandoff t, [])
    | (none, t) => (.nothing, s.setHandoff t, [])
  | .wait timeout =>
    if s.desk.handoff.receiver then
      let (outcome, t) := s.desk.handoff.wait timeout.toNat []
      (match outcome with
        | .ok e => .event e
        | .error f => .failure f, s.setHandoff t, Handoff.waitNotices timeout outcome)
    else (.noReceiver, s, [])
  | .dropReceiver => (.ok, s.setHandoff s.desk.handoff.dropReceiver, [])

/-- What is shown after a step. -/
structure Shown where
  answer : Answer
  phase : Phase
  delivered : UInt64
  deriving DecidableEq, Repr

/-- The answers to the steps, the events written down, and all notices. -/
def run (h : Host Desk) (fuel : Nat) (s : Session) :
    List Step → List Shown × List Event × List Notice
  | [] => ([], s.desk.seen, [])
  | step :: steps =>
    let (answer, s, notices) := s.step h fuel step
    let (answers, seen, more) := run h fuel s steps
    (⟨answer, s.lifecycle.phase, s.gate.delivered⟩ :: answers, seen, notices ++ more)

end Session

end OpenUrl.Gate
