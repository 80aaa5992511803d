import OpenUrl.Handoff

/-!
# Sessions on a hand-off

Senders and callbacks by number, one receiver, and the answer to every step.
-/
namespace OpenUrl.Handoff

open OpenUrl.Log (Notice)

/-- Something planned for the time of a wait. -/
inductive Plan
  /-- A clone of a sender sends. -/
  | send (sender : Nat) (e : Event)
  /-- All senders are dropped. -/
  | dropAll
  deriving DecidableEq, Repr

structure Session where
  handoff : Handoff
  /-- Which senders are there, by number. -/
  senders : List Bool
  /-- Which callbacks are there, by number. -/
  callbacks : List Bool
  deriving Repr

namespace Session

inductive Step
  | send (sender : Nat) (e : Event)
  | cloneSender (sender : Nat)
  | dropSender (sender : Nat)
  /-- Make a callback of a sender, which is gone then. -/
  | intoCallback (sender : Nat)
  | call (callback : Nat) (e : Event)
  | dropCallback (callback : Nat)
  | dropReceiver
  | tryReceive
  | look
  /-- Wait, with what is planned by time. -/
  | wait (timeout : UInt64) (plans : List (Nat × Plan))
  deriving DecidableEq, Repr

inductive Answer
  | ok
  | failure (f : Failure)
  | noSender
  | noCallback
  | noReceiver
  | index (n : Nat)
  | event (e : Event)
  | nothing
  | closed
  | pending
  deriving DecidableEq, Repr

def fresh : Session := ⟨.fresh, [true], []⟩

def hasSender (s : Session) (n : Nat) : Bool := s.senders[n]?.getD false

def hasCallback (s : Session) (n : Nat) : Bool := s.callbacks[n]?.getD false

/-- All senders are gone; callbacks stay. -/
def dropSenders (s : Session) : Session :=
  { s with
    handoff := s.handoff.after (.drop (s.senders.count true))
    senders := s.senders.map fun _ => false }

/-- The deed of a plan, unless its sender is missing. -/
def deedOf? (s : Session) : Plan → Option Deed
  | .send n e => if s.hasSender n then some (.sendLast e) else none
  | .dropAll => some (.drop (s.senders.count true))

/-- Put a deed at its time into deeds sorted by time. -/
def schedule (at_ : Nat) (d : Deed) : List (Nat × Deed) → List (Nat × Deed)
  | [] => [(at_, d)]
  | (t, e) :: rest => if at_ < t then (at_, d) :: (t, e) :: rest else (t, e) :: schedule at_ d rest

/-- The deeds of the plans, sorted by time. -/
def deeds (s : Session) : List (Nat × Plan) → List (Nat × Deed)
  | [] => []
  | (t, p) :: ps =>
    match s.deedOf? p with
    | some d => schedule t d (s.deeds ps)
    | none => s.deeds ps

/-- Wait with plans. Each planned sending has a clone of its sender from the start; what has
not happened at the end never does, but then all senders are gone if that was planned. -/
def wait (s : Session) (timeout : UInt64) (plans : List (Nat × Plan)) :
    Outcome Event × Session :=
  let deeds := s.deeds plans
  let clones := deeds.countP fun d => match d.2 with
    | .sendLast _ => true
    | .drop _ => false
  let (outcome, h) :=
    Handoff.wait timeout.toNat { s.handoff with senders := s.handoff.senders + clones } deeds
  let s := { s with handoff := { h with senders := s.handoff.senders } }
  (outcome, if plans.any (·.2 == .dropAll) then s.dropSenders else s)

/-- One step. -/
def step (s : Session) : Step → Answer × Session × List Notice
  | .send n e =>
    if s.hasSender n then
      match s.handoff.send e with
      | (.ok _, h) => (.ok, { s with handoff := h }, [])
      | (.error f, h) => (.failure f, { s with handoff := h }, [])
    else (.noSender, s, [])
  | .cloneSender n =>
    let present := s.hasSender n
    (.index s.senders.length,
      { s with
        handoff := if present then s.handoff.addSender else s.handoff
        senders := s.senders ++ [present] }, [])
  | .dropSender n =>
    (.ok,
      { s with
        handoff := if s.hasSender n then s.handoff.dropSender else s.handoff
        senders := s.senders.set n false }, [])
  | .intoCallback n =>
    (.index s.callbacks.length,
      { s with
        senders := s.senders.set n false
        callbacks := s.callbacks ++ [s.hasSender n] }, [])
  | .call n e =>
    if s.hasCallback n then
      let (h, r) := callback.receive s.handoff e
      (.ok, { s with handoff := h }, r.notices)
    else (.noCallback, s, [])
  | .dropCallback n =>
    (.ok,
      { s with
        handoff := if s.hasCallback n then s.handoff.dropSender else s.handoff
        callbacks := s.callbacks.set n false }, [])
  | .dropReceiver => (.ok, { s with handoff := s.handoff.dropReceiver }, [])
  | .tryReceive =>
    if s.handoff.receiver then
      match s.handoff.tryReceive with
      | (some e, h) => (.event e, { s with handoff := h }, [])
      | (none, h) => (.nothing, { s with handoff := h }, [])
    else (.noReceiver, s, [])
  | .look =>
    if s.handoff.receiver then
      match s.handoff.look with
      | (.event e, h) => (.event e, { s with handoff := h }, [])
      | (.closed, h) => (.closed, { s with handoff := h }, [])
      | (.pending, h) => (.pending, { s with handoff := h }, [])
    else (.noReceiver, s, [])
  | .wait timeout plans =>
    if s.handoff.receiver then
      let (outcome, s) := s.wait timeout plans
      (match outcome with
        | .ok e => .event e
        | .error f => .failure f, s, waitNotices timeout outcome)
    else (.noReceiver, s, [])

/-- The answers to the steps, and all notices. -/
def run (s : Session) : List Step → List Answer × List Notice
  | [] => ([], [])
  | step :: steps =>
    let (answer, s, notices) := s.step step
    let (answers, more) := run s steps
    (answer :: answers, notices ++ more)

end Session

end OpenUrl.Handoff
