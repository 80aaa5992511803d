import OpenUrl.Handoff

/-!
# Traffic on a hand-off

Senders, callbacks behind their gates, and the one receiver use a hand-off at the same time. The
steps of all of them, and time, may be interleaved in any order.
-/
namespace OpenUrl.Handoff

open OpenUrl.Log (Notice)

/-- What the receiver is doing. Times are in milliseconds. -/
inductive Reading
  | free
  /-- Receiving, without an end; about to look. -/
  | receiving
  /-- Waiting for a time that ends at a moment; about to look. -/
  | waiting (timeout wake : Nat)
  /-- It has looked in vain, and is about to see whether the time is over. -/
  | doubting (timeout wake : Nat)
  deriving DecidableEq, Repr

structure Traffic where
  handoff : Handoff
  /-- Which senders are there, by number. -/
  senders : List Bool
  /-- The gates of the callbacks, by number. A callback that has been dropped has none. -/
  gates : List (Option Gate)
  reading : Reading
  clock : Nat
  deriving Repr

namespace Traffic

inductive Move
  | send (sender : Nat) (e : Event)
  | cloneSender (sender : Nat)
  | dropSender (sender : Nat)
  /-- Put a callback behind a gate, made of a sender, which is gone then. -/
  | intoCallback (sender : Nat) (l : Lifecycle)
  /-- A thread begins to hand over an event at a gate. -/
  | dispatch (gate : Nat) (e : Event)
  /-- The next step of a call at a gate. -/
  | advance (gate call : Nat)
  /-- Somebody changes the lifecycle of the bridge behind a gate. -/
  | life (gate : Nat) (m : Lifecycle.Move)
  /-- Drop a callback and its gate, which nobody is at. -/
  | dropCallback (gate : Nat)
  | tryReceive
  /-- Begin to receive. -/
  | receive
  /-- Begin to wait. -/
  | wait (timeout : Nat)
  /-- The next step of receiving or waiting. -/
  | read
  /-- Give up receiving or waiting. -/
  | abandon
  | dropReceiver
  /-- A millisecond passes. -/
  | tick
  deriving DecidableEq, Repr

/-- What a step answers to the one who makes it. -/
inductive Answer
  | ok
  | failure (f : Failure)
  | event (e : Event)
  /-- There is no event now. -/
  | nothing
  /-- No more events will come. -/
  | closed
  /-- Handing over has ended; whether the callback was called. -/
  | returned (called : Bool)
  /-- Handing over has ended in a panic. -/
  | panicked
  /-- It goes on. -/
  | pending
  deriving DecidableEq, Repr

def Answer.ofSending : Outcome Unit → Answer
  | .ok _ => ok
  | .error f => failure f

def Answer.ofVerdict : Option Verdict → Answer
  | some .delivered => returned true
  | some .dropped => returned false
  | some .panicked => panicked
  | none => pending

/-- A new hand-off. -/
def fresh : Traffic := ⟨.fresh, [true], [], .free, 0⟩

def hasSender (t : Traffic) (n : Nat) : Bool := t.senders[n]?.getD false

def gate? (t : Traffic) (n : Nat) : Option Gate := t.gates[n]?.join

def call? (t : Traffic) (gate call : Nat) : Option Call :=
  (t.gate? gate).bind fun g => g.calls[call]?

def setGate (t : Traffic) (n : Nat) (g : Gate) : Traffic :=
  { t with gates := t.gates.set n (some g) }

/-- Whether the receiver may begin something. -/
def isFree (t : Traffic) : Bool := t.handoff.receiver && t.reading == .free

/-- The next step of receiving or waiting. It looks for an event before it looks at the time. -/
def read? (t : Traffic) : Option (Traffic × Answer × List Notice) :=
  match t.reading with
  | .free => none
  | .receiving =>
    match t.handoff.look with
    | (.event e, h) => some ({ t with handoff := h, reading := .free }, .event e, [])
    | (.closed, h) => some ({ t with handoff := h, reading := .free }, .closed, [])
    | (.pending, h) => some ({ t with handoff := h }, .pending, [])
  | .waiting timeout wake =>
    match t.handoff.look with
    | (.event e, h) => some ({ t with handoff := h, reading := .free }, .event e, [])
    | (.closed, h) =>
      some ({ t with handoff := h, reading := .free }, .failure .channelClosed, [])
    | (.pending, h) =>
      some ({ t with handoff := h, reading := .doubting timeout wake }, .pending, [])
  | .doubting timeout wake =>
    if wake ≤ t.clock then
      some ({ t with reading := .free }, .failure .waitTimeout,
        waitNotices (UInt64.ofNatClamp timeout) (.error .waitTimeout))
    else some ({ t with reading := .waiting timeout wake }, .pending, [])

/-- The state after a move, the answer to it and what is logged, if the move is possible. -/
def move? (t : Traffic) : Move → Option (Traffic × Answer × List Notice)
  | .send j e =>
    if t.hasSender j then
      let (outcome, h) := t.handoff.send e
      some ({ t with handoff := h }, .ofSending outcome, [])
    else none
  | .cloneSender j =>
    if t.hasSender j then
      some ({ t with handoff := t.handoff.addSender, senders := t.senders ++ [true] }, .ok, [])
    else none
  | .dropSender j =>
    if t.hasSender j then
      some ({ t with handoff := t.handoff.dropSender, senders := t.senders.set j false }, .ok, [])
    else none
  | .intoCallback j l =>
    if t.hasSender j then
      some ({ t with
        senders := t.senders.set j false
        gates := t.gates ++ [some ⟨l, none, 0, []⟩] }, .ok, [])
    else none
  | .dispatch o e => do
    let g ← t.gate? o
    some (t.setGate o (g.push e), .pending, [])
  | .advance o i => do
    let g ← t.gate? o
    let (d, notices) ← Delivery.advance? callback ⟨g, t.handoff⟩ i
    some ({ t.setGate o d.gate with handoff := d.host }, .ofVerdict (d.gate.verdict? i), notices)
  | .life o m => do
    let g ← t.gate? o
    let (g, notices) := g.live m
    some (t.setGate o g, .ok, notices)
  | .dropCallback o => do
    let g ← t.gate? o
    if (List.range g.calls.length).all fun i => (g.verdict? i).isSome then
      some ({ t with handoff := t.handoff.dropSender, gates := t.gates.set o none }, .ok, [])
    else none
  | .tryReceive =>
    if t.isFree then
      match t.handoff.tryReceive with
      | (some e, h) => some ({ t with handoff := h }, .event e, [])
      | (none, h) => some ({ t with handoff := h }, .nothing, [])
    else none
  | .receive => if t.isFree then some ({ t with reading := .receiving }, .pending, []) else none
  | .wait timeout =>
    if t.isFree then
      some ({ t with reading := .waiting timeout (t.clock + timeout) }, .pending, [])
    else none
  | .read => t.read?
  | .abandon => if t.reading = .free then none else some ({ t with reading := .free }, .ok, [])
  | .dropReceiver =>
    if t.isFree then some ({ t with handoff := t.handoff.dropReceiver }, .ok, []) else none
  | .tick => some ({ t with clock := t.clock + 1 }, .ok, [])

end Traffic

end OpenUrl.Handoff
