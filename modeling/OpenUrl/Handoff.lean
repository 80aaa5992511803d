import OpenUrl.Gate.Delivery

/-!
# The hand-off

A queue from any number of senders to one receiver. Sending never waits. The receiver gets
events in the order in which they were sent, and learns that no more will come once every
sender is gone.
-/
namespace OpenUrl

open OpenUrl.Log (Notice)

structure Handoff where
  /-- The events sent and not received, oldest first. -/
  queue : List Event
  /-- How many senders there are. -/
  senders : Nat
  /-- Whether the receiver is there. -/
  receiver : Bool
  deriving DecidableEq, Repr

namespace Handoff

/-- One sender and the receiver. -/
def fresh : Handoff := ⟨[], 1, true⟩

def send (h : Handoff) (e : Event) : Outcome Unit × Handoff :=
  if h.receiver then (.ok (), { h with queue := h.queue ++ [e] }) else (.error .channelClosed, h)

def addSender (h : Handoff) : Handoff := { h with senders := h.senders + 1 }

def dropSender (h : Handoff) : Handoff := { h with senders := h.senders - 1 }

/-- What is queued goes with the receiver. -/
def dropReceiver (h : Handoff) : Handoff := { h with queue := [], receiver := false }

/-- Take the oldest event, if there is one. -/
def tryReceive (h : Handoff) : Option Event × Handoff :=
  match h.queue with
  | [] => (none, h)
  | e :: es => (some e, { h with queue := es })

/-- What the receiver sees at one look. -/
inductive Sight
  | event (e : Event)
  /-- No more events will come. -/
  | closed
  /-- Events may still come. -/
  | pending
  deriving DecidableEq, Repr

/-- Take the oldest event, or see why there is none. -/
def look (h : Handoff) : Sight × Handoff :=
  match h.queue with
  | e :: es => (.event e, { h with queue := es })
  | [] => (if h.senders = 0 then .closed else .pending, h)

/-- Something that happens to the hand-off while the receiver waits. -/
inductive Deed
  /-- A sender sends, and is gone then. -/
  | sendLast (e : Event)
  /-- So many senders are dropped. -/
  | drop (n : Nat)
  deriving DecidableEq, Repr

def after (h : Handoff) : Deed → Handoff
  | .sendLast e => (h.send e).2.dropSender
  | .drop n => { h with senders := h.senders - n }

/-- Wait while deeds happen at their times, which are sorted. The receiver looks first, so a
queued event is received even without any time to wait. -/
def wait (timeout : Nat) (h : Handoff) (deeds : List (Nat × Deed)) : Outcome Event × Handoff :=
  match h.look with
  | (.event e, h) => (.ok e, h)
  | (.closed, h) => (.error .channelClosed, h)
  | (.pending, h) =>
    match deeds with
    | [] => (.error .waitTimeout, h)
    | (at_, d) :: deeds =>
      if at_ < timeout then wait timeout (h.after d) deeds else (.error .waitTimeout, h)

/-- What is logged at the end of a wait. -/
def waitNotices (timeout : UInt64) : Outcome Event → List Notice
  | .error (.timeout _) => [.waitTimedOut timeout]
  | _ => []

/-- The callback that sends every event. Without a receiver the event is lost. -/
def callback : Host Handoff where
  receive h e :=
    match h.send e with
    | (.ok _, h) => (h, .quiet)
    | (.error f, h) => (h, { Reaction.quiet with notices := [.eventDiscarded f e.senderPid] })

@[simp] theorem queue_send {h : Handoff} (hr : h.receiver = true) (e : Event) :
    (h.send e).2.queue = h.queue ++ [e] := by
  simp [send, hr]

@[simp] theorem senders_send (h : Handoff) (e : Event) : (h.send e).2.senders = h.senders := by
  unfold send
  split <;> rfl

end Handoff

end OpenUrl
