import OpenUrl.Gate

/-!
# Delivery to a host

A gate with the host behind it, whose callback decides how to react to each event. Here one
thread hands over an event without others between its steps, and the threads that the
callback started follow in their order.
-/
namespace OpenUrl

open OpenUrl.Log (Notice)

/-- A callback over the states `σ` of the host. -/
structure Host (σ : Type) where
  receive : σ → Event → σ × Reaction

structure Delivery (σ : Type) where
  gate : Gate
  host : σ

namespace Delivery

variable {σ : Type}

/-- Change the lifecycle. -/
def live (d : Delivery σ) (m : Lifecycle.Move) : Delivery σ × List Notice :=
  let (g, notices) := d.gate.live m
  ({ d with gate := g }, notices)

/-- The next step of call `i`, if it is possible now. The host reacts when its callback
begins. -/
def advance? (h : Host σ) (d : Delivery σ) (i : Nat) : Option (Delivery σ × List Notice) := do
  let c ← d.gate.calls[i]?
  let (host, r) := if c.stage = .admitted then h.receive d.host c.event else (d.host, .quiet)
  let move ← d.gate.next? i r
  let (g, notices) ← d.gate.step? move
  some (⟨g, host⟩, notices)

/-- All steps of call `i` inside the callback and behind it. -/
def callback (h : Host σ) (d : Delivery σ) (i : Nat) (e : Event) : Delivery σ × List Notice :=
  let (host, r) := h.receive d.host e
  let (g, notices) := d.gate.run <|
    .enter i r :: r.acts.map (fun _ => .act i) ++
      (if r.panics then [.unwind i] else [.leave i, .count i]) ++ [.release i]
  (⟨g, host⟩, notices)

/-- All steps of call `i`. -/
def serve (h : Host σ) (d : Delivery σ) (i : Nat) : Delivery σ × List Notice :=
  let (g, notices) := d.gate.run [.acquire i, .check i]
  match g.calls[i]? with
  | some ⟨e, .admitted⟩ =>
    let (d, more) := callback h { d with gate := g } i e
    (d, notices ++ more)
  | _ =>
    let (g, more) := g.run [.release i]
    ({ d with gate := g }, notices ++ more)

/-- Serve the calls from `i` on, one after another. Every call takes fuel. -/
def settle (h : Host σ) : Nat → Delivery σ → Nat → Delivery σ
  | 0, d, _ => d
  | fuel + 1, d, i =>
    if i < d.gate.calls.length then settle h fuel (d.serve h i).1 (i + 1) else d

/-- Hand over an event, and then those of the threads that its callback started, while the
fuel lasts. The answer is how each ended; only the first thread's notices are seen. -/
def dispatch (h : Host σ) (fuel : Nat) (d : Delivery σ) (e : Event) :
    Option Verdict × List Verdict × Delivery σ × List Notice :=
  let i := d.gate.calls.length
  let (d, notices) := { d with gate := d.gate.push e }.serve h i
  let verdict := d.gate.verdict? i
  let d := settle h fuel d (i + 1)
  let others := (List.range (d.gate.calls.length - (i + 1))).filterMap fun n =>
    d.gate.verdict? (i + 1 + n)
  (verdict, others, d, notices)

end Delivery

end OpenUrl
