import OpenUrl.Lifecycle

/-!
# A lifecycle among threads

Threads begin guarded runs, drop their guards, stop the runs through handles and look at the
phase. Each of these is one indivisible step, and the steps of all threads may be interleaved in
any order.
-/
namespace OpenUrl.Lifecycle

open OpenUrl.Log (Notice)

structure Shared where
  lifecycle : Lifecycle
  /-- How many stop handles there have been; they are numbered from zero. -/
  handles : Nat
  deriving DecidableEq, Repr

namespace Shared

inductive Move
  /-- Begin a guarded run. -/
  | begin
  /-- Drop a guard that is alive, in due course or because its owner unwinds. -/
  | drop (guard : Nat)
  /-- Make a stop handle, of the bridge or by cloning another one. -/
  | handle
  /-- Ask for a stop through a handle. -/
  | stop (handle : Nat)
  /-- Look at the phase. -/
  | look
  deriving DecidableEq, Repr

/-- What a step answers to the one who makes it. -/
inductive Answer
  | guard (n : Nat)
  | failure (f : Failure)
  | dropped
  | handle (n : Nat)
  /-- Whether there was a run to stop. -/
  | stopped (b : Bool)
  | phase (p : Phase)
  deriving DecidableEq, Repr

/-- A lifecycle that nobody has used yet. -/
def fresh : Shared := ⟨.fresh, 0⟩

/-- The state after a move, the answer to it and what is logged, if the move is possible. -/
def move? (s : Shared) : Move → Option (Shared × Answer × List Notice)
  | .begin =>
    match s.lifecycle.beginGuarded with
    | (.ok guard, l) => some ({ s with lifecycle := l }, .guard guard, [])
    | (.error f, l) => some ({ s with lifecycle := l }, .failure f, [])
  | .drop guard =>
    match s.lifecycle.dropGuard guard with
    | (true, l) => some ({ s with lifecycle := l }, .dropped, [])
    | (false, _) => none
  | .handle => some ({ s with handles := s.handles + 1 }, .handle s.handles, [])
  | .stop handle =>
    if handle < s.handles then
      let (stopped, l, notices) := s.lifecycle.requestStop
      some ({ s with lifecycle := l }, .stopped stopped, notices)
    else none
  | .look => some (s, .phase s.lifecycle.phase, [])

/-- What a move would be answered. -/
def answer? (s : Shared) (m : Move) : Option Answer := (s.move? m).map fun r => r.2.1

end Shared

end OpenUrl.Lifecycle
