import OpenUrl.Log.Notice

/-!
# The handler slot

The system keeps one open-URL handler per process, so a process has one slot, and a bridge
holds it for as long as it exists. Whoever claims the slot gets a guard; when the guard is
dropped the slot is free again.
-/
namespace OpenUrl

open OpenUrl.Log (Notice)

structure Slot where
  claimed : Bool
  /-- The guards that are alive. -/
  guards : List Nat
  /-- How many guards there have been; they are numbered from zero. -/
  issued : Nat
  deriving DecidableEq, Repr

namespace Slot

/-- A slot that nobody has claimed. -/
def free : Slot := ⟨false, [], 0⟩

/-- Claim the slot. A claim of another owner stays as it is. -/
def claim (s : Slot) : Outcome Nat × Slot × List Notice :=
  if s.claimed then (.error .alreadyClaimed, s, [.slotTaken])
  else (.ok s.issued, ⟨true, s.issued :: s.guards, s.issued + 1⟩, [.slotClaimed])

/-- Drop a guard. The answer tells whether it was alive. -/
def drop (s : Slot) (guard : Nat) : Bool × Slot × List Notice :=
  if s.guards.contains guard then
    (true, ⟨false, s.guards.erase guard, s.issued⟩, [.slotReleased])
  else (false, s, [])

/-- What may happen to a slot, on any thread. -/
inductive Move
  | claim
  | drop (guard : Nat)
  deriving DecidableEq, Repr

/-- The effect of a move, whatever its answer. -/
def step (s : Slot) : Move → Slot × List Notice
  | .claim => s.claim.2
  | .drop g => (s.drop g).2

/-- The slot after some moves, one after another. -/
def run (s : Slot) (moves : List Move) : Slot := moves.foldl (fun s m => (s.step m).1) s

@[simp] theorem run_nil (s : Slot) : s.run [] = s := rfl

@[simp] theorem run_cons (s : Slot) (m : Move) (ms : List Move) :
    s.run (m :: ms) = (s.step m).1.run ms := rfl

end Slot

end OpenUrl
