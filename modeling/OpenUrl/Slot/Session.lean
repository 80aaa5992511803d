import OpenUrl.Slot

/-!
# Sessions on slots

Several independent slots under one numbering of guards, with the answer to every step.
Guards that are still alive at the end are dropped then, in their order.
-/
namespace OpenUrl.Slot

open OpenUrl.Log (Notice)

structure Session where
  slots : List Slot
  /-- For each guard number the slot and the guard there. -/
  guards : List (Nat × Nat)
  deriving Repr

namespace Session

inductive Step
  /-- Claim a slot, on this thread or on another. -/
  | claim (slot : Nat) (elsewhere : Bool)
  /-- Claim a slot and panic. -/
  | claimAndPanic (slot : Nat)
  | drop (guard : Nat)
  | isClaimed (slot : Nat)
  deriving DecidableEq, Repr

inductive Answer
  | guard (n : Nat)
  | failure (f : Failure)
  | panicked
  | flag (b : Bool)
  deriving DecidableEq, Repr

/-- `n` slots that nobody has claimed. -/
def ofCount (n : Nat) : Session := ⟨List.replicate n free, []⟩

def slot (s : Session) (n : Nat) : Slot := s.slots[n]?.getD free

def setSlot (s : Session) (n : Nat) (t : Slot) : Session := { s with slots := s.slots.set n t }

/-- Drop a guard by its number. -/
def dropGuard (s : Session) (guard : Nat) : Bool × Session × List Notice :=
  match s.guards[guard]? with
  | none => (false, s, [])
  | some (n, g) =>
    let (held, t, notices) := (s.slot n).drop g
    (held, s.setSlot n t, notices)

/-- One step. What another thread logs is not seen. -/
def step (s : Session) : Step → Answer × Session × List Notice
  | .claim n elsewhere =>
    match (s.slot n).claim with
    | (.error f, t, notices) =>
      (.failure f, s.setSlot n t, if elsewhere then [] else notices)
    | (.ok g, t, notices) =>
      (.guard s.guards.length, { s.setSlot n t with guards := s.guards ++ [(n, g)] },
        if elsewhere then [] else notices)
  | .claimAndPanic n =>
    match (s.slot n).claim with
    | (.error f, t, notices) => (.failure f, s.setSlot n t, notices)
    | (.ok g, t, notices) =>
      let (_, t, released) := t.drop g
      (.panicked, s.setSlot n t, notices ++ released)
  | .drop guard =>
    let (held, s, notices) := s.dropGuard guard
    (.flag held, s, notices)
  | .isClaimed n => (.flag (s.slot n).claimed, s, [])

/-- The answers to the steps, each with the slots' states after it, and all notices. -/
def run (s : Session) : List Step → List (Answer × List Bool) × List Notice
  | [] =>
    let (_, notices) := (List.range s.guards.length).foldl (fun (s, ns) g =>
      let (_, s, more) := s.dropGuard g
      (s, ns ++ more)) (s, [])
    ([], notices)
  | step :: steps =>
    let (answer, s, notices) := s.step step
    let (answers, more) := run s steps
    ((answer, s.slots.map Slot.claimed) :: answers, notices ++ more)

end Session

end OpenUrl.Slot
