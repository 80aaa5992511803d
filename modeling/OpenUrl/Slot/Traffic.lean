import OpenUrl.Listening

/-!
# Traffic on the slot

The slot of a process is used by threads that claim it directly, by the owners of bridges, and by
calls that listen, of which there may be any number on any thread. The steps of all of them may
be interleaved in any order.
-/
namespace OpenUrl

open OpenUrl.Log (Notice)

/-- The bridge that a call has, from its creation to its drop. -/
def Listening.owned? (l : Listening) : Option Nat :=
  match l.main with
  | .created | .spawned | .running | .leaving _ | .retreating _ => some l.bridge
  | .entering | .joining | .ended _ => none

/-- The bridge that has to be at the hands of whoever makes the move. -/
def Desktop.Move.bridge? : Desktop.Move → Option Nat
  | .start b _ | .drop b => some b
  | _ => none

namespace Slot

structure Traffic (σ : Type) where
  /-- The process, and the starts of bridges by owners of their own. -/
  machine : Desktop.Machine σ
  /-- The calls that listen, by number. All of them are in the process of the machine. -/
  calls : List Listening

namespace Traffic

variable {σ : Type}

inductive Move
  /-- What may happen in the process beside the calls. -/
  | process (m : Desktop.Move)
  /-- A thread begins to listen. -/
  | enter (s : Settings) (onMain : Bool)
  /-- What may happen in a call. -/
  | call (i : Nat) (m : Listening.Move)

/-- A process that has done nothing. -/
def idle (scriptEnd : Desktop.ScriptEnd) (s : σ) : Traffic σ :=
  ⟨⟨.fresh scriptEnd, s, [], none⟩, []⟩

def state (t : Traffic σ) : Desktop.State := t.machine.state

def slot (t : Traffic σ) : Slot := t.state.slot

/-- A call in the process as it is now. -/
def call? (t : Traffic σ) (i : Nat) : Option Listening :=
  t.calls[i]?.map fun l => l.setState t.state

/-- Whether a bridge belongs to a call. -/
def isOwned (t : Traffic σ) (b : Nat) : Bool := t.calls.any fun l => l.owned? == some b

/-- The state after a move and what is logged, if the move is possible. The bridge of a call is
started and dropped by the call only. -/
def move? (h : Host σ) (t : Traffic σ) : Move → Option (Traffic σ × List Notice)
  | .process m =>
    if m.bridge?.any t.isOwned then none
    else do
      let (machine, v) ← t.machine.move? h m
      some ({ t with machine := machine }, v.notices)
  | .enter s onMain =>
    some ({ t with calls := t.calls ++ [Listening.enter t.state s onMain] }, [])
  | .call _ (.slot _) => none
  | .call i m => do
    let l ← t.call? i
    let (l, notices) ← l.move? m
    some ({ machine := { t.machine with state := l.state }, calls := t.calls.set i l }, notices)

end Traffic

end Slot

end OpenUrl
