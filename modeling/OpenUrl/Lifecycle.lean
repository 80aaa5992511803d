import OpenUrl.Log.Notice

/-!
# The lifecycle of a bridge

A phase that any thread may read and change, and the guards of its runs. A guarded run ends
when its guard is dropped, also when the owner of the guard panics.
-/
namespace OpenUrl

open OpenUrl.Log (Notice)

structure Lifecycle where
  phase : Phase
  /-- The guards that are alive. -/
  guards : List Nat
  /-- How many guards there have been; they are numbered from zero. -/
  issued : Nat
  deriving DecidableEq, Repr

namespace Lifecycle

/-- Never run. -/
def fresh : Lifecycle := ⟨.idle, [], 0⟩

def begin (l : Lifecycle) : Outcome Unit × Lifecycle :=
  match l.phase.begin with
  | .ok p => (.ok (), { l with phase := p })
  | .error f => (.error f, l)

/-- Begin a run that ends when the guard is dropped. -/
def beginGuarded (l : Lifecycle) : Outcome Nat × Lifecycle :=
  match l.phase.begin with
  | .ok p => (.ok l.issued, ⟨p, l.issued :: l.guards, l.issued + 1⟩)
  | .error f => (.error f, l)

def finish (l : Lifecycle) : Lifecycle := { l with phase := l.phase.finish }

/-- Drop a guard: the run is over, whatever its phase. The answer tells whether the guard was
alive. -/
def dropGuard (l : Lifecycle) (guard : Nat) : Bool × Lifecycle :=
  if l.guards.contains guard then
    (true, { l.finish with guards := l.guards.erase guard })
  else (false, l)

/-- Ask the run to stop. The answer tells whether there was one to stop. The notice of a stop that
is ignored names the phase that it met; that somebody may change it before the notice is written is
left out. -/
def requestStop (l : Lifecycle) : Bool × Lifecycle × List Notice :=
  match l.phase.requestStop with
  | (true, p) => (true, { l with phase := p }, [.stopRequested])
  | (false, p) => (false, { l with phase := p }, [.stopIgnored p])

def isRunning (l : Lifecycle) : Bool := l.phase.isRunning

def stopRequested (l : Lifecycle) : Bool := l.phase.stopRequested

/-- What any thread may do to a lifecycle at any time. -/
inductive Move
  | begin
  | beginGuarded
  | dropGuard (guard : Nat)
  | requestStop
  | finish
  deriving DecidableEq, Repr

/-- The effect of a move, whatever its answer. -/
def step (l : Lifecycle) : Move → Lifecycle × List Notice
  | .begin => (l.begin.2, [])
  | .beginGuarded => (l.beginGuarded.2, [])
  | .dropGuard g => ((l.dropGuard g).2, [])
  | .requestStop => l.requestStop.2
  | .finish => (l.finish, [])

/-- The lifecycle after some moves, one after another. -/
def run (l : Lifecycle) (moves : List Move) : Lifecycle :=
  moves.foldl (fun l m => (l.step m).1) l

/-- A diagnostic picture of the lifecycle. -/
def picture (l : Lifecycle) : String :=
  "BridgeLifecycle \x7b state: " ++ toString l.phase.number ++ " \x7d"

@[simp] theorem phase_requestStop (l : Lifecycle) :
    l.requestStop.2.1.phase = l.phase.requestStop.2 := by
  cases l with
  | mk p gs n => cases p <;> rfl

@[simp] theorem requestStop_fst (l : Lifecycle) :
    l.requestStop.1 = l.phase.requestStop.1 := by
  cases l with
  | mk p gs n => cases p <;> rfl

@[simp] theorem phase_finish (l : Lifecycle) : l.finish.phase = .idle := rfl

@[simp] theorem guards_finish (l : Lifecycle) : l.finish.guards = l.guards := rfl

@[simp] theorem run_nil (l : Lifecycle) : l.run [] = l := rfl

@[simp] theorem run_cons (l : Lifecycle) (m : Move) (ms : List Move) :
    l.run (m :: ms) = (l.step m).1.run ms := rfl

end Lifecycle

end OpenUrl
