import OpenUrl.Failure

/-!
# Phases of a run

A bridge is idle, running, or asked to stop. It is begun only when idle and stopped only
when running; the end of a run makes it idle whatever it was. Each operation is one
indivisible change, so it may come between any two steps of another thread.
-/
namespace OpenUrl

inductive Phase
  | idle
  | running
  | stopping
  deriving DecidableEq, Repr

namespace Phase

def name : Phase → String
  | idle => "Idle"
  | running => "Running"
  | stopping => "Stopping"

/-- The phase's number in diagnostic pictures. -/
def number : Phase → Nat
  | idle => 0
  | running => 1
  | stopping => 2

/-- Begin a run; only an idle bridge can. -/
def begin : Phase → Outcome Phase
  | idle => .ok running
  | running | stopping => .error .alreadyRunning

/-- Ask a run to stop. The answer tells whether there was one to stop. -/
def requestStop : Phase → Bool × Phase
  | running => (true, stopping)
  | p => (false, p)

/-- The end of a run. -/
def finish : Phase → Phase := fun _ => idle

def isRunning (p : Phase) : Bool := p == running

def stopRequested (p : Phase) : Bool := p == stopping

@[simp] theorem begin_eq_ok {p q : Phase} : p.begin = .ok q ↔ p = idle ∧ q = running := by
  cases p <;> simp [begin, eq_comm]

@[simp] theorem requestStop_fst {p : Phase} : p.requestStop.1 = true ↔ p = running := by
  cases p <;> simp [requestStop]

theorem requestStop_snd (p : Phase) :
    p.requestStop.2 = if p = running then stopping else p := by
  cases p <;> rfl

@[simp] theorem requestStop_ne_running (p : Phase) : p.requestStop.2 ≠ running := by
  cases p <;> simp [requestStop]

@[simp] theorem isRunning_iff {p : Phase} : p.isRunning = true ↔ p = running := by
  cases p <;> simp [isRunning]

@[simp] theorem stopRequested_iff {p : Phase} : p.stopRequested = true ↔ p = stopping := by
  cases p <;> simp [stopRequested]

end Phase

end OpenUrl
