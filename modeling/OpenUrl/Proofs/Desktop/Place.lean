import OpenUrl.Desktop.Start
import OpenUrl.Proofs.Desktop.State
import OpenUrl.Proofs.Gate.Turn

/-!
# Places of the main thread

The agendas of a main thread have few shapes. A `Place` names one of them, with what is open in
it, and `Leads` says once what the main thread does at each place: to the process, to the host,
and where it comes to. Everything that is proved of runs of a bridge is proved over it.
-/
namespace OpenUrl.Desktop

/-- Something to be done between two looks at the event queue, or while the process is
launched. -/
inductive Errand
  | stop
  | deliver (e : AppleEvent)
  | send (name : Option String) (e : Option AppleEvent)

def Errand.task (b : Nat) : Errand → Task
  | stop => .stop b
  | deliver e => .deliver e
  | send name e => .send name e

def Action.errands : Action → List Errand
  | ordinary name => [.send (some name) none]
  | deliver e => [.deliver e]
  | deferred e => [.send none (some e)]
  | batch es => es.map .deliver
  | idle => []
  | stop => [.stop]

theorem Action.tasks_eq (b : Nat) (a : Action) : a.tasks b = a.errands.map (Errand.task b) := by
  cases a <;> simp [tasks, errands, Errand.task]

def LaunchAction.errand : LaunchAction → Errand
  | deliver e => .deliver e
  | stop => .stop

/-- The part of a run in which events come. -/
inductive Stretch
  /-- The process is being launched, and these actions are to come. -/
  | launch (actions : List LaunchAction)
  | loop

/-- Where the main thread is. From `installing` to `leaving` it is in the run of a bridge, whose
guard is `guard`. -/
inductive Place
  | away
  | receiving (e : AppleEvent)
  | beginning (b : Nat) (onMain : Bool)
  | installing (b guard : Nat)
  | announcing (b guard : Nat)
  | entering (b guard : Nat)
  /-- In the call at the gate of the bridge, if there is one, and then on some errands. -/
  | within (b guard : Nat) (call : Option Nat) (errands : List Errand) (s : Stretch)
  | looking (b guard : Nat)
  | poisoning (b guard : Nat)
  | removing (b guard : Nat) (e : Ending)
  | freeing (b guard : Nat) (e : Ending)
  | leaving (b guard : Nat) (e : Ending)
  | reporting (b : Nat)
  | concluding (e : Ending)

/-- The last task of a start, when the run's guard has been dropped. -/
def Ending.last (b : Nat) : Ending → Task
  | finished => .report b
  | e => .conclude e

/-- The way out of a run. -/
def closing (b guard : Nat) (e : Ending) : List Task :=
  [.uninstall, .dealloc, .finish b guard, e.last b]

def Stretch.agenda (b guard : Nat) : Stretch → List Task
  | launch actions =>
    actions.map (.duringLaunch b) ++ .launched :: .check b :: closing b guard .finished
  | loop => .check b :: closing b guard .finished

namespace Place

def agenda : Place → List Task
  | away => []
  | receiving e => [.deliver e]
  | beginning b onMain => [.begin b onMain]
  | installing b guard => [.install b guard]
  | announcing b guard => .announce b :: .launch b :: .check b :: closing b guard .finished
  | entering b guard => .launch b :: .check b :: closing b guard .finished
  | within b guard call errands s =>
    (call.map (Task.serve b)).toList ++ (errands.map (Errand.task b) ++ s.agenda b guard)
  | looking b guard => .next b :: .check b :: closing b guard .finished
  | poisoning b guard => .poison :: closing b guard .panicked
  | removing b guard e => closing b guard e
  | freeing b guard e => [.dealloc, .finish b guard, e.last b]
  | leaving b guard e => [.finish b guard, e.last b]
  | reporting b => [.report b]
  | concluding e => [.conclude e]

/-- The bridge whose run it is, the run's guard, and the call that is served. -/
def run? : Place → Option (Nat × Nat × Option Nat)
  | installing b guard | announcing b guard | entering b guard | looking b guard
  | poisoning b guard | removing b guard _ | freeing b guard _ | leaving b guard _ =>
    some (b, guard, none)
  | within b guard call _ _ => some (b, guard, call)
  | away | receiving _ | beginning _ _ | reporting _ | concluding _ => none

/-- The bridge that the main thread is busy with. -/
def bridge? : Place → Option Nat
  | beginning b _ => some b
  | pl => pl.run?.map Prod.fst

/-- The bridges registered with the event manager. -/
def handlers : Place → List ((String × String) × Nat)
  | announcing b _ | entering b _ | within b _ _ _ _ | looking b _ | poisoning b _
  | removing b _ _ => [((openUrlCode, openUrlCode), b)]
  | _ => []

/-- How the start has ended when the main thread goes on from here. -/
def ending? : Place → Option Ending
  | concluding e => some e
  | _ => none

/-- Where a panic of the callback leads. -/
def unwinding (b guard : Nat) : Stretch → Place
  | .launch _ => .poisoning b guard
  | .loop => .removing b guard .panicked

/-- Where the main thread is when it has dropped the run's guard. -/
def left (b : Nat) : Ending → Place
  | .finished => .reporting b
  | e => .concluding e

end Place

variable {σ : Type}

/-- What the main thread does at a place, and where it comes to. -/
inductive Leads (h : Host σ) : Place → State → σ → Place → State → σ → Prop
  | unhandled {e p s} : Leads h (.receiving e) p s .away p s
  | elsewhere {b p s} :
      Leads h (.beginning b false) p s (.concluding (.failed offMainFailure)) p s
  | begin {b p s} {g : Gate} : p.gate? b = some g →
      Leads h (.beginning b true) p s (.installing b g.lifecycle.issued)
        (p.setGate b { g with
          lifecycle := ⟨.running, [g.lifecycle.issued], g.lifecycle.issued + 1⟩ }) s
  | install {b guard p s} : p.managerThere = true →
      Leads h (.installing b guard) p s (.announcing b guard) (p.register b) s
  | noManager {b guard p s} : p.managerThere = false →
      Leads h (.installing b guard) p s (.leaving b guard (.failed noManagerFailure)) p s
  | announce {b guard p s} : Leads h (.announcing b guard) p s (.entering b guard) p s
  | launch {b guard p s} : p.launching = .notYet →
      Leads h (.entering b guard) p s (.within b guard none [] (.launch p.launchActions))
        { p with launchActions := [] } s
  | relaunch {b guard p s} : p.launching = .done →
      Leads h (.entering b guard) p s (.within b guard none [] .loop) p s
  | poisoned {b guard p s} : p.launching = .poisoned →
      Leads h (.entering b guard) p s (.removing b guard .panicked) p s
  | action {b guard p s a actions} :
      Leads h (.within b guard none [] (.launch (a :: actions))) p s
        (.within b guard none [a.errand] (.launch actions)) p s
  | launched {b guard p s} :
      Leads h (.within b guard none [] (.launch [])) p s (.within b guard none [] .loop)
        { p with launching := .done } s
  | stopped {b guard p s} : p.stopRequested b = true →
      Leads h (.within b guard none [] .loop) p s (.removing b guard .finished) p s
  | look {b guard p s} : p.stopRequested b = false →
      Leads h (.within b guard none [] .loop) p s (.looking b guard) p s
  | next {b guard p s a script} : p.script = a :: script →
      Leads h (.looking b guard) p s (.within b guard none a.errands .loop)
        { p with script := script } s
  | exhausted {b guard p s} : p.script = [] → p.scriptEnd = .stops →
      Leads h (.looking b guard) p s (.within b guard none [.stop] .loop) p s
  | idle {b guard p s} : p.script = [] → p.scriptEnd = .idles →
      Leads h (.looking b guard) p s (.within b guard none [] .loop) p s
  | stop {b guard p s errands t} {g : Gate} : p.gate? b = some g →
      Leads h (.within b guard none (.stop :: errands) t) p s (.within b guard none errands t)
        (p.setGate b (g.live .requestStop).1) s
  | send {b guard p s name e errands t} :
      Leads h (.within b guard none (.send name e :: errands) t) p s
        (.within b guard none ((e.map Errand.deliver).toList ++ errands) t) p s
  | deliver {b guard p s e errands t} {g : Gate} {past : List Call} : e.OpensUrl →
      p.gate? b = some g → g.Serves past none →
      Leads h (.within b guard none (.deliver e :: errands) t) p s
        (.within b guard (some past.length) errands t) (p.setGate b (g.push e.decode)) s
  | ignore {b guard p s e errands t} : ¬ e.OpensUrl →
      Leads h (.within b guard none (.deliver e :: errands) t) p s
        (.within b guard none errands t) p s
  | serve {b guard p s errands t} {g g' : Gate} {past : List Call} {e : Event}
      {stage stage' : Stage} {s' : σ} : p.gate? b = some g →
      g.Serves past (some ⟨e, stage⟩) → g'.Serves past (some ⟨e, stage'⟩) →
      Gate.Turn h e stage g.lifecycle g.delivered s stage' g'.lifecycle g'.delivered s' →
      Leads h (.within b guard (some past.length) errands t) p s
        (.within b guard (some past.length) errands t) (p.setGate b g') s'
  | answer {b guard p s errands t} {g g' : Gate} {past : List Call} {e : Event}
      {stage : Stage} {v : Verdict} {s' : σ} : p.gate? b = some g →
      g.Serves past (some ⟨e, stage⟩) → g'.Serves (past ++ [⟨e, .done v⟩]) none →
      Gate.Turn h e stage g.lifecycle g.delivered s (.done v) g'.lifecycle g'.delivered s' →
      v ≠ .panicked →
      Leads h (.within b guard (some past.length) errands t) p s
        (.within b guard none errands t) (p.setGate b g') s'
  | unwind {b guard p s errands t} {g g' : Gate} {past : List Call} {e : Event}
      {stage : Stage} {s' : σ} : p.gate? b = some g →
      g.Serves past (some ⟨e, stage⟩) → g'.Serves (past ++ [⟨e, .done .panicked⟩]) none →
      Gate.Turn h e stage g.lifecycle g.delivered s (.done .panicked) g'.lifecycle
        g'.delivered s' →
      Leads h (.within b guard (some past.length) errands t) p s (.unwinding b guard t)
        (p.setGate b g') s'
  | poison {b guard p s} :
      Leads h (.poisoning b guard) p s (.removing b guard .panicked)
        { p with launching := .poisoned } s
  | remove {b guard p s e} :
      Leads h (.removing b guard e) p s (.freeing b guard e) p.unregister s
  | free {b guard p s e} : Leads h (.freeing b guard e) p s (.leaving b guard e) p s
  | leave {b guard p s e} {g : Gate} : p.gate? b = some g →
      Leads h (.leaving b guard e) p s (.left b e)
        (p.setGate b { g with lifecycle := ⟨.idle, [], g.lifecycle.issued⟩ }) s
  | report {b p s} : Leads h (.reporting b) p s (.concluding .finished) p s
  | conclude {e p s} : Leads h (.concluding e) p s .away p s

end OpenUrl.Desktop
