import OpenUrl.Proofs.Desktop.Served
import OpenUrl.Proofs.Handoff.Queue
import OpenUrl.Proofs.Listening.Orphan

/-!
# What listening answers

The sender is there as long as the bridge is, and the bridge until its start has returned. A start
that nobody but the worker stops returns without a failure only after the worker's stop, and that
comes after the worker's last look at the hand-off. So the worker has had its answer from a
hand-off that was open: the first event sent, or none in time.
-/
namespace OpenUrl

namespace Desktop

/-- The main thread is on its way out of a run that was asked to stop. -/
def Place.isFinishing : Place → Bool
  | removing _ _ .finished | freeing _ _ .finished | leaving _ _ .finished | reporting _
  | concluding .finished => true
  | _ => false

variable {σ : Type} {h : Host σ}

/-- A run finishes only when it is found to have been asked to stop. -/
theorem Leads.finishing {pl pl' : Place} {p p' : State} {s s' : σ} (hl : Leads h pl p s pl' p' s')
    (hp : pl'.isFinishing = true) : pl.isFinishing = true ∨
      ∃ b guard, pl = .within b guard none [] .loop ∧ p.stopRequested b = true := by
  cases hl with
  | stopped hstop => exact .inr ⟨_, _, rfl, hstop⟩
  | @unwind _ _ _ _ _ t => cases t <;> simp [Place.unwinding, Place.isFinishing] at hp
  | @remove _ _ _ _ e | @free _ _ _ _ e | @leave _ _ _ _ e =>
    cases e with
    | finished => exact .inl rfl
    | _ => simp [Place.left, Place.isFinishing] at hp
  | report => exact .inl rfl
  | _ => simp [Place.isFinishing] at hp

end Desktop

open OpenUrl.Desktop

namespace Listening

@[simp] theorem worker_setState (l : Listening) (p : State) : (l.setState p).worker = l.worker :=
  rfl

@[simp] theorem main_setState (l : Listening) (p : State) : (l.setState p).main = l.main := rfl

@[simp] theorem host_setState (l : Listening) (p : State) :
    (l.setState p).machine.host = l.machine.host := rfl

@[simp] theorem worker_setHandoff (l : Listening) (h : Handoff) :
    (l.setHandoff h).worker = l.worker := rfl

@[simp] theorem main_setHandoff (l : Listening) (h : Handoff) : (l.setHandoff h).main = l.main :=
  rfl

@[simp] theorem host_setHandoff (l : Listening) (h : Handoff) :
    (l.setHandoff h).machine.host = h := rfl

@[simp] theorem worker_dropBridge (l : Listening) (next : Main) :
    (l.dropBridge next).1.worker = l.worker := rfl

@[simp] theorem main_dropBridge (l : Listening) (next : Main) :
    (l.dropBridge next).1.main = next := rfl

@[simp] theorem host_dropBridge (l : Listening) (next : Main) :
    (l.dropBridge next).1.machine.host = l.machine.host.dropSender := rfl

@[simp] theorem host_start (m : Machine Handoff) (b : Nat) (onMain : Bool) :
    (m.start b onMain).host = m.host := rfl

/-- The event with which a move calls back. -/
def received? (l : Listening) : Move → Option Event
  | .main => l.machine.received? .main
  | _ => none

/-- The events with which listening has called back, in their order. -/
def heard (past : List (Listening × Move)) : List Event := recorded received? past

/-- How the start of the bridge has ended, if it has just returned. -/
def Main.startEnding? : Main → Option Desktop.Ending
  | leaving e => some e
  | _ => none

@[simp] theorem Main.startEnding?_eq_some {n : Main} {e : Desktop.Ending} :
    n.startEnding? = some e ↔ n = .leaving e := by
  cases n <;> simp [startEnding?]

/-- The start of the bridge has returned. -/
def StartEnded (e : Desktop.Ending) (past : List (Listening × Move)) : Prop :=
  ∃ s ∈ past, s.1.main.startEnding? = some e

instance (e : Desktop.Ending) (past : List (Listening × Move)) : Decidable (StartEnded e past) :=
  inferInstanceAs (Decidable (∃ s ∈ past, _))

/-- What the worker returns, when that has been settled. -/
def Worker.result? : Worker → Option Probe.Hearing
  | stopping r | closing r | done r => some r
  | absent | starting | polling | doubting | sleeping _ | ready | waiting _ _ => none

/-- The worker waits at the hand-off. -/
def Worker.isWaiting : Worker → Bool
  | waiting _ _ => true
  | _ => false

/-- The worker has not dropped the receiver. -/
def Worker.isThere : Worker → Bool
  | absent | done _ => false
  | _ => true

/-- The main thread has not dropped the sender. -/
def Main.holds : Main → Bool
  | joining | ended _ => false
  | _ => true

/-- At the worker's last look at the hand-off no event had been sent. -/
def TimedOut (past : List (Listening × Move)) : Prop :=
  ∃ before k after, past = after ++ (k, .worker) :: before ∧ k.worker.isWaiting = true ∧
    heard before = [] ∧ ∀ s ∈ after, s.1.worker.isWaiting = false

/-- The run of the bridge is finishing, or has finished, because it was asked to stop. -/
def Finishes (l : Listening) (pl : Place) : Prop :=
  match l.main with
  | .running => pl.isFinishing = true ∨ l.machine.ending = some .finished
  | .leaving .finished | .joining => True
  | _ => False

/-- How the worker has come to what it returns. -/
inductive Explains (past : List (Listening × Move)) (l : Listening) : Probe.Hearing → Prop
  | event {e} : (heard past).head? = some e → Explains past l (.ok e)
  | timeout : TimedOut past → Explains past l (.error (.wait .waitTimeout))
  | closed : ¬ Stopped past → l.machine.host.senders = 0 →
      Explains past l (.error (.wait .channelClosed))
  | runtime {reason} : ¬ Stopped past → l.worker.isOver = true →
      Explains past l (.error (.runtime reason))

/-- What holds at every moment of listening of the hand-off and of the worker's answer. -/
structure Answers (past : List (Listening × Move)) (l : Listening) (pl : Place) : Prop where
  sits : l.Sits pl
  running : ¬ Stopped past → pl.Running l.state
  stopped : Stopped past → l.worker.isOver = true
  finishes : l.Finishes pl → Stopped past
  receiver : l.worker.isThere = true ∨ l.main = .entering ∨ l.main = .created →
    l.machine.host.receiver = true
  queue : l.worker.result? = none → l.machine.host.receiver = true →
    l.machine.host.queue = heard past
  senders : l.main.holds = true → l.machine.host.senders = 1
  result : ∀ r, l.worker.result? = some r → l.Explains past r
  ended : ∀ e, StartEnded e past → l.main = .leaving e ∨ l.main = .after e ∨
    e = .finished ∧ ∃ r, l.main = .ended (.heard r) ∧ l.worker = .done r
  finished : StartEnded .finished past → Stopped past

variable {l k : Listening} {pl pl' : Place} {m : Move} {past : List (Listening × Move)}

theorem heard_cons (l : Listening) (m : Move) (past : List (Listening × Move)) :
    heard ((l, m) :: past) = heard past ++ (l.received? m).toList :=
  recorded_cons received? l m past

theorem startEnded_cons {e : Desktop.Ending} :
    StartEnded e ((l, m) :: past) ↔ l.main = .leaving e ∨ StartEnded e past := by
  simp [StartEnded]

/-- Nothing is received while the main thread is away. -/
theorem Sits.received?_away (hs : l.Sits .away) (m : Move) : l.received? m = none := by
  cases m with
  | main =>
    have hcall := hs.place.call?
    change l.machine.call?.bind Call.entering? = none
    rw [hcall]
    rfl
  | _ => rfl

theorem Sits.received?_eq (hs : l.Sits pl) :
    l.received? .main = (pl.call? l.state).bind Call.entering? :=
  congrArg (Option.bind · Call.entering?) hs.place.call?

/-- A task of the main thread sends what the callback receives. -/
theorem Sits.host_of_task (hs : l.Sits pl) {n : Machine Handoff} {v : Visible}
    (hstep : l.machine.step? Handoff.callback = some (n, v)) :
    n.host = Handoff.callback.after l.machine.host (l.received? .main).toList := by
  have hmove : l.machine.move? Handoff.callback .main = some (n, v) := hstep
  obtain ⟨pl', hmoves⟩ := hs.place.moves Handoff.silent_callback.onlyStops hmove
  cases hmoves with
  | main hl =>
    rw [hs.received?_eq]
    exact hl.host_eq hs.place.fits

/-- A step that is not a task of the start receives nothing. -/
theorem Goes.received?_eq_none (hg : l.Goes m k) (hs : l.Sits pl)
    (hne : m = .main → l.main ≠ .running) : l.received? m = none := by
  cases m with
  | main =>
    obtain rfl := hs.busy (hne rfl)
    exact hs.received?_away .main
  | _ => rfl

theorem Goes.isOver (hg : l.Goes m k) (hs : l.Sits pl) (hl : l.worker.isOver = true) :
    k.worker.isOver = true := by
  cases hg with
  | spawn hm =>
    rw [hs.early (.inr hm)] at hl
    simp [Worker.isOver] at hl
  | noRuntime | stop | close => rfl
  | note hw | see hw | doubt hw | sleep hw | giveUp hw | wake hw | wait hw | hear hw | miss hw
  | timeOut hw => simp [hw, Worker.isOver] at hl
  | _ => exact hl

/-- Only the main thread comes to another place. -/
theorem Passes.eq_of_ne (hp : l.Passes pl m k pl') (hm : m ≠ .main) : pl' = pl := by
  cases hp with
  | start | task => exact absurd rfl hm
  | stop | aside => rfl

theorem Goes.main_of_leaving {e : Desktop.Ending} (hg : l.Goes m k) (hm : l.main = .leaving e) :
    k.main = .leaving e ∨ k.main = .after e := by
  cases hg with
  | leave hm' =>
    obtain rfl : e = _ := Main.leaving.inj (hm.symm.trans hm')
    exact .inr rfl
  | create hm' | refuse hm' | spawn hm' | start hm' | task hm' | finish hm' | retreat hm'
  | join hm' | noThread _ hm' => simp [hm] at hm'
  | _ => exact .inl hm

theorem Goes.main_of_joining (hg : l.Goes m k) (hm : l.main = .joining) :
    k.main = .joining ∨ ∃ r, k.main = .ended (.heard r) ∧ k.worker = .done r := by
  cases hg with
  | join _ hw => exact .inr ⟨_, rfl, hw⟩
  | create hm' | refuse hm' | spawn hm' | start hm' | task hm' | finish hm' | leave hm'
  | retreat hm' | noThread _ hm' => simp [hm] at hm'
  | _ => exact .inl hm

theorem Goes.main_of_ended {o : Ending} (hg : l.Goes m k) (hm : l.main = .ended o) :
    k.main = .ended o := by
  cases hg with
  | create hm' | refuse hm' | spawn hm' | start hm' | task hm' | finish hm' | leave hm'
  | retreat hm' | join hm' | noThread _ hm' => simp [hm] at hm'
  | _ => exact hm

/-- A sender that is gone stays so. -/
theorem Goes.senders_eq_zero (hg : l.Goes m k) (hs : l.Sits pl)
    (hl : l.machine.host.senders = 0) : k.machine.host.senders = 0 := by
  cases hg with
  | task _ hstep =>
    rw [hs.host_of_task hstep, Handoff.after_callback]
    split_ifs <;> exact hl
  | leave | retreat => simp [Handoff.dropSender, hl]
  | hear _ hlook =>
    rw [host_setHandoff, (Handoff.look_eq_event.mp hlook).2]
    exact hl
  | miss _ hlook =>
    rw [host_setHandoff, (Handoff.look_eq_closed.mp hlook).2.2]
    exact hl
  | _ => exact hl

theorem Worker.not_waiting_of_result? {w : Worker} {r : Probe.Hearing} (hw : w.result? = some r) :
    w.isWaiting = false := by
  cases w <;> first | rfl | simp [result?] at hw

theorem Worker.not_waiting_of_isOver {w : Worker} (hw : w.isOver = true) :
    w.isWaiting = false ∧ w ≠ .ready ∧ ∀ r, w ≠ .stopping r := by
  cases w <;> simp_all [isOver, isWaiting]

/-- What a worker returns that has not stopped a running bridge. -/
theorem not_stopped_cons (hnot : ¬ Stopped past)
    (hw : (∀ r, l.worker ≠ .stopping r) ∨ l.state.isRunning l.bridge = false) (m : Move) :
    ¬ Stopped ((l, m) :: past) := by
  rw [stopped_cons, not_or]
  refine ⟨?_, hnot⟩
  rintro ⟨-, ⟨r, hr⟩, hrun⟩
  rcases hw with hw | hw
  · exact hw r hr
  · simp [hw] at hrun

namespace Answers

theorem step_stopped (ha : Answers past l pl) (hg : l.Goes m k) (hstop : Stopped ((l, m) :: past)) :
    k.worker.isOver = true := by
  rcases stopped_cons.mp hstop with ⟨rfl, ⟨r, hw⟩, -⟩ | hstop
  · cases hg with
    | stop => rfl
    | note h | see h | doubt h | sleep h | giveUp h | wake h | wait h | hear h | miss h
    | timeOut h | close h => simp [hw] at h
  · exact hg.isOver ha.sits (ha.stopped hstop)

theorem step_finishes (ha : Answers past l pl) (hg : l.Goes m k) (hp : l.Passes pl m k pl')
    (hk : k.Finishes pl') : Stopped ((l, m) :: past) := by
  have hstays (h : l.Finishes pl) : Stopped ((l, m) :: past) :=
    stopped_cons.mpr (.inr (ha.finishes h))
  cases hg with
  | create | refuse | spawn | retreat | join | noThread => exact hk.elim
  | start hm =>
    cases hp with
    | start => simp [Finishes, Machine.start, Place.isFinishing] at hk
    | task hrun | aside hrun => simp [hm] at hrun
  | @task n v hm hstep =>
    have hmove : l.machine.move? Handoff.callback .main = some (n, v) := hstep
    obtain ⟨pl₁, hmoves⟩ := ha.sits.place.moves Handoff.silent_callback.onlyStops hmove
    simp only [Finishes, hm] at hk
    rcases hk with hk | hk
    · cases hp with
      | start hm' => simp [hm] at hm'
      | task _ _ hleads =>
        rcases hleads.finishing hk with hk | ⟨b, guard, rfl, hstop⟩
        · exact hstays (by simp [Finishes, hm, hk])
        · -- nobody but the worker asks the bridge to stop
          by_contra hnot
          have hrun := ha.running (fun h => hnot (stopped_cons.mpr (.inr h))) _ rfl
          rw [State.isRunning_of_stopRequested hstop] at hrun
          simp at hrun
      | aside => exact hstays (by simp [Finishes, hm, hk])
    · cases hmoves with
      | main hleads =>
        refine hstays ?_
        simp only [Finishes, hm]
        cases pl with
        | concluding e =>
          obtain rfl : e = .finished := by simpa [Place.ending?] using hk
          exact .inl rfl
        | _ => exact .inr hk
  | @finish e hm hagenda hending =>
    cases e with
    | finished => exact hstays (by simp [Finishes, hm, hending])
    | _ => exact hk.elim
  | @leave e hm =>
    cases e with
    | finished => exact hstays (by simp [Finishes, hm])
    | _ => exact hk.elim
  | _ =>
    obtain rfl := hp.eq_of_ne (by simp)
    exact hstays hk

theorem step_receiver (ha : Answers past l pl) (hg : l.Goes m k)
    (hk : k.worker.isThere = true ∨ k.main = .entering ∨ k.main = .created) :
    k.machine.host.receiver = true := by
  have hl := ha.receiver
  cases hg with
  | create hm => exact hl (.inr (.inl hm))
  | spawn hm => exact hl (.inr (.inr hm))
  | task hm hstep =>
    have hthere : l.worker.isThere = true := by simpa [hm] using hk
    rw [ha.sits.host_of_task hstep, Handoff.after_callback, if_pos (hl (.inl hthere))]
    exact hl (.inl hthere)
  | refuse hm | noThread _ hm =>
    have hworker := ha.sits.early (by simp [hm])
    simp [hworker, Worker.isThere] at hk
  | start hm | finish hm | join hm => exact hl (.inl (by simpa [hm] using hk))
  | @leave e hm => exact hl (.inl (by cases e <;> simpa [Main.after] using hk))
  | retreat hm => exact hl (.inl (by simpa using hk))
  | hear hw hlook =>
    rw [host_setHandoff, (Handoff.look_eq_event.mp hlook).2]
    exact hl (.inl (by simp [hw, Worker.isThere]))
  | miss hw hlook =>
    rw [host_setHandoff, (Handoff.look_eq_closed.mp hlook).2.2]
    exact hl (.inl (by simp [hw, Worker.isThere]))
  | close hw =>
    have hearly := ha.sits.early
    rcases hk with hk | hk
    · simp [Worker.isThere] at hk
    · simp [hearly hk] at hw
  | tick | slot => exact hl hk
  | noRuntime _ hw | note hw | see hw | doubt hw | sleep hw | giveUp hw | wake hw | wait hw
  | timeOut hw | stop hw => exact hl (.inl (by simp [hw, Worker.isThere]))

theorem step_queue (ha : Answers past l pl) (hg : l.Goes m k) (hr : k.worker.result? = none)
    (hthere : k.machine.host.receiver = true) :
    k.machine.host.queue = heard ((l, m) :: past) := by
  have hl := ha.queue
  have hnone (hne : m = .main → l.main ≠ .running) : heard ((l, m) :: past) = heard past := by
    rw [heard_cons, hg.received?_eq_none ha.sits hne]
    exact List.append_nil _
  cases hg with
  | task hm hstep =>
    rw [ha.sits.host_of_task hstep, Handoff.after_callback] at hthere ⊢
    split_ifs at hthere ⊢ with hreceiver
    · rw [heard_cons, hl hr hreceiver]
    · exact absurd hthere hreceiver
  | finish hm hagenda =>
    obtain rfl := Place.agenda_eq_nil (ha.sits.place.agenda.symm.trans hagenda)
    rw [heard_cons, ha.sits.received?_away]
    exact (hl hr hthere).trans (List.append_nil _).symm
  | spawn hm =>
    rw [hnone (by simp [hm])]
    exact hl (by rw [ha.sits.early (.inr hm)]; rfl) hthere
  | create hm | refuse hm | start hm | leave hm | retreat hm | join hm =>
    rw [hnone (by simp [hm])]
    exact hl hr hthere
  | noThread => simp at hthere
  | noRuntime | hear | miss | timeOut | stop | close => simp [Worker.result?] at hr
  | note hw | see hw | doubt hw | sleep hw | giveUp hw | wake hw | wait hw =>
    rw [hnone (by simp)]
    exact hl (by simp [hw, Worker.result?]) hthere
  | tick | slot =>
    rw [hnone (by simp)]
    exact hl hr hthere

theorem step_senders (ha : Answers past l pl) (hg : l.Goes m k) (hk : k.main.holds = true) :
    k.machine.host.senders = 1 := by
  have hl := ha.senders
  cases hg with
  | task hm hstep =>
    rw [ha.sits.host_of_task hstep, Handoff.after_callback]
    split_ifs <;> exact hl (by simp [hm, Main.holds])
  | create hm | spawn hm | start hm | finish hm | noThread _ hm =>
    exact hl (by simp [hm, Main.holds])
  | refuse | join | retreat => simp [Main.holds] at hk
  | @leave e => cases e <;> simp [Main.after, Main.holds] at hk
  | hear _ hlook =>
    rw [host_setHandoff, (Handoff.look_eq_event.mp hlook).2]
    exact hl hk
  | miss _ hlook =>
    rw [host_setHandoff, (Handoff.look_eq_closed.mp hlook).2.2]
    exact hl hk
  | _ => exact hl hk

/-- The explanation of what the worker returns stays. -/
theorem step_explains (ha : Answers past l pl) (hg : l.Goes m k) {r : Probe.Hearing}
    (hr : l.worker.result? = some r) : k.Explains ((l, m) :: past) r := by
  cases ha.result r hr with
  | event hhead =>
    refine .event ?_
    rw [heard_cons, List.head?_append, hhead]
    rfl
  | timeout htime =>
    obtain ⟨before, n, after, rfl, hwaiting, hnone, hafter⟩ := htime
    refine .timeout ⟨before, n, (l, m) :: after, rfl, hwaiting, hnone, ?_⟩
    intro s hs
    rcases List.mem_cons.mp hs with rfl | hs
    · exact Worker.not_waiting_of_result? hr
    · exact hafter s hs
  | closed hnot hzero =>
    refine .closed (not_stopped_cons hnot (.inr ?_) m) (hg.senders_eq_zero ha.sits hzero)
    -- the bridge has been dropped
    have hmain : l.main ≠ .running := by
      intro hm
      have hone := ha.senders (by simp [hm, Main.holds])
      omega
    obtain rfl := ha.sits.busy hmain
    rw [Bool.eq_false_iff]
    intro hrun
    obtain ⟨guard, call, hpl⟩ := ha.sits.place.fits.run_of_isRunning hrun
    simp [Place.run?] at hpl
  | runtime hnot hover =>
    obtain ⟨-, -, hstop⟩ := Worker.not_waiting_of_isOver hover
    exact .runtime (not_stopped_cons hnot (.inl hstop) m) (hg.isOver ha.sits hover)

/-- A worker that waits looks at all that has been sent, and has not stopped the bridge. -/
theorem of_waiting (ha : Answers past l pl) (hw : l.worker.isWaiting = true) :
    l.machine.host.queue = heard past ∧ ¬ Stopped past := by
  cases hworker : l.worker with
  | waiting time wake =>
    refine ⟨ha.queue (by rw [hworker]; rfl) (ha.receiver (.inl (by rw [hworker]; rfl))), ?_⟩
    intro hstop
    obtain ⟨hnot, -⟩ := Worker.not_waiting_of_isOver (ha.stopped hstop)
    simp [hw] at hnot
  | _ => simp [hworker, Worker.isWaiting] at hw

theorem step_result (ha : Answers past l pl) (hg : l.Goes m k) {r : Probe.Hearing}
    (hr : k.worker.result? = some r) : k.Explains ((l, m) :: past) r := by
  by_cases hl : l.worker.result? = some r
  · exact ha.step_explains hg hl
  -- what the worker returns is settled now
  cases hg with
  | hear hw hlook =>
    obtain rfl := by simpa [Worker.result?] using hr
    obtain ⟨hqueue, -⟩ := ha.of_waiting (by rw [hw]; rfl)
    obtain ⟨hevent, -⟩ := Handoff.look_eq_event.mp hlook
    refine .event ?_
    rw [heard_cons, ← hqueue, hevent]
    rfl
  | miss hw hlook =>
    obtain rfl := by simpa [Worker.result?] using hr
    obtain ⟨-, hnot⟩ := ha.of_waiting (by rw [hw]; rfl)
    obtain ⟨-, hzero, rfl⟩ := Handoff.look_eq_closed.mp hlook
    exact .closed (not_stopped_cons hnot (.inl (by simp [hw])) .worker) hzero
  | timeOut hw hlook =>
    obtain rfl := by simpa [Worker.result?] using hr
    obtain ⟨hqueue, -⟩ := ha.of_waiting (by rw [hw]; rfl)
    obtain ⟨hempty, -⟩ := Handoff.look_eq_pending.mp hlook
    exact .timeout ⟨past, l, [], rfl, by rw [hw]; rfl, hqueue.symm.trans hempty, by simp⟩
  | noRuntime reason hw =>
    obtain rfl := by simpa [Worker.result?] using hr
    have hnot : ¬ Stopped past := by
      intro hstop
      obtain ⟨-, hready, -⟩ := Worker.not_waiting_of_isOver (ha.stopped hstop)
      exact hready hw
    exact .runtime (not_stopped_cons hnot (.inl (by simp [hw])) _) rfl
  | stop hw | close hw => exact absurd (by rw [hw]; exact hr) hl
  | spawn | note | see | doubt | sleep | giveUp | wake | wait => simp [Worker.result?] at hr
  | _ => exact absurd hr hl

theorem step_ended (ha : Answers past l pl) (hg : l.Goes m k) {e : Desktop.Ending}
    (he : StartEnded e ((l, m) :: past)) :
    k.main = .leaving e ∨ k.main = .after e ∨
      e = .finished ∧ ∃ r, k.main = .ended (.heard r) ∧ k.worker = .done r := by
  have hcases : l.main = .leaving e ∨ l.main = .after e ∨
      e = .finished ∧ ∃ r, l.main = .ended (.heard r) ∧ l.worker = .done r := by
    rcases startEnded_cons.mp he with hm | he
    · exact .inl hm
    · exact ha.ended e he
  rcases hcases with hm | hm | ⟨rfl, r, hm, hw⟩
  · rcases hg.main_of_leaving hm with hk | hk
    · exact .inl hk
    · exact .inr (.inl hk)
  · cases e with
    | finished =>
      rcases hg.main_of_joining hm with hk | hk
      · exact .inr (.inl hk)
      · exact .inr (.inr ⟨rfl, hk⟩)
    | _ => exact .inr (.inl (hg.main_of_ended hm))
  · exact .inr (.inr ⟨rfl, r, hg.main_of_ended hm, (hg.of_done ha.sits hw).1⟩)

theorem step_finished (ha : Answers past l pl) (he : StartEnded .finished ((l, m) :: past)) :
    Stopped ((l, m) :: past) := by
  refine stopped_cons.mpr (.inr ?_)
  rcases startEnded_cons.mp he with hm | he
  · exact ha.finishes (by simp [Finishes, hm])
  · exact ha.finished he

theorem step_running (ha : Answers past l pl) (hp : l.Passes pl m k pl')
    (hnot : ¬ Stopped ((l, m) :: past)) : pl'.Running k.state := by
  rw [stopped_cons, not_or] at hnot
  exact hp.running ha.sits (ha.running hnot.2) hnot.1

theorem step (ha : Answers past l pl) (hg : l.Goes m k) :
    ∃ pl', Answers ((l, m) :: past) k pl' := by
  obtain ⟨pl', hs, hp⟩ := hg.sits ha.sits
  exact ⟨pl', hs, ha.step_running hp, ha.step_stopped hg, ha.step_finishes hg hp,
    ha.step_receiver hg, ha.step_queue hg, ha.step_senders hg, fun _ => ha.step_result hg,
    fun _ => ha.step_ended hg, ha.step_finished⟩

theorem start {p : State} (hp : p.AtRest) (hq : p.Quiet) (s : Settings) (onMain : Bool) :
    Answers [] (enter p s onMain) .away := by
  refine ⟨sits_enter hp hq s onMain, ?_, ?_, ?_, fun _ => rfl, fun _ _ => rfl, fun _ => rfl, ?_,
    ?_, ?_⟩
  · simp [Place.Running, Place.run?]
  · simp [Stopped]
  · exact fun h => h.elim
  · simp [enter, Worker.result?]
  · simp [StartEnded]
  · simp [StartEnded]

theorem of_trail {p : State} (hp : p.AtRest) (hq : p.Quiet) {s : Settings} {onMain : Bool}
    (ht : Trail move? (enter p s onMain) past l) : ∃ pl, Answers past l pl := by
  induction ht with
  | start => exact ⟨.away, start hp hq s onMain⟩
  | step _ hm ih =>
    obtain ⟨pl, ha⟩ := ih
    exact ha.step (goes_of_move? hm)

end Answers

/-- What listening answers, when the start of its bridge has returned: after a start that has
finished, the first event that the callback received, or that none came in time, if none had come
at the worker's last look; after a start that has failed, its failure. -/
theorem answer_of_start {p : State} (hp : p.AtRest) (hq : p.Quiet) {s : Settings} {onMain : Bool}
    (ht : Trail move? (enter p s onMain) past l) :
    (StartEnded .finished past → ∀ o, l.main = .ended o →
      (∃ e, o = .heard (.ok e) ∧ (heard past).head? = some e) ∨
        o = .heard (.error (.wait .waitTimeout)) ∧ TimedOut past) ∧
    (∀ f, StartEnded (.failed f) past →
      l.main = .leaving (.failed f) ∨ l.main = .ended (.heard (.error (.start f)))) ∧
    ∀ e, l.main = .leaving e →
      ∃ k notices, l.move? .main = some (k, notices) ∧ k.main = .after e := by
  obtain ⟨pl, ha⟩ := Answers.of_trail hp hq ht
  refine ⟨?_, ?_, ?_⟩
  · intro he o ho
    have hended : ∃ r, o = .heard r ∧ l.worker = .done r := by
      rcases ha.ended .finished he with hm | hm | ⟨-, r, hm, hw⟩
      · simp [ho] at hm
      · simp [ho, Main.after] at hm
      · exact ⟨r, Main.ended.inj (ho.symm.trans hm), hw⟩
    obtain ⟨r, rfl, hw⟩ := hended
    cases ha.result r (by rw [hw]; rfl) with
    | event hhead => exact .inl ⟨_, rfl, hhead⟩
    | timeout htime => exact .inr ⟨rfl, htime⟩
    | closed hnot | runtime hnot => exact absurd (ha.finished he) hnot
  · intro f he
    rcases ha.ended _ he with hm | hm | ⟨hf, -⟩
    · exact .inl hm
    · exact .inr hm
    · simp at hf
  · intro e hm
    refine ⟨(l.dropBridge (.after e)).1, (l.dropBridge (.after e)).2, ?_, rfl⟩
    simp only [move?, mainStep?, hm]
    cases e <;> rfl

/-- Two events come with one look at the event queue; the worker waits and hears the first. -/
theorem answer_of_start_first_of_two : ∃ past l o,
    Trail move? (enter ((State.fresh .idles).set
      ⟨true, [], [.batch [.ofEvent ⟨"u", 7⟩, .ofEvent ⟨"v", 8⟩]], none⟩) .default true) past l ∧
      StartEnded .finished past ∧ l.main = .ended o ∧ o = .heard (.ok ⟨"u", 7⟩) ∧
      heard past = [⟨"u", 7⟩, ⟨"v", 8⟩] ∧
      ((∃ e, o = .heard (.ok e) ∧ (heard past).head? = some e) ∨
        o = .heard (.error (.wait .waitTimeout)) ∧ TimedOut past) := by
  have ht : Trail move? (enter ((State.fresh .idles).set
      ⟨true, [], [.batch [.ofEvent ⟨"u", 7⟩, .ofEvent ⟨"v", 8⟩]], none⟩) .default true) _ _ :=
    Trail.of_isSome ([.main, .main, .worker, .main, .main, .worker, .worker] ++
      List.replicate 21 .main ++ [.worker, .worker, .worker] ++ List.replicate 10 .main)
      (by decide +kernel)
  have hanswer := (answer_of_start ((State.atRest_fresh .idles).set _) (by decide) ht).1
  exact ⟨_, _, _, ht, by decide +kernel, rfl, rfl, by decide +kernel,
    hanswer (by decide +kernel) _ rfl⟩

end Listening

end OpenUrl
