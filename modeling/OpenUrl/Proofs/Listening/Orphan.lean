import OpenUrl.Proofs.Desktop.Sound
import OpenUrl.Proofs.Listening.Thread
import OpenUrl.Proofs.Trail

/-!
# Runs that nobody stops any more

Only the worker of listening stops the bridge, and it does so once. A stop that comes before the
begin of the run has no effect, so the run that begins later is an orphan: nothing ends it, and
listening never returns. `orphan_iff` says when that happens.
-/
namespace OpenUrl.Listening

open OpenUrl.Desktop

/-- The worker waits no longer for the bridge to run. -/
def Worker.isReady : Worker → Bool
  | ready | waiting _ _ | stopping _ | closing _ | done _ => true
  | absent | starting | polling | doubting | sleeping _ => false

/-- The worker has made its stop, or has given up without one. -/
def Worker.isOver : Worker → Bool
  | closing _ | done _ => true
  | _ => false

/-- The main thread has come to the start of the bridge. -/
def Main.started : Main → Bool
  | entering | created | spawned => false
  | _ => true

/-- The worker stops a bridge that runs. -/
def stops (l : Listening) : Move → Bool
  | .worker =>
    match l.worker with
    | .stopping _ => l.state.isRunning l.bridge
    | _ => false
  | _ => false

/-- The worker comes to its deadline before it has seen the bridge running, or it has nothing to
wait with. -/
def givesUp (l : Listening) : Move → Bool
  | .worker =>
    match l.worker with
    | .doubting => l.deadline ≤ l.clock
    | _ => false
  | .noRuntime _ => true
  | _ => false

/-- The worker's stop has found the bridge running. -/
def Stopped (past : List (Listening × Move)) : Prop := ∃ s ∈ past, s.1.stops s.2 = true

def GaveUp (past : List (Listening × Move)) : Prop := ∃ s ∈ past, s.1.givesUp s.2 = true

instance (past : List (Listening × Move)) : Decidable (Stopped past) :=
  inferInstanceAs (Decidable (∃ s ∈ past, _))

instance (past : List (Listening × Move)) : Decidable (GaveUp past) :=
  inferInstanceAs (Decidable (∃ s ∈ past, _))

/-- The run of the bridge has not begun yet, or lasts. -/
def Ahead (l : Listening) : Prop :=
  l.main = .spawned ∨ l.main = .running ∧ (l.machine.agenda = [.begin l.bridge true] ∨
    ∃ g, l.state.gate? l.bridge = some g ∧ g.lifecycle.phase ≠ .idle)

/-- The bridge runs, now or later. -/
def CanRun (l : Listening) : Prop :=
  ∃ later k, Trail move? l later k ∧ k.state.isRunning k.bridge = true

variable {l k : Listening} {pl pl' : Place} {m : Move} {past : List (Listening × Move)}

theorem stops_iff : l.stops m = true ↔
    m = .worker ∧ (∃ r, l.worker = .stopping r) ∧ l.state.isRunning l.bridge = true := by
  cases m with
  | worker => cases hw : l.worker <;> simp [stops, hw]
  | _ => simp [stops]

theorem givesUp_iff : l.givesUp m = true ↔
    (m = .worker ∧ l.worker = .doubting ∧ l.deadline ≤ l.clock) ∨
      ∃ reason, m = .noRuntime reason := by
  cases m with
  | worker => cases hw : l.worker <;> simp [givesUp, hw]
  | _ => simp [givesUp]

theorem stopped_cons : Stopped ((l, m) :: past) ↔
    (m = .worker ∧ (∃ r, l.worker = .stopping r) ∧ l.state.isRunning l.bridge = true) ∨
      Stopped past := by
  simp [Stopped, stops_iff]

theorem gaveUp_cons : GaveUp ((l, m) :: past) ↔
    ((m = .worker ∧ l.worker = .doubting ∧ l.deadline ≤ l.clock) ∨
      ∃ reason, m = .noRuntime reason) ∨ GaveUp past := by
  simp [GaveUp, givesUp_iff]

theorem Goes.started (hg : l.Goes m k) (hl : l.main.started = true) : k.main.started = true := by
  cases hg with
  | create hm | refuse hm | spawn hm | start hm | noThread _ hm =>
    rw [hm] at hl
    simp [Main.started] at hl
  | @leave e => cases e <;> rfl
  | finish | retreat | join => rfl
  | _ => exact hl

theorem Goes.ready (hg : l.Goes m k) (hk : k.worker.isReady = true) :
    l.worker.isReady = true ∨ (l.worker = .polling ∧ l.state.isRunning l.bridge = true) ∨
      m = .worker ∧ l.worker = .doubting ∧ l.deadline ≤ l.clock := by
  cases hg with
  | see hw hr => exact .inr (.inl ⟨hw, hr⟩)
  | giveUp hw hle => exact .inr (.inr ⟨rfl, hw, hle⟩)
  | spawn | note | doubt | sleep | wake => simp [Worker.isReady] at hk
  | wait hw | noRuntime _ hw | hear hw | miss hw | timeOut hw | stop hw | close hw =>
    rw [hw]
    exact .inl rfl
  | _ => exact .inl hk

theorem Goes.closing (hg : l.Goes m k) (hk : k.worker.isOver = true) :
    l.worker.isOver = true ∨ (∃ reason, m = .noRuntime reason) ∨
      ∃ r, m = .worker ∧ l.worker = .stopping r := by
  cases hg with
  | noRuntime reason => exact .inr (.inl ⟨reason, rfl⟩)
  | stop hw => exact .inr (.inr ⟨_, rfl, hw⟩)
  | close hw =>
    rw [hw]
    exact .inl rfl
  | spawn | note | see | doubt | sleep | giveUp | wake | wait | hear | miss | timeOut =>
    simp [Worker.isOver] at hk
  | _ => exact .inl hk

/-- Without a stop, the main thread does not come out of a run that it was in. -/
def Held (l : Listening) (pl : Place) : Prop :=
  match l.main with
  | .entering | .created | .spawned => True
  | .running => pl.isOver = false
  | .leaving _ | .joining => False
  | .retreating _ | .ended _ => l.worker = .absent

theorem Held.of_worker (hl : l.Held pl) (hw : l.worker ≠ .absent) (hm : k.main = l.main) :
    k.Held pl := by
  unfold Held at hl ⊢
  rw [hm]
  split at hl <;> first | exact hl | exact absurd hl hw

theorem Goes.held (hg : l.Goes m k) (hs : l.Sits pl) (hl : l.Held pl)
    (hrun : k.main = .running → l.main = .running) : k.Held pl := by
  cases hg with
  | create | spawn => trivial
  | refuse hm => exact hs.early (.inl hm)
  | noThread _ hm => exact hs.early (.inr hm)
  | start hm => simp [hm] at hrun
  | task hm =>
    simp only [Held, hm] at hl ⊢
    exact hl
  | finish hm ha =>
    obtain rfl := Place.agenda_eq_nil (hs.place.agenda.symm.trans ha)
    simp [Held, hm, Place.isOver] at hl
  | leave hm | join hm => simp [Held, hm] at hl
  | retreat hm =>
    simp only [Held, hm] at hl
    exact hl
  | tick | slot => exact hl
  -- a worker that takes a step is there
  | noRuntime _ hw => exact hl.of_worker (by simp [hw]) rfl
  | note hw | see hw | doubt hw | sleep hw | giveUp hw | wake hw | wait hw | hear hw | miss hw
  | timeOut hw | stop hw | close hw => exact hl.of_worker (by simp [hw]) rfl

/-- The run of the bridge will not come again, and does not last. -/
def Spent (l : Listening) (pl : Place) : Prop := l.main.started = true ∧ pl.Halted l.state

theorem Spent.step (hl : l.Spent pl) (hs : l.Sits pl) (hg : l.Goes m k)
    (hp : l.Passes pl m k pl') : k.Spent pl' := by
  refine ⟨hg.started hl.1, ?_⟩
  cases hp with
  | start hm =>
    have hstarted := hl.1
    simp [hm, Main.started] at hstarted
  | task _ _ hleads => exact hleads.halted hl.2
  | stop _ _ hstate =>
    refine ⟨hl.2.begun, fun r hr => ?_⟩
    rw [hstate, State.isRunning_stop]
    split_ifs
    · rfl
    · exact hl.2.stopped r hr
  | aside _ _ hgates =>
    refine ⟨hl.2.begun, fun r hr => ?_⟩
    rw [hs.place.fits.isRunning_congr hr hgates]
    exact hl.2.stopped r hr

/-- What holds at every moment of listening in the process `p`. Whether the run goes on is told by
whether the worker's stop has found it: until then the bridge of the run runs, from then on it does
not. -/
structure Listens (p : State) (past : List (Listening × Move)) (l : Listening) (pl : Place) :
    Prop where
  sits : l.Sits pl
  onMain : l.onMain = true
  running : ¬ Stopped past → pl.Running l.state
  stopped : Stopped past → l.Spent pl
  ready : l.worker.isReady = true → ¬ GaveUp past →
    l.main.started = true ∧ ∀ b, pl ≠ .beginning b true
  spent : l.worker.isOver = true → ¬ GaveUp past → l.Spent pl
  held : p.managerThere = true → p.launching ≠ .poisoned →
    ((∃ b, pl.Sound b) ∧ l.state.managerThere = true ∧ l.state.launching ≠ .poisoned) ∧
      (¬ Stopped past → l.Held pl)

/-- A bridge that runs is in its run. -/
theorem Sits.started (hs : l.Sits pl) (hr : l.state.isRunning l.bridge = true) :
    l.main.started = true ∧ ∀ b onMain, pl ≠ .beginning b onMain := by
  obtain ⟨guard, call, hrun⟩ := hs.place.fits.run_of_isRunning hr
  constructor
  · by_contra hnot
    obtain rfl := hs.busy fun hm => hnot (by simp [hm, Main.started])
    simp [Place.run?] at hrun
  · rintro b onMain rfl
    simp [Place.run?] at hrun

/-- A bridge that has been stopped does not run. -/
theorem Spent.not_running (hl : l.Spent pl) (hs : l.Sits pl) (b : Nat) :
    l.state.isRunning b = false := by
  rw [Bool.eq_false_iff]
  intro hr
  obtain ⟨guard, call, hrun⟩ := hs.place.fits.run_of_isRunning hr
  have hnot := hl.2.stopped _ hrun
  simp [hr] at hnot

/-- The worker's stop comes after the begin of the run. -/
theorem Sits.spent_of_stop (hs : l.Sits pl) (hstarted : l.main.started = true)
    (hbegun : ∀ b, pl ≠ .beginning b true) (hm : k.main = l.main)
    (hk : k.state = (l.state.stop l.bridge).2.1) : k.Spent pl := by
  refine ⟨by rw [hm, hstarted], hbegun, fun r hr => ?_⟩
  have hown := hs.own r.1 (Place.bridge?_of_run hr)
  rw [hk, State.isRunning_stop, hown, if_pos rfl]

theorem Goes.onMain_eq (hg : l.Goes m k) : k.onMain = l.onMain := by
  cases hg <;> rfl

theorem Goes.of_stopping {r} (hg : l.Goes .worker k) (hw : l.worker = .stopping r) :
    k.main = l.main ∧ k.state = (l.state.stop l.bridge).2.1 := by
  cases hg with
  | stop => exact ⟨rfl, rfl⟩
  | note h | see h | doubt h | sleep h | giveUp h | wake h | wait h | hear h | miss h | timeOut h
  | close h => simp [hw] at h

theorem Passes.of_worker (hp : l.Passes pl .worker k pl') : pl' = pl := by
  cases hp <;> rfl

/-- The start of the bridge has begun its run. -/
theorem Passes.begun (hp : l.Passes pl m k pl') (hstarted : l.main.started = true)
    (hbegun : ∀ b, pl ≠ .beginning b true) (b : Nat) : pl' ≠ .beginning b true := by
  cases hp with
  | start hm => simp [hm, Main.started] at hstarted
  | task _ _ hleads => exact hleads.ne_beginning b true
  | stop | aside => exact hbegun b

/-- Nobody but the worker stops the bridge of the run. -/
theorem Passes.running (hp : l.Passes pl m k pl') (hs : l.Sits pl) (hrun : pl.Running l.state)
    (hnot : ¬ (m = .worker ∧ (∃ r, l.worker = .stopping r) ∧ l.state.isRunning l.bridge = true)) :
    pl'.Running k.state := by
  cases hp with
  | start => simp [Place.Running, Place.run?]
  | task _ _ hleads => exact hleads.running Handoff.silent_callback hs.calm hrun
  | stop hw =>
    intro r hr
    have hown := hs.own r.1 (Place.bridge?_of_run hr)
    exact absurd ⟨rfl, ⟨_, hw⟩, hown ▸ hrun r hr⟩ hnot
  | aside _ _ hgates =>
    intro r hr
    rw [hs.place.fits.isRunning_congr hr hgates]
    exact hrun r hr

namespace Listens

variable {p : State}

theorem step_running (hl : Listens p past l pl) (hp : l.Passes pl m k pl')
    (hnot : ¬ Stopped ((l, m) :: past)) : pl'.Running k.state := by
  rw [stopped_cons, not_or] at hnot
  exact hp.running hl.sits (hl.running hnot.2) hnot.1

theorem step_stopped (hl : Listens p past l pl) (hg : l.Goes m k) (hp : l.Passes pl m k pl')
    (hstop : Stopped ((l, m) :: past)) : k.Spent pl' := by
  rcases stopped_cons.mp hstop with ⟨rfl, ⟨r, hw⟩, hrun⟩ | hstop
  · obtain rfl := hp.of_worker
    obtain ⟨hm, hk⟩ := hg.of_stopping hw
    obtain ⟨hstarted, hbegun⟩ := hl.sits.started hrun
    exact hl.sits.spent_of_stop hstarted (fun b => hbegun b true) hm hk
  · exact (hl.stopped hstop).step hl.sits hg hp

theorem step_ready (hl : Listens p past l pl) (hg : l.Goes m k) (hp : l.Passes pl m k pl')
    (hk : k.worker.isReady = true) (hnot : ¬ GaveUp ((l, m) :: past)) :
    k.main.started = true ∧ ∀ b, pl' ≠ .beginning b true := by
  rw [gaveUp_cons, not_or, not_or] at hnot
  have hl : l.main.started = true ∧ ∀ b, pl ≠ .beginning b true := by
    rcases hg.ready hk with hready | ⟨-, hrun⟩ | hgive
    · exact hl.ready hready hnot.2
    · obtain ⟨hstarted, hbegun⟩ := hl.sits.started hrun
      exact ⟨hstarted, fun b => hbegun b true⟩
    · exact absurd hgive hnot.1.1
  exact ⟨hg.started hl.1, hp.begun hl.1 hl.2⟩

theorem step_spent (hl : Listens p past l pl) (hg : l.Goes m k) (hp : l.Passes pl m k pl')
    (hk : k.worker.isOver = true) (hnot : ¬ GaveUp ((l, m) :: past)) : k.Spent pl' := by
  rw [gaveUp_cons, not_or, not_or] at hnot
  rcases hg.closing hk with hover | hnone | ⟨r, rfl, hw⟩
  · exact (hl.spent hover hnot.2).step hl.sits hg hp
  · exact absurd hnone hnot.1.2
  · obtain rfl := hp.of_worker
    obtain ⟨hm, hk⟩ := hg.of_stopping hw
    obtain ⟨hstarted, hbegun⟩ := hl.ready (by rw [hw]; rfl) hnot.2
    exact hl.sits.spent_of_stop hstarted hbegun hm hk

theorem step_held (hl : Listens p past l pl) (hg : l.Goes m k) (hp : l.Passes pl m k pl')
    (hmanager : p.managerThere = true) (hlaunch : p.launching ≠ .poisoned) :
    ((∃ b, pl'.Sound b) ∧ k.state.managerThere = true ∧ k.state.launching ≠ .poisoned) ∧
      (¬ Stopped ((l, m) :: past) → k.Held pl') := by
  obtain ⟨⟨⟨b, hsound⟩, hmanager', hlaunch'⟩, hheld⟩ := hl.held hmanager hlaunch
  rw [stopped_cons, not_or]
  cases hp with
  | start _ hm hstate =>
    rw [hstate]
    refine ⟨⟨⟨l.bridge, rfl, hl.onMain⟩, hmanager', hlaunch'⟩, fun _ => ?_⟩
    simp [Held, hm, Place.isOver]
  | task hm hm' hleads =>
    have hcalm := hleads.not_unwinds Handoff.silent_callback hl.sits.calm
    obtain ⟨⟨hsound', hmanager', hlaunch'⟩, hover⟩ := hleads.sound hcalm hsound hmanager' hlaunch'
    refine ⟨⟨⟨b, hsound'⟩, hmanager', hlaunch'⟩, fun hnot => ?_⟩
    have hin := hheld hnot.2
    simp only [Held, hm, hm', Bool.eq_false_iff] at hin ⊢
    intro hleft
    rcases hover hleft with hleft | ⟨⟨guard, rfl⟩, hstop⟩
    · exact hin hleft
    · -- nobody but the worker asks the bridge to stop
      have hrun := hl.running hnot.2 _ rfl
      rw [State.isRunning_of_stopRequested hstop] at hrun
      simp at hrun
  | stop _ hm hstate =>
    rw [hstate, State.stop_frame]
    refine ⟨⟨⟨b, hsound⟩, hmanager', hlaunch'⟩, fun hnot => ?_⟩
    exact hg.held hl.sits (hheld hnot.2) fun h => hm ▸ h
  | aside hm hstate =>
    rw [hstate]
    refine ⟨⟨⟨b, hsound⟩, hmanager', hlaunch'⟩, fun hnot => ?_⟩
    exact hg.held hl.sits (hheld hnot.2) hm

theorem step (hl : Listens p past l pl) (hg : l.Goes m k) :
    ∃ pl', Listens p ((l, m) :: past) k pl' := by
  obtain ⟨pl', hs, hp⟩ := hg.sits hl.sits
  exact ⟨pl', hs, hg.onMain_eq.trans hl.onMain, hl.step_running hp, hl.step_stopped hg hp,
    hl.step_ready hg hp, hl.step_spent hg hp, hl.step_held hg hp⟩

theorem start (hp : p.AtRest) (hq : p.Quiet) (s : Settings) :
    Listens p [] (enter p s true) .away := by
  refine ⟨sits_enter hp hq s true, rfl, ?_, ?_, ?_, ?_, ?_⟩
  · simp [Place.Running, Place.run?]
  · simp [Stopped]
  · simp [enter, Worker.isReady]
  · simp [enter, Worker.isOver]
  · exact fun hmanager hlaunch => ⟨⟨⟨0, trivial⟩, hmanager, hlaunch⟩, fun _ => trivial⟩

theorem of_trail (hp : p.AtRest) (hq : p.Quiet) {s : Settings}
    (ht : Trail move? (enter p s true) past l) : ∃ pl, Listens p past l pl := by
  induction ht with
  | start => exact ⟨.away, start hp hq s⟩
  | step _ hm ih =>
    obtain ⟨pl, hl⟩ := ih
    exact hl.step (goes_of_move? hm)

/-- A bridge that nobody has stopped runs while its run lasts. -/
theorem isRunning_of_run (hl : Listens p past l pl) (hnot : ¬ Stopped past) {b guard : Nat} {call}
    (hr : pl.run? = some (b, guard, call)) : l.state.isRunning l.bridge = true := by
  have hrun := hl.running hnot _ hr
  have hown := hl.sits.own b (Place.bridge?_of_run hr)
  rwa [hown] at hrun

end Listens

theorem CanRun.of_step {notices} (hm : l.move? m = some (k, notices)) (hk : k.CanRun) :
    l.CanRun := by
  obtain ⟨later, n, ht, hn⟩ := hk
  exact ⟨_, n, .append (.step .start hm) ht, hn⟩

theorem CanRun.of_isRunning (hl : l.state.isRunning l.bridge = true) : l.CanRun :=
  ⟨[], l, .start, hl⟩

/-- Once the run is over, or has been asked to stop, the bridge never runs again. -/
theorem Spent.not_canRun (hl : l.Spent pl) (hs : l.Sits pl) : ¬ l.CanRun := by
  rintro ⟨later, k, ht, hk⟩
  have hinv : ∃ pl', k.Spent pl' ∧ k.Sits pl' := by
    refine ht.invariant (P := fun k => ∃ pl', k.Spent pl' ∧ k.Sits pl') ⟨pl, hl, hs⟩ ?_
    rintro a m b v ⟨pl', ha, hs'⟩ hb
    obtain ⟨pl'', hs'', hp⟩ := (goes_of_move? hb).sits hs'
    exact ⟨pl'', ha.step hs' (goes_of_move? hb) hp, hs''⟩
  obtain ⟨pl', hspent, hs'⟩ := hinv
  have hnot := hspent.not_running hs' k.bridge
  simp [hk] at hnot

namespace Listens

variable {p : State}

theorem ahead_of_run (hl : Listens p past l pl) {b guard : Nat} {call}
    (hr : pl.run? = some (b, guard, call)) : l.Ahead := by
  have hm : l.main = .running := by
    by_contra hnot
    obtain rfl := hl.sits.busy hnot
    simp [Place.run?] at hr
  obtain ⟨g, hg⟩ := hl.sits.place.fits.exists_gate hr
  have hown := hl.sits.own b (Place.bridge?_of_run hr)
  refine .inr ⟨hm, .inr ⟨g, hown ▸ hg, ?_⟩⟩
  exact (hl.sits.place.fits.inRun hr hg).phase

theorem ahead_of_beginning {b : Nat} (hl : Listens p past l (.beginning b true)) : l.Ahead := by
  have hm : l.main = .running := by
    by_contra hnot
    have haway := hl.sits.busy hnot
    simp at haway
  obtain rfl := hl.sits.own b rfl
  exact .inr ⟨hm, .inl hl.sits.place.agenda⟩

theorem spent_of_not_ahead (hl : Listens p past l pl) {r : Probe.Hearing} (hr : l.worker = .done r)
    (hnot : ¬ l.Ahead) : l.Spent pl := by
  refine ⟨?_, ?_, ?_⟩
  · have hearly := hl.sits.early
    cases hm : l.main with
    | entering | created => simp [hm, hr] at hearly
    | spawned => exact absurd (.inl hm) hnot
    | _ => rfl
  · rintro b rfl
    exact hnot hl.ahead_of_beginning
  · intro r hrun
    exact absurd (hl.ahead_of_run hrun) hnot

theorem canRun_of_begin (hl : Listens p past l pl) (hm : l.main = .running)
    (ha : l.machine.agenda = [.begin l.bridge true]) : l.CanRun := by
  obtain rfl := Place.agenda_eq_begin (hl.sits.place.agenda.symm.trans ha)
  obtain ⟨pl', q, s, hleads, hstep⟩ :=
    hl.sits.place.fits.step Handoff.silent_callback.onlyStops ha (by simp)
  obtain ⟨⟨n, v⟩, hn, heq⟩ := Option.map_eq_some_iff.mp hstep
  have hmove : l.move? .main = some ({ l with machine := n }, v.notices) := by
    simp [move?, mainStep?, hm, hn]
  refine .of_step hmove (.of_isRunning ?_)
  have hstate : n.state = q := congrArg Machine.state heq
  change n.state.isRunning l.bridge = true
  rw [hstate]
  cases hleads with
  | begin hg => exact State.isRunning_eq (State.gate?_setGate_self hg _)

theorem canRun_of_ahead (hl : Listens p past l pl) (hahead : l.Ahead) (hnot : ¬ Stopped past) :
    l.CanRun := by
  rcases hahead with hm | ⟨hm, ha | ⟨g, hg, hp⟩⟩
  · have hmove : l.move? .main = some
        ({ l with main := .running, machine := l.machine.start l.bridge l.onMain },
          [.awaitingEvent l.settings.waitTimeout]) := by
      simp [move?, mainStep?, hm]
    obtain ⟨pl', hk⟩ := hl.step (goes_of_move? hmove)
    refine .of_step hmove (hk.canRun_of_begin rfl ?_)
    simp [Machine.start, hl.onMain]
  · exact hl.canRun_of_begin hm ha
  · obtain ⟨guard, call, hr⟩ := hl.sits.place.fits.run_of_phase hg hp
    exact .of_isRunning (hl.isRunning_of_run hnot hr)

/-- Without a stop, the bridge runs on, and listening does not return. -/
theorem ahead_of_held (hl : Listens p past l pl) {r : Probe.Hearing} (hr : l.worker = .done r)
    {b : Nat} (hsound : pl.Sound b) (hheld : l.Held pl) : l.Ahead ∧ ∀ e, l.main ≠ .ended e := by
  have hearly := hl.sits.early
  cases hm : l.main with
  | entering | created => simp [hm, hr] at hearly
  | spawned => exact ⟨.inl hm, by simp⟩
  | leaving | joining => simp [Held, hm] at hheld
  | retreating | ended => simp [Held, hm, hr] at hheld
  | running =>
    refine ⟨?_, by simp⟩
    simp only [Held, hm] at hheld
    cases pl with
    | beginning b' onMain =>
      obtain ⟨-, rfl⟩ := hsound
      exact hl.ahead_of_beginning
    | receiving | poisoning => exact hsound.elim
    | away | removing | freeing | leaving | reporting | concluding =>
      simp [Place.isOver] at hheld
    | _ => exact hl.ahead_of_run rfl

end Listens

theorem Goes.of_done (hg : l.Goes m k) (hs : l.Sits pl) {r : Probe.Hearing}
    (hr : l.worker = .done r) : k.worker = .done r ∧ m ≠ .worker := by
  cases hg with
  | spawn hm =>
    have hearly := hs.early (.inr hm)
    simp [hr] at hearly
  | noRuntime _ hw => simp [hr] at hw
  | note hw | see hw | doubt hw | sleep hw | giveUp hw | wake hw | wait hw | hear hw | miss hw
  | timeOut hw | stop hw | close hw => simp [hr] at hw
  | _ => exact ⟨hr, by simp⟩

/-- A worker that has returned makes no stop any more. -/
theorem Sits.stopped_of_done (hs : l.Sits pl) {r : Probe.Hearing} (hr : l.worker = .done r)
    {later : List (Listening × Move)} (ht : Trail move? l later k) :
    k.worker = .done r ∧ (Stopped (later ++ past) ↔ Stopped past) := by
  have hinv : (∃ pl', k.Sits pl') ∧ k.worker = .done r ∧
      (Stopped (later ++ past) ↔ Stopped past) := by
    induction ht with
    | start => exact ⟨⟨pl, hs⟩, hr, .rfl⟩
    | @step later a b m v _ hb ih =>
      obtain ⟨⟨pl', hs'⟩, ha, hiff⟩ := ih
      have hg := goes_of_move? hb
      obtain ⟨pl'', hs'', -⟩ := hg.sits hs'
      obtain ⟨hw, hm⟩ := hg.of_done hs' ha
      rw [List.cons_append, stopped_cons, hiff]
      exact ⟨⟨pl'', hs''⟩, hw, by simp [hm]⟩
  exact hinv.2

/-- When the worker has returned, the bridge may still run exactly if its run is ahead, or lasts,
and the worker's stop did not find it. That happens only to a worker that has given up; and unless
the process cannot be launched, the bridge then runs for ever and listening does not return. -/
theorem orphan_iff {p : State} (hp : p.AtRest) (hq : p.Quiet) {s : Settings}
    (ht : Trail move? (enter p s true) past l) {r : Probe.Hearing} (hr : l.worker = .done r) :
    (l.CanRun ↔ l.Ahead ∧ ¬ Stopped past) ∧ (l.CanRun → GaveUp past) ∧
      (p.managerThere = true → p.launching ≠ .poisoned → (l.CanRun ↔ ¬ Stopped past) ∧
        (l.CanRun → ∀ later k, Trail move? l later k → k.CanRun ∧ ∀ e, k.main ≠ .ended e)) := by
  obtain ⟨pl, hl⟩ := Listens.of_trail hp hq ht
  have hiff : l.CanRun ↔ l.Ahead ∧ ¬ Stopped past := by
    constructor
    · intro hrun
      constructor
      · by_contra hnot
        exact (hl.spent_of_not_ahead hr hnot).not_canRun hl.sits hrun
      · intro hstop
        exact (hl.stopped hstop).not_canRun hl.sits hrun
    · rintro ⟨hahead, hnot⟩
      exact hl.canRun_of_ahead hahead hnot
  refine ⟨hiff, ?_, fun hmanager hlaunch => ?_⟩
  · intro hrun
    by_contra hnot
    exact (hl.spent (by rw [hr]; rfl) hnot).not_canRun hl.sits hrun
  · have hahead {later k} (hk : Trail move? l later k) (hnot : ¬ Stopped past) :
        k.CanRun ∧ ∀ e, k.main ≠ .ended e := by
      obtain ⟨hw, hstopped⟩ := hl.sits.stopped_of_done hr hk
      obtain ⟨pl', hl'⟩ := Listens.of_trail hp hq (ht.append hk)
      rw [← hstopped] at hnot
      obtain ⟨⟨⟨b, hsound⟩, -, -⟩, hheld⟩ := hl'.held hmanager hlaunch
      obtain ⟨hahead, hmain⟩ := hl'.ahead_of_held hw hsound (hheld hnot)
      exact ⟨hl'.canRun_of_ahead hahead hnot, hmain⟩
    refine ⟨⟨fun hrun => (hiff.mp hrun).2, fun hnot => (hahead .start hnot).1⟩, ?_⟩
    intro hrun later k hk
    exact hahead hk (hiff.mp hrun).2

/-- A worker that has seen the bridge running and has heard an event leaves no orphan. -/
theorem no_orphan_after_event : ∃ past l,
    Trail move? (enter ((State.fresh .idles).set ⟨true, [], [.deliver (.ofEvent ⟨"u", 7⟩)], none⟩)
      .default true) past l ∧ l.worker = .done (.ok ⟨"u", 7⟩) ∧ Stopped past ∧ ¬ l.CanRun := by
  have ht : Trail move? (enter ((State.fresh .idles).set
      ⟨true, [], [.deliver (.ofEvent ⟨"u", 7⟩)], none⟩) .default true) _ _ :=
    Trail.of_isSome ([.main, .main, .worker, .main, .main, .worker, .worker] ++
      List.replicate 10 .main ++ [.worker, .worker, .worker]) (by decide +kernel)
  have horphan := orphan_iff ((State.atRest_fresh .idles).set _) (by decide) ht
    (r := .ok ⟨"u", 7⟩) rfl
  refine ⟨_, _, ht, rfl, ?_⟩
  rw [(horphan.2.2 rfl (by decide)).1, not_not, and_self]
  decide +kernel

/-- A worker that gives up before the bridge runs. -/
theorem orphan_after_timeout : ∃ past l,
    Trail move? (enter (State.fresh .idles) { Settings.default with waitTimeout := 0 } true) past l ∧
      l.worker = .done (.error (.wait .waitTimeout)) ∧ l.state.managerThere = true ∧
      l.state.isRunning l.bridge = true := by
  have ht : Trail move? (enter (State.fresh .idles)
      { Settings.default with waitTimeout := 0 } true) _ _ :=
    Trail.of_isSome ([.main, .main, .worker, .worker, .worker, .worker, .worker, .worker, .worker,
      .main, .main]) (by decide +kernel)
  exact ⟨_, _, ht, rfl, by decide +kernel, by decide +kernel⟩

end OpenUrl.Listening
