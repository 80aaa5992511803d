import OpenUrl.Proofs.Listening.Answer

/-!
# One deadline for two waits

The worker waits for the bridge to run, and then at the hand-off; both waits share one deadline.
Here time is ideal: it passes only while the worker sleeps or waits in vain, and the worker goes on
as soon as it can. The others may do anything between two steps of the worker, as long as the bridge
runs from its moment on and the first event is sent at its own (`Plan`). The worker then always
comes to its end. It gives up within one start-up poll of the deadline, and exactly at the deadline
if it has seen the bridge running before.
-/
namespace OpenUrl.Listening

open OpenUrl.Desktop
open OpenUrl.Log (Notice)

/-- What the others are to do before the worker has its answer: when the bridge begins to run, and
when the first event is sent. A moment that is absent never comes. -/
structure Plan where
  running : Option Nat
  sent : Option Nat
  event : Event

namespace Plan

def isRunning (p : Plan) (clock : Nat) : Bool := p.running.any (· ≤ clock)

def hasSent (p : Plan) (clock : Nat) : Bool := p.sent.any (· ≤ clock)

/-- All is as planned for this moment, and a sender is there. -/
structure Holds (p : Plan) (l : Listening) : Prop where
  running : l.state.isRunning l.bridge = p.isRunning l.clock
  queue : l.machine.host.queue.head? = if p.hasSent l.clock then some p.event else none
  senders : l.machine.host.senders ≠ 0

instance (p : Plan) (l : Listening) : Decidable (p.Holds l) :=
  decidable_of_iff (l.state.isRunning l.bridge = p.isRunning l.clock ∧
      (l.machine.host.queue.head? = if p.hasSent l.clock then some p.event else none) ∧
      l.machine.host.senders ≠ 0)
    ⟨fun h => ⟨h.1, h.2.1, h.2.2⟩, fun h => ⟨h.running, h.queue, h.senders⟩⟩

end Plan

/-- What comes next, when the others have brought the process and the hand-off to some state. -/
structure Turn where
  machine : Machine Handoff
  move : Move

/-- What the worker finds at a turn. -/
def Turn.find (t : Turn) (l : Listening) : Listening := { l with machine := t.machine }

/-- A turn on an ideal clock. Until the worker has its answer it finds all as planned. A millisecond
passes only if the worker sleeps or waits, and cannot go on. -/
def Plan.turn? (p : Plan) (l : Listening) (t : Turn) : Option (Listening × List Notice) :=
  if (t.find l).worker.result?.isNone = true → p.Holds (t.find l) then
    match t.move with
    | .worker => (t.find l).move? .worker
    | .noRuntime reason => (t.find l).move? (.noRuntime reason)
    | .tick =>
      if (t.find l).workerStep?.isNone && (t.find l).wake?.isSome then (t.find l).move? .tick
      else none
    | _ => none
  else none

/-- When the worker has looked at the hand-off, the latest moment first. -/
def polls (past : List (Listening × Turn)) : List Nat :=
  past.filterMap fun s => if s.1.worker.isWaiting then some s.1.clock else none

/-- The worker is about to see whether the bridge runs. -/
def Worker.isPolling : Worker → Bool
  | polling => true
  | _ => false

/-- The worker has seen the bridge running before a moment. -/
def SawRunning (past : List (Listening × Turn)) (moment : Nat) : Prop :=
  ∃ s ∈ past, s.1.worker.isPolling = true ∧
    (s.2.find s.1).state.isRunning s.1.bridge = true ∧ s.1.clock < moment

instance (past : List (Listening × Turn)) (moment : Nat) : Decidable (SawRunning past moment) :=
  inferInstanceAs (Decidable (∃ s ∈ past, _))

/-- What a turn does to the worker, the clock and the deadline. -/
inductive Beat (p : Plan) (timeout : Nat) :
    Worker → (clock deadline : Nat) → Worker → (clock deadline : Nat) → Prop
  | note {c d} : Beat p timeout .starting c d .polling c (c + timeout)
  | see {c d} : p.isRunning c = true → Beat p timeout .polling c d .ready c d
  | doubt {c d} : p.isRunning c = false → Beat p timeout .polling c d .doubting c d
  | sleep {c d} : c < d → Beat p timeout .doubting c d (.sleeping (c + startupPoll)) c d
  | giveUp {c d} : d ≤ c → Beat p timeout .doubting c d .ready c d
  | sleepOn {c d wake} : c < wake → Beat p timeout (.sleeping wake) c d (.sleeping wake) (c + 1) d
  | wake {c d wake} : wake ≤ c → Beat p timeout (.sleeping wake) c d .polling c d
  | wait {c d} : Beat p timeout .ready c d (.waiting (d - c) (c + (d - c))) c d
  | noRuntime {c d} (reason) : Beat p timeout .ready c d (.closing (.error (.runtime reason))) c d
  | waitOn {c d time wake} : c < wake → p.hasSent c = false →
      Beat p timeout (.waiting time wake) c d (.waiting time wake) (c + 1) d
  | hear {c d time wake} : p.hasSent c = true →
      Beat p timeout (.waiting time wake) c d (.stopping (.ok p.event)) c d
  | timeOut {c d time wake} : p.hasSent c = false → wake ≤ c →
      Beat p timeout (.waiting time wake) c d (.stopping (.error (.wait .waitTimeout))) c d
  | stop {c d r} : Beat p timeout (.stopping r) c d (.closing r) c d
  | close {c d r} : Beat p timeout (.closing r) c d (.done r) c d

variable {p : Plan} {l k : Listening} {t : Turn} {notices : List Notice} {timeout : Nat}
  {w w' : Worker} {c d c' d' : Nat}

theorem Plan.Holds.look (h : p.Holds l) :
    (∃ h', l.machine.host.look = (.event p.event, h')) ∧ p.hasSent l.clock = true ∨
      l.machine.host.look = (.pending, l.machine.host) ∧ p.hasSent l.clock = false := by
  have hqueue := h.queue
  cases hsent : p.hasSent l.clock with
  | true =>
    obtain ⟨es, hes⟩ := by simpa [hsent, List.head?_eq_some_iff] using hqueue
    exact .inl ⟨⟨{ l.machine.host with queue := es }, Handoff.look_eq_event.mpr ⟨hes, rfl⟩⟩, rfl⟩
  | false =>
    refine .inr ⟨Handoff.look_eq_pending.mpr ⟨?_, h.senders, rfl⟩, rfl⟩
    simpa [hsent] using hqueue

/-- A turn is a step of the worker, or time passes where there is none. -/
theorem Plan.turn?_eq_some (h : p.turn? l t = some (k, notices)) :
    ((t.find l).worker.result? = none → p.Holds (t.find l)) ∧
      ((t.find l).Goes .worker k ∨ (∃ reason, (t.find l).Goes (.noRuntime reason) k) ∨
        (t.find l).workerStep? = none ∧ (t.find l).wake?.isSome = true ∧
          k = { t.find l with clock := l.clock + 1 }) := by
  unfold turn? at h
  by_cases hplan : (t.find l).worker.result?.isNone = true → p.Holds (t.find l)
  · refine ⟨fun hnone => hplan (by simp [hnone]), ?_⟩
    rw [if_pos hplan] at h
    split at h
    · exact .inl (goes_of_move? h)
    · exact .inr (.inl ⟨_, goes_of_move? h⟩)
    · split at h
      · rename_i hwait
        rw [Bool.and_eq_true, Option.isNone_iff_eq_none] at hwait
        obtain ⟨rfl, -⟩ := by simpa [move?] using h
        exact .inr (.inr ⟨hwait.1, hwait.2, rfl⟩)
      · cases h
    · cases h
  · rw [if_neg hplan] at h
    cases h

/-- What a step of the worker does when all is as planned. -/
theorem Goes.beat {m : Move} (hg : l.Goes m k) (hm : m = .worker ∨ ∃ reason, m = .noRuntime reason)
    (hplan : l.worker.result? = none → p.Holds l) :
    Beat p l.settings.waitTimeout.toNat l.worker l.clock l.deadline k.worker k.clock k.deadline ∧
      k.settings = l.settings := by
  cases hg with
  | note hw =>
    rw [hw]
    exact ⟨.note, rfl⟩
  | see hw hr =>
    rw [hw] at hplan ⊢
    exact ⟨.see ((hplan rfl).running ▸ hr), rfl⟩
  | doubt hw hr =>
    rw [hw] at hplan ⊢
    exact ⟨.doubt ((hplan rfl).running ▸ hr), rfl⟩
  | sleep hw hlt =>
    rw [hw]
    exact ⟨.sleep hlt, rfl⟩
  | giveUp hw hle =>
    rw [hw]
    exact ⟨.giveUp hle, rfl⟩
  | wake hw hwake =>
    rw [hw]
    exact ⟨.wake hwake, rfl⟩
  | wait hw =>
    rw [hw]
    exact ⟨.wait, rfl⟩
  | noRuntime reason hw =>
    rw [hw]
    exact ⟨.noRuntime reason, rfl⟩
  | hear hw hlook =>
    rw [hw] at hplan ⊢
    rcases (hplan rfl).look with ⟨⟨h', hevent⟩, hsent⟩ | ⟨hpending, -⟩
    · obtain ⟨he, -⟩ := Prod.mk.inj (hlook.symm.trans hevent)
      obtain rfl := Handoff.Sight.event.inj he
      exact ⟨.hear hsent, rfl⟩
    · simp [hlook] at hpending
  | miss hw hlook =>
    rw [hw] at hplan
    rcases (hplan rfl).look with ⟨⟨h', hevent⟩, -⟩ | ⟨hpending, -⟩
    · simp [hlook] at hevent
    · simp [hlook] at hpending
  | timeOut hw hlook hwake =>
    rw [hw] at hplan ⊢
    rcases (hplan rfl).look with ⟨⟨h', hevent⟩, -⟩ | ⟨-, hsent⟩
    · simp [hlook] at hevent
    · exact ⟨.timeOut hsent hwake, rfl⟩
  | stop hw =>
    rw [hw]
    exact ⟨.stop, rfl⟩
  | close hw =>
    rw [hw]
    exact ⟨.close, rfl⟩
  | _ => simp at hm

/-- The worker can always go on, except while it sleeps or waits in vain. -/
theorem workerStep?_eq_none (h : l.workerStep? = none) :
    l.worker = .absent ∨ (∃ r, l.worker = .done r) ∨
      (∃ wake, l.worker = .sleeping wake ∧ l.clock < wake) ∨
      ∃ time wake, l.worker = .waiting time wake ∧ l.machine.host.look.1 = .pending ∧
        l.clock < wake := by
  unfold workerStep? at h
  split at h
  · exact .inl ‹_›
  · exact .inr (.inl ⟨_, ‹_›⟩)
  · cases h
  · cases h
  · cases h
  · rename_i hw
    split_ifs at h with hwake
    exact .inr (.inr (.inl ⟨_, hw, Nat.lt_of_not_le hwake⟩))
  · cases h
  · rename_i hw
    split at h
    · cases h
    · cases h
    · rename_i hlook
      split_ifs at h with hwake
      exact .inr (.inr (.inr ⟨_, _, hw, by rw [hlook], Nat.lt_of_not_le hwake⟩))
  · cases h
  · cases h

/-- Every turn is one of the beats. -/
theorem beat_of_turn? (h : p.turn? l t = some (k, notices)) :
    Beat p l.settings.waitTimeout.toNat l.worker l.clock l.deadline k.worker k.clock k.deadline ∧
      k.settings = l.settings := by
  obtain ⟨hplan, hg | ⟨reason, hg⟩ | ⟨hnone, hwake, rfl⟩⟩ := Plan.turn?_eq_some h
  · exact hg.beat (.inl rfl) hplan
  · exact hg.beat (.inr ⟨reason, rfl⟩) hplan
  · refine ⟨?_, rfl⟩
    change Beat p _ l.worker l.clock l.deadline l.worker (l.clock + 1) l.deadline
    have hworker : (t.find l).worker = l.worker := rfl
    rcases workerStep?_eq_none hnone with hw | ⟨r, hw⟩ | ⟨wake, hw, hlt⟩ |
      ⟨time, wake, hw, hlook, hlt⟩
    · simp [wake?, hw] at hwake
    · simp [wake?, hw] at hwake
    · rw [← hworker, hw]
      exact .sleepOn hlt
    · rw [hw] at hplan
      rw [← hworker, hw]
      rcases (hplan rfl).look with ⟨⟨h', hevent⟩, -⟩ | ⟨-, hsent⟩
      · simp [hevent] at hlook
      · exact .waitOn hlt hsent

/-! ## The worker comes to its end -/

/-- How many turns are left at most. Before it has come to the hand-off, the worker takes at most
thirteen turns for each start-up poll: ten milliseconds and three steps. -/
def Worker.turnsLeft (timeout clock deadline : Nat) : Worker → Nat
  | starting => 13 * timeout + 7
  | polling => 13 * (deadline - clock) + 6
  | doubting => 13 * (deadline - clock) + 5
  | sleeping wake => wake - clock + 13 * (deadline - wake) + 7
  | ready => deadline - clock + 4
  | waiting _ wake => wake - clock + 3
  | stopping _ => 2
  | closing _ => 1
  | absent | done _ => 0

theorem Beat.turnsLeft (h : Beat p timeout w c d w' c' d') :
    w'.turnsLeft timeout c' d' < w.turnsLeft timeout c d := by
  have hpoll : startupPoll = 10 := rfl
  cases h <;> simp only [Worker.turnsLeft] <;> omega

theorem turnsLeft_of_trail {past : List (Listening × Turn)} (ht : Trail p.turn? l past k) :
    k.settings = l.settings ∧
      past.length + k.worker.turnsLeft l.settings.waitTimeout.toNat k.clock k.deadline ≤
        l.worker.turnsLeft l.settings.waitTimeout.toNat l.clock l.deadline := by
  induction ht with
  | start => exact ⟨rfl, by simp⟩
  | step _ hm ih =>
    obtain ⟨hbeat, hsettings⟩ := beat_of_turn? hm
    obtain ⟨hsame, hle⟩ := ih
    rw [hsame] at hbeat
    have hless := hbeat.turnsLeft
    exact ⟨hsettings.trans hsame, by rw [List.length_cons]; omega⟩

/-- As long as the worker has not come to its end there is a turn. -/
theorem exists_turn (hl : l.worker ≠ .absent) (hdone : ∀ r, l.worker ≠ .done r)
    {machine : Machine Handoff}
    (hplan : l.worker.result? = none → p.Holds { l with machine := machine }) :
    ∃ move k notices, p.turn? l ⟨machine, move⟩ = some (k, notices) := by
  have hholds : (Turn.find ⟨machine, .worker⟩ l).worker.result?.isNone = true →
      p.Holds (Turn.find ⟨machine, .worker⟩ l) := fun hnone =>
    hplan (Option.isNone_iff_eq_none.mp hnone)
  cases hstep : (Turn.find ⟨machine, .worker⟩ l).workerStep? with
  | some r =>
    refine ⟨.worker, r.1, r.2, ?_⟩
    simp only [Plan.turn?, if_pos hholds]
    exact hstep
  | none =>
    have hwake : (Turn.find ⟨machine, .worker⟩ l).wake?.isSome = true := by
      rcases workerStep?_eq_none hstep with hw | ⟨r, hw⟩ | ⟨wake, hw, -⟩ | ⟨time, wake, hw, -⟩
      · exact absurd hw hl
      · exact absurd hw (hdone r)
      · simp [wake?, hw]
      · simp [wake?, hw]
    refine ⟨.tick, { Turn.find ⟨machine, .tick⟩ l with clock := l.clock + 1 }, [], ?_⟩
    have hholds' : (Turn.find ⟨machine, .tick⟩ l).worker.result?.isNone = true →
        p.Holds (Turn.find ⟨machine, .tick⟩ l) := hholds
    simp only [Plan.turn?, if_pos hholds']
    exact if_pos (by rw [Bool.and_eq_true, Option.isNone_iff_eq_none]; exact ⟨hstep, hwake⟩)

/-- A process and a hand-off as planned. -/
def Plan.machine (p : Plan) (bridge clock : Nat) : Machine Handoff where
  state := { State.fresh .idles with
    bridges := List.replicate (bridge + 1)
      ⟨{ Gate.fresh with
        lifecycle := ⟨if p.isRunning clock then .running else .idle, [], 0⟩ }, 100, 0, true⟩ }
  host := ⟨if p.hasSent clock then [p.event] else [], 1, true⟩
  agenda := []
  ending := none

theorem Plan.holds_machine (p : Plan) (l : Listening) :
    p.Holds { l with machine := p.machine l.bridge l.clock } where
  running := by
    simp only [state, machine, State.isRunning, State.gate?]
    cases p.isRunning l.clock <;> simp [Lifecycle.isRunning, Phase.isRunning]
  queue := by
    simp only [machine]
    cases p.hasSent l.clock <;> rfl
  senders := by simp [machine]

/-! ## When it comes to its end, and with what -/

/-- What the worker may return on an ideal clock. -/
inductive Settled (p : Plan) (past : List (Listening × Turn)) (deadline clock : Nat) :
    Probe.Hearing → Prop
  | heard : (polls past).head? = some clock → p.hasSent clock = true →
      Settled p past deadline clock (.ok p.event)
  | timedOut : (polls past).head? = some clock → p.hasSent clock = false → deadline ≤ clock →
      clock < deadline + startupPoll → (SawRunning past deadline → clock = deadline) →
      Settled p past deadline clock (.error (.wait .waitTimeout))
  | unequipped (reason) : polls past = [] →
      Settled p past deadline clock (.error (.runtime reason))

/-- What holds of the worker and the clock at every moment. -/
def InTime (p : Plan) (start deadline : Nat) (past : List (Listening × Turn)) (l : Listening) :
    Prop :=
  match l.worker with
  | .absent => False
  | .starting => l.clock = start ∧ past = []
  | .polling | .doubting =>
    l.deadline = deadline ∧ l.clock < deadline + startupPoll ∧ polls past = [] ∧
      ¬ SawRunning past deadline
  | .sleeping wake =>
    l.deadline = deadline ∧ l.clock ≤ wake ∧ wake < deadline + startupPoll ∧ polls past = [] ∧
      ¬ SawRunning past deadline
  | .ready =>
    l.deadline = deadline ∧ l.clock < deadline + startupPoll ∧ polls past = [] ∧
      (SawRunning past deadline → l.clock < deadline)
  | .waiting _ wake =>
    l.clock ≤ wake ∧ deadline ≤ wake ∧ wake < deadline + startupPoll ∧
      (SawRunning past deadline → wake = deadline)
  | .stopping r | .closing r | .done r => Settled p past deadline l.clock r

variable {past : List (Listening × Turn)} {start moment : Nat}

theorem polls_cons (l : Listening) (t : Turn) (past : List (Listening × Turn)) :
    polls ((l, t) :: past) = if l.worker.isWaiting then l.clock :: polls past else polls past := by
  unfold polls
  cases hw : l.worker.isWaiting <;> simp [hw]

theorem sawRunning_cons (l : Listening) (t : Turn) (past : List (Listening × Turn)) (moment : Nat) :
    SawRunning ((l, t) :: past) moment ↔
      (l.worker.isPolling = true ∧ (t.find l).state.isRunning l.bridge = true ∧ l.clock < moment) ∨
        SawRunning past moment := by
  simp [SawRunning]

/-- A turn at which the worker does not see whether the bridge runs. -/
theorem sawRunning_of_not (h : l.worker.isPolling = false) (t : Turn)
    (past : List (Listening × Turn)) (moment : Nat) :
    SawRunning ((l, t) :: past) moment ↔ SawRunning past moment := by
  simp [sawRunning_cons, h]

/-- What the worker returns is settled by its last look. -/
theorem Settled.step {r : Probe.Hearing} (hr : Settled p past moment l.clock r)
    (hpolling : l.worker.isPolling = false) (hwaiting : l.worker.isWaiting = false) :
    Settled p ((l, t) :: past) moment l.clock r := by
  have hpolls : polls ((l, t) :: past) = polls past := by
    rw [polls_cons, hwaiting]
    rfl
  cases hr with
  | heard hlast hsent => exact .heard (hpolls ▸ hlast) hsent
  | timedOut hlast hsent hle hlt hexact =>
    exact .timedOut (hpolls ▸ hlast) hsent hle hlt fun h =>
      hexact ((sawRunning_of_not hpolling t past moment).mp h)
  | unequipped reason hnone => exact .unequipped reason (hpolls.trans hnone)

theorem InTime.step (hl : InTime p start (start + timeout) past l)
    (h : p.turn? l t = some (k, notices)) (hT : l.settings.waitTimeout.toNat = timeout) :
    InTime p start (start + timeout) ((l, t) :: past) k := by
  obtain ⟨hbeat, -⟩ := beat_of_turn? h
  obtain ⟨hplan, -⟩ := Plan.turn?_eq_some h
  have hpoll : startupPoll = 10 := rfl
  have hpolls := polls_cons l t past
  have hsaw := sawRunning_cons l t past (start + timeout)
  have hsame (hpolling : l.worker.isPolling = false) :=
    sawRunning_of_not hpolling t past (start + timeout)
  have hstays {r} (hr : Settled p past (start + timeout) l.clock r) :=
    hr.step (l := l) (t := t)
  have hlook (hpolling : l.worker = .polling) :
      (t.find l).state.isRunning l.bridge = p.isRunning l.clock :=
    (hplan (by change l.worker.result? = none; rw [hpolling]; rfl)).running
  rw [hT] at hbeat
  unfold InTime at hl ⊢
  generalize l.worker = w, k.worker = w', l.clock = c, k.clock = c', l.deadline = d,
    k.deadline = d' at *
  cases hbeat with
  | note =>
    obtain ⟨rfl, rfl⟩ := hl
    refine ⟨rfl, by omega, hpolls, ?_⟩
    rw [hsame rfl]
    simp [SawRunning]
  | see hr =>
    obtain ⟨rfl, hlt, hnone, hnot⟩ := hl
    refine ⟨rfl, hlt, hpolls.trans hnone, fun h => ?_⟩
    rcases hsaw.mp h with ⟨-, -, hbefore⟩ | h
    · exact hbefore
    · exact absurd h hnot
  | doubt hr =>
    obtain ⟨rfl, hlt, hnone, hnot⟩ := hl
    refine ⟨rfl, hlt, hpolls.trans hnone, ?_⟩
    rw [hsaw, hlook rfl, hr]
    simpa using hnot
  | sleep hlt =>
    obtain ⟨rfl, -, hnone, hnot⟩ := hl
    exact ⟨rfl, by omega, by omega, hpolls.trans hnone, (hsame rfl).not.mpr hnot⟩
  | giveUp hle =>
    obtain ⟨rfl, hlt, hnone, hnot⟩ := hl
    exact ⟨rfl, hlt, hpolls.trans hnone, fun h => absurd ((hsame rfl).mp h) hnot⟩
  | sleepOn hlt =>
    obtain ⟨rfl, -, hwake, hnone, hnot⟩ := hl
    exact ⟨rfl, hlt, hwake, hpolls.trans hnone, (hsame rfl).not.mpr hnot⟩
  | wake hle =>
    obtain ⟨rfl, hge, hwake, hnone, hnot⟩ := hl
    exact ⟨rfl, by omega, hpolls.trans hnone, (hsame rfl).not.mpr hnot⟩
  | wait =>
    obtain ⟨rfl, hlt, hnone, hbefore⟩ := hl
    refine ⟨by omega, by omega, by omega, fun h => ?_⟩
    have hlt' := hbefore ((hsame rfl).mp h)
    omega
  | noRuntime reason =>
    obtain ⟨rfl, hlt, hnone, -⟩ := hl
    exact .unequipped reason (hpolls.trans hnone)
  | waitOn hlt hsent =>
    obtain ⟨hle, hdeadline, hwake, hexact⟩ := hl
    exact ⟨hlt, hdeadline, hwake, fun h => hexact ((hsame rfl).mp h)⟩
  | hear hsent =>
    exact .heard (by rw [hpolls]; rfl) hsent
  | timeOut hsent hle =>
    obtain ⟨hge, hdeadline, hwake, hexact⟩ := hl
    refine .timedOut (by rw [hpolls]; rfl) hsent (by omega) (by omega) fun h => ?_
    have hwake' := hexact ((hsame rfl).mp h)
    omega
  | stop | close => exact hstays hl rfl rfl

theorem inTime_of_trail (hl : l.worker = .starting) (ht : Trail p.turn? l past k) :
    InTime p l.clock (l.clock + l.settings.waitTimeout.toNat) past k := by
  induction ht with
  | start => simp [InTime, hl]
  | step hpast hm ih => exact ih.step hm (by rw [(turnsLeft_of_trail hpast).1])

/-- On an ideal clock the worker comes to its end, within a number of turns that its time-out
bounds, whatever the others do. If it has looked at the hand-off it returns the first event, if this
had been sent by its last look, and else that none came in time. The latter it reports not before
the deadline, less than a start-up poll after it, and exactly then if it has seen the bridge running
before. -/
theorem shared_deadline (hl : l.worker = .starting) (ht : Trail p.turn? l past k) :
    past.length ≤ 13 * l.settings.waitTimeout.toNat + 7 ∧
    ((∀ r, k.worker ≠ .done r) →
      (∃ machine, p.Holds { k with machine := machine }) ∧
      ∀ machine, (k.worker.result? = none → p.Holds { k with machine := machine }) →
        ∃ move n notices, p.turn? k ⟨machine, move⟩ = some (n, notices)) ∧
    ∀ r, k.worker = .done r →
      ((∃ e, r = .ok e) ∨ r = .error (.wait .waitTimeout) ∨
        polls past = [] ∧ ∃ reason, r = .error (.runtime reason)) ∧
      (∀ e, r = .ok e ↔
        e = p.event ∧ ∃ moment, (polls past).head? = some moment ∧ p.hasSent moment = true) ∧
      (r = .error (.wait .waitTimeout) →
        l.clock + l.settings.waitTimeout.toNat ≤ k.clock ∧
        k.clock < l.clock + l.settings.waitTimeout.toNat + startupPoll ∧
        (SawRunning past (l.clock + l.settings.waitTimeout.toNat) →
          k.clock = l.clock + l.settings.waitTimeout.toNat)) := by
  have htime := inTime_of_trail hl ht
  refine ⟨?_, ?_, ?_⟩
  · have hleft := (turnsLeft_of_trail ht).2
    rw [hl] at hleft
    exact Nat.le_trans (Nat.le_add_right _ _) hleft
  · intro hdone
    refine ⟨⟨_, p.holds_machine k⟩, fun machine hplan => exists_turn ?_ hdone hplan⟩
    intro habsent
    simp [InTime, habsent] at htime
  · intro r hr
    unfold InTime at htime
    rw [hr] at htime
    cases htime with
    | heard hlast hsent =>
      refine ⟨.inl ⟨_, rfl⟩, fun e => ⟨?_, ?_⟩, by simp⟩
      · intro he
        exact ⟨(Except.ok.inj he).symm, _, hlast, hsent⟩
      · rintro ⟨rfl, -⟩
        rfl
    | timedOut hlast hsent hle hlt hexact =>
      refine ⟨.inr (.inl rfl), fun e => ?_, fun _ => ⟨hle, hlt, hexact⟩⟩
      simp [hlast, hsent]
    | unequipped reason hnone =>
      refine ⟨.inr (.inr ⟨hnone, reason, rfl⟩), fun e => ?_, by simp⟩
      simp [hnone]

/-- The worker sees the bridge running at its third start-up poll, and gives up at its deadline, a
millisecond before an event is sent. -/
theorem shared_deadline_of_late_event : ∃ past k,
    Trail (Plan.turn? ⟨some 15, some 26, ⟨"u", 7⟩⟩)
      { enter (State.fresh .idles) { Settings.default with waitTimeout := 25 } true with
        worker := .starting } past k ∧
      k.worker = .done (.error (.wait .waitTimeout)) ∧ SawRunning past 25 ∧ k.clock = 25 := by
  have ht : Trail (Plan.turn? ⟨some 15, some 26, ⟨"u", 7⟩⟩)
      { enter (State.fresh .idles) { Settings.default with waitTimeout := 25 } true with
        worker := .starting } _ _ :=
    Trail.of_isSome ((List.replicate 3 (0, Move.worker) ++
      (List.range 10).map (·, Move.tick) ++ List.replicate 3 (10, Move.worker) ++
      (List.range' 10 10).map (·, Move.tick) ++ List.replicate 3 (20, Move.worker) ++
      (List.range' 20 5).map (·, Move.tick) ++ List.replicate 3 (25, Move.worker)).map
        fun s : Nat × Move => ⟨Plan.machine ⟨some 15, some 26, ⟨"u", 7⟩⟩ 0 s.1, s.2⟩)
      (by decide +kernel)
  refine ⟨_, _, ht, rfl, ?_, ?_⟩
  · decide +kernel
  · exact (((shared_deadline rfl ht).2.2 _ rfl).2.2 rfl).2.2 (by decide +kernel)

end OpenUrl.Listening
