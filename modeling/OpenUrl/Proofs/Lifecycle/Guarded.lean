import OpenUrl.Lifecycle.Shared
import OpenUrl.Proofs.Trail

/-!
# Guarded runs

When every run is begun with a guard and ended by dropping it, the phase tells whether a guard is
alive although the end of a run is written without a look at the phase: there is never a second
guard whose run it could end. So each run is stopped at most once and stays stopped to its end,
and a stop that comes outside a run leaves no trace.
-/
namespace OpenUrl.Lifecycle.Shared

open OpenUrl.Log (Notice)

variable {s t : Shared} {m : Move} {a : Answer} {past : List (Shared × Move)} {g : Nat}

/-- What a move does and answers, if it is possible. -/
inductive Step (s : Shared) : Move → Shared → Answer → Prop
  | begin : s.lifecycle.phase = .idle →
      Step s .begin
        { s with lifecycle :=
          ⟨.running, s.lifecycle.issued :: s.lifecycle.guards, s.lifecycle.issued + 1⟩ }
        (.guard s.lifecycle.issued)
  | refuse : s.lifecycle.phase ≠ .idle → Step s .begin s (.failure .alreadyRunning)
  | drop {guard : Nat} : guard ∈ s.lifecycle.guards →
      Step s (.drop guard)
        { s with lifecycle := ⟨.idle, s.lifecycle.guards.erase guard, s.lifecycle.issued⟩ } .dropped
  | handle : Step s .handle { s with handles := s.handles + 1 } (.handle s.handles)
  | stop (handle : Nat) : s.lifecycle.phase = .running →
      Step s (.stop handle) { s with lifecycle := { s.lifecycle with phase := .stopping } }
        (.stopped true)
  | ignore (handle : Nat) : s.lifecycle.phase ≠ .running →
      Step s (.stop handle) s (.stopped false)
  | look : Step s .look s (.phase s.lifecycle.phase)

theorem begin_of_idle (h : s.lifecycle.phase = .idle) :
    s.move? .begin = some
      ({ s with lifecycle :=
          ⟨.running, s.lifecycle.issued :: s.lifecycle.guards, s.lifecycle.issued + 1⟩ },
        .guard s.lifecycle.issued, []) := by
  simp [move?, beginGuarded, Phase.begin, h]

theorem begin_of_not_idle (h : s.lifecycle.phase ≠ .idle) :
    s.move? .begin = some (s, .failure .alreadyRunning, []) := by
  cases hp : s.lifecycle.phase with
  | idle => exact absurd hp h
  | running | stopping => simp [move?, beginGuarded, Phase.begin, hp]

theorem stop_of_running {handle : Nat} (hh : handle < s.handles)
    (h : s.lifecycle.phase = .running) :
    s.move? (.stop handle) = some
      ({ s with lifecycle := { s.lifecycle with phase := .stopping } }, .stopped true,
        [.stopRequested]) := by
  simp [move?, requestStop, Phase.requestStop, h, hh]

theorem stop_of_not_running {handle : Nat} (hh : handle < s.handles)
    (h : s.lifecycle.phase ≠ .running) :
    s.move? (.stop handle) = some (s, .stopped false, [.stopIgnored s.lifecycle.phase]) := by
  obtain ⟨⟨p, guards, issued⟩, handles⟩ := s
  cases p with
  | running => exact absurd rfl h
  | idle | stopping => simp [move?, requestStop, Phase.requestStop, hh]

theorem step_of_move? {notices : List Notice} (hm : s.move? m = some (t, a, notices)) :
    s.Step m t a := by
  cases m with
  | begin =>
    by_cases h : s.lifecycle.phase = .idle
    · rw [begin_of_idle h] at hm
      obtain ⟨rfl, rfl, -⟩ := by simpa using hm
      exact .begin h
    · rw [begin_of_not_idle h] at hm
      obtain ⟨rfl, rfl, -⟩ := by simpa using hm
      exact .refuse h
  | drop guard =>
    by_cases h : guard ∈ s.lifecycle.guards
    · obtain ⟨rfl, rfl, -⟩ := by simpa [move?, dropGuard, h] using hm
      exact .drop h
    · simp [move?, dropGuard, h] at hm
  | handle =>
    obtain ⟨rfl, rfl, -⟩ := by simpa [move?] using hm
    exact .handle
  | stop handle =>
    have hh : handle < s.handles := by
      by_contra hh
      simp [move?, hh] at hm
    by_cases h : s.lifecycle.phase = .running
    · rw [stop_of_running hh h] at hm
      obtain ⟨rfl, rfl, -⟩ := by simpa using hm
      exact .stop handle h
    · rw [stop_of_not_running hh h] at hm
      obtain ⟨rfl, rfl, -⟩ := by simpa using hm
      exact .ignore handle h
  | look =>
    obtain ⟨rfl, rfl, -⟩ := by simpa [move?] using hm
    exact .look

/-! ## One guard at a time -/

/-- The phase fits the guards that are alive, of which there is at most one. -/
inductive Orderly (s : Shared) : Prop
  | idle : s.lifecycle.phase = .idle → s.lifecycle.guards = [] → Orderly s
  | inRun (guard : Nat) : s.lifecycle.phase ≠ .idle → s.lifecycle.guards = [guard] →
      guard < s.lifecycle.issued → Orderly s

namespace Orderly

theorem fresh : Shared.fresh.Orderly := .idle rfl rfl

theorem step (ho : s.Orderly) (hs : s.Step m t a) : t.Orderly := by
  cases hs with
  | begin h =>
    cases ho with
    | idle _ hg => exact .inRun s.lifecycle.issued (by simp) (by simp [hg]) (by simp)
    | inRun guard hp _ _ => exact absurd h hp
  | @drop guard h =>
    cases ho with
    | idle _ hg => simp [hg] at h
    | inRun guard' _ hg _ =>
      obtain rfl : guard = guard' := by simpa [hg] using h
      exact .idle rfl (by simp [hg])
  | stop handle h =>
    cases ho with
    | idle hp _ => simp [h] at hp
    | inRun guard _ hg hlt => exact .inRun guard (by simp) hg hlt
  | handle =>
    cases ho with
    | idle hp hg => exact .idle hp hg
    | inRun guard hp hg hlt => exact .inRun guard hp hg hlt
  | refuse | ignore | look => exact ho

theorem idle_iff (ho : s.Orderly) : s.lifecycle.phase = .idle ↔ s.lifecycle.guards = [] := by
  cases ho with
  | idle hp hg => simp [hp, hg]
  | inRun guard hp hg _ => simp [hp, hg]

theorem length_le (ho : s.Orderly) : s.lifecycle.guards.length ≤ 1 := by
  cases ho with
  | idle _ hg => simp [hg]
  | inRun guard _ hg _ => simp [hg]

theorem lt_issued (ho : s.Orderly) (hg : g ∈ s.lifecycle.guards) : g < s.lifecycle.issued := by
  cases ho with
  | idle _ h => simp [h] at hg
  | inRun guard _ h hlt =>
    obtain rfl : g = guard := by simpa [h] using hg
    exact hlt

end Orderly

/-! ## Stops of a run -/

/-- Whether a step stops the run of a guard: the guard is alive, and the answer is yes. -/
def stopsRun (g : Nat) (step : Shared × Move) : Bool :=
  decide (g ∈ step.1.lifecycle.guards) && step.1.answer? step.2 == some (.stopped true)

/-- Whether a step is a stop that is ignored. -/
def isIgnored (step : Shared × Move) : Bool := step.1.answer? step.2 == some (.stopped false)

/-- How often the run of a guard has been stopped. -/
def stops (g : Nat) (past : List (Shared × Move)) : Nat := past.countP (stopsRun g)

theorem answer?_eq {notices : List Notice} (hm : s.move? m = some (t, a, notices)) :
    s.answer? m = some a := by
  simp [answer?, hm]

theorem stops_cons {notices : List Notice} (hm : s.move? m = some (t, a, notices)) :
    stops g ((s, m) :: past) =
      stops g past + if g ∈ s.lifecycle.guards ∧ a = .stopped true then 1 else 0 := by
  rw [stops, List.countP_cons, ← stops]
  simp [stopsRun, answer?_eq hm]

/-- A run that lasts has been stopped once if it is stopping, and else never. A guard that there
has not been yet has no run. -/
structure Counted (past : List (Shared × Move)) (s : Shared) : Prop where
  orderly : s.Orderly
  alive : ∀ g ∈ s.lifecycle.guards,
    stops g past = if s.lifecycle.phase = .stopping then 1 else 0
  later : ∀ g, s.lifecycle.issued ≤ g → stops g past = 0
  once : ∀ g, stops g past ≤ 1

namespace Counted

theorem fresh : Counted [] Shared.fresh :=
  ⟨.fresh, by simp [Shared.fresh, Lifecycle.fresh], by simp [stops], by simp [stops]⟩

/-- A step that stops no run and keeps those that last. -/
theorem keep (hc : Counted past s) {notices : List Notice}
    (hm : s.move? m = some (t, a, notices)) (ha : a ≠ .stopped true) (ho : t.Orderly)
    (hphase : t.lifecycle.phase = s.lifecycle.phase ∨ t.lifecycle.guards = [])
    (hguards : ∀ g ∈ t.lifecycle.guards, g ∈ s.lifecycle.guards)
    (hissued : s.lifecycle.issued = t.lifecycle.issued) : Counted ((s, m) :: past) t := by
  have hstops (g : Nat) : stops g ((s, m) :: past) = stops g past := by
    rw [stops_cons hm]
    simp [ha]
  refine ⟨ho, ?_, ?_, ?_⟩
  · intro g hg
    rw [hstops]
    rcases hphase with hphase | hnone
    · rw [hphase]
      exact hc.alive g (hguards g hg)
    · simp [hnone] at hg
  · intro g hg
    rw [hstops]
    exact hc.later g (by omega)
  · intro g
    rw [hstops]
    exact hc.once g

theorem step (hc : Counted past s) {notices : List Notice}
    (hm : s.move? m = some (t, a, notices)) : Counted ((s, m) :: past) t := by
  have hs := step_of_move? hm
  have ho := hc.orderly.step hs
  cases hs with
  | refuse | handle | ignore | look =>
    exact hc.keep hm (by simp) ho (.inl rfl) (fun _ hg => hg) rfl
  | drop =>
    refine hc.keep hm (by simp) ho (.inr ?_) (fun _ hg => List.mem_of_mem_erase hg) rfl
    exact ho.idle_iff.mp rfl
  | begin h =>
    have hnone := hc.orderly.idle_iff.mp h
    have hstops (g : Nat) : stops g ((s, .begin) :: past) = stops g past := by
      rw [stops_cons hm]
      simp
    refine ⟨ho, ?_, ?_, ?_⟩
    · -- the new guard is the only one, and has no run behind it
      intro g hg
      obtain rfl : g = s.lifecycle.issued := by simpa [hnone] using hg
      rw [hstops, hc.later _ (Nat.le_refl _)]
      simp
    · intro g hg
      rw [hstops]
      exact hc.later g (Nat.le_of_succ_le hg)
    · intro g
      rw [hstops]
      exact hc.once g
  | stop handle h =>
    have hrun (g : Nat) (hg : g ∈ s.lifecycle.guards) : stops g past = 0 := by
      rw [hc.alive g hg, h]
      simp
    have hstops (g : Nat) : stops g ((s, .stop handle) :: past) =
        stops g past + if g ∈ s.lifecycle.guards then 1 else 0 := by
      rw [stops_cons hm]
      simp
    refine ⟨ho, ?_, ?_, ?_⟩
    · intro g hg
      have hg' : g ∈ s.lifecycle.guards := hg
      rw [hstops, hrun g hg']
      simp [hg']
    · intro g hg
      have hnot : g ∉ s.lifecycle.guards := by
        intro hmem
        exact absurd (hc.orderly.lt_issued hmem) (Nat.not_lt.mpr hg)
      rw [hstops, hc.later g hg]
      simp [hnot]
    · intro g
      rw [hstops]
      by_cases hg : g ∈ s.lifecycle.guards
      · simp [hrun g hg, hg]
      · simpa [hg] using hc.once g

theorem of_trail (ht : Trail move? Shared.fresh past s) : Counted past s := by
  induction ht with
  | start => exact fresh
  | step _ hm ih => exact ih.step hm

end Counted

/-- Once stopped, a run is stopping for as long as its guard is alive. -/
theorem stopping_of_stops (hc : Counted past s) (hs : 0 < stops g past)
    (hg : g ∈ s.lifecycle.guards) : s.lifecycle.phase = .stopping := by
  by_contra hp
  rw [hc.alive g hg, if_neg hp] at hs
  exact absurd hs (Nat.lt_irrefl 0)

/-- A run is running until it is stopped. -/
theorem running_iff (hc : Counted past s) :
    s.lifecycle.phase = .running ↔ ∃ g, s.lifecycle.guards = [g] ∧ stops g past = 0 := by
  cases hc.orderly with
  | idle hp hg => simp [hp, hg]
  | inRun guard hp hg hlt =>
    have halive := hc.alive guard (by simp [hg])
    cases hphase : s.lifecycle.phase with
    | idle => exact absurd hphase hp
    | running => simpa [hg, hphase] using halive
    | stopping => simp [hg, halive, hphase]

/-- What is seen of the run of a guard after it has been stopped. -/
structure Lasts (g : Nat) (later : List (Shared × Move)) (s : Shared) : Prop where
  stopping : ∀ b ∈ s :: later.map Prod.fst, g ∈ b.lifecycle.guards →
    b.answer? .look = some (.phase .stopping)
  once : stops g later = 0

theorem stops_append (later before : List (Shared × Move)) :
    stops g (later ++ before) = stops g later + stops g before :=
  List.countP_append

/-- What a stop has done is seen for as long as the guard of its run is alive. -/
theorem lasts_of_trail {later before : List (Shared × Move)} {b : Shared} {h : Nat}
    (ht : Trail move? Shared.fresh (later ++ (b, .stop h) :: before) s)
    (hstop : b.answer? (.stop h) = some (.stopped true)) (hg : g ∈ b.lifecycle.guards) :
    Lasts g later s := by
  have hone : stops g ((b, .stop h) :: before) = stops g before + 1 := by
    simp [stops, stopsRun, hstop, hg]
  have hle := (Counted.of_trail ht).once g
  rw [stops_append, hone] at hle
  refine ⟨?_, by omega⟩
  intro c hc hgc
  have hphase : c.lifecycle.phase = .stopping := by
    rcases List.mem_cons.mp hc with rfl | hc
    · refine stopping_of_stops (Counted.of_trail ht) ?_ hgc
      rw [stops_append, hone]
      omega
    · -- a state on the way ends a run of its own, in which the stop has been made
      obtain ⟨⟨c', m⟩, hmem, rfl⟩ := List.mem_map.mp hc
      obtain ⟨after, rest, rfl⟩ := List.append_of_mem hmem
      rw [List.append_assoc, List.cons_append] at ht
      refine stopping_of_stops (Counted.of_trail ht.split.1) ?_ hgc
      rw [stops_append, hone]
      omega
  simp [answer?, move?, hphase]

/-- The run without the stops that are ignored is a run to the same state. -/
theorem trail_filter (ht : Trail move? Shared.fresh past s) :
    Trail move? Shared.fresh (past.filter fun step => !isIgnored step) s := by
  induction ht with
  | start => exact .start
  | @step past a b m v _ hm ih =>
    obtain ⟨answer, notices⟩ := v
    by_cases hignored : isIgnored (a, m) = true
    · obtain rfl : answer = .stopped false := by
        simpa [isIgnored, answer?_eq hm] using hignored
      rw [List.filter_cons_of_neg (by simp [hignored])]
      cases step_of_move? hm with
      | ignore => exact ih
    · rw [List.filter_cons_of_pos (by simp [hignored])]
      exact ih.step hm

/-- What is known of guarded runs at any time. -/
structure Guarded (past : List (Shared × Move)) (s : Shared) : Prop where
  alone : s.lifecycle.guards.length ≤ 1
  idle : s.answer? .look = some (.phase .idle) ↔ s.lifecycle.guards = []
  begins : s.lifecycle.guards = [] → s.move? .begin = some
    (⟨⟨.running, [s.lifecycle.issued], s.lifecycle.issued + 1⟩, s.handles⟩,
      .guard s.lifecycle.issued, [])
  refuses : s.lifecycle.guards ≠ [] → s.move? .begin = some (s, .failure .alreadyRunning, [])
  once : ∀ g, stops g past ≤ 1
  /-- A stop is not lost before the guard of its run is dropped. -/
  lasts : ∀ later a h before, past = later ++ (a, .stop h) :: before →
    a.answer? (.stop h) = some (.stopped true) →
    ∃ g, a.lifecycle.guards = [g] ∧ stops g before = 0 ∧ Lasts g later s
  stop : ∀ h, h < s.handles → (∃ g, s.lifecycle.guards = [g] ∧ stops g past = 0) →
    s.answer? (.stop h) = some (.stopped true)
  /-- Outside a run, and in a run that has been stopped, a stop changes nothing. -/
  ignore : ∀ h, h < s.handles → (¬ ∃ g, s.lifecycle.guards = [g] ∧ stops g past = 0) →
    ∃ notices, s.move? (.stop h) = some (s, .stopped false, notices)
  /-- The stops that were ignored might as well not have been made. -/
  traceless : Trail move? Shared.fresh (past.filter fun step => !isIgnored step) s

/-- At any time at most one guard is alive, and the lifecycle is idle exactly when none is. A run
is stopped at most once, and stays so to its end; all other stops have no effect at all. -/
theorem guarded_runs (ht : Trail move? Shared.fresh past s) : Guarded past s := by
  have hc := Counted.of_trail ht
  refine ⟨hc.orderly.length_le, ?_, ?_, ?_, hc.once, ?_, ?_, ?_, trail_filter ht⟩
  · simpa [answer?, move?] using hc.orderly.idle_iff
  · intro hnone
    rw [begin_of_idle (hc.orderly.idle_iff.mpr hnone), hnone]
  · intro hsome
    exact begin_of_not_idle (mt hc.orderly.idle_iff.mp hsome)
  · rintro later a h before rfl hstop
    obtain ⟨hpast, c, ⟨answer, notices⟩, hm, -⟩ := ht.split
    obtain rfl : answer = .stopped true :=
      Option.some.inj ((answer?_eq hm).symm.trans hstop)
    cases step_of_move? hm with
    | stop _ hrun =>
      obtain ⟨g, hg, hzero⟩ := (running_iff (Counted.of_trail hpast)).mp hrun
      exact ⟨g, hg, hzero, lasts_of_trail ht hstop (by simp [hg])⟩
  · intro h hh hrun
    rw [answer?, stop_of_running hh ((running_iff hc).mpr hrun)]
    rfl
  · intro h hh hrun
    exact ⟨_, stop_of_not_running hh (mt (running_iff hc).mp hrun)⟩

/-- A run that is stopped and ends, and another one, with stops before, in and between them. -/
theorem guarded_runs_with_ignored_stops : ∃ past s,
    Trail move? Shared.fresh past s ∧ stops 0 past = 1 ∧ stops 1 past = 0 ∧
      past.countP isIgnored = 3 ∧ s.lifecycle = ⟨.running, [1], 2⟩ ∧ Guarded past s := by
  refine ⟨_, _, Trail.of_isSome ([.handle, .stop 0, .begin, .begin, .handle, .stop 1, .look,
    .stop 0, .drop 0, .stop 1, .begin] : List Move) ?_, ?_, ?_, ?_, ?_,
    guarded_runs (Trail.of_isSome ([.handle, .stop 0, .begin, .begin, .handle, .stop 1, .look,
      .stop 0, .drop 0, .stop 1, .begin] : List Move) ?_)⟩
  all_goals decide +kernel

end OpenUrl.Lifecycle.Shared
