import OpenUrl.Proofs.Desktop.Effort
import OpenUrl.Proofs.Gate.Silent

/-!
# Runs that are stopped from outside only

If the callback of a bridge does nothing beside its own work and nobody else stops the bridge on
the main thread, then nothing that the main thread does stops a run: it goes on until a stop comes
from another thread, and no panic comes.
-/
namespace OpenUrl

namespace Desktop

variable {σ : Type} {h : Host σ}

/-- Nobody stops a bridge on the main thread. -/
def State.Quiet (p : State) : Prop :=
  Action.stop ∉ p.script ∧ LaunchAction.stop ∉ p.launchActions ∧ p.scriptEnd = .idles

instance (p : State) : Decidable p.Quiet := inferInstanceAs (Decidable (_ ∧ _))

namespace Place

/-- No stop is among what is to be done here. -/
def Quiet : Place → Prop
  | within _ _ _ errands (.launch actions) => Errand.stop ∉ errands ∧ LaunchAction.stop ∉ actions
  | within _ _ _ errands .loop => Errand.stop ∉ errands
  | _ => True

/-- Only other threads stop a bridge, and callbacks do nothing beside their own work. -/
structure Calm (pl : Place) (p : State) : Prop where
  process : p.Quiet
  place : pl.Quiet
  silent : ∀ b g, p.gate? b = some g → g.Silent

/-- The bridge of the run, if there is one, runs. -/
def Running (pl : Place) (p : State) : Prop := ∀ r, pl.run? = some r → p.isRunning r.1 = true

end Place

theorem Action.stop_notMem_errands {a : Action} (ha : a ≠ .stop) : Errand.stop ∉ a.errands := by
  cases a <;> simp_all [errands]

namespace Place.Calm

variable {pl pl' : Place} {p p' : State}

/-- Only the gates, the script and the launch actions of a process matter. -/
theorem congr (hc : pl.Calm p) (hp : p'.Quiet) (hpl : pl'.Quiet)
    (hg : ∀ b g, p'.gate? b = some g → p.gate? b = some g) : pl'.Calm p' :=
  ⟨hp, hpl, fun b g h => hc.silent b g (hg b g h)⟩

theorem setGate (hc : pl.Calm p) (hpl : pl'.Quiet) {b : Nat} {g' : Gate}
    (hg : g'.Silent) : pl'.Calm (p.setGate b g') := by
  refine ⟨hc.process, hpl, fun b' x hx => ?_⟩
  rw [State.gate?_setGate] at hx
  split_ifs at hx
  · obtain ⟨-, -, rfl⟩ := Option.map_eq_some_iff.mp hx
    exact hg
  · exact hc.silent b' x hx

/-- A stop from another thread. -/
theorem stop (hc : pl.Calm p) (b : Nat) : pl.Calm (p.stop b).2.1 := by
  refine ⟨?_, hc.place, fun b' x hx => ?_⟩
  · rw [p.stop_frame b]
    exact hc.process
  · rw [State.gate?_stop] at hx
    split_ifs at hx
    · obtain ⟨g, hg, rfl⟩ := Option.map_eq_some_iff.mp hx
      exact (hc.silent b' g hg).congr rfl
    · exact hc.silent b' x hx

theorem new (hc : pl.Calm p) (pollInterval : UInt64) : pl.Calm (p.newBridge pollInterval).2.1 := by
  refine ⟨?_, hc.place, fun b' x hx => ?_⟩
  · rw [p.newBridge_frame pollInterval]
    exact hc.process
  · obtain hx | ⟨-, rfl⟩ := State.gate?_newBridge hx
    · exact hc.silent b' x hx
    · simp [Gate.Silent, Gate.fresh]

/-- The call that is served has moved on. -/
theorem turn (hh : h.Silent) (hc : pl.Calm p) {b : Nat} {g g' : Gate} {past : List Call} {e : Event}
    {stage stage' : Stage} {s s' : σ} (hg : p.gate? b = some g)
    (hs : g.Serves past (some ⟨e, stage⟩)) (hs' : g'.calls = past ++ [⟨e, stage'⟩])
    (ht : Gate.Turn h e stage g.lifecycle g.delivered s stage' g'.lifecycle g'.delivered s') :
    g'.Silent ∧ g'.lifecycle = g.lifecycle ∧ stage' ≠ .done .panicked := by
  have hcalls := hc.silent b g hg
  rw [Gate.Silent, hs.calls] at hcalls
  obtain ⟨hsilent, hlife, hne⟩ := ht.silent hh (hcalls ⟨e, stage⟩ (by simp))
  refine ⟨fun c hmem => ?_, hlife, hne⟩
  rw [hs'] at hmem
  rcases List.mem_append.mp hmem with hmem | hmem
  · exact hcalls c (List.mem_append_left _ hmem)
  · obtain rfl := List.mem_singleton.mp hmem
    exact hsilent

end Place.Calm

theorem Leads.quiet {pl pl' : Place} {p p' : State} {s s' : σ} (hl : Leads h pl p s pl' p' s')
    (hpl : pl.Quiet) (hp : p.Quiet) : pl'.Quiet ∧ p'.Quiet := by
  cases hl with
  | launch => exact ⟨⟨by simp, hp.2.1⟩, hp.1, by simp, hp.2.2⟩
  | @action _ _ _ _ a actions =>
    obtain ⟨-, hactions⟩ := hpl
    refine ⟨⟨?_, fun hmem => hactions (List.mem_cons_of_mem _ hmem)⟩, hp⟩
    cases a with
    | deliver e => simp [LaunchAction.errand]
    | stop => simp at hactions
  | @next _ _ _ _ a script hs =>
    have hscript : Action.stop ∉ a :: script := by
      rw [← hs]
      exact hp.1
    refine ⟨Action.stop_notMem_errands ?_, fun hmem => ?_, hp.2⟩
    · rintro rfl
      exact hscript List.mem_cons_self
    · exact hscript (List.mem_cons_of_mem _ hmem)
  | exhausted _ hend => simp [hp.2.2] at hend
  | @stop _ _ _ _ _ t => cases t <;> simp [Place.Quiet] at hpl
  | @send _ _ _ _ _ e _ t => cases t <;> cases e <;> exact ⟨by simpa [Place.Quiet] using hpl, hp⟩
  | @deliver _ _ _ _ _ _ t => cases t <;> exact ⟨by simpa [Place.Quiet] using hpl, hp⟩
  | @ignore _ _ _ _ _ _ t => cases t <;> exact ⟨by simpa [Place.Quiet] using hpl, hp⟩
  | @serve _ _ _ _ _ t | @answer _ _ _ _ _ t => cases t <;> exact ⟨hpl, hp⟩
  | @unwind _ _ _ _ _ t => cases t <;> exact ⟨trivial, hp⟩
  | @leave _ _ _ _ e => cases e <;> exact ⟨trivial, hp⟩
  | launched | relaunch | idle => exact ⟨List.not_mem_nil, hp⟩
  | _ => exact ⟨trivial, hp⟩

theorem Leads.calm (hh : h.Silent) {pl pl' : Place} {p p' : State} {s s' : σ}
    (hl : Leads h pl p s pl' p' s') (hc : pl.Calm p) : pl'.Calm p' := by
  obtain ⟨hpl, hp⟩ := hl.quiet hc.place hc.process
  refine ⟨hp, hpl, ?_⟩
  cases hl with
  | begin hg | leave hg | stop hg =>
    refine (hc.setGate hpl ?_).silent
    exact (hc.silent _ _ hg).congr rfl
  | deliver he hg => exact (hc.setGate hpl ((hc.silent _ _ hg).push _)).silent
  | serve hg hs hs' ht | answer hg hs hs' ht | unwind hg hs hs' ht =>
    exact (hc.setGate hpl (hc.turn hh hg hs (by simpa using hs'.calls) ht).1).silent
  | _ => exact hc.silent

theorem Leads.not_unwinds (hh : h.Silent) {pl pl' : Place} {p p' : State} {s s' : σ}
    (hl : Leads h pl p s pl' p' s') (hc : pl.Calm p) : ¬ pl.Unwinds pl' := by
  rintro ⟨b, guard, call, errands, t, rfl, hpl⟩
  cases hl with
  | serve | answer => cases t <;> simp [Place.unwinding] at hpl
  | unwind hg hs hs' ht => exact (hc.turn hh hg hs (by simpa using hs'.calls) ht).2.2 rfl

theorem Place.Running.setGate {pl : Place} {p : State} {b : Nat} {g g' : Gate}
    (hr : ∀ r, pl.run? = some r → r.1 = b) (hg : p.gate? b = some g)
    (hp : g'.lifecycle.isRunning = true) : pl.Running (p.setGate b g') := by
  intro r h
  rw [hr r h, State.isRunning_eq (State.gate?_setGate_self hg g'), hp]

/-- A run goes on. -/
theorem Leads.running (hh : h.Silent) {pl pl' : Place} {p p' : State} {s s' : σ}
    (hl : Leads h pl p s pl' p' s') (hc : pl.Calm p) (hr : pl.Running p) : pl'.Running p' := by
  cases hl with
  | begin hg => exact .setGate (by simp [Place.run?]) hg rfl
  | @stop _ _ _ _ _ t =>
    have hpl := hc.place
    cases t <;> simp [Place.Quiet] at hpl
  | deliver he hg =>
    have hrun := hr _ rfl
    rw [State.isRunning_eq hg] at hrun
    exact .setGate (by simp [Place.run?]) hg hrun
  | serve hg hs hs' ht | answer hg hs hs' ht =>
    have hrun := hr _ rfl
    rw [State.isRunning_eq hg] at hrun
    refine .setGate (by simp [Place.run?]) hg ?_
    rwa [(hc.turn hh hg hs (by simpa using hs'.calls) ht).2.1]
  | unwind hg hs hs' ht =>
    exact absurd rfl (hc.turn hh hg hs (by simpa using hs'.calls) ht).2.2
  | @leave _ _ _ _ e => cases e <;> simp [Place.Running, Place.left, Place.run?]
  | unhandled | elsewhere | report | conclude => simp [Place.Running, Place.run?]
  | _ =>
    intro r h
    obtain rfl := Option.some.inj h
    exact hr _ rfl

end Desktop

end OpenUrl
