import OpenUrl.Proofs.Desktop.Place
import OpenUrl.Proofs.Trail

/-!
# Runs of the main thread

In every state that a process at rest can come to, the main thread is at some place, and the
process fits it: the bridge whose run it is has one guard and serves at most one call, every other
bridge is at rest, and a bridge is registered exactly while its run lasts. So the main thread is
never stuck, and what it does is what `Leads` says.
-/
namespace OpenUrl.Gate

/-- A bridge in a run, with the run's guard and the call that is served. -/
structure InRun (g : Gate) (guard : Nat) (call : Option Nat) : Prop where
  phase : g.lifecycle.phase ≠ .idle
  guards : g.lifecycle.guards = [guard]
  serves : ∃ past cur, g.Serves past cur ∧ call = cur.map fun _ => past.length

/-- Stops neither begin nor end a run. -/
theorem InRun.stop {g : Gate} {guard : Nat} {call : Option Nat} (h : g.InRun guard call) :
    (g.live .requestStop).1.InRun guard call := by
  obtain ⟨past, cur, hs, hc⟩ := h.serves
  refine ⟨Lifecycle.requestStop_ne_idle h.phase, ?_, past, cur, hs.live _, hc⟩
  exact (Lifecycle.guards_requestStop _).trans h.guards

theorem InRun.turn {σ : Type} {h : Host σ} {e : Event} {s s' : Stage} {x x' : σ} {g g' : Gate}
    {guard : Nat} {call : Option Nat} (hg : g.InRun guard call)
    (ht : Turn h e s g.lifecycle g.delivered x s' g'.lifecycle g'.delivered x') {past : List Call}
    {cur : Option Call} (hs : g'.Serves past cur) :
    g'.InRun guard (cur.map fun _ => past.length) :=
  ⟨ht.phase_ne_idle hg.phase, ht.guards.trans hg.guards, past, cur, hs, rfl⟩

end OpenUrl.Gate

namespace OpenUrl.Desktop

namespace Place

theorem bridge?_of_run {pl : Place} {b guard : Nat} {call : Option Nat}
    (h : pl.run? = some (b, guard, call)) : pl.bridge? = some b := by
  cases pl <;> simp_all [bridge?, run?]

/-- How the gate of a bridge is to be while the main thread is at a place. -/
def Suits (pl : Place) (b : Nat) (g : Gate) : Prop :=
  match pl.run? with
  | some (b', guard, call) => if b' = b then g.InRun guard call else g.AtRest
  | none => g.AtRest

theorem suits_of_run {pl : Place} {b guard : Nat} {call : Option Nat} {g : Gate}
    (h : pl.run? = some (b, guard, call)) : pl.Suits b g ↔ g.InRun guard call := by
  rw [Suits, h]
  simp

/-- Every other bridge than that of the run is at rest. -/
theorem suits_of_ne {pl : Place} {b : Nat} {g : Gate} (h : ∀ r, pl.run? = some r → r.1 ≠ b) :
    pl.Suits b g ↔ g.AtRest := by
  unfold Suits
  split
  · rename_i b' guard call heq
    rw [if_neg (h _ heq)]
  · rfl

theorem Suits.stop {pl : Place} {b : Nat} {g : Gate} (h : pl.Suits b g) :
    pl.Suits b (g.live .requestStop).1 := by
  cases hr : pl.run? with
  | none =>
    have hne : ∀ r, pl.run? = some r → r.1 ≠ b := by simp [hr]
    have hg := (suits_of_ne hne).mp h
    rwa [hg.stop]
  | some r =>
    obtain ⟨b', guard, call⟩ := r
    by_cases hb : b' = b
    · subst b'
      exact (suits_of_run hr).mpr ((suits_of_run hr).mp h).stop
    · have hne : ∀ r, pl.run? = some r → r.1 ≠ b := by simpa [hr] using hb
      have hg := (suits_of_ne hne).mp h
      rwa [hg.stop]

/-- The process is as it has to be while the main thread is at a place. -/
structure Fits (pl : Place) (p : State) : Prop where
  handlers : p.handlers = pl.handlers
  gates : ∀ b g, p.gate? b = some g → pl.Suits b g
  there : ∀ b, pl.bridge? = some b → ∃ g, p.gate? b = some g

namespace Fits

variable {pl pl' : Place} {p p' : State} {b guard : Nat} {call : Option Nat} {g g' : Gate}

theorem inRun (hf : pl.Fits p) (hr : pl.run? = some (b, guard, call)) (hg : p.gate? b = some g) :
    g.InRun guard call :=
  (suits_of_run hr).mp (hf.gates b g hg)

theorem atRest (hf : pl.Fits p) (hr : pl.run? = none) (hg : p.gate? b = some g) : g.AtRest :=
  (suits_of_ne (by simp [hr])).mp (hf.gates b g hg)

theorem exists_gate (hf : pl.Fits p) (hr : pl.run? = some (b, guard, call)) :
    ∃ g, p.gate? b = some g :=
  hf.there b (bridge?_of_run hr)

/-- Only the bridge of the run is not idle. -/
theorem run_of_phase (hf : pl.Fits p) (hg : p.gate? b = some g) (hp : g.lifecycle.phase ≠ .idle) :
    ∃ guard call, pl.run? = some (b, guard, call) := by
  by_contra hnot
  have hrest : g.AtRest := by
    refine (suits_of_ne ?_).mp (hf.gates b g hg)
    rintro ⟨b', guard, call⟩ hr rfl
    exact hnot ⟨guard, call, hr⟩
  exact hp hrest.phase

theorem run_of_isRunning (hf : pl.Fits p) (hb : p.isRunning b = true) :
    ∃ guard call, pl.run? = some (b, guard, call) := by
  unfold State.isRunning at hb
  split at hb
  · rename_i g hg
    refine hf.run_of_phase hg ?_
    rw [Phase.isRunning_iff.mp hb]
    simp
  · simp at hb

/-- Whether the bridge of the run is running depends on its gate only. -/
theorem isRunning_congr (hf : pl.Fits p) (hr : pl.run? = some (b, guard, call))
    (hg : ∀ b g, p.gate? b = some g → p'.gate? b = some g) : p'.isRunning b = p.isRunning b := by
  obtain ⟨g, hgate⟩ := hf.exists_gate hr
  rw [State.isRunning_eq hgate, State.isRunning_eq (hg b g hgate)]

/-- The main thread comes to a place of the same run. -/
theorem congr (hf : pl.Fits p) (hr : pl'.run? = pl.run?)
    (hb : ∀ b, pl'.bridge? = some b → pl.bridge? = some b) (hg : p'.gate? = p.gate?)
    (hh : p'.handlers = pl'.handlers) : pl'.Fits p' := by
  refine ⟨hh, ?_, ?_⟩
  · intro b g h
    rw [hg] at h
    have hs := hf.gates b g h
    rwa [Suits, hr]
  · intro b h
    rw [hg]
    exact hf.there b (hb b h)

/-- The bridge of the run changes. -/
theorem setGate (hf : pl.Fits p) (hg : p.gate? b = some g)
    (hr : ∀ r, pl.run? = some r → r.1 = b) (hr' : ∀ r, pl'.run? = some r → r.1 = b)
    (hs : pl'.Suits b g') (hb : ∀ c, pl'.bridge? = some c → c = b)
    (hh : pl'.handlers = pl.handlers) : pl'.Fits (p.setGate b g') := by
  refine ⟨hf.handlers.trans hh.symm, ?_, ?_⟩
  · intro c x hx
    rw [State.gate?_setGate] at hx
    by_cases hc : b = c
    · subst c
      rw [if_pos rfl, hg] at hx
      obtain rfl : g' = x := by simpa using hx
      exact hs
    · rw [if_neg hc] at hx
      have hx : x.AtRest :=
        (suits_of_ne fun r h => by rw [hr r h]; exact hc).mp (hf.gates c x hx)
      exact (suits_of_ne fun r h => by rw [hr' r h]; exact hc).mpr hx
  · intro c hc
    obtain rfl := hb c hc
    exact ⟨g', State.gate?_setGate_self hg g'⟩

/-- The bridge of the run changes, and the run goes on. -/
theorem within {call' : Option Nat} (hf : pl.Fits p) (hr : pl.run? = some (b, guard, call))
    (hg : p.gate? b = some g) (hr' : pl'.run? = some (b, guard, call'))
    (hg' : g'.InRun guard call') (hh : pl'.handlers = pl.handlers) :
    pl'.Fits (p.setGate b g') := by
  refine hf.setGate hg ?_ ?_ ((suits_of_run hr').mpr hg') ?_ hh
  · simp [hr]
  · simp [hr']
  · simp [bridge?_of_run hr']

end Fits

end Place

variable {σ : Type} {h : Host σ}

theorem Leads.fits {pl pl' : Place} {p p' : State} {s s' : σ} (hl : Leads h pl p s pl' p' s')
    (hf : pl.Fits p) : pl'.Fits p' := by
  cases hl with
  | @begin b _ _ g hg =>
    obtain ⟨-, -, past, hs⟩ := hf.atRest rfl hg
    refine hf.setGate hg (by simp [Place.run?]) (by simp [Place.run?])
      ((Place.suits_of_run rfl).mpr ?_) (by simp [Place.bridge?, Place.run?]) rfl
    exact ⟨by simp, rfl, past, none, hs.congr rfl rfl, rfl⟩
  | install _ =>
    refine hf.congr rfl (by simp [Place.bridge?, Place.run?]) rfl ?_
    exact State.handlers_register hf.handlers _
  | stop hg => exact hf.within rfl hg rfl (hf.inRun rfl hg).stop rfl
  | deliver _ hg hs =>
    refine hf.within rfl hg rfl ?_ rfl
    obtain ⟨hp, hguards, -⟩ := hf.inRun rfl hg
    exact ⟨hp, hguards, _, _, hs.push _, rfl⟩
  | serve hg hs hs' ht => exact hf.within rfl hg rfl ((hf.inRun rfl hg).turn ht hs') rfl
  | answer hg hs hs' ht _ => exact hf.within rfl hg rfl ((hf.inRun rfl hg).turn ht hs') rfl
  | @unwind b guard p s errands t g g' past e stage s' hg hs hs' ht =>
    have hr : (Place.unwinding b guard t).run? = some (b, guard, none) := by cases t <;> rfl
    exact hf.within rfl hg hr ((hf.inRun rfl hg).turn ht hs') (by cases t <;> rfl)
  | remove =>
    refine hf.congr rfl (by simp [Place.bridge?, Place.run?]) rfl ?_
    exact State.handlers_unregister hf.handlers
  | @leave b guard p s e g hg =>
    obtain ⟨-, -, past, cur, hs, hc⟩ := hf.inRun rfl hg
    obtain rfl : cur = none := by simpa using hc.symm
    have hr : (Place.left b e).run? = none := by cases e <;> rfl
    refine hf.setGate hg (by simp [Place.run?]) (by simp [hr])
      ((Place.suits_of_ne (by simp [hr])).mpr ?_) ?_ (by cases e <;> rfl)
    · exact ⟨rfl, rfl, past, hs.congr rfl rfl⟩
    · cases e <;> simp [Place.left, Place.bridge?, Place.run?]
  | _ => exact hf.congr rfl (by simp [Place.bridge?, Place.run?]) rfl hf.handlers

/-- The main thread stays with its bridge. -/
theorem Leads.bridge?_eq {pl pl' : Place} {p p' : State} {s s' : σ} (hl : Leads h pl p s pl' p' s')
    {b : Nat} (hb : pl'.bridge? = some b) : pl.bridge? = some b := by
  cases hl with
  | @unwind _ _ _ _ _ t => cases t <;> exact hb
  | @leave _ _ _ _ e => cases e <;> simp [Place.left, Place.bridge?, Place.run?] at hb
  | unhandled | elsewhere | report | conclude => simp [Place.bridge?, Place.run?] at hb
  | _ => exact hb

theorem serve?_eq (m : Machine σ) (rest : List Task) {b i : Nat} {g g' : Gate} {s' : σ}
    {notices : List OpenUrl.Log.Notice} (hg : m.state.gate? b = some g)
    (hd : Delivery.advance? h ⟨g, m.host⟩ i = some (⟨g', s'⟩, notices)) :
    (m.serve? h b i rest).map Prod.fst = some ⟨m.state.setGate b g', s',
      match g'.verdict? i with
      | none => .serve b i :: rest
      | some .panicked => unwound rest
      | some _ => rest, m.ending⟩ := by
  cases hv : g'.verdict? i with
  | none => simp [Machine.serve?, hg, hd, hv]
  | some v => cases v <;> simp [Machine.serve?, hg, hd, hv]

/-- The tasks that are left of a run when a panic of the callback comes. -/
theorem unwound_within (b guard : Nat) (errands : List Errand) (t : Stretch) :
    unwound (errands.map (Errand.task b) ++ t.agenda b guard) =
      (Place.unwinding b guard t).agenda := by
  have herrands : (errands.map (Errand.task b)).flatMap Task.cleanup = [] := by
    rw [List.flatMap_eq_nil_iff]
    intro task ht
    obtain ⟨a, -, rfl⟩ := List.mem_map.mp ht
    cases a <;> rfl
  have hactions (actions : List LaunchAction) :
      (actions.map (Task.duringLaunch b)).flatMap Task.cleanup = [] := by
    rw [List.flatMap_eq_nil_iff]
    intro task ht
    obtain ⟨a, -, rfl⟩ := List.mem_map.mp ht
    rfl
  rw [unwound, List.flatMap_append, herrands]
  cases t with
  | launch actions =>
    rw [Stretch.agenda, List.flatMap_append, hactions]
    rfl
  | loop => rfl

theorem Place.Fits.step (hh : h.OnlyStops) {pl : Place} {m : Machine σ} (hf : pl.Fits m.state)
    (ha : m.agenda = pl.agenda) (hne : pl ≠ .away) :
    ∃ pl' p' s', Leads h pl m.state m.host pl' p' s' ∧
      (m.step? h).map Prod.fst = some ⟨p', s', pl'.agenda, pl.ending?.or m.ending⟩ := by
  obtain ⟨p, s, agenda, ending⟩ := m
  obtain rfl : agenda = pl.agenda := ha
  change pl.Fits p at hf
  cases pl with
  | away => exact absurd rfl hne
  | receiving e =>
    have hn : p.handler? e = none := by simp [State.handler?, hf.handlers, Place.handlers]
    refine ⟨_, _, _, .unhandled, ?_⟩
    simp [Machine.step?, Place.agenda, hn, Place.ending?]
  | beginning b onMain =>
    cases onMain with
    | false =>
      refine ⟨_, _, _, .elsewhere, ?_⟩
      simp [Machine.step?, Place.agenda, Place.ending?]
    | true =>
      obtain ⟨g, hg⟩ := hf.there b rfl
      obtain ⟨hp, hguards, -⟩ := hf.atRest rfl hg
      refine ⟨_, _, _, .begin hg, ?_⟩
      simp [Machine.step?, Place.agenda, Place.ending?, hg, Lifecycle.beginGuarded, hp, hguards,
        Phase.begin]
  | installing b guard =>
    cases hm : p.managerThere with
    | true =>
      refine ⟨_, _, _, .install hm, ?_⟩
      simp [Machine.step?, Place.agenda, Place.ending?, hm]
      rfl
    | false =>
      refine ⟨_, _, _, .noManager hm, ?_⟩
      simp [Machine.step?, Place.agenda, Place.ending?, hm]
      rfl
  | announcing b guard =>
    refine ⟨_, _, _, .announce, ?_⟩
    simp [Machine.step?, Place.agenda, Place.ending?]
  | entering b guard =>
    cases hl : p.launching with
    | notYet =>
      refine ⟨_, _, _, .launch hl, ?_⟩
      simp [Machine.step?, Place.agenda, Place.ending?, hl, Stretch.agenda]
    | done =>
      refine ⟨_, _, _, .relaunch hl, ?_⟩
      simp [Machine.step?, Place.agenda, Place.ending?, hl, Stretch.agenda]
    | poisoned =>
      refine ⟨_, _, _, .poisoned hl, ?_⟩
      simp [Machine.step?, Place.agenda, Place.ending?, hl]
      rfl
  | within b guard call errands t =>
    obtain ⟨g, hg⟩ := hf.exists_gate rfl
    obtain ⟨-, -, past, cur, hs, rfl⟩ := hf.inRun rfl hg
    cases cur with
    | some c =>
      obtain ⟨e, stage⟩ := c
      obtain ⟨g', s', stage', notices, hd, ht, hc, hs'⟩ := hs.turn hh s
      have hv : g'.verdict? past.length = stage'.ended? :=
        Gate.verdict?_of_call (e := e) (by simp [hc])
      have hstep := serve?_eq
        ⟨p, s, (Place.within b guard (some past.length) errands t).agenda, ending⟩
        (errands.map (Errand.task b) ++ t.agenda b guard) hg hd
      rw [hv] at hstep
      rcases hs' with hs' | ⟨v, rfl, hs'⟩
      · refine ⟨_, _, _, .serve hg hs hs' ht, ?_⟩
        rw [(hs'.tame _ rfl).ended?] at hstep
        exact hstep
      · cases v with
        | panicked =>
          refine ⟨_, _, _, .unwind hg hs hs' ht, ?_⟩
          simp only [Stage.ended?, unwound_within] at hstep
          exact hstep
        | delivered => exact ⟨_, _, _, .answer hg hs hs' ht (by simp), hstep⟩
        | dropped => exact ⟨_, _, _, .answer hg hs hs' ht (by simp), hstep⟩
    | none =>
      cases errands with
      | cons e errands =>
        cases e with
        | stop =>
          refine ⟨_, _, _, .stop hg, ?_⟩
          simp [Machine.step?, Place.agenda, Errand.task, Place.ending?, State.stop_eq hg]
        | send name e =>
          refine ⟨_, _, _, .send, ?_⟩
          cases e <;> simp [Machine.step?, Place.agenda, Errand.task, Place.ending?]
        | deliver e =>
          have hhandler := State.handler?_of_handlers hf.handlers e
          by_cases he : e.OpensUrl
          · rw [if_pos he] at hhandler
            refine ⟨_, _, _, .deliver he hg hs, ?_⟩
            simp [Machine.step?, Place.agenda, Errand.task, Place.ending?, hhandler, hg, hs.calls]
          · rw [if_neg he] at hhandler
            refine ⟨_, _, _, .ignore he, ?_⟩
            simp [Machine.step?, Place.agenda, Errand.task, Place.ending?, hhandler]
      | nil =>
        cases t with
        | launch actions =>
          cases actions with
          | nil =>
            refine ⟨_, _, _, .launched, ?_⟩
            simp [Machine.step?, Place.agenda, Stretch.agenda, Place.ending?]
          | cons a actions =>
            refine ⟨_, _, _, .action, ?_⟩
            cases a <;> simp [Machine.step?, Place.agenda, Stretch.agenda, Place.ending?,
              LaunchAction.errand, Errand.task]
        | loop =>
          cases hr : p.stopRequested b with
          | true =>
            refine ⟨_, _, _, .stopped hr, ?_⟩
            simp [Machine.step?, Place.agenda, Stretch.agenda, Place.ending?, hr]
          | false =>
            refine ⟨_, _, _, .look hr, ?_⟩
            simp [Machine.step?, Place.agenda, Stretch.agenda, Place.ending?, hr]
  | looking b guard =>
    cases hs : p.script with
    | cons a script =>
      refine ⟨_, _, _, .next hs, ?_⟩
      simp [Machine.step?, Place.agenda, Place.ending?, hs, Stretch.agenda, Action.tasks_eq]
    | nil =>
      cases he : p.scriptEnd with
      | stops =>
        refine ⟨_, _, _, .exhausted hs he, ?_⟩
        simp [Machine.step?, Place.agenda, Place.ending?, hs, he, Stretch.agenda, Errand.task]
      | idles =>
        refine ⟨_, _, _, .idle hs he, ?_⟩
        simp [Machine.step?, Place.agenda, Place.ending?, hs, he, Stretch.agenda]
  | poisoning b guard =>
    refine ⟨_, _, _, .poison, ?_⟩
    simp [Machine.step?, Place.agenda, Place.ending?]
  | removing b guard e =>
    refine ⟨_, _, _, .remove, ?_⟩
    simp [Machine.step?, Place.agenda, Place.ending?, closing]
  | freeing b guard e =>
    refine ⟨_, _, _, .free, ?_⟩
    simp [Machine.step?, Place.agenda, Place.ending?]
  | leaving b guard e =>
    obtain ⟨g, hg⟩ := hf.exists_gate rfl
    obtain ⟨-, hguards, -⟩ := hf.inRun rfl hg
    refine ⟨_, _, _, .leave hg, ?_⟩
    have hl : (g.live (.dropGuard guard)).1 =
        { g with lifecycle := ⟨.idle, [], g.lifecycle.issued⟩ } := by
      simp [Gate.live, Lifecycle.step, Lifecycle.dropGuard, hguards, Lifecycle.finish, Phase.finish]
    cases e <;> simp [Machine.step?, Place.agenda, Place.left, Place.ending?, Ending.last,
      State.live_eq hg, hl]
  | reporting b =>
    refine ⟨_, _, _, .report, ?_⟩
    simp [Machine.step?, Place.agenda, Place.ending?]
  | concluding e =>
    refine ⟨_, _, _, .conclude, ?_⟩
    simp [Machine.step?, Place.agenda, Place.ending?]

theorem Place.agenda_eq_begin {pl : Place} {b : Nat} {onMain : Bool}
    (ha : pl.agenda = [.begin b onMain]) : pl = .beginning b onMain := by
  cases pl with
  | beginning => simpa [agenda] using ha
  | within b' guard call errands t =>
    cases call with
    | some call => simp [agenda] at ha
    | none =>
      cases errands with
      | cons e errands => cases e <;> simp [agenda, Errand.task] at ha
      | nil =>
        cases t with
        | launch actions => cases actions <;> simp [agenda, Stretch.agenda] at ha
        | loop => simp [agenda, Stretch.agenda] at ha
  | _ => simp [agenda, closing] at ha

/-- What a move does to a process whose main thread is at a place. -/
inductive Moves (h : Host σ) : Move → Place → Machine σ → Place → Machine σ → Prop
  | main {pl pl' : Place} {m : Machine σ} {p s} : Leads h pl m.state m.host pl' p s →
      Moves h .main pl m pl' ⟨p, s, pl'.agenda, pl.ending?.or m.ending⟩
  | stop {pl : Place} {m : Machine σ} (b) :
      Moves h (.stop b) pl m pl { m with state := (m.state.stop b).2.1 }
  | new {pl : Place} {m : Machine σ} (pollInterval) :
      Moves h (.new pollInterval) pl m pl { m with state := (m.state.newBridge pollInterval).2.1 }
  | start {m : Machine σ} (b onMain) : (m.state.bridges[b]?).any Bridge.alive →
      Moves h (.start b onMain) .away m (.beginning b onMain) (m.start b onMain)
  | drop {m : Machine σ} (b) :
      Moves h (.drop b) .away m .away { m with state := (m.state.dropBridge b).2.1 }
  | receive {m : Machine σ} (e) : Moves h (.receive e) .away m (.receiving e) (m.receive e)
  | set {m : Machine σ} (t) : Moves h (.set t) .away m .away { m with state := m.state.set t }
  | slot {pl : Place} {m : Machine σ} (move slot) :
      Moves h (.slot move) pl m pl { m with state := { m.state with slot := slot } }

/-- The main thread is at a place, and the process fits it. -/
structure Machine.At (m : Machine σ) (pl : Place) : Prop where
  agenda : m.agenda = pl.agenda
  fits : pl.Fits m.state

theorem Place.agenda_eq_nil {pl : Place} (h : pl.agenda = []) : pl = .away := by
  cases pl with
  | away => rfl
  | within b guard call errands t => cases t <;> simp [agenda, Stretch.agenda] at h
  | _ => simp [agenda, closing] at h

namespace Place.Fits

variable {pl : Place} {p : State}

theorem stop (hf : pl.Fits p) (b : Nat) : pl.Fits (p.stop b).2.1 := by
  refine ⟨(congrArg State.handlers (p.stop_frame b)).trans hf.handlers, ?_, ?_⟩
  · intro c g hg
    rw [State.gate?_stop] at hg
    split_ifs at hg with hc
    · obtain ⟨x, hx, rfl⟩ := Option.map_eq_some_iff.mp hg
      exact (hf.gates c x hx).stop
    · exact hf.gates c g hg
  · intro c hc
    obtain ⟨g, hg⟩ := hf.there c hc
    rw [State.gate?_stop, hg]
    split_ifs <;> simp

theorem new (hf : pl.Fits p) (pollInterval : UInt64) :
    pl.Fits (p.newBridge pollInterval).2.1 := by
  refine ⟨(congrArg State.handlers (p.newBridge_frame pollInterval)).trans hf.handlers, ?_, ?_⟩
  · intro c g hg
    obtain hg | ⟨hnone, rfl⟩ := State.gate?_newBridge hg
    · exact hf.gates c g hg
    · -- the main thread is busy with a bridge that is there
      refine (suits_of_ne ?_).mpr Gate.atRest_fresh
      rintro ⟨b, guard, call⟩ hr rfl
      obtain ⟨g, hg⟩ := hf.exists_gate hr
      simp [hg] at hnone
  · intro c hc
    obtain ⟨g, hg⟩ := hf.there c hc
    exact ⟨g, State.gate?_newBridge_of_some hg pollInterval⟩

end Place.Fits

namespace Machine.At

variable {m n : Machine σ} {pl pl' : Place}

theorem moves (hh : h.OnlyStops) (hm : m.At pl) {move : Move} {v : Visible}
    (hn : m.move? h move = some (n, v)) : ∃ pl', Moves h move pl m pl' n := by
  cases move with
  | main =>
    have hne : pl ≠ .away := by
      rintro rfl
      have ha : m.agenda = [] := hm.agenda
      simp [Machine.move?, Machine.step?, ha] at hn
    obtain ⟨pl', p, s, hl, hstep⟩ := hm.fits.step hh hm.agenda hne
    obtain rfl : n = ⟨p, s, pl'.agenda, pl.ending?.or m.ending⟩ := by
      simp only [Machine.move?] at hn
      simpa [hn] using hstep
    exact ⟨pl', .main hl⟩
  | stop b =>
    obtain ⟨rfl, -⟩ := by simpa [Machine.move?] using hn
    exact ⟨pl, .stop b⟩
  | new pollInterval =>
    obtain ⟨rfl, -⟩ := by simpa [Machine.move?] using hn
    exact ⟨pl, .new pollInterval⟩
  | slot move =>
    simp only [Machine.move?, Option.bind_eq_bind, Option.bind_eq_some_iff] at hn
    obtain ⟨⟨p, notices⟩, hp, hn⟩ := hn
    obtain ⟨rfl, -⟩ := by simpa using hn
    rw [State.slotStep?_eq hp]
    exact ⟨pl, .slot move p.slot⟩
  | start b onMain =>
    simp only [Machine.move?] at hn
    split_ifs at hn with hif
    obtain ⟨hempty, halive⟩ := Bool.and_eq_true_iff.mp hif
    obtain rfl := Place.agenda_eq_nil (hm.agenda.symm.trans (List.isEmpty_iff.mp hempty))
    obtain ⟨rfl, -⟩ := by simpa using hn
    exact ⟨_, .start b onMain halive⟩
  | drop b =>
    simp only [Machine.move?] at hn
    split_ifs at hn with hif
    obtain rfl := Place.agenda_eq_nil (hm.agenda.symm.trans (List.isEmpty_iff.mp hif))
    obtain ⟨rfl, -⟩ := by simpa using hn
    exact ⟨_, .drop b⟩
  | receive e =>
    simp only [Machine.move?] at hn
    split_ifs at hn with hif
    obtain rfl := Place.agenda_eq_nil (hm.agenda.symm.trans (List.isEmpty_iff.mp hif))
    obtain ⟨rfl, -⟩ := by simpa using hn
    exact ⟨_, .receive e⟩
  | set t =>
    simp only [Machine.move?] at hn
    split_ifs at hn with hif
    obtain rfl := Place.agenda_eq_nil (hm.agenda.symm.trans (List.isEmpty_iff.mp hif))
    obtain ⟨rfl, -⟩ := by simpa using hn
    exact ⟨_, .set t⟩

/-- The main thread is never stuck. -/
theorem exists_main (hh : h.OnlyStops) (hm : m.At pl) (hbusy : m.agenda ≠ []) :
    ∃ n v, m.move? h .main = some (n, v) := by
  have hne : pl ≠ .away := by
    rintro rfl
    exact hbusy hm.agenda
  obtain ⟨pl', p, s, -, hstep⟩ := hm.fits.step hh hm.agenda hne
  obtain ⟨⟨n, v⟩, hn, -⟩ := Option.map_eq_some_iff.mp hstep
  exact ⟨n, v, hn⟩

theorem of_moves (hm : m.At pl) {move : Move} (hn : Moves h move pl m pl' n) : n.At pl' := by
  cases hn with
  | main hl => exact ⟨rfl, hl.fits hm.fits⟩
  | stop b => exact ⟨hm.agenda, hm.fits.stop b⟩
  | new pollInterval => exact ⟨hm.agenda, hm.fits.new pollInterval⟩
  | start b onMain halive =>
    obtain ⟨x, hx, -⟩ := (Option.any_eq_true _ _).mp halive
    have hf := hm.fits
    refine ⟨rfl, hf.handlers, hf.gates, ?_⟩
    intro c hc
    obtain rfl : b = c := by simpa [Place.bridge?] using hc
    exact ⟨x.gate, by simp [Machine.start, State.gate?, hx]⟩
  | drop b =>
    have hg : (m.state.dropBridge b).2.1.gate? = m.state.gate? := by
      funext c
      exact State.gate?_dropBridge _ b c
    refine ⟨hm.agenda, hm.fits.congr rfl (by simp) hg ?_⟩
    exact (congrArg State.handlers (m.state.dropBridge_frame b)).trans hm.fits.handlers
  | receive e =>
    have hb : ∀ b, (Place.receiving e).bridge? = some b → Place.away.bridge? = some b := by
      simp [Place.bridge?, Place.run?]
    exact ⟨rfl, hm.fits.congr rfl hb rfl hm.fits.handlers⟩
  | set t => exact ⟨hm.agenda, hm.fits.congr rfl (by simp) rfl hm.fits.handlers⟩
  | slot move slot => exact ⟨hm.agenda, hm.fits.congr rfl (by simp) rfl hm.fits.handlers⟩

end Machine.At

/-- What others may have done while the main thread is busy: they use the slot, make bridges and
stop bridges. -/
structure Machine.Aside (m n : Machine σ) : Prop where
  host : n.host = m.host
  agenda : n.agenda = m.agenda
  ending : n.ending = m.ending
  state : n.state = { m.state with slot := n.state.slot, bridges := n.state.bridges }
  gates : ∀ b g, m.state.gate? b = some g →
    n.state.gate? b = some g ∨ n.state.gate? b = some (g.live .requestStop).1

theorem Moves.aside {move : Move} {pl pl' : Place} {m n : Machine σ}
    (hm : Moves h move pl m pl' n) (hne : move ≠ .main) (hbusy : pl ≠ .away) :
    pl' = pl ∧ m.Aside n := by
  cases hm with
  | main => exact absurd rfl hne
  | stop b =>
    refine ⟨rfl, rfl, rfl, rfl, ?_, ?_⟩
    · change (m.state.stop b).2.1 = _
      rw [m.state.stop_frame b]
    · intro c g hg
      simp only [State.gate?_stop, hg]
      split_ifs <;> simp
  | new poll =>
    refine ⟨rfl, rfl, rfl, rfl, m.state.newBridge_frame poll, ?_⟩
    exact fun c g hg => .inl (State.gate?_newBridge_of_some hg poll)
  | slot => exact ⟨rfl, rfl, rfl, rfl, rfl, fun c g hg => .inl hg⟩
  | _ => exact absurd rfl hbusy

/-- What is kept by every task of the main thread and by everything that others do meanwhile holds
as long as the main thread is busy. -/
theorem Machine.busy_induction (hh : h.OnlyStops)
    {P : List (Machine σ × Move) → Place → Machine σ → Prop} {Q : Machine σ × Move → Prop}
    (hat : ∀ run pl n, P run pl n → n.At pl)
    (hmain : ∀ run pl n pl' p s, P run pl n → Q (n, .main) → Leads h pl n.state n.host pl' p s →
      P ((n, .main) :: run) pl' ⟨p, s, pl'.agenda, pl.ending?.or n.ending⟩)
    (haside : ∀ run pl n n' move, P run pl n → move ≠ .main → Moves h move pl n pl n' →
      n.Aside n' → P ((n, move) :: run) pl n')
    {m n : Machine σ} {pl : Place} (hm : P [] pl m) {run : List (Machine σ × Move)}
    (ht : Trail (Machine.move? h) m run n) (hbusy : ∀ s ∈ run, s.1.agenda ≠ [])
    (hrun : ∀ s ∈ run, Q s) : ∃ pl', P run pl' n := by
  induction ht with
  | start => exact ⟨pl, hm⟩
  | @step run a n move v _ hn ih =>
    obtain ⟨pl', ha⟩ := ih (fun s hs => hbusy s (List.mem_cons_of_mem _ hs))
      fun s hs => hrun s (List.mem_cons_of_mem _ hs)
    have hplace := hat run pl' a ha
    obtain ⟨pl'', hmoves⟩ := hplace.moves hh hn
    have hne : pl' ≠ .away := by
      rintro rfl
      exact hbusy (a, move) List.mem_cons_self hplace.agenda
    by_cases hmove : move = .main
    · subst move
      cases hmoves with
      | main hl => exact ⟨pl'', hmain run pl' a pl'' _ _ ha (hrun _ List.mem_cons_self) hl⟩
    · obtain ⟨rfl, hothers⟩ := hmoves.aside hmove hne
      exact ⟨pl'', haside run pl'' a n move ha hmove hmoves hothers⟩

end OpenUrl.Desktop
