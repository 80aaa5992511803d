import OpenUrl.Proofs.Desktop.Claim
import OpenUrl.Proofs.Desktop.Served

/-!
# Registered bridges

A start registers its bridge after it has begun the run, and drops the registration before the
run's guard, however it ends. So a bridge that is registered, or whose event loop lasts, is in a
run; after its start it is idle and registered no more. A start that is refused comes as far as
the failing step, and registers and hands over nothing.
-/
namespace OpenUrl.Desktop

variable {σ : Type} {h : Host σ}

namespace State

/-- The phase of a bridge that has been made. -/
def phase? (p : State) (b : Nat) : Option Phase := (p.gate? b).map fun g => g.lifecycle.phase

/-- How many events a bridge has delivered. -/
def delivered? (p : State) (b : Nat) : Option UInt64 := (p.gate? b).map Gate.delivered

/-- A bridge is registered with the event manager. -/
def Registered (p : State) (b : Nat) : Prop := b ∈ p.handlers.map Prod.snd

/-- A bridge is in a run. -/
def Active (p : State) (b : Nat) : Prop :=
  p.phase? b = some .running ∨ p.phase? b = some .stopping

/-- Why a start is refused in a process, on the main thread or not. -/
def refusal? (p : State) (onMain : Bool) : Option Failure :=
  if onMain then if p.managerThere then none else some noManagerFailure else some offMainFailure

theorem active_of_inRun {p : State} {b guard : Nat} {call : Option Nat} {g : Gate}
    (hg : p.gate? b = some g) (hrun : g.InRun guard call) : p.Active b := by
  have hphase := hrun.phase
  simp only [Active, phase?, hg, Option.map_some]
  cases hp : g.lifecycle.phase with
  | idle => exact absurd hp hphase
  | running => exact .inl rfl
  | stopping => exact .inr rfl

end State

/-- The bridge in whose start a task stands. -/
def Task.bridge? : Task → Option Nat
  | begin b _ | install b _ | announce b | launch b | duringLaunch b _ | check b | next b
  | serve b _ | stop b | finish b _ | report b => some b
  | launched | poison | send _ _ | deliver _ | uninstall | dealloc | conclude _ => none

/-- The main thread has to do tasks of a start of a bridge. -/
def Machine.Starts (m : Machine σ) (b : Nat) : Prop := ∃ t ∈ m.agenda, t.bridge? = some b

namespace Place

theorem run_of_registered {pl : Place} {b : Nat} (hb : b ∈ pl.handlers.map Prod.snd) :
    ∃ guard call, pl.run? = some (b, guard, call) := by
  cases pl <;> simp_all [handlers, run?]

/-- Only in a run there are looks of an event loop to come. -/
theorem run_of_check {pl : Place} {b : Nat} (hb : Task.check b ∈ pl.agenda) :
    ∃ guard call, pl.run? = some (b, guard, call) := by
  cases pl with
  | within b' guard call errands t =>
    have hcall : Task.check b ∉ (call.map (Task.serve b')).toList := by
      cases call <;> simp
    have herrands : Task.check b ∉ errands.map (Errand.task b') := by
      intro hmem
      obtain ⟨e, -, he⟩ := List.mem_map.mp hmem
      cases e <;> simp [Errand.task] at he
    have hstretch : Task.check b ∈ t.agenda b' guard := by
      simpa [agenda, hcall, herrands] using hb
    obtain rfl : b = b' := by
      cases t <;> simpa [Stretch.agenda, closing, Ending.last] using hstretch
    exact ⟨guard, call, rfl⟩
  | removing b' guard e => cases e <;> simp [agenda, closing, Ending.last] at hb
  | freeing b' guard e => cases e <;> simp [agenda, Ending.last] at hb
  | leaving b' guard e => cases e <;> simp [agenda, Ending.last] at hb
  | _ => simp_all [agenda, closing, Ending.last, run?]

/-- As long as a run lasts, its guard is to be dropped. -/
theorem starts_of_run {pl : Place} {b guard : Nat} {call : Option Nat}
    (hr : pl.run? = some (b, guard, call)) : ∃ t ∈ pl.agenda, t.bridge? = some b := by
  cases pl with
  | installing => exact ⟨.install b guard, by simp_all [run?, agenda], rfl⟩
  | within _ _ _ _ t =>
    refine ⟨.finish b guard, ?_, rfl⟩
    cases t <;> simp_all [run?, agenda, Stretch.agenda, closing]
  | away | receiving | beginning | reporting | concluding => simp [run?] at hr
  | _ => exact ⟨.finish b guard, by simp_all [run?, agenda, closing], rfl⟩

end Place

/-- A bridge is registered only in a run, its event loop lasts only in a run, and outside its
starts it is idle and not registered. -/
structure Machine.Kept (m : Machine σ) : Prop where
  registered : ∀ b, m.state.Registered b → m.state.Active b
  looping : ∀ b, Task.check b ∈ m.agenda → m.state.Active b
  otherwise : ∀ b, ¬ m.Starts b →
    (∀ phase, m.state.phase? b = some phase → phase = .idle) ∧ ¬ m.state.Registered b

theorem Machine.At.kept {m : Machine σ} {pl : Place} (hm : m.At pl) : m.Kept := by
  have hactive {b guard : Nat} {call : Option Nat} (hr : pl.run? = some (b, guard, call)) :
      m.state.Active b := by
    obtain ⟨g, hg⟩ := hm.fits.exists_gate hr
    exact State.active_of_inRun hg (hm.fits.inRun hr hg)
  have hregistered {b : Nat} (hb : m.state.Registered b) :
      ∃ guard call, pl.run? = some (b, guard, call) := by
    rw [State.Registered, hm.fits.handlers] at hb
    exact Place.run_of_registered hb
  have hstarts {b guard : Nat} {call : Option Nat} (hr : pl.run? = some (b, guard, call)) :
      m.Starts b := by
    rw [Machine.Starts, hm.agenda]
    exact Place.starts_of_run hr
  refine ⟨?_, ?_, ?_⟩
  · intro b hb
    obtain ⟨guard, call, hr⟩ := hregistered hb
    exact hactive hr
  · intro b hb
    rw [hm.agenda] at hb
    obtain ⟨guard, call, hr⟩ := Place.run_of_check hb
    exact hactive hr
  · intro b hnot
    refine ⟨?_, ?_⟩
    · intro phase hphase
      obtain ⟨g, hg, rfl⟩ := Option.map_eq_some_iff.mp hphase
      by_contra hne
      obtain ⟨guard, call, hr⟩ := hm.fits.run_of_phase hg hne
      exact hnot (hstarts hr)
    · intro hb
      obtain ⟨guard, call, hr⟩ := hregistered hb
      exact hnot (hstarts hr)

/-- A start that is not refused comes to an end of its run. -/
def Ending.Ran : Ending → Prop
  | finished | panicked => True
  | failed _ => False

/-- A place of a start that is not refused. -/
def Place.Granted (p : State) : Place → Prop
  | beginning _ onMain => p.refusal? onMain = none
  | installing _ _ => p.managerThere = true
  | removing _ _ e | freeing _ _ e | leaving _ _ e | concluding e => e.Ran
  | receiving _ => False
  | _ => True

/-- A place of a start of bridge `b` that is refused with `f`. -/
def Place.Refused (b : Nat) (f : Failure) (p : State) : Place → Prop
  | beginning b' onMain => b' = b ∧ p.refusal? onMain = some f
  | installing b' _ => b' = b ∧ p.managerThere = false ∧ f = noManagerFailure
  | leaving b' _ e => b' = b ∧ e = .failed f
  | concluding e => e = .failed f
  | away => True
  | _ => False

theorem Leads.granted {pl pl' : Place} {p p' : State} {s s' : σ} (hl : Leads h pl p s pl' p' s')
    (hp : pl.Granted p) : pl'.Granted p' := by
  cases hl with
  | unhandled => exact hp.elim
  | elsewhere => simp [Place.Granted, State.refusal?] at hp
  | begin =>
    have hmanager : p.managerThere = true := by
      simpa [Place.Granted, State.refusal?] using hp
    exact hmanager
  | noManager hno =>
    have hmanager : p.managerThere = true := hp
    simp [hno] at hmanager
  | @unwind _ _ _ _ _ t => cases t <;> trivial
  | @leave _ _ _ _ e => cases e <;> trivial
  | remove | free => exact hp
  | _ => trivial

/-- A start that is refused registers nothing and hands over nothing. -/
theorem Leads.refused {pl pl' : Place} {p p' : State} {s s' : σ} (hl : Leads h pl p s pl' p' s')
    {b : Nat} {f : Failure} (hp : pl.Refused b f p) :
    pl'.Refused b f p' ∧ s' = s ∧ p'.delivered? b = p.delivered? b := by
  cases hl with
  | unhandled => exact hp.elim
  | elsewhere =>
    obtain ⟨-, hf⟩ := hp
    obtain rfl : offMainFailure = f := by simpa [State.refusal?] using hf
    exact ⟨rfl, rfl, rfl⟩
  | begin hg =>
    obtain ⟨rfl, hf⟩ := hp
    have hno : p.managerThere = false ∧ f = noManagerFailure := by
      cases hmanager : p.managerThere with
      | true => simp [State.refusal?, hmanager] at hf
      | false => exact ⟨rfl, by simpa [State.refusal?, hmanager] using hf.symm⟩
    refine ⟨⟨rfl, hno⟩, rfl, ?_⟩
    simp only [State.delivered?, State.gate?_setGate_self hg, hg, Option.map_some]
  | install hmanager =>
    obtain ⟨-, hno, -⟩ := hp
    simp [hno] at hmanager
  | noManager =>
    obtain ⟨rfl, -, rfl⟩ := hp
    exact ⟨⟨rfl, rfl⟩, rfl, rfl⟩
  | leave hg =>
    obtain ⟨rfl, rfl⟩ := hp
    refine ⟨rfl, rfl, ?_⟩
    simp only [State.delivered?, State.gate?_setGate_self hg, hg, Option.map_some]
  | conclude => exact ⟨trivial, rfl, rfl⟩
  | _ => exact hp.elim

theorem Place.Refused.handlers {pl : Place} {b : Nat} {f : Failure} {p : State}
    (hp : pl.Refused b f p) : pl.handlers = [] := by
  cases pl <;> first | rfl | exact hp.elim

theorem Place.Refused.call? {pl : Place} {b : Nat} {f : Failure} {p : State}
    (hp : pl.Refused b f p) : pl.call? p = none := by
  cases pl <;> first | rfl | exact hp.elim

theorem calledBack_main (m : Machine σ) (run : List (Machine σ × Move)) :
    calledBack ((m, .main) :: run) =
      calledBack run ++ (m.call?.bind Call.entering?).toList :=
  recorded_cons Machine.received? m .main run

/-- Only the main thread calls back. -/
theorem calledBack_of_ne (m : Machine σ) {move : Move} (hm : move ≠ .main)
    (run : List (Machine σ × Move)) : calledBack ((m, move) :: run) = calledBack run := by
  have hnone : m.received? move = none := by
    cases move <;> first | rfl | exact absurd rfl hm
  rw [calledBack, recorded_cons, hnone, Option.toList_none, List.append_nil]
  rfl

/-- Others do not count. -/
theorem Machine.Aside.delivered? {m n : Machine σ} (ha : m.Aside n) {b : Nat} {d : UInt64}
    (hd : m.state.delivered? b = some d) : n.state.delivered? b = some d := by
  obtain ⟨g, hg, rfl⟩ := Option.map_eq_some_iff.mp hd
  rcases ha.gates b g hg with hg' | hg'
  · simp only [State.delivered?, hg', Option.map_some]
  · simp only [State.delivered?, hg', Option.map_some, Gate.delivered_live]

/-- A start that is not refused. -/
structure Underway (run : List (Machine σ × Move)) (pl : Place) (n : Machine σ) : Prop where
  place : n.At pl
  granted : pl.Granted n.state
  ended : pl = .away → ∃ e : Ending, n.ending = some e ∧ e.Ran

theorem Underway.main {run : List (Machine σ × Move)} {pl pl' : Place} {n : Machine σ} {p : State}
    {s : σ} (hu : Underway run pl n) (hl : Leads h pl n.state n.host pl' p s) :
    Underway ((n, .main) :: run) pl' ⟨p, s, pl'.agenda, pl.ending?.or n.ending⟩ := by
  refine ⟨⟨rfl, hl.fits hu.place.fits⟩, hl.granted hu.granted, ?_⟩
  intro haway
  have hgranted := hu.granted
  rcases hl.of_away haway with ⟨e, rfl⟩ | ⟨e, rfl⟩
  · exact hgranted.elim
  · exact ⟨e, rfl, hgranted⟩

theorem Underway.aside {run : List (Machine σ × Move)} {pl : Place} {n n' : Machine σ}
    (hu : Underway run pl n) {move : Move} (hmoves : Moves h move pl n pl n') (ha : n.Aside n') :
    Underway ((n, move) :: run) pl n' := by
  have hmanager : n'.state.managerThere = n.state.managerThere :=
    (congrArg State.managerThere ha.state :)
  have hrefusal (onMain : Bool) : n'.state.refusal? onMain = n.state.refusal? onMain := by
    simp only [State.refusal?, hmanager]
  refine ⟨hu.place.of_moves hmoves, ?_, ?_⟩
  · have hgranted := hu.granted
    cases pl with
    | beginning b onMain => exact (hrefusal onMain).trans hgranted
    | installing b guard => exact hmanager.trans hgranted
    | _ => exact hgranted
  · rw [ha.ending]
    exact hu.ended

/-- A start of bridge `b` at `m` that is refused with `f`. -/
structure Denied (m : Machine σ) (b : Nat) (f : Failure) (run : List (Machine σ × Move))
    (pl : Place) (n : Machine σ) : Prop where
  place : n.At pl
  refused : pl.Refused b f n.state
  handlers : ∀ s ∈ run, s.1.state.handlers = []
  calledBack : calledBack run = []
  host : n.host = m.host
  delivered : ∃ d, m.state.delivered? b = some d ∧ n.state.delivered? b = some d
  ended : pl = .away → n.ending = some (.failed f)

namespace Denied

variable {m n n' : Machine σ} {b : Nat} {f : Failure} {run : List (Machine σ × Move)}
  {pl pl' : Place}

theorem no_handlers (hd : Denied m b f run pl n) : n.state.handlers = [] :=
  hd.place.fits.handlers.trans hd.refused.handlers

theorem cons_handlers (hd : Denied m b f run pl n) (move : Move) :
    ∀ s ∈ (n, move) :: run, s.1.state.handlers = [] := by
  intro k hk
  rcases List.mem_cons.mp hk with rfl | hk
  · exact hd.no_handlers
  · exact hd.handlers k hk

theorem main (hd : Denied m b f run pl n) {p : State} {s : σ}
    (hl : Leads h pl n.state n.host pl' p s) :
    Denied m b f ((n, .main) :: run) pl' ⟨p, s, pl'.agenda, pl.ending?.or n.ending⟩ := by
  obtain ⟨hrefused, hhost, hdelivered⟩ := hl.refused hd.refused
  obtain ⟨d, hm, hn⟩ := hd.delivered
  refine ⟨⟨rfl, hl.fits hd.place.fits⟩, hrefused, hd.cons_handlers .main, ?_,
    hhost.trans hd.host, ⟨d, hm, hdelivered.trans hn⟩, ?_⟩
  · rw [calledBack_main, hd.place.call?, hd.refused.call?, hd.calledBack]
    rfl
  · intro haway
    have hplace := hd.refused
    rcases hl.of_away haway with ⟨e, rfl⟩ | ⟨e, rfl⟩
    · exact hplace.elim
    · obtain rfl : e = .failed f := hplace
      rfl

theorem aside (hd : Denied m b f run pl n) {move : Move} (hmain : move ≠ .main)
    (hmoves : Moves h move pl n pl n') (ha : n.Aside n') :
    Denied m b f ((n, move) :: run) pl n' := by
  have hmanager : n'.state.managerThere = n.state.managerThere :=
    (congrArg State.managerThere ha.state :)
  have hrefusal (onMain : Bool) : n'.state.refusal? onMain = n.state.refusal? onMain := by
    simp only [State.refusal?, hmanager]
  obtain ⟨d, hm, hn⟩ := hd.delivered
  refine ⟨hd.place.of_moves hmoves, ?_, hd.cons_handlers move, ?_, ha.host.trans hd.host,
    ⟨d, hm, ha.delivered? hn⟩, ?_⟩
  · have hrefused := hd.refused
    cases pl with
    | beginning b' onMain => exact ⟨hrefused.1, (hrefusal onMain).trans hrefused.2⟩
    | installing b' guard => exact ⟨hrefused.1, hmanager.trans hrefused.2.1, hrefused.2.2⟩
    | _ => exact hrefused
  · rw [calledBack_of_ne n hmain, hd.calledBack]
  · rw [ha.ending]
    exact hd.ended

end Denied

/-- What a start of bridge `b` at `m` has done that was refused with `f` and has ended at `n`. -/
structure Spurned (m : Machine σ) (b : Nat) (f : Failure) (run : List (Machine σ × Move))
    (n : Machine σ) : Prop where
  ending : n.ending = some (.failed f)
  /-- Nobody has been registered at any time. -/
  handlers : (∀ s ∈ run, s.1.state.handlers = []) ∧ n.state.handlers = []
  calledBack : calledBack run = []
  host : n.host = m.host
  delivered : n.state.delivered? b = m.state.delivered? b

/-- What has become of bridge `b` and of its start at `m` that has ended at `n`. -/
structure Returned (m : Machine σ) (b : Nat) (onMain : Bool) (run : List (Machine σ × Move))
    (n : Machine σ) : Prop where
  idle : n.state.phase? b = some .idle
  unregistered : ¬ n.state.Registered b
  slot : n.state.slot = m.state.slot
  claims : n.state.claims = m.state.claims
  /-- A start that is not refused has finished its run, or a panic has. -/
  ran : m.state.refusal? onMain = none → n.ending = some .finished ∨ n.ending = some .panicked
  spurned : ∀ f, m.state.refusal? onMain = some f → Spurned m b f run n

/-- The main thread begins a start. -/
theorem Machine.At.start {m : Machine σ} (hm : m.At .away) {b : Nat}
    (halive : (m.state.bridges[b]?).any Bridge.alive) (onMain : Bool) :
    (m.start b onMain).At (.beginning b onMain) :=
  hm.of_moves (h := ⟨fun s _ => (s, .quiet)⟩) (.start b onMain halive)

/-- A start that is not refused ends with its run. -/
theorem Machine.At.ran_of_trail {m n : Machine σ} (hm : m.At .away) (hh : h.OnlyStops) {b : Nat}
    (halive : (m.state.bridges[b]?).any Bridge.alive) {onMain : Bool}
    (hgrant : m.state.refusal? onMain = none) {run : List (Machine σ × Move)}
    (ht : Trail (move? h) (m.start b onMain) run n) (hbusy : ∀ s ∈ run, s.1.agenda ≠ [])
    (hn : n.agenda = []) : n.ending = some .finished ∨ n.ending = some .panicked := by
  have hstart : Underway [] (.beginning b onMain) (m.start b onMain) :=
    ⟨hm.start halive onMain, hgrant, by simp⟩
  obtain ⟨pl, hu⟩ := busy_induction (Q := fun _ => True) hh (fun _ _ _ hu => hu.place)
    (fun _ _ _ _ _ _ hu _ hl => hu.main hl)
    (fun _ _ _ _ _ hu _ hmoves ha => hu.aside hmoves ha) hstart ht hbusy (by simp)
  obtain rfl := Place.agenda_eq_nil (hu.place.agenda.symm.trans hn)
  obtain ⟨e, he, hran⟩ := hu.ended rfl
  cases e with
  | finished => exact .inl he
  | panicked => exact .inr he
  | failed f => exact hran.elim

theorem Machine.At.spurned_of_trail {m n : Machine σ} (hm : m.At .away) (hh : h.OnlyStops) {b : Nat}
    (halive : (m.state.bridges[b]?).any Bridge.alive) {onMain : Bool} {f : Failure}
    (hrefuse : m.state.refusal? onMain = some f) {run : List (Machine σ × Move)}
    (ht : Trail (move? h) (m.start b onMain) run n) (hbusy : ∀ s ∈ run, s.1.agenda ≠ [])
    (hn : n.agenda = []) : Spurned m b f run n := by
  have hplace := hm.start halive onMain
  obtain ⟨g, hg⟩ := hplace.fits.there b rfl
  have hdelivered : m.state.delivered? b = some g.delivered := congrArg (Option.map _) hg
  have hstart : Denied m b f [] (.beginning b onMain) (m.start b onMain) :=
    ⟨hplace, ⟨rfl, hrefuse⟩, by simp, rfl, rfl, ⟨_, hdelivered, hdelivered⟩, by simp⟩
  obtain ⟨pl, hd⟩ := busy_induction (Q := fun _ => True) hh (fun _ _ _ hd => hd.place)
    (fun _ _ _ _ _ _ hd _ hl => hd.main hl)
    (fun _ _ _ _ _ hd hmain hmoves ha => hd.aside hmain hmoves ha) hstart ht hbusy (by simp)
  obtain rfl := Place.agenda_eq_nil (hd.place.agenda.symm.trans hn)
  obtain ⟨d, hm', hn'⟩ := hd.delivered
  exact ⟨hd.ended rfl, ⟨hd.handlers, hd.no_handlers⟩, hd.calledBack, hd.host, hn'.trans hm'.symm⟩

/-- At any time a bridge that is registered, or whose event loop lasts, runs or stops, and outside
its starts it is idle and not registered. A start that is refused registers nothing, hands over
nothing, and leaves the counter and the slot as they were. -/
theorem registration_invariant (hh : h.OnlyStops) {scriptEnd : ScriptEnd} {s₀ : σ}
    {past : List (Machine σ × Move)} {m : Machine σ}
    (ht : Trail (Machine.move? h) (Machine.idle scriptEnd s₀) past m) :
    m.Kept ∧ ∀ {b : Nat} {onMain : Bool} {run : List (Machine σ × Move)} {n : Machine σ},
      m.agenda = [] → (m.state.bridges[b]?).any Bridge.alive →
      Trail (Machine.move? h) (m.start b onMain) run n → (∀ s ∈ run, s.1.agenda ≠ []) →
      n.agenda = [] → Returned m b onMain run n := by
  obtain ⟨pl, hm⟩ := Machine.exists_at hh ht
  obtain ⟨owner, howner⟩ := Machine.exists_owner hh ht
  refine ⟨hm.kept, ?_⟩
  intro b onMain run n hidle halive hrun hbusy hn
  obtain rfl := Place.agenda_eq_nil (hm.agenda.symm.trans hidle)
  have hstart : Machine.move? h m (.start b onMain) = some (m.start b onMain, .nothing) := by
    simp [Machine.move?, hidle, halive]
  obtain ⟨pl, hplace⟩ := Machine.exists_at hh ((ht.step hstart).append hrun)
  obtain rfl := Place.agenda_eq_nil (hplace.agenda.symm.trans hn)
  -- the bridge that is started owns the slot
  obtain ⟨guard, hclaim⟩ := State.claims_of_alive halive
  obtain rfl := howner.bridge b guard hclaim
  obtain ⟨hslot, hclaims⟩ := (hm.start halive onMain).claims_of_trail hh howner hclaim hrun hbusy
  obtain ⟨g, hg⟩ := State.exists_gate_of_claims (hclaims ▸ hclaim)
  refine ⟨?_, ?_, hslot, hclaims, ?_, ?_⟩
  · rw [State.phase?, hg, Option.map_some, (hplace.fits.atRest rfl hg).phase]
  · rw [State.Registered, hplace.fits.handlers]
    simp [Place.handlers]
  · exact fun hgrant => hm.ran_of_trail hh halive hgrant hrun hbusy hn
  · exact fun f hrefuse => hm.spurned_of_trail hh halive hrefuse hrun hbusy hn

/-- A start whose callback panics, and a start without an event manager, which is stopped between
its begin and the attempt to register. -/
theorem registration_after_panic_without_manager : ∃ past m run n,
    Trail (Machine.move? (ruled [⟨"boom", .panic⟩])) (Machine.idle .stops []) past m ∧
      (∃ s ∈ past, s.1.Panics) ∧ m.Kept ∧
      Trail (Machine.move? (ruled [⟨"boom", .panic⟩])) (m.start 0 true) run n ∧
      (∃ s ∈ run, s.1.state.phase? 0 = some .stopping) ∧ Returned m 0 true run n ∧
      n.ending = some (.failed noManagerFailure) := by
  have ht : Trail (Machine.move? (ruled [⟨"boom", .panic⟩])) (Machine.idle .stops []) _ _ :=
    Trail.of_isSome ([.new 100, .set ⟨true, [], [.deliver (.ofEvent ⟨"boom", 7⟩)], none⟩,
      .start 0 true] ++ List.replicate 17 .main ++ [.set ⟨false, [], [], none⟩])
      (by decide +kernel)
  obtain ⟨hkept, hreturned⟩ :=
    registration_invariant (onlyStops_ruled [⟨"boom", .panic⟩]) ht
  refine ⟨_, _, _, _, ht, ?_, hkept,
    Trail.of_isSome ([.main, .stop 0, .main, .main, .main] : List Move) ?_, ?_,
    hreturned ?_ ?_ (Trail.of_isSome ([.main, .stop 0, .main, .main, .main] : List Move) ?_) ?_ ?_,
    ?_⟩
  all_goals decide +kernel

end OpenUrl.Desktop
