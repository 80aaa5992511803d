import OpenUrl.Proofs.Desktop.Registered
import OpenUrl.Proofs.Desktop.Script

/-!
# Delivery up to the stop

Every event that the system hands over in a start looks once whether the bridge runs. Those that
look before the stop are received, in their order, and the others are dropped: a stop cuts the
script in two, wherever it falls. After the stop the event loop looks at the event queue no more
than its next check allows.
-/
namespace OpenUrl

theorem Host.after_append {σ : Type} (h : Host σ) (s : σ) (xs ys : List Event) :
    h.after s (xs ++ ys) = h.after (h.after s xs) ys :=
  List.foldl_append

namespace Desktop

variable {σ : Type} {h : Host σ}

theorem judged_main (m : Machine σ) (run : List (Machine σ × Move)) :
    judged ((m, .main) :: run) = judged run ++ (m.call?.bind Call.judging?).toList :=
  recorded_cons Machine.judged? m .main run

/-- Only the main thread looks for an event whether the bridge runs. -/
theorem Machine.judged?_of_ne (m : Machine σ) {move : Move} (hm : move ≠ .main) :
    m.judged? move = none := by
  cases move <;> first | rfl | exact absurd rfl hm

theorem judged_of_ne (m : Machine σ) {move : Move} (hm : move ≠ .main)
    (run : List (Machine σ × Move)) : judged ((m, move) :: run) = judged run := by
  rw [judged, recorded_cons, m.judged?_of_ne hm, Option.toList_none, List.append_nil]
  rfl

/-- The next task is a look at the event queue. -/
def Machine.atPump (m : Machine σ) : Bool :=
  match m.agenda with
  | .next _ :: _ => true
  | _ => false

namespace Place

/-- The event loop has not been reached. -/
def isBefore : Place → Bool
  | beginning _ _ | installing _ _ | announcing _ _ | entering _ _ => true
  | within _ _ _ _ t => t.isLaunch
  | _ => false

/-- The event loop is checked before the next look at the event queue, if one comes. -/
def isShort : Place → Bool
  | within _ _ none [] .loop => true
  | pl => pl.isBefore || pl.isOver

theorem isShort_of_isBefore {pl : Place} (hp : pl.isBefore = true) : pl.isShort = true := by
  unfold isShort
  split
  · rfl
  · simp [hp]

theorem isShort_of_isOver {pl : Place} (hp : pl.isOver = true) : pl.isShort = true := by
  unfold isShort
  split
  · rfl
  · simp [hp]

theorem isBefore_of_inLaunch {pl : Place} (hp : pl.inLaunch = true) : pl.isBefore = true := by
  cases pl <;> first | exact hp | simp [inLaunch] at hp

theorem agenda_eq_next {pl : Place} {b : Nat} {rest : List Task}
    (ha : pl.agenda = .next b :: rest) : ∃ guard, pl = .looking b guard := by
  cases pl with
  | looking b' guard =>
    obtain ⟨rfl, -⟩ := by simpa [agenda] using ha
    exact ⟨guard, rfl⟩
  | within b' guard call errands t =>
    cases call with
    | some call => simp [agenda] at ha
    | none =>
      cases errands with
      | cons e errands => cases e <;> simp [agenda, Errand.task] at ha
      | nil =>
        cases t with
        | launch actions => cases actions <;> simp [agenda, Stretch.agenda] at ha
        | loop => simp [agenda, Stretch.agenda] at ha
  | _ => simp [agenda, closing] at ha

end Place

theorem Machine.At.atPump_eq_false {m : Machine σ} {pl : Place} (hm : m.At pl)
    (hp : pl.isShort = true) : m.atPump = false := by
  rw [Machine.atPump, hm.agenda]
  split
  · rename_i b rest ha
    obtain ⟨guard, rfl⟩ := Place.agenda_eq_next ha
    simp [Place.isShort, Place.isBefore, Place.isOver] at hp
  · rfl

theorem Leads.isBefore {pl pl' : Place} {p p' : State} {s s' : σ} (hl : Leads h pl p s pl' p' s')
    (hp : pl'.isBefore = true) : pl.isBefore = true := by
  cases hl with
  | @unwind _ _ _ _ _ t => cases t <;> simp [Place.unwinding, Place.isBefore] at hp
  | @leave _ _ _ _ e => cases e <;> simp [Place.left, Place.isBefore] at hp
  | begin | install | announce | launch => rfl
  | _ => first | exact hp | simp [Place.isBefore, Stretch.isLaunch] at hp

/-- The event loop is not gone on with if its check finds that the bridge has been asked to
stop. -/
theorem Leads.isShort {pl pl' : Place} {p p' : State} {s s' : σ} (hl : Leads h pl p s pl' p' s')
    (hnot : ¬ pl.Unwinds pl') (hp : pl.isShort = true)
    (hstop : ∀ b guard, pl = .within b guard none [] .loop → p.stopRequested b = true) :
    pl'.isShort = true := by
  cases hl with
  | look hrun => simp [hstop _ _ rfl] at hrun
  | unwind => exact absurd ⟨_, _, _, _, _, rfl, rfl⟩ hnot
  | @leave _ _ _ _ e => cases e <;> rfl
  | @stop _ _ _ _ _ t | @send _ _ _ _ _ _ _ t | @deliver _ _ _ _ _ _ t | @ignore _ _ _ _ _ _ t
  | @serve _ _ _ _ _ t | @answer _ _ _ _ _ t =>
    cases t with
    | launch actions => exact Place.isShort_of_isBefore rfl
    | loop => simp [Place.isShort, Place.isBefore, Place.isOver, Stretch.isLaunch] at hp
  | next | exhausted | idle | poison =>
    simp [Place.isShort, Place.isBefore, Place.isOver] at hp
  | action => exact Place.isShort_of_isBefore rfl
  | _ => rfl

theorem Leads.isOver {pl pl' : Place} {p p' : State} {s s' : σ} (hl : Leads h pl p s pl' p' s')
    (hp : pl.isOver = true) : pl'.isOver = true := by
  cases hl with
  | @leave _ _ _ _ e => cases e <;> rfl
  | remove | free | report | conclude => rfl
  | _ => simp [Place.isOver] at hp

/-- A check that sees that the bridge has been asked to stop ends the event loop. -/
theorem Leads.isOver_of_seesStop {pl pl' : Place} {m : Machine σ} {p : State} {s : σ}
    (hl : Leads h pl m.state m.host pl' p s) (hm : m.At pl) {b : Nat} (hsees : m.SeesStop b) :
    pl'.isOver = true := by
  obtain ⟨⟨rest, ha⟩, hstop⟩ := hsees
  obtain ⟨guard, rfl⟩ := Place.agenda_eq_check (hm.agenda.symm.trans ha)
  cases hl with
  | stopped => rfl
  | look hrun => simp [hstop] at hrun

/-- The begin of a run. -/
theorem Leads.isRunning_of_beginning {b : Nat} {pl' : Place} {p p' : State} {s s' : σ}
    (hl : Leads h (.beginning b true) p s pl' p' s') : p'.isRunning b = true := by
  cases hl with
  | begin hg =>
    rw [State.isRunning_eq (State.gate?_setGate_self hg _)]
    rfl

namespace Place

theorem Halted.isRunning {pl : Place} {p : State} (hp : pl.Halted p) (hf : pl.Fits p) (b : Nat) :
    p.isRunning b = false := by
  by_contra hrun
  obtain ⟨guard, call, hr⟩ := hf.run_of_isRunning (by simpa using hrun)
  exact hrun (hp.stopped _ hr)

/-- A run that has been stopped is found to have been. -/
theorem Halted.stopRequested {pl : Place} {p : State} (hp : pl.Halted p) (hf : pl.Fits p)
    {b guard : Nat} {call : Option Nat} (hr : pl.run? = some (b, guard, call)) :
    p.stopRequested b = true := by
  obtain ⟨g, hg⟩ := hf.exists_gate hr
  have hidle := (hf.inRun hr hg).phase
  have hrunning := hp.phase hr hg
  rw [State.stopRequested_eq hg]
  cases hphase : g.lifecycle.phase with
  | idle => exact absurd hphase hidle
  | running => exact absurd hphase hrunning
  | stopping => simp [Lifecycle.stopRequested, hphase, Phase.stopRequested]

theorem Sound.halted {pl : Place} {p : State} {b : Nat} (hp : pl.Sound b)
    (hne : pl ≠ .beginning b true) (hrun : p.isRunning b = false) : pl.Halted p := by
  refine ⟨?_, ?_⟩
  · rintro c rfl
    obtain rfl : c = b := hp.1
    exact hne rfl
  · intro r hr
    obtain rfl : r.1 = b := hp.eq_of_bridge? _ (bridge?_of_run hr)
    exact hrun

end Place

/-- The run of bridge `b` has not been stopped: whatever has looked goes on to the callback. -/
structure Whole (b : Nat) (run : List (Machine σ × Move)) (pl : Place) (n : Machine σ) : Prop where
  running : n.state.isRunning b = true ∨ pl = .beginning b true
  lasts : pl.isOver = false
  received : calledBack run ++ ((pl.call? n.state).bind Call.entering?).toList = judged run

/-- The run of bridge `b` has been stopped by a move at `k`: what had looked before is received. -/
structure Severed (b : Nat) (run : List (Machine σ × Move)) (pl : Place) (n : Machine σ)
    (before : List (Machine σ × Move)) (k : Machine σ) (move : Move)
    (after : List (Machine σ × Move)) : Prop where
  run_eq : run = after ++ (k, move) :: before
  running : k.state.isRunning b = true
  looking : k.judged? move = none
  later : ∀ s ∈ after, s.1.state.isRunning b = false
  halted : pl.Halted n.state
  received : calledBack run ++ ((pl.call? n.state).bind Call.entering?).toList = judged before
  /-- After a stop in the launch there is no look at the event queue. -/
  launch : k.InLaunch → pl.isShort = true ∧ ∀ s ∈ run, s.1.atPump = false

/-- A start of bridge `b` at `m` in which no callback has panicked, and what has become of the
events in it. -/
structure Course (h : Host σ) (m : Machine σ) (b : Nat) (run : List (Machine σ × Move)) (pl : Place)
    (n : Machine σ) : Prop where
  good : Good h m b run pl n
  script : ∃ taken, m.state.script = taken ++ n.state.script ∧
    handed run ++ pl.due n.state = m.state.launchEvents ++ taken.flatMap Action.events
  looked : handed run = judged run ++ ((pl.call? n.state).bind Call.unjudged?).toList
  host : n.host = h.after m.host (calledBack run)
  counted : ∃ d d', m.state.delivered? b = some d ∧ n.state.delivered? b = some d' ∧
    d' + ((pl.call? n.state).map Call.uncounted).getD 0 =
      d + UInt64.ofNat (calledBack run).length
  stop : Whole b run pl n ∨ ∃ before k move after, Severed b run pl n before k move after
  before : pl.isBefore = true → ∀ s ∈ run, s.1.atPump = false
  seen : (∃ s ∈ run, s.2 = .main ∧ s.1.SeesStop b) → pl.isOver = true
  pumps : run.Pairwise fun later earlier =>
    earlier.2 = .main → earlier.1.SeesStop b → later.1.atPump = false

theorem Course.start {m : Machine σ} (hm : m.At .away) {b : Nat}
    (halive : (m.state.bridges[b]?).any Bridge.alive) (hmanager : m.state.managerThere = true)
    (hlaunch : m.state.launching ≠ .poisoned) :
    Course h m b [] (.beginning b true) (m.start b true) := by
  have hgood : Good h m b [] (.beginning b true) (m.start b true) :=
    .start hm halive hmanager hlaunch
  obtain ⟨g, hg⟩ := hgood.place.fits.there b rfl
  have hdelivered : m.state.delivered? b = some g.delivered := congrArg (Option.map _) hg
  refine ⟨hgood, ⟨[], rfl, ?_⟩, rfl, rfl, ⟨_, _, hdelivered, hdelivered, rfl⟩,
    .inl ⟨.inr rfl, rfl, rfl⟩, by simp, by simp, .nil⟩
  simp [handed, Place.due, Machine.start, State.launchEvents]

section steps

variable {m n n' : Machine σ} {b : Nat} {run : List (Machine σ × Move)} {pl pl' : Place} {p : State}
  {s : σ} {g g' : Gate} {ending : Option Ending}

theorem cons_atPump (hn : n.atPump = false) (hrun : ∀ s ∈ run, s.1.atPump = false) (move : Move) :
    ∀ s ∈ (n, move) :: run, s.1.atPump = false := by
  intro k hk
  rcases List.mem_cons.mp hk with rfl | hk
  · exact hn
  · exact hrun k hk

/-- The main thread goes on in a run that has not been stopped. -/
theorem Whole.main (hw : Whole b run pl n) (hg : Good h m b run pl n)
    (hl : Leads h pl n.state n.host pl' p s) (hnot : ¬ pl.Unwinds pl')
    (hbefore : pl.isBefore = true → ∀ s ∈ run, s.1.atPump = false)
    (hgate : n.state.gate? b = some g) (hgate' : p.gate? b = some g')
    (ha : Attends h (pl.call? n.state) g.lifecycle.isRunning g.delivered n.host pl.handed?
      (pl'.call? p) g'.lifecycle.isRunning g'.delivered s) :
    Whole b ((n, .main) :: run) pl' ⟨p, s, pl'.agenda, ending⟩ ∨
      ∃ before k move after,
        Severed b ((n, .main) :: run) pl' ⟨p, s, pl'.agenda, ending⟩ before k move after := by
  have hcalled := calledBack_main n run
  have hjudged := judged_main n run
  rw [hg.place.call?] at hcalled hjudged
  have hrunning := State.isRunning_eq hgate
  have hrunning' := State.isRunning_eq hgate'
  obtain ⟨⟨hsound, -, -⟩, hover⟩ := hl.sound hnot hg.sound hg.manager hg.launching
  have hlasts : pl'.isOver = false := by
    by_contra hnot
    rcases hover (by simpa using hnot) with hover | ⟨⟨guard, rfl⟩, hstop⟩
    · simp [hw.lasts] at hover
    · have hno := State.isRunning_of_stopRequested hstop
      rcases hw.running with hrun | hbegin
      · simp [hno] at hrun
      · simp at hbegin
  have hreceived := hw.received
  rcases hw.running with hrun | rfl
  · rw [hrunning] at hrun
    have hentering := ha.entering hrun
    cases hrun' : g'.lifecycle.isRunning with
    | true =>
      refine .inl ⟨.inl (hrunning'.trans hrun'), hlasts, ?_⟩
      rw [hcalled, hjudged, hreceived]
      exact congrArg (fun e : Option Event => judged run ++ e.toList) hentering
    | false =>
      have hnone := ha.not_judging hrun hrun'
      refine .inr ⟨run, n, .main, [], rfl, hrunning.trans hrun, ?_, by simp, ?_, ?_, ?_⟩
      · exact (congrArg (Option.bind · Call.judging?) hg.place.call?).trans hnone
      · exact hsound.halted (hl.ne_beginning b true) (hrunning'.trans hrun')
      · rw [hcalled, hreceived]
        change judged run ++ ((pl'.call? p).bind Call.entering?).toList = _
        rw [hentering, hnone]
        simp
      · intro hlaunch
        rw [Machine.InLaunch, hg.place.agenda, Place.launched_mem_agenda] at hlaunch
        have hbef := Place.isBefore_of_inLaunch hlaunch
        have hshort := Place.isShort_of_isBefore hbef
        refine ⟨hl.isShort hnot hshort ?_,
          cons_atPump (hg.place.atPump_eq_false hshort) (hbefore hbef) .main⟩
        rintro c guard rfl
        simp [Place.inLaunch, Stretch.isLaunch] at hlaunch
  · -- a run begins
    have hcall : pl'.call? p = none := by
      cases hl
      rfl
    refine .inl ⟨.inl hl.isRunning_of_beginning, hlasts, ?_⟩
    rw [hcalled, hjudged, hreceived]
    change _ ++ ((pl'.call? p).bind Call.entering?).toList = _
    rw [hcall]
    simp [Place.call?]

/-- The main thread goes on in a run that has been stopped. -/
theorem Severed.main {before after : List (Machine σ × Move)} {k : Machine σ} {move : Move}
    (hs : Severed b run pl n before k move after) (hg : Good h m b run pl n)
    (hl : Leads h pl n.state n.host pl' p s) (hnot : ¬ pl.Unwinds pl')
    (hgate : n.state.gate? b = some g)
    (ha : Attends h (pl.call? n.state) g.lifecycle.isRunning g.delivered n.host pl.handed?
      (pl'.call? p) g'.lifecycle.isRunning g'.delivered s) :
    Severed b ((n, .main) :: run) pl' ⟨p, s, pl'.agenda, ending⟩ before k move
      ((n, .main) :: after) := by
  have hcalled := calledBack_main n run
  rw [hg.place.call?] at hcalled
  have hno := hs.halted.isRunning hg.place.fits b
  refine ⟨congrArg _ hs.run_eq, hs.running, hs.looking, ?_, hl.halted hs.halted, ?_, ?_⟩
  · intro x hx
    rcases List.mem_cons.mp hx with rfl | hx
    · exact hno
    · exact hs.later x hx
  · have hentering := ha.not_entering ((State.isRunning_eq hgate).symm.trans hno)
    rw [hcalled, hs.received]
    change judged before ++ ((pl'.call? p).bind Call.entering?).toList = _
    rw [hentering]
    simp
  · intro hlaunch
    obtain ⟨hshort, hpumps⟩ := hs.launch hlaunch
    refine ⟨hl.isShort hnot hshort ?_, cons_atPump (hg.place.atPump_eq_false hshort) hpumps .main⟩
    rintro c guard rfl
    exact hs.halted.stopRequested hg.place.fits rfl

/-- Others stop a run, or leave it as it is. -/
theorem Whole.aside (hw : Whole b run pl n) (hg : Good h m b run pl n) {move : Move}
    (hmain : move ≠ .main) (ha : n.Aside n')
    (hbefore : pl.isBefore = true → ∀ s ∈ run, s.1.atPump = false) :
    Whole b ((n, move) :: run) pl n' ∨
      ∃ before k move' after, Severed b ((n, move) :: run) pl n' before k move' after := by
  have hcalled := calledBack_of_ne n hmain run
  have hjudged := judged_of_ne n hmain run
  have hcall := ha.call? hg.place.fits
  have hreceived := hw.received
  have hwhole (hrun : n'.state.isRunning b = true ∨ pl = .beginning b true) :
      Whole b ((n, move) :: run) pl n' :=
    ⟨hrun, hw.lasts, by rw [hcalled, hjudged, hcall, hreceived]⟩
  by_cases hrun' : n'.state.isRunning b = true
  · exact .inl (hwhole (.inl hrun'))
  rcases hw.running with hrun | hbegin
  · refine .inr ⟨run, n, move, [], rfl, hrun, n.judged?_of_ne hmain, by simp, ?_, ?_, ?_⟩
    · refine hg.sound.halted ?_ (by simpa using hrun')
      rintro rfl
      -- a bridge that has not begun does not run
      obtain ⟨g, hgate⟩ := hg.place.fits.there b rfl
      have hidle := (hg.place.fits.atRest rfl hgate).phase
      rw [State.isRunning_eq hgate, Lifecycle.isRunning, hidle] at hrun
      simp [Phase.isRunning] at hrun
    · rw [hcalled, hcall, hreceived]
    · intro hlaunch
      rw [Machine.InLaunch, hg.place.agenda, Place.launched_mem_agenda] at hlaunch
      have hbef := Place.isBefore_of_inLaunch hlaunch
      have hshort := Place.isShort_of_isBefore hbef
      exact ⟨hshort, cons_atPump (hg.place.atPump_eq_false hshort) (hbefore hbef) move⟩
  · exact .inl (hwhole (.inr hbegin))

theorem Severed.aside {before after : List (Machine σ × Move)} {k : Machine σ} {move move' : Move}
    (hs : Severed b run pl n before k move after) (hg : Good h m b run pl n)
    (hmain : move' ≠ .main) (ha : n.Aside n') :
    Severed b ((n, move') :: run) pl n' before k move ((n, move') :: after) := by
  refine ⟨congrArg _ hs.run_eq, hs.running, hs.looking, ?_, ha.halted hg.place.fits hs.halted,
    ?_, ?_⟩
  · intro x hx
    rcases List.mem_cons.mp hx with rfl | hx
    · exact hs.halted.isRunning hg.place.fits b
    · exact hs.later x hx
  · rw [calledBack_of_ne n hmain, ha.call? hg.place.fits]
    exact hs.received
  · intro hlaunch
    obtain ⟨hshort, hpumps⟩ := hs.launch hlaunch
    exact ⟨hshort, cons_atPump (hg.place.atPump_eq_false hshort) hpumps move'⟩

/-- Once a check has seen the stop there is no look at the event queue. -/
theorem pairwise_cons_pumps {b : Nat} (hplace : n.At pl)
    (hseen : (∃ s ∈ run, s.2 = .main ∧ s.1.SeesStop b) → pl.isOver = true)
    (hpumps : run.Pairwise fun later earlier =>
      earlier.2 = .main → earlier.1.SeesStop b → later.1.atPump = false) (move : Move) :
    ((n, move) :: run).Pairwise fun later earlier =>
      earlier.2 = .main → earlier.1.SeesStop b → later.1.atPump = false := by
  refine List.pairwise_cons.mpr ⟨?_, hpumps⟩
  intro k hk hmain hsees
  exact hplace.atPump_eq_false (Place.isShort_of_isOver (hseen ⟨k, hk, hmain, hsees⟩))

theorem Course.main (hc : Course h m b run pl n) (hl : Leads h pl n.state n.host pl' p s)
    (hcalm : ¬ n.Panics) :
    Course h m b ((n, .main) :: run) pl' ⟨p, s, pl'.agenda, pl.ending?.or n.ending⟩ := by
  have hg := hc.good
  have hcall := hg.place.call?
  have hnot : ¬ pl.Unwinds pl' := fun hu => hcalm ((hl.panics_iff hg.place).mpr hu)
  have hcalled := calledBack_main n run
  rw [hcall] at hcalled
  obtain ⟨d, d', hd, hd', hcount⟩ := hc.counted
  obtain ⟨g, hgate, rfl⟩ := Option.map_eq_some_iff.mp hd'
  obtain ⟨g', hgate', ha⟩ := hl.attends hg.sound.eq_of_bridge? hgate
  refine ⟨hg.main hl hcalm, ?_, ?_, ?_, ?_, ?_, ?_, ?_,
    pairwise_cons_pumps hg.place hc.seen hc.pumps .main⟩
  · obtain ⟨taken, hscript, hdue⟩ := hc.script
    obtain ⟨fetched, hfetched, hdue'⟩ := hl.due hnot hg.sound hg.manager
    refine ⟨taken ++ fetched, by rw [hscript, hfetched, List.append_assoc], ?_⟩
    rw [handed_cons, hg.place.handed?, List.append_assoc, hdue', ← List.append_assoc, hdue,
      List.flatMap_append, List.append_assoc]
  · rw [handed_cons, hg.place.handed?, judged_main, hcall, hc.looked, List.append_assoc,
      ha.unjudged, ← List.append_assoc]
  · rw [hcalled, Host.after_append, ← hc.host]
    exact ha.host
  · refine ⟨d, g'.delivered, hd, congrArg (Option.map _) hgate', ?_⟩
    have hne : ∀ c ∈ pl.call? n.state, c.stage ≠ .unwinding := by
      intro c hc hunwinding
      refine hcalm ?_
      rw [Machine.Panics, n.served?_eq, hcall, hc, Option.map_some, hunwinding]
    rw [hcalled, List.length_append, UInt64.ofNat_add, ← UInt64.add_assoc, ← hcount]
    exact ha.counted hne
  · rcases hc.stop with hw | ⟨before, k, move, after, hs⟩
    · exact hw.main hg hl hnot hc.before hgate hgate' ha
    · exact .inr ⟨before, k, move, _, hs.main hg hl hnot hgate ha⟩
  · intro hbefore
    have hbef := hl.isBefore hbefore
    have hshort := Place.isShort_of_isBefore hbef
    exact cons_atPump (hg.place.atPump_eq_false hshort) (hc.before hbef) .main
  · rintro ⟨k, hk, hmain, hsees⟩
    rcases List.mem_cons.mp hk with rfl | hk
    · exact hl.isOver_of_seesStop hg.place hsees
    · exact hl.isOver (hc.seen ⟨k, hk, hmain, hsees⟩)

theorem Course.aside (hc : Course h m b run pl n) {move : Move} (hmain : move ≠ .main)
    (hmoves : Moves h move pl n pl n') (ha : n.Aside n') :
    Course h m b ((n, move) :: run) pl n' := by
  have hg := hc.good
  have hcall := ha.call? hg.place.fits
  have hcalled := calledBack_of_ne n hmain run
  obtain ⟨d, d', hd, hd', hcount⟩ := hc.counted
  obtain ⟨hscript', hdue'⟩ := ha.due pl
  refine ⟨hg.aside hmoves ha hmain, ?_, ?_, ?_, ?_, ?_, ?_, ?_,
    pairwise_cons_pumps hg.place hc.seen hc.pumps move⟩
  · obtain ⟨taken, hscript, hdue⟩ := hc.script
    refine ⟨taken, by rw [hscript', hscript], ?_⟩
    rw [handed_of_ne n hmain, hdue', hdue]
  · rw [handed_of_ne n hmain, judged_of_ne n hmain, hcall, hc.looked]
  · rw [ha.host, hcalled, hc.host]
  · exact ⟨d, d', hd, ha.delivered? hd', by rw [hcall, hcalled, hcount]⟩
  · rcases hc.stop with hw | ⟨before, k, move', after, hs⟩
    · exact hw.aside hg hmain ha hc.before
    · exact .inr ⟨before, k, move', _, hs.aside hg hmain ha⟩
  · intro hbefore
    have hshort := Place.isShort_of_isBefore hbefore
    exact cons_atPump (hg.place.atPump_eq_false hshort) (hc.before hbefore) move
  · rintro ⟨k, hk, hmove, hsees⟩
    rcases List.mem_cons.mp hk with rfl | hk
    · exact absurd hmove hmain
    · exact hc.seen ⟨k, hk, hmove, hsees⟩

end steps

theorem Course.trail (hh : h.OnlyStops) {m k n : Machine σ} {b : Nat} {pl : Place}
    (hc : Course h m b [] pl k) {run : List (Machine σ × Move)}
    (ht : Trail (Machine.move? h) k run n) (hbusy : ∀ s ∈ run, s.1.agenda ≠ [])
    (hcalm : ∀ s ∈ run, s.2 = .main → ¬ s.1.Panics) : ∃ pl', Course h m b run pl' n :=
  Machine.busy_induction (Q := fun s => s.2 = .main → ¬ s.1.Panics) hh
    (fun _ _ _ hc => hc.good.place) (fun _ _ _ _ _ _ hc hcalm hl => hc.main hl (hcalm rfl))
    (fun _ _ _ _ _ hc hmain hmoves ha => hc.aside hmain hmoves ha) hc ht hbusy hcalm

/-- What a start of bridge `b` at `m` has delivered, when it has ended at `n`. -/
structure Delivers (h : Host σ) (past : List (Machine σ × Move)) (m : Machine σ) (b : Nat)
    (run : List (Machine σ × Move)) (n : Machine σ) : Prop where
  /-- The system has handed over, in its order, what comes with the launch, if no start has
  reached its event loop before, and what came with the looks at the event queue. -/
  script : ∃ taken, m.state.script = taken ++ n.state.script ∧
    handed run =
      (if LoopReached past then [] else m.state.launchActions.flatMap LaunchAction.events) ++
        taken.flatMap Action.events
  /-- One move, at `k`, stops the run. The events that have looked before it are received, and
  the others are dropped; if the process is being launched then, there is no look at the event
  queue. -/
  cut : ∃ before k move after, run = after ++ (k, move) :: before ∧
    k.state.isRunning b = true ∧ (∀ s ∈ after, s.1.state.isRunning b = false) ∧
    calledBack run = judged before ∧ handed run = judged before ++ judged after ∧
    (k.InLaunch → ∀ s ∈ run, s.1.atPump = false)
  /-- Once a check has seen the stop there is no look at the event queue. -/
  pumps : run.Pairwise fun later earlier =>
    earlier.2 = .main → earlier.1.SeesStop b → later.1.atPump = false
  host : n.host = h.after m.host (calledBack run)
  delivered : ∃ d, m.state.delivered? b = some d ∧
    n.state.delivered? b = some (d + UInt64.ofNat (calledBack run).length)
  idle : n.state.phase? b = some .idle
  unregistered : ¬ n.state.Registered b

theorem Course.delivers (hh : h.OnlyStops) {scriptEnd : ScriptEnd} {s₀ : σ}
    {past run : List (Machine σ × Move)} {m n : Machine σ} {b : Nat}
    (ht : Trail (Machine.move? h) (Machine.idle scriptEnd s₀) past m) (hm : m.agenda = [])
    (hnot : ¬ LaunchPanic past) (hc : Course h m b run .away n) : Delivers h past m b run n := by
  obtain ⟨d, d', hd, hd', hcount⟩ := hc.counted
  obtain ⟨g, hgate, rfl⟩ := Option.map_eq_some_iff.mp hd'
  have hlooked : handed run = judged run := by
    simpa [Place.call?] using hc.looked
  refine ⟨?_, ?_, hc.pumps, hc.host, ⟨d, hd, ?_⟩, ?_, ?_⟩
  · obtain ⟨taken, hscript, hdue⟩ := hc.script
    rw [Machine.launchEvents_eq hh ht hm hnot] at hdue
    exact ⟨taken, hscript, by simpa [Place.due] using hdue⟩
  · rcases hc.stop with hw | ⟨before, k, move, after, hs⟩
    · have hlasts := hw.lasts
      simp [Place.isOver] at hlasts
    · refine ⟨before, k, move, after, hs.run_eq, hs.running, hs.later, ?_, ?_,
        fun hlaunch => (hs.launch hlaunch).2⟩
      · simpa [Place.call?] using hs.received
      · rw [hlooked, judged, hs.run_eq, recorded_append, recorded_cons, hs.looking]
        simp [judged]
  · rw [hd', ← hcount]
    simp [Place.call?]
  · rw [State.phase?, hgate, Option.map_some, (hc.good.place.fits.atRest rfl hgate).phase]
  · rw [State.Registered, hc.good.place.fits.handlers]
    simp [Place.handlers]

/-- After any past without a panic in a launch, a start in which no callback panics delivers what
comes up to the stop and nothing else, and returns. -/
theorem delivery_up_to_stop (hh : h.OnlyStops) {scriptEnd : ScriptEnd} {s₀ : σ}
    {past run : List (Machine σ × Move)} {m n : Machine σ}
    (ht : Trail (Machine.move? h) (Machine.idle scriptEnd s₀) past m) (hm : m.agenda = []) {b : Nat}
    (halive : (m.state.bridges[b]?).any Bridge.alive) (hmanager : m.state.managerThere = true)
    (hnot : ¬ LaunchPanic past) (hrun : Trail (Machine.move? h) (m.start b true) run n)
    (hbusy : ∀ s ∈ run, s.1.agenda ≠ []) (hcalm : ∀ s ∈ run, s.2 = .main → ¬ s.1.Panics) :
    Restarts h m b run n ∧ (n.agenda = [] → Delivers h past m b run n) := by
  obtain ⟨pl, hat, hiff, -⟩ := Machine.poisoned_iff hh ht
  obtain rfl := Place.agenda_eq_nil (hat.agenda.symm.trans hm)
  have hlaunch : m.state.launching ≠ .poisoned := fun hp => hnot (hiff.mp (.inl hp))
  obtain ⟨pl, hc⟩ := (Course.start hat halive hmanager hlaunch).trail hh hrun hbusy hcalm
  refine ⟨hc.good.restarts hh, fun hn => ?_⟩
  obtain rfl := Place.agenda_eq_nil (hc.good.place.agenda.symm.trans hn)
  exact hc.delivers hh ht hm hnot

/-- One event with the launch, then two with the same look, of which the first one's callback
stops the bridge; another one stays in the script. -/
theorem delivery_up_to_stop_between_two : ∃ past m run n,
    Trail (Machine.move? (ruled [⟨"last", .stop⟩])) (Machine.idle .stops []) past m ∧
      Restarts (ruled [⟨"last", .stop⟩]) m 0 run n ∧
      Delivers (ruled [⟨"last", .stop⟩]) past m 0 run n ∧
      handed run = [⟨"first", 1⟩, ⟨"last", 2⟩, ⟨"late", 3⟩] ∧
      n.host = [⟨"first", 1⟩, ⟨"last", 2⟩] ∧
      n.state.script = [.deliver (.ofEvent ⟨"never", 4⟩)] := by
  have ht : Trail (Machine.move? (ruled [⟨"last", .stop⟩])) (Machine.idle .stops []) _ _ :=
    Trail.of_isSome [.new 100, .set ⟨true, [.deliver (.ofEvent ⟨"first", 1⟩)],
      [.batch [.ofEvent ⟨"last", 2⟩, .ofEvent ⟨"late", 3⟩], .deliver (.ofEvent ⟨"never", 4⟩)],
      none⟩] (by decide +kernel)
  obtain ⟨hrestarts, hdelivers⟩ := delivery_up_to_stop (b := 0)
    (onlyStops_ruled [⟨"last", .stop⟩]) ht (by decide +kernel) (by decide +kernel)
    (by decide +kernel) (by decide +kernel)
    (Trail.of_isSome (List.replicate 33 .main) (by decide +kernel)) (by decide +kernel)
    (by decide +kernel)
  refine ⟨_, _, _, _, ht, hrestarts, hdelivers (by decide +kernel), ?_⟩
  decide +kernel

end Desktop

end OpenUrl
