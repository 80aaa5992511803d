import OpenUrl.Proofs.Desktop.Restart

/-!
# What the system has to hand over

The script of the system says which Apple Events come, while the process is launched and with
each look at the event queue. `Place.due` is what the system has still to hand over of what it has
been asked for; with what has been handed over it is the beginning of the script. What comes with
the launch comes in one start only, the first that reaches its event loop.
-/
namespace OpenUrl.Desktop

variable {σ : Type} {h : Host σ}

/-- The event of an Apple Event for open-URL events; others are not handed over. -/
def AppleEvent.opened? (e : AppleEvent) : Option Event :=
  if e.OpensUrl then some e.decode else none

/-- The events that come with a look at the event queue. -/
def Action.events : Action → List Event
  | deliver e | deferred e => e.opened?.toList
  | batch es => es.filterMap AppleEvent.opened?
  | ordinary _ | idle | stop => []

/-- The events that come with an action of the launch. -/
def LaunchAction.events : LaunchAction → List Event
  | deliver e => e.opened?.toList
  | stop => []

def Errand.events : Errand → List Event
  | deliver e => e.opened?.toList
  | send _ e => (e.bind AppleEvent.opened?).toList
  | stop => []

@[simp] theorem LaunchAction.events_errand (a : LaunchAction) : a.errand.events = a.events := by
  cases a <;> rfl

@[simp] theorem Action.events_errands (a : Action) :
    a.errands.flatMap Errand.events = a.events := by
  cases a with
  | batch es =>
    induction es with
    | nil => rfl
    | cons e es ih =>
      simp only [errands, events, List.map_cons, List.flatMap_cons, List.filterMap_cons] at ih ⊢
      rw [ih]
      cases he : e.opened? <;> simp [Errand.events, he]
  | _ => simp [errands, events, Errand.events]

/-- The events that are to come with the launch. -/
def State.launchEvents (p : State) : List Event :=
  match p.launching with
  | .notYet => p.launchActions.flatMap LaunchAction.events
  | .done | .poisoned => []

def Stretch.due : Stretch → List Event
  | launch actions => actions.flatMap LaunchAction.events
  | loop => []

/-- The events that are to be handed over before the next look at the event queue. -/
def Place.due (p : State) : Place → List Event
  | beginning _ _ | installing _ _ | announcing _ _ | entering _ _ => p.launchEvents
  | within _ _ _ errands t => errands.flatMap Errand.events ++ t.due
  | _ => []

/-- The main thread hands over what is due, and what it fetches from the script becomes due. -/
theorem Leads.due {pl pl' : Place} {p p' : State} {s s' : σ} (hl : Leads h pl p s pl' p' s')
    (hnot : ¬ pl.Unwinds pl') {b : Nat} (hp : pl.Sound b) (hmanager : p.managerThere = true) :
    ∃ fetched, p.script = fetched ++ p'.script ∧
      pl.handed?.toList ++ pl'.due p' = pl.due p ++ fetched.flatMap Action.events := by
  cases hl with
  | unhandled => exact hp.elim
  | elsewhere => simp [Place.Sound] at hp
  | noManager hno => simp [hmanager] at hno
  | unwind => exact absurd ⟨_, _, _, _, _, rfl, rfl⟩ hnot
  | @next b guard _ _ a script hs =>
    refine ⟨[a], hs, ?_⟩
    simp [Place.due, Stretch.due, Place.handed?]
  | launch hlaunch | relaunch hlaunch | poisoned hlaunch =>
    refine ⟨[], rfl, ?_⟩
    simp [Place.due, Stretch.due, Place.handed?, State.launchEvents, hlaunch]
  | action =>
    refine ⟨[], rfl, ?_⟩
    simp only [Place.due, Stretch.due, Place.handed?, List.flatMap_cons, List.flatMap_nil,
      LaunchAction.events_errand, Option.toList_none, List.nil_append, List.append_nil]
  | @send _ _ _ _ _ e =>
    refine ⟨[], rfl, ?_⟩
    cases e <;> simp [Place.due, Place.handed?, Errand.events]
  | @deliver b guard p s e errands t g past he =>
    refine ⟨[], rfl, ?_⟩
    simp [Place.due, Place.handed?, Errand.events, AppleEvent.opened?, he]
  | @ignore b guard p s e errands t he =>
    refine ⟨[], rfl, ?_⟩
    simp [Place.due, Place.handed?, Errand.events, AppleEvent.opened?, he]
  | @leave _ _ _ _ e =>
    refine ⟨[], rfl, ?_⟩
    cases e <;> simp [Place.due, Place.handed?, Place.left]
  | _ =>
    exact ⟨[], rfl, by simp [Place.due, Stretch.due, Place.handed?, Errand.events,
      State.launchEvents, State.setGate, State.register, State.unregister]⟩

/-- Others make nothing due. -/
theorem Machine.Aside.due {m n : Machine σ} (ha : m.Aside n) (pl : Place) :
    n.state.script = m.state.script ∧ pl.due n.state = pl.due m.state := by
  have hscript : n.state.script = m.state.script := (congrArg State.script ha.state :)
  have hlaunching : n.state.launching = m.state.launching := (congrArg State.launching ha.state :)
  have hactions : n.state.launchActions = m.state.launchActions :=
    (congrArg State.launchActions ha.state :)
  refine ⟨hscript, ?_⟩
  cases pl <;> simp only [Place.due, State.launchEvents, hlaunching, hactions]

/-- The next task is a look of an event loop whether its bridge has been asked to stop. -/
def Machine.atCheck (m : Machine σ) : Bool :=
  match m.agenda with
  | .check _ :: _ => true
  | _ => false

/-- A start has reached its event loop. -/
def LoopReached (past : List (Machine σ × Move)) : Prop :=
  ∃ s ∈ past, s.2 = .main ∧ s.1.atCheck = true

instance (past : List (Machine σ × Move)) : Decidable (LoopReached past) :=
  inferInstanceAs (Decidable (∃ s ∈ past, _))

theorem loopReached_cons (m : Machine σ) (move : Move) (past : List (Machine σ × Move)) :
    LoopReached ((m, move) :: past) ↔ (move = .main ∧ m.atCheck = true) ∨ LoopReached past := by
  simp [LoopReached]

theorem Place.agenda_eq_check {pl : Place} {b : Nat} {rest : List Task}
    (ha : pl.agenda = .check b :: rest) : ∃ guard, pl = .within b guard none [] .loop := by
  cases pl with
  | within b' guard call errands t =>
    cases call with
    | some call => simp [agenda] at ha
    | none =>
      cases errands with
      | cons e errands => cases e <;> simp [agenda, Errand.task] at ha
      | nil =>
        cases t with
        | launch actions => cases actions <;> simp [agenda, Stretch.agenda] at ha
        | loop =>
          obtain ⟨rfl, -⟩ := by simpa [agenda, Stretch.agenda] using ha
          exact ⟨guard, rfl⟩
  | _ => simp [agenda, closing] at ha

theorem Machine.At.atCheck_iff {m : Machine σ} {pl : Place} (hm : m.At pl) :
    m.atCheck = true ↔ ∃ b guard, pl = .within b guard none [] .loop := by
  constructor
  · intro hc
    unfold Machine.atCheck at hc
    split at hc
    · rename_i b rest ha
      obtain ⟨guard, rfl⟩ := Place.agenda_eq_check (hm.agenda.symm.trans ha)
      exact ⟨b, guard, rfl⟩
    · simp at hc
  · rintro ⟨b, guard, rfl⟩
    rw [Machine.atCheck, hm.agenda]
    rfl

namespace Place

/-- How far launching is when the main thread is at a place. -/
def Launches (p : State) : Place → Prop
  | within _ _ _ _ (.launch _) | poisoning _ _ => p.launching = .notYet
  | within _ _ _ _ .loop | looking _ _ => p.launching = .done
  | _ => True

theorem Launches.congr {pl : Place} {p p' : State} (hp : pl.Launches p)
    (hl : p'.launching = p.launching) : pl.Launches p' := by
  cases pl with
  | within b guard call errands t => cases t <;> exact hl.trans hp
  | looking | poisoning => exact hl.trans hp
  | _ => trivial

end Place

theorem Leads.launches {pl pl' : Place} {p p' : State} {s s' : σ} (hl : Leads h pl p s pl' p' s')
    (hp : pl.Launches p) :
    pl'.Launches p' ∧ (p.launching = .done → p'.launching = .done) ∧
      (p'.launching = .done → p.launching = .done ∨
        ∃ b guard, pl' = .within b guard none [] .loop) := by
  cases hl with
  | launch hnot => exact ⟨hnot, id, .inl⟩
  | relaunch hdone => exact ⟨hdone, id, .inl⟩
  | launched => exact ⟨rfl, fun _ => rfl, fun _ => .inr ⟨_, _, rfl⟩⟩
  | poison =>
    have hnot : p.launching = .notYet := hp
    exact ⟨trivial, by simp [hnot], by simp⟩
  | @unwind _ _ _ _ _ t => cases t <;> exact ⟨by first | exact hp | trivial, id, .inl⟩
  | @leave _ _ _ _ e => cases e <;> exact ⟨trivial, id, .inl⟩
  | @stop _ _ _ _ _ t | @send _ _ _ _ _ _ _ t | @deliver _ _ _ _ _ _ t | @ignore _ _ _ _ _ _ t
  | @serve _ _ _ _ _ t | @answer _ _ _ _ _ t => cases t <;> exact ⟨hp, id, .inl⟩
  | action | look | next | exhausted | idle => exact ⟨hp, id, .inl⟩
  | _ => exact ⟨trivial, id, .inl⟩

/-- Launching is done exactly if a start has reached its event loop, or is about to. -/
structure Launched (past : List (Machine σ × Move)) (pl : Place) (m : Machine σ) : Prop where
  place : m.At pl
  launches : pl.Launches m.state
  done : LoopReached past → m.state.launching = .done
  reached : m.state.launching = .done →
    LoopReached past ∨ ∃ b guard, pl = .within b guard none [] .loop

theorem Launched.step {past : List (Machine σ × Move)} {pl pl' : Place} {m n : Machine σ}
    (hp : Launched past pl m) {move : Move} (hm : Moves h move pl m pl' n) :
    Launched ((m, move) :: past) pl' n := by
  by_cases hmain : move = .main
  · subst move
    cases hm with
    | main hl =>
      obtain ⟨hlaunches, hstays, hcomes⟩ := hl.launches hp.launches
      have hcheck := hp.place.atCheck_iff
      refine ⟨hp.place.of_moves (.main hl), hlaunches, ?_, ?_⟩
      · intro hreached
        rcases (loopReached_cons m .main past).mp hreached with ⟨-, hc⟩ | hold
        · obtain ⟨b, guard, rfl⟩ := hcheck.mp hc
          exact hstays hp.launches
        · exact hstays (hp.done hold)
      · intro hdone
        rcases hcomes hdone with hold | hpl
        · refine .inl ((loopReached_cons m .main past).mpr ?_)
          rcases hp.reached hold with hr | hpl
          · exact .inr hr
          · exact .inl ⟨rfl, hcheck.mpr hpl⟩
        · exact .inr hpl
  · obtain ⟨hsame, -, -⟩ := hm.launching hmain
    have hreached : LoopReached ((m, move) :: past) ↔ LoopReached past := by
      rw [loopReached_cons]
      simp [hmain]
    refine ⟨hp.place.of_moves hm, ?_, ?_, ?_⟩
    · cases hm with
      | main => exact absurd rfl hmain
      | start | receive => trivial
      | _ => exact hp.launches.congr hsame
    · rw [hreached, hsame]
      exact hp.done
    · rw [hreached, hsame]
      intro hdone
      rcases hp.reached hdone with hr | ⟨b, guard, rfl⟩
      · exact .inl hr
      · cases hm with
        | main => exact absurd rfl hmain
        | _ => exact .inr ⟨b, guard, rfl⟩

theorem Machine.exists_launched (hh : h.OnlyStops) {scriptEnd : ScriptEnd} {s : σ}
    {past : List (Machine σ × Move)} {m : Machine σ}
    (ht : Trail (move? h) (idle scriptEnd s) past m) : ∃ pl, Launched past pl m := by
  induction ht with
  | start =>
    refine ⟨.away, at_idle scriptEnd s, trivial, by simp [LoopReached], ?_⟩
    simp [idle, State.fresh]
  | @step past a b move v _ hb ih =>
    obtain ⟨pl, ha⟩ := ih
    obtain ⟨pl', hm⟩ := ha.place.moves hh hb
    exact ⟨pl', ha.step hm⟩

/-- What is to come with the launch comes unless an earlier start has reached its event loop. -/
theorem Machine.launchEvents_eq (hh : h.OnlyStops) {scriptEnd : ScriptEnd} {s : σ}
    {past : List (Machine σ × Move)} {m : Machine σ}
    (ht : Trail (move? h) (idle scriptEnd s) past m) (hm : m.agenda = [])
    (hnot : ¬ LaunchPanic past) :
    m.state.launchEvents =
      if LoopReached past then [] else m.state.launchActions.flatMap LaunchAction.events := by
  obtain ⟨pl, hl⟩ := exists_launched hh ht
  obtain rfl := Place.agenda_eq_nil (hl.place.agenda.symm.trans hm)
  have hreached : m.state.launching = .done → LoopReached past := by
    simpa using hl.reached
  obtain ⟨pl, hat, hiff, -⟩ := poisoned_iff hh ht
  obtain rfl := Place.agenda_eq_nil (hat.agenda.symm.trans hm)
  have hpoisoned : m.state.launching ≠ .poisoned := fun hp => hnot (hiff.mp (.inl hp))
  unfold State.launchEvents
  split_ifs with hr
  · rw [hl.done hr]
  · cases hlaunching : m.state.launching with
    | notYet => rfl
    | done => exact absurd (hreached hlaunching) hr
    | poisoned => exact absurd hlaunching hpoisoned

end OpenUrl.Desktop
