import OpenUrl.Proofs.Desktop.Run

/-!
# Panics while the process is launched

Launching happens once in a process, and a panic of a callback during it leaves it unfinished for
good. `poisoned_iff` reads off the past of a process whether that has happened.
-/
namespace OpenUrl.Desktop

variable {σ : Type} {h : Host σ}

namespace Machine

/-- A process that has done nothing, with the state of the host behind its callbacks. -/
def idle (scriptEnd : ScriptEnd) (s : σ) : Machine σ := ⟨State.fresh scriptEnd, s, [], none⟩

theorem at_idle (scriptEnd : ScriptEnd) (s : σ) : (idle scriptEnd s).At .away := by
  refine ⟨rfl, rfl, ?_, ?_⟩
  · intro b g hg
    simp [idle, State.fresh, State.gate?] at hg
  · simp [Place.bridge?, Place.run?]

/-- The stage of the call that the main thread serves next. -/
def served? (m : Machine σ) : Option Stage :=
  match m.agenda with
  | .serve b call :: _ => (m.state.gate? b).bind fun g => g.stage? call
  | _ => none

/-- A callback has panicked, and its panic is about to leave the gate. -/
def Panics (m : Machine σ) : Prop := m.served? = some .unwinding

instance (m : Machine σ) : Decidable m.Panics := inferInstanceAs (Decidable (_ = _))

theorem panics_iff {m : Machine σ} : m.Panics ↔ ∃ b call rest g,
    m.agenda = .serve b call :: rest ∧ m.state.gate? b = some g ∧
      g.stage? call = some .unwinding := by
  rw [Panics, served?]
  split
  · rename_i b call rest ha
    rw [Option.bind_eq_some_iff]
    simp [ha]
  · rename_i hne
    simp only [reduceCtorEq, false_iff]
    rintro ⟨b, call, rest, -, ha, -⟩
    exact hne b call rest ha

/-- The process is being launched. -/
def InLaunch (m : Machine σ) : Prop := Task.launched ∈ m.agenda

instance (m : Machine σ) : Decidable m.InLaunch := inferInstanceAs (Decidable (_ ∈ _))

/-- The main thread is at a place in every state that a process comes to. -/
theorem exists_at (hh : h.OnlyStops) {scriptEnd : ScriptEnd} {s : σ}
    {past : List (Machine σ × Move)} {m : Machine σ}
    (ht : Trail (move? h) (idle scriptEnd s) past m) : ∃ pl, m.At pl := by
  refine ht.invariant (P := fun m => ∃ pl, m.At pl) ⟨_, at_idle scriptEnd s⟩ ?_
  rintro a move b v ⟨pl, ha⟩ hb
  obtain ⟨pl', hm⟩ := ha.moves hh hb
  exact ⟨pl', ha.of_moves hm⟩

end Machine

/-- A panic of a callback has come while the process was launched. -/
def LaunchPanic (past : List (Machine σ × Move)) : Prop :=
  ∃ s ∈ past, s.2 = .main ∧ s.1.Panics ∧ s.1.InLaunch

instance (past : List (Machine σ × Move)) : Decidable (LaunchPanic past) :=
  inferInstanceAs (Decidable (∃ s ∈ past, _))

/-- The main thread unwinds out of a call. -/
def Place.Unwinds (pl pl' : Place) : Prop :=
  ∃ b guard call errands t, pl = .within b guard (some call) errands t ∧
    pl' = .unwinding b guard t

theorem Place.agenda_eq_serve {pl : Place} {b call : Nat} {rest : List Task}
    (ha : pl.agenda = .serve b call :: rest) :
    ∃ guard errands t, pl = .within b guard (some call) errands t := by
  cases pl with
  | within b' guard call' errands t =>
    cases call' with
    | some call' =>
      obtain ⟨⟨rfl, rfl⟩, -⟩ := by simpa [Place.agenda] using ha
      exact ⟨guard, errands, t, rfl⟩
    | none =>
      cases errands with
      | cons e errands => cases e <;> simp [Place.agenda, Errand.task] at ha
      | nil =>
        cases t with
        | launch actions => cases actions <;> simp [Place.agenda, Stretch.agenda] at ha
        | loop => simp [Place.agenda, Stretch.agenda] at ha
  | _ => simp [Place.agenda, closing] at ha

/-- The main thread unwinds exactly when a panic of a callback leaves the gate. -/
theorem Leads.panics_iff {pl pl' : Place} {m : Machine σ} {p : State} {s : σ}
    (hl : Leads h pl m.state m.host pl' p s) (hm : m.At pl) :
    m.Panics ↔ pl.Unwinds pl' := by
  constructor
  · intro hp
    obtain ⟨b, call, rest, g, ha, hg, hs⟩ := Machine.panics_iff.mp hp
    obtain ⟨guard, errands, t, rfl⟩ := Place.agenda_eq_serve (hm.agenda.symm.trans ha)
    refine ⟨b, guard, call, errands, t, rfl, ?_⟩
    cases hl with
    | serve hg' hserves hserves' ht =>
      obtain rfl := Option.some.inj (hg.symm.trans hg')
      obtain rfl := Option.some.inj (hs.symm.trans hserves.stage?_cur)
      obtain rfl := ht.of_unwinding
      exact (hserves'.tame _ rfl : Stage.Tame (.done .panicked)).elim
    | answer hg' hserves _ ht hv =>
      obtain rfl := Option.some.inj (hg.symm.trans hg')
      obtain rfl := Option.some.inj (hs.symm.trans hserves.stage?_cur)
      exact absurd (Option.some.inj ht.of_done.1).symm hv
    | unwind => rfl
  · rintro ⟨b, guard, call, errands, t, rfl, hpl⟩
    cases hl with
    | serve => cases t <;> simp [Place.unwinding] at hpl
    | answer => cases t <;> simp [Place.unwinding] at hpl
    | @unwind _ _ _ _ _ _ g _ _ e stage _ hg hserves _ ht =>
      obtain rfl := Stage.verdict?_eq_panicked.mp ht.of_done.1
      exact Machine.panics_iff.mpr ⟨b, _, _, g, hm.agenda, hg, hserves.stage?_cur⟩

theorem launchPanic_cons (m : Machine σ) (move : Move) (past : List (Machine σ × Move)) :
    LaunchPanic ((m, move) :: past) ↔
      (move = .main ∧ m.Panics ∧ m.InLaunch) ∨ LaunchPanic past := by
  simp [LaunchPanic]

def Stretch.isLaunch : Stretch → Bool
  | launch _ => true
  | loop => false

namespace Place

def inLaunch : Place → Bool
  | within _ _ _ _ t => t.isLaunch
  | _ => false

/-- Launching is poisoned, or will be by the next task. -/
def Poisoned (pl : Place) (p : State) : Prop :=
  p.launching = .poisoned ∨ ∃ b guard, pl = .poisoning b guard

theorem launched_mem_agenda {pl : Place} : Task.launched ∈ pl.agenda ↔ pl.inLaunch = true := by
  cases pl with
  | within b guard call errands t =>
    have hcall : Task.launched ∉ (call.map (Task.serve b)).toList := by
      cases call <;> simp
    have herrands : Task.launched ∉ errands.map (Errand.task b) := by
      intro hmem
      obtain ⟨e, -, he⟩ := List.mem_map.mp hmem
      cases e <;> simp [Errand.task] at he
    rw [agenda, List.mem_append, List.mem_append]
    cases t with
    | launch actions => simp [Stretch.agenda, inLaunch, Stretch.isLaunch]
    | loop =>
      simp [hcall, herrands, Stretch.agenda, closing, inLaunch, Stretch.isLaunch, Ending.last]
  | removing b guard e => cases e <;> simp [agenda, closing, Ending.last, inLaunch]
  | freeing b guard e => cases e <;> simp [agenda, Ending.last, inLaunch]
  | leaving b guard e => cases e <;> simp [agenda, Ending.last, inLaunch]
  | _ => simp [agenda, closing, Ending.last, inLaunch]

end Place

/-- While the process is being launched, it has not been launched before. -/
theorem Leads.launching_notYet {pl pl' : Place} {p p' : State} {s s' : σ}
    (hl : Leads h pl p s pl' p' s') (hp : pl.inLaunch = true → p.launching = .notYet) :
    pl'.inLaunch = true → p'.launching = .notYet := by
  cases hl with
  | launch hnot => exact fun _ => hnot
  | @unwind b guard p s errands t => cases t <;> simp [Place.unwinding, Place.inLaunch]
  | @leave b guard p s e => cases e <;> simp [Place.left, Place.inLaunch]
  | action | stop | send | deliver | ignore | serve | answer => exact hp
  | _ => simp [Place.inLaunch, Stretch.isLaunch]

/-- Only a panic of the callback brings launching nearer to being poisoned. -/
theorem Leads.poisoned_of_not {pl pl' : Place} {p p' : State} {s s' : σ}
    (hl : Leads h pl p s pl' p' s') (hp : pl.inLaunch = true → p.launching = .notYet)
    (hnot : ¬ pl.Unwinds pl') : pl'.Poisoned p' ↔ pl.Poisoned p := by
  cases hl with
  | launched =>
    have hnotYet := hp rfl
    simp [Place.Poisoned, hnotYet]
  | unwind => exact absurd ⟨_, _, _, _, _, rfl, rfl⟩ hnot
  | poison => simp [Place.Poisoned]
  | @leave b guard p s e => cases e <;> simp [Place.Poisoned, Place.left, State.setGate]
  | _ => simp [Place.Poisoned, State.setGate, State.register, State.unregister]

theorem Leads.launching_of_call {b guard call : Nat} {errands : List Errand} {t : Stretch}
    {pl' : Place} {p p' : State} {s s' : σ}
    (hl : Leads h (.within b guard (some call) errands t) p s pl' p' s') :
    p'.launching = p.launching := by
  cases hl <;> rfl

theorem Leads.poisoned_iff {pl pl' : Place} {m : Machine σ} {p : State} {s : σ}
    (hl : Leads h pl m.state m.host pl' p s) (hm : m.At pl)
    (hp : pl.inLaunch = true → m.state.launching = .notYet) :
    pl'.Poisoned p ↔ (m.Panics ∧ m.InLaunch) ∨ pl.Poisoned m.state := by
  have hlaunch : m.InLaunch ↔ pl.inLaunch = true := by
    rw [Machine.InLaunch, hm.agenda, Place.launched_mem_agenda]
  rw [hlaunch, hl.panics_iff hm]
  by_cases hpanics : pl.Unwinds pl'
  · simp only [hpanics, true_and]
    obtain ⟨b, guard, call, errands, t, rfl, rfl⟩ := hpanics
    have hsame := hl.launching_of_call
    cases t <;> simp [Place.Poisoned, Place.unwinding, Place.inLaunch, Stretch.isLaunch, hsame]
  · rw [hl.poisoned_of_not hp hpanics]
    simp [hpanics]

/-- Nobody but the main thread touches launching. -/
theorem Moves.launching {move : Move} {pl pl' : Place} {m n : Machine σ}
    (hm : Moves h move pl m pl' n) (hne : move ≠ .main) :
    n.state.launching = m.state.launching ∧ pl'.inLaunch = pl.inLaunch ∧
      ((∃ b guard, pl' = .poisoning b guard) ↔ ∃ b guard, pl = .poisoning b guard) := by
  cases hm with
  | main => exact absurd rfl hne
  | stop b => exact ⟨(congrArg State.launching (m.state.stop_frame b) :), rfl, .rfl⟩
  | new poll => exact ⟨(congrArg State.launching (m.state.newBridge_frame poll) :), rfl, .rfl⟩
  | drop b => exact ⟨(congrArg State.launching (m.state.dropBridge_frame b) :), rfl, .rfl⟩
  | slot | set => exact ⟨rfl, rfl, .rfl⟩
  | start | receive => exact ⟨rfl, rfl, by simp⟩

/-- Launching is poisoned exactly if a callback panicked while the process was launched. -/
theorem Machine.poisoned_iff (hh : h.OnlyStops) {scriptEnd : ScriptEnd} {s : σ}
    {past : List (Machine σ × Move)} {m : Machine σ}
    (ht : Trail (move? h) (idle scriptEnd s) past m) :
    ∃ pl, m.At pl ∧ (pl.Poisoned m.state ↔ LaunchPanic past) ∧
      (pl.inLaunch = true → m.state.launching = .notYet) := by
  induction ht with
  | start =>
    refine ⟨.away, at_idle scriptEnd s, ?_, by simp [Place.inLaunch]⟩
    simp [Place.Poisoned, idle, State.fresh, LaunchPanic]
  | @step past a b move v _ hb ih =>
    obtain ⟨pl, ha, hiff, hlaunch⟩ := ih
    obtain ⟨pl', hm⟩ := ha.moves hh hb
    refine ⟨pl', ha.of_moves hm, ?_⟩
    rw [launchPanic_cons, ← hiff]
    by_cases hmain : move = .main
    · subst move
      cases hm with
      | main hl => exact ⟨by simpa using hl.poisoned_iff ha hlaunch, hl.launching_notYet hlaunch⟩
    · obtain ⟨hsame, hin, hpoisoning⟩ := hm.launching hmain
      rw [hsame, hin]
      refine ⟨?_, hlaunch⟩
      rw [Place.Poisoned, hsame, hpoisoning]
      simp [hmain, Place.Poisoned]

end OpenUrl.Desktop
