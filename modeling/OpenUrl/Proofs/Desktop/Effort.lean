import OpenUrl.Proofs.Desktop.Launch

/-!
# What is left to do after a stop

Once its bridge has been asked to stop, a run comes to its end by itself: every task of the main
thread makes what is left to do (`Place.work`) less, and nobody else makes it more. So a stopped
run ends after a number of tasks that is known at the stop.
-/
namespace OpenUrl

variable {σ : Type}

/-- How many steps a call has to go if the bridge does not run. -/
def Stage.work (h : Host σ) (e : Event) (s : σ) : Stage → Nat
  | waiting => 3
  | holding => 2
  | admitted => (h.receive s e).2.acts.length + 4
  | inside acts _ => acts.length + 3
  | returned => 2
  | refused | counted | unwinding => 1
  | done _ => 0

theorem Gate.Turn.work_lt {h : Host σ} {e : Event} {st st' : Stage} {l l' : Lifecycle}
    {n n' : UInt64} {s s' : σ} (ht : Gate.Turn h e st l n s st' l' n' s')
    (hl : l.phase ≠ .running) : st'.work h e s' < st.work h e s := by
  cases ht with
  | accept _ _ _ hr => exact absurd hr hl
  | release _ _ _ hv => cases st <;> simp_all [Stage.verdict?, Stage.work]
  | _ => simp [Stage.work]

theorem Gate.Turn.not_running {h : Host σ} {e : Event} {st st' : Stage} {l l' : Lifecycle}
    {n n' : UInt64} {s s' : σ} (ht : Gate.Turn h e st l n s st' l' n' s')
    (hl : l.phase ≠ .running) : l'.phase ≠ .running := by
  cases ht with
  | act => simp
  | _ => exact hl

namespace Desktop

variable {h : Host σ}

def Errand.work : Errand → Nat
  | stop => 1
  | deliver _ => 4
  | send _ none => 1
  | send _ (some _) => 5

@[simp] def errandsWork : List Errand → Nat
  | [] => 0
  | e :: errands => e.work + errandsWork errands

@[simp] def launchWork : List LaunchAction → Nat
  | [] => 0
  | a :: actions => a.errand.work + 1 + launchWork actions

def Stretch.work : Stretch → Nat
  | launch actions => launchWork actions + 7
  | loop => 6

/-- What the call that is served has to go. -/
def callWork (h : Host σ) (p : State) (s : σ) (b : Nat) (call : Option Nat) : Nat :=
  ((call.bind fun i => (p.gate? b).bind fun g => g.calls[i]?).map fun c =>
    c.stage.work h c.event s).getD 0

/-- What the next look at the event queue brings to do. -/
def nextWork (p : State) : Nat :=
  match p.script with
  | a :: _ => errandsWork a.errands
  | [] => 1

/-- How many tasks the main thread has to do at most if the bridge of the run does not run. -/
def Place.work (h : Host σ) (p : State) (s : σ) : Place → Nat
  | away => 0
  | receiving _ => 1
  | beginning _ _ => 2
  | installing _ _ => (Stretch.launch p.launchActions).work + 3
  | announcing _ _ => (Stretch.launch p.launchActions).work + 2
  | entering _ _ => (Stretch.launch p.launchActions).work + 1
  | within b _ call errands t => callWork h p s b call + errandsWork errands + t.work
  | looking _ _ => nextWork p + 7
  | poisoning _ _ => 6
  | removing _ _ _ => 5
  | freeing _ _ _ => 4
  | leaving _ _ _ => 3
  | reporting _ => 2
  | concluding _ => 1

/-- No run begins, and the bridge of the run, if there is one, does not run. -/
structure Place.Halted (pl : Place) (p : State) : Prop where
  begun : ∀ b, pl ≠ .beginning b true
  stopped : ∀ r, pl.run? = some r → p.isRunning r.1 = false

theorem Place.Halted.phase {pl : Place} {p : State} (hp : pl.Halted p) {b guard : Nat}
    {call : Option Nat} {g : Gate} (hr : pl.run? = some (b, guard, call))
    (hg : p.gate? b = some g) : g.lifecycle.phase ≠ .running := by
  have hs := hp.stopped _ hr
  rw [State.isRunning_eq hg] at hs
  simpa [Lifecycle.isRunning, Bool.eq_false_iff] using hs

theorem Place.Halted.setGate {pl : Place} {p : State} {b : Nat} {g g' : Gate}
    (hbegun : ∀ b, pl ≠ .beginning b true) (hr : ∀ r, pl.run? = some r → r.1 = b)
    (hg : p.gate? b = some g) (hp : g'.lifecycle.phase ≠ .running) :
    pl.Halted (p.setGate b g') := by
  refine ⟨hbegun, fun r h => ?_⟩
  rw [hr r h, State.isRunning_eq (State.gate?_setGate_self hg g')]
  simpa [Lifecycle.isRunning, Bool.eq_false_iff] using hp

theorem callWork_none (p : State) (s : σ) (b : Nat) : callWork h p s b none = 0 := rfl

theorem callWork_of_serves (s : σ) {p : State} {b : Nat} {g : Gate} {past : List Call}
    {e : Event} {stage : Stage} (hg : p.gate? b = some g)
    (hs : g.Serves past (some ⟨e, stage⟩)) :
    callWork h p s b (some past.length) = stage.work h e s := by
  simp [callWork, hg, hs.call?_cur]

theorem Stretch.work_unwinding (b guard : Nat) (t : Stretch) (p : State) (s : σ) :
    (Place.unwinding b guard t).work h p s < t.work := by
  cases t with
  | launch actions =>
    simp only [Place.unwinding, Place.work, work]
    omega
  | loop => simp [Place.unwinding, Place.work, work]

theorem Leads.work_lt {pl pl' : Place} {p p' : State} {s s' : σ} (hl : Leads h pl p s pl' p' s')
    (hf : pl.Fits p) (hp : pl.Halted p) : pl'.work h p' s' < pl.work h p s := by
  cases hl with
  | begin => exact absurd rfl (hp.begun _)
  | install => exact Nat.lt_succ_self _
  | look hnot =>
    -- a run whose bridge does not run has been asked to stop
    obtain ⟨g, hg⟩ := hf.exists_gate rfl
    have hidle := (hf.inRun rfl hg).phase
    have hrunning := hp.phase rfl hg
    rw [State.stopRequested_eq hg] at hnot
    cases hphase : g.lifecycle.phase <;>
      simp_all [Lifecycle.stopRequested, Phase.stopRequested]
  | action =>
    simp only [Place.work, Stretch.work, callWork_none, errandsWork, launchWork]
    omega
  | next hs => simp [Place.work, Stretch.work, callWork_none, nextWork, hs]
  | exhausted hs => simp [Place.work, Stretch.work, callWork_none, nextWork, hs, Errand.work]
  | idle hs => simp [Place.work, Stretch.work, callWork_none, nextWork, hs]
  | @send _ _ _ _ _ e => cases e <;> simp [Place.work, callWork_none, Errand.work]
  | deliver he hg hs =>
    have hg' := State.gate?_setGate_self hg
    simp only [Place.work, callWork_none, errandsWork]
    rw [callWork_of_serves _ (hg' _) (hs.push _)]
    simp only [Stage.work, Errand.work]
    omega
  | serve hg hs hs' ht =>
    have hg' := State.gate?_setGate_self hg
    have hlt := ht.work_lt (hp.phase rfl hg)
    simp only [Place.work]
    rw [callWork_of_serves _ (hg' _) hs', callWork_of_serves _ hg hs]
    omega
  | answer hg hs hs' ht =>
    have hlt := ht.work_lt (hp.phase rfl hg)
    simp only [Place.work, callWork_none]
    rw [callWork_of_serves _ hg hs]
    omega
  | @unwind b guard _ _ _ t =>
    exact Nat.lt_of_lt_of_le (Stretch.work_unwinding b guard t _ _) (Nat.le_add_left _ _)
  | @leave b guard p s e => cases e <;> simp [Place.work, Place.left]
  | _ => simp [Place.work, callWork_none, Errand.work, Stretch.work]

theorem Leads.halted {pl pl' : Place} {p p' : State} {s s' : σ} (hl : Leads h pl p s pl' p' s')
    (hp : pl.Halted p) : pl'.Halted p' := by
  cases hl with
  | begin => exact absurd rfl (hp.begun _)
  | stop hg => exact .setGate (by simp) (by simp [Place.run?]) hg (by simp [Lifecycle.step])
  | deliver he hg hs => exact .setGate (by simp) (by simp [Place.run?]) hg (hp.phase rfl hg :)
  | serve hg hs hs' ht | answer hg hs hs' ht =>
    exact .setGate (by simp) (by simp [Place.run?]) hg (ht.not_running (hp.phase rfl hg))
  | @unwind b guard p s errands t _ _ _ _ _ _ hg hs hs' ht =>
    refine .setGate ?_ ?_ hg (ht.not_running (hp.phase rfl hg))
    · cases t <;> simp [Place.unwinding]
    · cases t <;> simp [Place.unwinding, Place.run?]
  | @leave b guard p s e g hg =>
    refine .setGate ?_ ?_ hg (by simp)
    · cases e <;> simp [Place.left]
    · cases e <;> simp [Place.left, Place.run?]
  | unhandled | elsewhere | report | conclude => exact ⟨by simp, by simp [Place.run?]⟩
  | _ =>
    refine ⟨by simp, fun r hr => ?_⟩
    obtain rfl := Option.some.inj hr
    exact hp.stopped _ rfl

/-- Others make no work for a run that has been stopped. -/
theorem Machine.Aside.work {m n : Machine σ} (ha : m.Aside n) {pl : Place}
    (hf : pl.Fits m.state) : pl.work h n.state n.host = pl.work h m.state m.host := by
  rw [ha.host]
  have hlaunch : n.state.launchActions = m.state.launchActions :=
    (congrArg State.launchActions ha.state :)
  have hscript : n.state.script = m.state.script := (congrArg State.script ha.state :)
  cases pl with
  | within b guard call errands t =>
    obtain ⟨g, hg⟩ := hf.exists_gate rfl
    have hcall : callWork h n.state m.host b call = callWork h m.state m.host b call := by
      rcases ha.gates b g hg with hg' | hg'
      · simp only [callWork, hg, hg']
      · simp only [callWork, hg, hg', Option.bind_some, Gate.calls_live]
    simp only [Place.work, hcall]
  | looking b guard => simp only [Place.work, nextWork, hscript]
  | _ => simp only [Place.work, hlaunch]

theorem Machine.Aside.halted {m n : Machine σ} (ha : m.Aside n) {pl : Place}
    (hf : pl.Fits m.state) (hp : pl.Halted m.state) : pl.Halted n.state := by
  refine ⟨hp.begun, fun r hr => ?_⟩
  obtain ⟨g, hg⟩ := hf.exists_gate hr
  have hphase := hp.phase hr hg
  rcases ha.gates _ g hg with hg' | hg'
  · simpa [State.isRunning_eq hg', Lifecycle.isRunning, Bool.eq_false_iff] using hphase
  · simp [State.isRunning_eq hg', Lifecycle.isRunning, Lifecycle.step, Bool.eq_false_iff]

/-- Whether a move is a task of the main thread. -/
def Move.isMain : Move → Bool
  | main => true
  | _ => false

theorem Move.isMain_eq_false {move : Move} (hm : move ≠ .main) : move.isMain = false := by
  cases move <;> first | rfl | exact absurd rfl hm

@[simp] theorem countP_isMain_main (m : Machine σ) (run : List (Machine σ × Move)) :
    ((m, .main) :: run).countP (fun s => s.2.isMain) = run.countP (fun s => s.2.isMain) + 1 :=
  List.countP_cons_of_pos rfl

theorem countP_isMain_of_ne (m : Machine σ) {move : Move} (hm : move ≠ .main)
    (run : List (Machine σ × Move)) :
    ((m, move) :: run).countP (fun s => s.2.isMain) = run.countP (fun s => s.2.isMain) := by
  rw [List.countP_cons_of_neg]
  simp [Move.isMain_eq_false hm]

/-- A stopped run in which the main thread has no more than `bound` tasks in all, those that it has
done and those that it has to do. -/
structure Winding (h : Host σ) (bound : Nat) (run : List (Machine σ × Move)) (pl : Place)
    (n : Machine σ) : Prop where
  place : n.At pl
  halted : pl.Halted n.state
  tasks : run.countP (fun s => s.2.isMain) + pl.work h n.state n.host ≤ bound

namespace Winding

variable {bound : Nat} {run : List (Machine σ × Move)} {pl pl' : Place} {n n' : Machine σ}

theorem main (hw : Winding h bound run pl n) {p : State} {s : σ}
    (hl : Leads h pl n.state n.host pl' p s) :
    Winding h bound ((n, .main) :: run) pl' ⟨p, s, pl'.agenda, pl.ending?.or n.ending⟩ := by
  have hle := hw.tasks
  have hlt := hl.work_lt hw.place.fits hw.halted
  refine ⟨⟨rfl, hl.fits hw.place.fits⟩, hl.halted hw.halted, ?_⟩
  simp only [countP_isMain_main]
  omega

theorem aside (hw : Winding h bound run pl n) {move : Move} (hm : move ≠ .main)
    (hmoves : Moves h move pl n pl n') (ha : n.Aside n') :
    Winding h bound ((n, move) :: run) pl n' := by
  refine ⟨hw.place.of_moves hmoves, ha.halted hw.place.fits hw.halted, ?_⟩
  rw [ha.work hw.place.fits, countP_isMain_of_ne n hm]
  exact hw.tasks

end Winding

/-- A stopped run ends after as many tasks at most as there is work at the stop. -/
theorem Machine.At.countP_isMain_le (hh : h.OnlyStops) {m n : Machine σ} {pl : Place}
    (hm : m.At pl) (hp : pl.Halted m.state) {later : List (Machine σ × Move)}
    (ht : Trail (Machine.move? h) m later n) (hbusy : ∀ s ∈ later, s.1.agenda ≠ []) :
    later.countP (fun s => s.2.isMain) ≤ pl.work h m.state m.host := by
  have hstart : Winding h (pl.work h m.state m.host) [] pl m := ⟨hm, hp, by simp⟩
  obtain ⟨pl', hw⟩ := Machine.busy_induction (Q := fun _ => True) hh (fun _ _ _ hw => hw.place)
    (fun _ _ _ _ _ _ hw _ hl => hw.main hl)
    (fun _ _ _ _ _ hw hmain hmoves ha => hw.aside hmain hmoves ha) hstart ht hbusy (by simp)
  have hle := hw.tasks
  omega

end Desktop

end OpenUrl
