import OpenUrl.Desktop.Session
import OpenUrl.Proofs.Desktop.Effort
import OpenUrl.Proofs.Desktop.Sound
import OpenUrl.Proofs.Gate.Ledger

/-!
# Starts after a panic of a callback

A panic of a callback unwinds the run that it comes in, and the cleanup leaves every bridge at
rest, so that a later start runs, delivers and returns as if there had been no panic. The one
exception is a panic while the process is launched: it leaves launching poisoned, and from then on
every start panics before its event loop. `restart_after_panic` says that there is no other one.
-/
namespace OpenUrl.Desktop

/-- The callbacks of sessions do not do more than stop their bridge. -/
theorem onlyStops_ruled (rules : List Rule) : (ruled rules).OnlyStops := by
  intro s e a ha
  simp only [ruled] at ha
  split at ha
  · rename_i r _
    cases hd : r.deed <;> simp_all [Deed.reaction]
  · simp [Reaction.quiet] at ha

variable {σ : Type} {h : Host σ}

/-- The event that a move hands over to a registered bridge. -/
def Machine.handed? (m : Machine σ) : Move → Option Event
  | .main =>
    match m.agenda with
    | .deliver e :: _ => (m.state.handler? e).map fun _ => e.decode
    | _ => none
  | _ => none

/-- The events handed over in a run, in their order. -/
def handed (past : List (Machine σ × Move)) : List Event :=
  (past.filterMap fun s => s.1.handed? s.2).reverse

theorem handed_cons (m : Machine σ) (move : Move) (past : List (Machine σ × Move)) :
    handed ((m, move) :: past) = handed past ++ (m.handed? move).toList := by
  simp only [handed, List.filterMap_cons]
  cases m.handed? move <;> simp

/-- Only the main thread hands over events. -/
theorem handed_of_ne (m : Machine σ) {move : Move} (hm : move ≠ .main)
    (past : List (Machine σ × Move)) : handed ((m, move) :: past) = handed past := by
  have hnone : m.handed? move = none := by
    cases move <;> first | rfl | exact absurd rfl hm
  rw [handed_cons, hnone]
  simp

namespace Place

def handed? : Place → Option Event
  | within _ _ none (.deliver e :: _) _ => if e.OpensUrl then some e.decode else none
  | _ => none

end Place

theorem Machine.At.handed? {m : Machine σ} {pl : Place} (hm : m.At pl) :
    m.handed? .main = pl.handed? := by
  have hh := hm.fits.handlers
  rw [Machine.handed?, hm.agenda]
  cases pl with
  | receiving e =>
    have hn : m.state.handler? e = none := by simp [State.handler?, hh, Place.handlers]
    simp [Place.agenda, hn, Place.handed?]
  | within b guard call errands t =>
    cases call with
    | some call => rfl
    | none =>
      cases errands with
      | nil =>
        cases t with
        | launch actions => cases actions <;> rfl
        | loop => rfl
      | cons e errands =>
        cases e with
        | deliver e =>
          simp only [Place.agenda, Place.handed?, Errand.task, List.map_cons, Option.map_none,
            Option.toList_none, List.nil_append, List.cons_append]
          rw [State.handler?_of_handlers hh e]
          split_ifs <;> rfl
        | _ => rfl
  | _ => rfl

/-- The ledger of a bridge goes on with what the main thread does, unless a panic comes. -/
theorem Leads.ledger {pl pl' : Place} {p p' : State} {s s' s₀ : σ}
    (hl : Leads h pl p s pl' p' s') {b : Nat} (hb : ∀ c, pl.bridge? = some c → c = b)
    (hnot : ¬ pl.Unwinds pl') {g : Gate} (hg : p.gate? b = some g) {old : List Call}
    {xs ys : List Event} {cur : Option Call} (hled : g.Ledger h old s₀ s xs ys cur)
    (hbegin : ∀ onMain, pl = .beginning b onMain → ys = [] ∧ cur = none) :
    ∃ g' xs' ys' cur', p'.gate? b = some g' ∧ g'.Ledger h old s₀ s' xs' ys' cur' ∧
      xs' ++ ys' ++ (cur'.map Call.event).toList =
        xs ++ ys ++ (cur.map Call.event).toList ++ pl.handed?.toList := by
  cases hl with
  | @begin b' _ _ g' hg' =>
    obtain rfl : b' = b := hb _ rfl
    obtain rfl := Option.some.inj (hg.symm.trans hg')
    obtain ⟨rfl, rfl⟩ := hbegin true rfl
    refine ⟨_, xs, [], none, State.gate?_setGate_self hg _, ?_, by simp [Place.handed?]⟩
    exact ⟨hled.serves.congr rfl rfl, hled.host, by simp, by simp⟩
  | @stop b' _ _ _ _ _ g' hg' =>
    obtain rfl : b' = b := hb _ rfl
    obtain rfl := Option.some.inj (hg.symm.trans hg')
    refine ⟨_, xs, ys, cur, State.gate?_setGate_self hg _, ?_, by simp [Place.handed?]⟩
    exact hled.stop
  | @deliver b' _ _ _ e _ _ g' _ he hg' hs =>
    obtain rfl : b' = b := hb _ rfl
    obtain rfl := Option.some.inj (hg.symm.trans hg')
    obtain ⟨-, rfl⟩ := hled.serves.unique hs
    refine ⟨_, xs, ys, _, State.gate?_setGate_self hg _, hled.push e.decode, ?_⟩
    simp [Place.handed?, he]
  | ignore he => exact ⟨g, xs, ys, cur, hg, hled, by simp [Place.handed?, he]⟩
  | @serve b' _ _ _ _ _ g' _ _ _ _ _ _ hg' hs hs' ht =>
    obtain rfl : b' = b := hb _ rfl
    obtain rfl := Option.some.inj (hg.symm.trans hg')
    obtain ⟨-, rfl⟩ := hled.serves.unique hs
    refine ⟨_, xs, ys, _, State.gate?_setGate_self hg _, hled.turn hs hs' ht, ?_⟩
    simp [Place.handed?]
  | @answer b' _ _ _ _ _ g' _ _ _ _ _ _ hg' hs hs' ht hv =>
    obtain rfl : b' = b := hb _ rfl
    obtain rfl := Option.some.inj (hg.symm.trans hg')
    obtain ⟨-, rfl⟩ := hled.serves.unique hs
    obtain ⟨xs', ys', hled', heq⟩ := hled.answer hs hs' ht hv
    refine ⟨_, xs', ys', none, State.gate?_setGate_self hg _, hled', ?_⟩
    simpa [Place.handed?] using heq
  | unwind => exact absurd ⟨_, _, _, _, _, rfl, rfl⟩ hnot
  | @leave b' _ _ _ _ g' hg' =>
    obtain rfl : b' = b := hb _ rfl
    obtain rfl := Option.some.inj (hg.symm.trans hg')
    refine ⟨_, xs, ys, cur, State.gate?_setGate_self hg _, ?_, by simp [Place.handed?]⟩
    exact hled.congr rfl rfl (by simp)
  | _ => exact ⟨g, xs, ys, cur, hg, hled, by simp [Place.handed?]⟩

/-- A look of the event loop of bridge `b` that sees that it has been asked to stop. -/
def Machine.SeesStop (b : Nat) (m : Machine σ) : Prop :=
  (∃ rest, m.agenda = .check b :: rest) ∧ m.state.stopRequested b = true

/-- A start of bridge `b` at `m`, in which no callback has panicked. -/
structure Good (h : Host σ) (m : Machine σ) (b : Nat) (run : List (Machine σ × Move)) (pl : Place)
    (n : Machine σ) : Prop where
  place : n.At pl
  sound : pl.Sound b
  manager : n.state.managerThere = true
  launching : n.state.launching ≠ .poisoned
  ended : pl = .away → n.ending = some .finished
  left : pl.isOver = true → ∃ k, (k, .main) ∈ run ∧ k.SeesStop b
  ledger : ∃ g₀ g xs ys cur, m.state.gate? b = some g₀ ∧ n.state.gate? b = some g ∧
    g.Ledger h g₀.calls m.host n.host xs ys cur ∧
    handed run = xs ++ ys ++ (cur.map Call.event).toList ∧
    ∀ onMain, pl = .beginning b onMain → ys = [] ∧ cur = none

theorem Good.main {m n : Machine σ} {b : Nat} {run : List (Machine σ × Move)} {pl pl' : Place}
    {p : State} {s : σ} (hg : Good h m b run pl n) (hl : Leads h pl n.state n.host pl' p s)
    (hnot : ¬ n.Panics) :
    Good h m b ((n, .main) :: run) pl' ⟨p, s, pl'.agenda, pl.ending?.or n.ending⟩ := by
  have hplace : Machine.At ⟨p, s, pl'.agenda, pl.ending?.or n.ending⟩ pl' :=
    ⟨rfl, hl.fits hg.place.fits⟩
  have hunwinds : ¬ pl.Unwinds pl' := fun hu => hnot ((hl.panics_iff hg.place).mpr hu)
  obtain ⟨⟨hsound, hmanager, hlaunch⟩, hover⟩ :=
    hl.sound hunwinds hg.sound hg.manager hg.launching
  refine ⟨hplace, hsound, hmanager, hlaunch, ?_, ?_, ?_⟩
  · intro haway
    have hs := hg.sound
    rcases hl.of_away haway with ⟨e, rfl⟩ | ⟨e, rfl⟩
    · exact hs.elim
    · obtain rfl : e = .finished := hs
      rfl
  · intro hover'
    rcases hover hover' with hover | ⟨⟨guard, rfl⟩, hstop⟩
    · obtain ⟨k, hk, hsees⟩ := hg.left hover
      exact ⟨k, List.mem_cons_of_mem _ hk, hsees⟩
    · exact ⟨n, List.mem_cons_self, ⟨_, hg.place.agenda⟩, hstop⟩
  · obtain ⟨g₀, g, xs, ys, cur, hg₀, hgate, hled, hhanded, hbegin⟩ := hg.ledger
    obtain ⟨g', xs', ys', cur', hgate', hled', heq⟩ :=
      hl.ledger hg.sound.eq_of_bridge? hunwinds hgate hled hbegin
    refine ⟨g₀, g', xs', ys', cur', hg₀, hgate', hled', ?_, ?_⟩
    · rw [handed_cons, hg.place.handed?, hhanded, heq]
    · -- nothing leads back to the begin of a start
      rintro onMain rfl
      exact absurd rfl (hl.ne_beginning _ _)

/-- Others leave a start as it is, but that they may stop it. -/
theorem Good.aside {m n n' : Machine σ} {b : Nat} {run : List (Machine σ × Move)} {pl : Place}
    (hg : Good h m b run pl n) {move : Move} (hmoves : Moves h move pl n pl n') (ha : n.Aside n')
    (hmain : move ≠ .main) : Good h m b ((n, move) :: run) pl n' := by
  have hmanager : n'.state.managerThere = n.state.managerThere :=
    (congrArg State.managerThere ha.state :)
  have hlaunch : n'.state.launching = n.state.launching := (congrArg State.launching ha.state :)
  refine ⟨hg.place.of_moves hmoves, hg.sound, hmanager.trans hg.manager, ?_, ?_, ?_, ?_⟩
  · rw [hlaunch]
    exact hg.launching
  · rw [ha.ending]
    exact hg.ended
  · intro hover
    obtain ⟨k, hk, hsees⟩ := hg.left hover
    exact ⟨k, List.mem_cons_of_mem _ hk, hsees⟩
  · obtain ⟨g₀, g, xs, ys, cur, hg₀, hgate, hled, hh, hbegin⟩ := hg.ledger
    rw [handed_of_ne n hmain, ha.host]
    rcases ha.gates b g hgate with hgate' | hgate'
    · exact ⟨g₀, g, xs, ys, cur, hg₀, hgate', hled, by simpa using hh, hbegin⟩
    · exact ⟨g₀, _, xs, ys, cur, hg₀, hgate', hled.stop, by simpa using hh, hbegin⟩

/-- A start of a bridge that is there, in a process that can still be launched. -/
theorem Good.start {m : Machine σ} (hm : m.At .away) {b : Nat}
    (halive : (m.state.bridges[b]?).any Bridge.alive) (hmanager : m.state.managerThere = true)
    (hlaunch : m.state.launching ≠ .poisoned) :
    Good h m b [] (.beginning b true) (m.start b true) := by
  have hplace : (m.start b true).At (.beginning b true) :=
    hm.of_moves (h := h) (.start b true halive)
  obtain ⟨g, hg⟩ := hplace.fits.there b rfl
  obtain ⟨-, -, past, hs⟩ := hm.fits.atRest rfl hg
  obtain rfl : g.calls = past := by simpa using hs.calls
  refine ⟨hplace, ⟨rfl, rfl⟩, hmanager, hlaunch, by simp, by simp [Place.isOver], ?_⟩
  exact ⟨g, g, [], [], none, hg, hg, Gate.Ledger.start hs h m.host, by simp [handed], by simp⟩

theorem Good.trail (hh : h.OnlyStops) {m k n : Machine σ} {b : Nat} {pl : Place}
    (hg : Good h m b [] pl k) {run : List (Machine σ × Move)}
    (ht : Trail (Machine.move? h) k run n) (hbusy : ∀ s ∈ run, s.1.agenda ≠ [])
    (hcalm : ∀ s ∈ run, s.2 = .main → ¬ s.1.Panics) : ∃ pl', Good h m b run pl' n :=
  Machine.busy_induction (Q := fun s => s.2 = .main → ¬ s.1.Panics) hh
    (fun _ _ _ hg => hg.place) (fun _ _ _ _ _ _ hg hcalm hl => hg.main hl (hcalm rfl))
    (fun _ _ _ _ _ hg hmain hmoves ha => hg.aside hmoves ha hmain) hg ht hbusy hcalm

/-- A place of a start of bridge `b` that panics before its event loop. -/
def Place.Barred (b : Nat) : Place → Prop
  | beginning b' onMain => b' = b ∧ onMain = true
  | installing b' _ | announcing b' _ | entering b' _ => b' = b
  | removing b' _ e | freeing b' _ e | leaving b' _ e => b' = b ∧ e = .panicked
  | concluding e => e = .panicked
  | away => True
  | receiving _ | within _ _ _ _ _ | looking _ _ | poisoning _ _ | reporting _ => False

/-- How many tasks such a start has to go. -/
def Place.remaining : Place → Nat
  | beginning _ _ => 8
  | installing _ _ => 7
  | announcing _ _ => 6
  | entering _ _ => 5
  | removing _ _ _ => 4
  | freeing _ _ _ => 3
  | leaving _ _ _ => 2
  | concluding _ => 1
  | _ => 0

theorem Leads.barred {pl pl' : Place} {p p' : State} {s s' : σ} (hl : Leads h pl p s pl' p' s')
    {b : Nat} (hp : pl.Barred b) (hmanager : p.managerThere = true)
    (hlaunch : p.launching = .poisoned) :
    pl'.Barred b ∧ p'.managerThere = true ∧ p'.launching = .poisoned ∧ s' = s ∧
      pl.handed? = none ∧ pl'.remaining < pl.remaining := by
  cases hl with
  | elsewhere => simp [Place.Barred] at hp
  | noManager hno => simp [hmanager] at hno
  | launch hnot | relaunch hnot => simp [hlaunch] at hnot
  | begin => exact ⟨hp.1, hmanager, hlaunch, rfl, rfl, by simp [Place.remaining]⟩
  | poisoned => exact ⟨⟨hp, rfl⟩, hmanager, hlaunch, rfl, rfl, by simp [Place.remaining]⟩
  | leave =>
    obtain ⟨rfl, rfl⟩ := hp
    exact ⟨rfl, hmanager, hlaunch, rfl, rfl, by simp [Place.remaining, Place.left]⟩
  | conclude => exact ⟨trivial, hmanager, hlaunch, rfl, rfl, by simp [Place.remaining]⟩
  | install | announce | remove | free =>
    exact ⟨hp, hmanager, hlaunch, rfl, rfl, by simp [Place.remaining]⟩
  | _ => exact hp.elim

/-- A start of bridge `b` at `m`, in a process that cannot be launched. -/
structure Bad (m : Machine σ) (b : Nat) (run : List (Machine σ × Move)) (pl : Place)
    (n : Machine σ) : Prop where
  place : n.At pl
  barred : pl.Barred b
  manager : n.state.managerThere = true
  launching : n.state.launching = .poisoned
  ended : pl = .away → n.ending = some .panicked
  host : n.host = m.host
  handed : handed run = []
  loop : ∀ s ∈ run, ∀ rest, s.1.agenda ≠ .check b :: rest
  tasks : run.countP (fun s => s.2.isMain) + pl.remaining ≤ 8

theorem Place.Barred.agenda_ne_check {pl : Place} {b : Nat} (hp : pl.Barred b) (c : Nat)
    (rest : List Task) : pl.agenda ≠ .check c :: rest := by
  cases pl with
  | within | looking | poisoning | receiving | reporting => exact hp.elim
  | _ => simp [agenda, closing]

theorem Bad.main {m n : Machine σ} {b : Nat} {run : List (Machine σ × Move)} {pl pl' : Place}
    {p : State} {s : σ} (hg : Bad m b run pl n) (hl : Leads h pl n.state n.host pl' p s) :
    Bad m b ((n, .main) :: run) pl' ⟨p, s, pl'.agenda, pl.ending?.or n.ending⟩ := by
  obtain ⟨hbarred, hmanager, hlaunch, hhost, hhanded, hlt⟩ :=
    hl.barred hg.barred hg.manager hg.launching
  refine ⟨⟨rfl, hl.fits hg.place.fits⟩, hbarred, hmanager, hlaunch, ?_, ?_, ?_, ?_, ?_⟩
  · intro haway
    have hb := hg.barred
    rcases hl.of_away haway with ⟨e, rfl⟩ | ⟨e, rfl⟩
    · exact hb.elim
    · obtain rfl : e = .panicked := hb
      rfl
  · exact hhost.trans hg.host
  · rw [handed_cons, hg.place.handed?, hhanded, hg.handed]
    rfl
  · intro k hk rest
    rcases List.mem_cons.mp hk with rfl | hk
    · rw [hg.place.agenda]
      exact hg.barred.agenda_ne_check b rest
    · exact hg.loop k hk rest
  · have hle := hg.tasks
    rw [countP_isMain_main]
    omega

theorem Bad.aside {m n n' : Machine σ} {b : Nat} {run : List (Machine σ × Move)} {pl : Place}
    (hg : Bad m b run pl n) {move : Move} (hmoves : Moves h move pl n pl n') (ha : n.Aside n')
    (hmain : move ≠ .main) : Bad m b ((n, move) :: run) pl n' := by
  have hmanager : n'.state.managerThere = n.state.managerThere :=
    (congrArg State.managerThere ha.state :)
  have hlaunch : n'.state.launching = n.state.launching := (congrArg State.launching ha.state :)
  refine ⟨hg.place.of_moves hmoves, hg.barred, hmanager.trans hg.manager,
    hlaunch.trans hg.launching, ?_, ha.host.trans hg.host, ?_, ?_, ?_⟩
  · rw [ha.ending]
    exact hg.ended
  · rw [handed_of_ne n hmain, hg.handed]
  · intro k hk rest
    rcases List.mem_cons.mp hk with rfl | hk
    · rw [hg.place.agenda]
      exact hg.barred.agenda_ne_check b rest
    · exact hg.loop k hk rest
  · rw [countP_isMain_of_ne n hmain]
    exact hg.tasks

theorem Bad.trail (hh : h.OnlyStops) {m k n : Machine σ} {b : Nat} {pl : Place}
    (hg : Bad m b [] pl k) {run : List (Machine σ × Move)}
    (ht : Trail (Machine.move? h) k run n) (hbusy : ∀ s ∈ run, s.1.agenda ≠ []) :
    ∃ pl', Bad m b run pl' n :=
  Machine.busy_induction (Q := fun _ => True) hh (fun _ _ _ hg => hg.place)
    (fun _ _ _ _ _ _ hg _ hl => hg.main hl)
    (fun _ _ _ _ _ hg hmain hmoves ha => hg.aside hmoves ha hmain) hg ht hbusy (by simp)

/-- What holds, in a state `n` that it has come to, of a start of bridge `b` at `m` that no panic
disturbs. -/
structure Restarts (h : Host σ) (m : Machine σ) (b : Nat) (run : List (Machine σ × Move))
    (n : Machine σ) : Prop where
  /-- The main thread is never stuck. -/
  progress : n.agenda ≠ [] → ∃ k v, n.move? h .main = some (k, v)
  /-- The start returns without a failure, having left its event loop because it was asked to
  stop. -/
  finished : n.agenda = [] → n.ending = some .finished ∧ ∃ k, (k, .main) ∈ run ∧ k.SeesStop b
  /-- It returns once it has been asked to stop: the main thread has no more than `bound` tasks to
  do then, whatever others do. -/
  ends : n.state.stopRequested b = true → ∃ bound, ∀ later k, Trail (Machine.move? h) n later k →
    (∀ s ∈ later, s.1.agenda ≠ []) → later.countP (fun s => s.2.isMain) ≤ bound
  /-- The events handed over are delivered, each once and in their order, up to a stop. -/
  delivery : ∃ g₀ g xs ys cur, m.state.gate? b = some g₀ ∧ n.state.gate? b = some g ∧
    g.Ledger h g₀.calls m.host n.host xs ys cur ∧
    handed run = xs ++ ys ++ (cur.map Call.event).toList ∧ (n.agenda = [] → cur = none)

/-- What holds, in a state `n` that it has come to, of a start of bridge `b` at `m` in a process
that cannot be launched. -/
structure Fails (h : Host σ) (m : Machine σ) (b : Nat) (run : List (Machine σ × Move))
    (n : Machine σ) : Prop where
  progress : n.agenda ≠ [] → ∃ k v, n.move? h .main = some (k, v)
  panicked : n.agenda = [] → n.ending = some .panicked
  ends : run.countP (fun s => s.2.isMain) ≤ 8
  /-- It does not come to its event loop, and no event is handed over. -/
  silent : (∀ s ∈ run, ∀ rest, s.1.agenda ≠ .check b :: rest) ∧ handed run = [] ∧ n.host = m.host

theorem Good.restarts (hh : h.OnlyStops) {m n : Machine σ} {b : Nat}
    {run : List (Machine σ × Move)} {pl : Place} (hg : Good h m b run pl n) :
    Restarts h m b run n := by
  have haway : n.agenda = [] → pl = .away :=
    fun hn => Place.agenda_eq_nil (hg.place.agenda.symm.trans hn)
  refine ⟨hg.place.exists_main hh, ?_, ?_, ?_⟩
  · intro hn
    obtain rfl := haway hn
    exact ⟨hg.ended rfl, hg.left rfl⟩
  · intro hstop
    refine ⟨pl.work h n.state n.host, fun later k ht hbusy => ?_⟩
    refine hg.place.countP_isMain_le hh ⟨?_, ?_⟩ ht hbusy
    · -- a bridge that has not begun has not been asked to stop
      rintro b' rfl
      obtain rfl : b' = b := hg.sound.1
      obtain ⟨g, hgate⟩ := hg.place.fits.there b' rfl
      have hidle := (hg.place.fits.atRest rfl hgate).phase
      rw [State.stopRequested_eq hgate, Lifecycle.stopRequested, hidle] at hstop
      simp [Phase.stopRequested] at hstop
    · intro r hr
      obtain rfl : r.1 = b := hg.sound.eq_of_bridge? _ (Place.bridge?_of_run hr)
      exact State.isRunning_of_stopRequested hstop
  · obtain ⟨g₀, g, xs, ys, cur, hg₀, hgate, hled, hhanded, -⟩ := hg.ledger
    refine ⟨g₀, g, xs, ys, cur, hg₀, hgate, hled, hhanded, fun hn => ?_⟩
    obtain rfl := haway hn
    obtain ⟨-, -, past, hs⟩ := hg.place.fits.atRest rfl hgate
    exact (hled.serves.unique hs).2

/-- After any past, a start in which no callback panics goes well, unless a callback has panicked
while the process was launched; after such a panic every start fails. -/
theorem restart_after_panic (hh : h.OnlyStops) {scriptEnd : ScriptEnd} {s₀ : σ}
    {past run : List (Machine σ × Move)} {m n : Machine σ}
    (ht : Trail (Machine.move? h) (Machine.idle scriptEnd s₀) past m) (hm : m.agenda = []) {b : Nat}
    (halive : (m.state.bridges[b]?).any Bridge.alive) (hmanager : m.state.managerThere = true)
    (hrun : Trail (Machine.move? h) (m.start b true) run n)
    (hbusy : ∀ s ∈ run, s.1.agenda ≠ []) :
    (¬ LaunchPanic past → (∀ s ∈ run, s.2 = .main → ¬ s.1.Panics) → Restarts h m b run n) ∧
      (LaunchPanic past → Fails h m b run n) := by
  obtain ⟨pl, hat, hiff, -⟩ := Machine.poisoned_iff hh ht
  obtain rfl := Place.agenda_eq_nil (hat.agenda.symm.trans hm)
  have hpoisoned : m.state.launching = .poisoned ↔ LaunchPanic past := by
    simpa [Place.Poisoned] using hiff
  have hplace : (m.start b true).At (.beginning b true) :=
    hat.of_moves (h := h) (.start b true halive)
  constructor
  · intro hnot hcalm
    have hlaunch : m.state.launching ≠ .poisoned := fun hp => hnot (hpoisoned.mp hp)
    obtain ⟨pl', hg⟩ := (Good.start hat halive hmanager hlaunch).trail hh hrun hbusy hcalm
    exact hg.restarts hh
  · intro hpanic
    have hstart : Bad m b [] (.beginning b true) (m.start b true) :=
      ⟨hplace, ⟨rfl, rfl⟩, hmanager, hpoisoned.mpr hpanic, by simp, rfl, rfl, by simp,
        by simp [Place.remaining]⟩
    obtain ⟨pl', hb⟩ := hstart.trail hh hrun hbusy
    refine ⟨hb.place.exists_main hh, ?_, ?_, hb.loop, hb.handed, hb.host⟩
    · intro hn
      exact hb.ended (Place.agenda_eq_nil (hb.place.agenda.symm.trans hn))
    · have hle := hb.tasks
      omega

/-- A start whose callback panics in the event loop, and a start after it. -/
theorem restart_after_panic_in_loop : ∃ past m run n,
    Trail (Machine.move? (ruled [⟨"boom", .panic⟩])) (Machine.idle .stops []) past m ∧
      Restarts (ruled [⟨"boom", .panic⟩]) m 0 run n ∧ (∃ s ∈ past, s.1.Panics) ∧
      n.ending = some .finished ∧ n.host = [⟨"boom", 7⟩, ⟨"ok", 7⟩] := by
  have ht : Trail (Machine.move? (ruled [⟨"boom", .panic⟩])) (Machine.idle .stops []) _ _ :=
    Trail.of_isSome ([.new 100, .set ⟨true, [], [.deliver (.ofEvent ⟨"boom", 7⟩)], none⟩,
      .start 0 true] ++ List.replicate 17 .main ++
      [.set ⟨true, [], [.deliver (.ofEvent ⟨"ok", 7⟩)], none⟩]) (by decide +kernel)
  have hrestart := restart_after_panic (b := 0) (onlyStops_ruled [⟨"boom", .panic⟩]) ht
    (by decide +kernel) (by decide +kernel) (by decide +kernel)
    (Trail.of_isSome (List.replicate 22 .main) (by decide +kernel)) (by decide +kernel)
  refine ⟨_, _, _, _, ht, hrestart.1 (by decide +kernel) (by decide +kernel), ?_⟩
  decide +kernel

/-- A start whose callback panics while the process is launched, and a start after it with one
event, which is not handed over. -/
theorem launch_panic_bars_restart : ∃ past m run n,
    Trail (Machine.move? (ruled [⟨"boom", .panic⟩])) (Machine.idle .stops []) past m ∧
      Trail (Machine.move? (ruled [⟨"boom", .panic⟩])) (m.start 0 true) run n ∧
      (m.agenda = [] ∧ (m.state.bridges[0]?).any Bridge.alive ∧ m.state.managerThere = true) ∧
      (∀ s ∈ run, s.1.agenda ≠ [] ∧ ¬ s.1.Panics) ∧ n.agenda = [] ∧
        n.ending = some .panicked ∧ n.host = m.host := by
  refine ⟨_, _, _, _, Trail.of_isSome ([.new 100,
      .set ⟨true, [.deliver (.ofEvent ⟨"boom", 7⟩)], [], none⟩, .start 0 true] ++
      List.replicate 16 .main ++ [.set ⟨true, [], [.deliver (.ofEvent ⟨"ok", 7⟩)], none⟩])
      (by decide +kernel), Trail.of_isSome (List.replicate 8 .main) (by decide +kernel), ?_⟩
  decide +kernel

end OpenUrl.Desktop
