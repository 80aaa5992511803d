import OpenUrl.Proofs.Desktop.Restart

/-!
# The call that the main thread serves

Events reach the callback of a bridge through one call at a time. `Attends` says once what a task
of the main thread does to the call that it serves, to the counter and to the host; which events
have looked, which have been received and how many have been counted is added up from it.
-/
namespace OpenUrl

namespace Call

/-- The event, if the call has not looked yet whether the bridge runs. -/
def unjudged? (c : Call) : Option Event :=
  match c.stage with
  | .waiting | .holding => some c.event
  | _ => none

/-- The event, if the call is about to look whether the bridge runs. -/
def judging? (c : Call) : Option Event :=
  match c.stage with
  | .holding => some c.event
  | _ => none

/-- The event, if the call is about to begin the callback. -/
def entering? (c : Call) : Option Event :=
  match c.stage with
  | .admitted => some c.event
  | _ => none

/-- 1 for a call whose callback has begun and is not counted. -/
def uncounted (c : Call) : UInt64 :=
  match c.stage with
  | .inside _ _ | .returned | .unwinding => 1
  | _ => 0

end Call

namespace Desktop

variable {σ : Type} {h : Host σ}

/-- The call that the main thread serves next. -/
def Machine.call? (m : Machine σ) : Option Call :=
  match m.agenda with
  | .serve b call :: _ => (m.state.gate? b).bind fun g => g.calls[call]?
  | _ => none

/-- The event whose call looks, by a move, whether the bridge runs. -/
def Machine.judged? (m : Machine σ) : Move → Option Event
  | .main => m.call?.bind Call.judging?
  | _ => none

/-- The event with which a move calls back. -/
def Machine.received? (m : Machine σ) : Move → Option Event
  | .main => m.call?.bind Call.entering?
  | _ => none

/-- The events that have looked in a run whether the bridge runs, in their order. -/
def judged (past : List (Machine σ × Move)) : List Event := recorded Machine.judged? past

/-- The events with which a run has called back, in their order. -/
def calledBack (past : List (Machine σ × Move)) : List Event := recorded Machine.received? past

/-- The call that is served at a place. -/
def Place.call? (p : State) : Place → Option Call
  | within b _ (some call) _ _ => (p.gate? b).bind fun g => g.calls[call]?
  | _ => none

theorem Machine.At.call? {m : Machine σ} {pl : Place} (hm : m.At pl) :
    m.call? = pl.call? m.state := by
  rw [Machine.call?, hm.agenda]
  cases pl with
  | within b guard call errands t =>
    cases call with
    | some call => rfl
    | none =>
      cases errands with
      | cons e errands => cases e <;> rfl
      | nil =>
        cases t with
        | launch actions => cases actions <;> rfl
        | loop => rfl
  | _ => rfl

theorem Machine.served?_eq (m : Machine σ) : m.served? = m.call?.map Call.stage := by
  obtain ⟨p, x, agenda, ending⟩ := m
  cases agenda with
  | nil => rfl
  | cons task rest =>
    cases task with
    | serve b call =>
      simp only [served?, Machine.call?]
      cases p.gate? b <;> rfl
    | _ => rfl

/-- Others do not touch the call that is served. -/
theorem Machine.Aside.call? {m n : Machine σ} (ha : m.Aside n) {pl : Place}
    (hf : pl.Fits m.state) : pl.call? n.state = pl.call? m.state := by
  cases pl with
  | within b guard call errands t =>
    cases call with
    | none => rfl
    | some call =>
      obtain ⟨g, hg⟩ := hf.exists_gate rfl
      rcases ha.gates b g hg with hg' | hg'
      · simp [Place.call?, hg, hg']
      · simp [Place.call?, hg, hg']
  | _ => rfl

/-- What a task does to the call that is served, to whether the bridge runs, to its counter and to
the host, and the event that it hands over. -/
inductive Attends (h : Host σ) : Option Call → Bool → UInt64 → σ → Option Event →
    Option Call → Bool → UInt64 → σ → Prop
  | rest (r r' n s) : Attends h none r n s none none r' n s
  | hand (e r n s) : Attends h none r n s (some e) (some ⟨e, .waiting⟩) r n s
  | turn {e stage stage' l l' n n' s s'} : Gate.Turn h e stage l n s stage' l' n' s' →
      stage'.ended? = none →
      Attends h (some ⟨e, stage⟩) l.isRunning n s none (some ⟨e, stage'⟩) l'.isRunning n' s'
  | answer {e stage v r n s} : stage.verdict? = some v →
      Attends h (some ⟨e, stage⟩) r n s none none r n s

theorem Leads.attends {pl pl' : Place} {p p' : State} {s s' : σ} (hl : Leads h pl p s pl' p' s')
    {b : Nat} (hb : ∀ c, pl.bridge? = some c → c = b) {g : Gate} (hg : p.gate? b = some g) :
    ∃ g', p'.gate? b = some g' ∧
      Attends h (pl.call? p) g.lifecycle.isRunning g.delivered s pl.handed?
        (pl'.call? p') g'.lifecycle.isRunning g'.delivered s' := by
  cases hl with
  | @begin b' _ _ g' hg' =>
    obtain rfl : b' = b := hb _ rfl
    obtain rfl := Option.some.inj (hg.symm.trans hg')
    exact ⟨_, State.gate?_setGate_self hg _, .rest _ _ _ _⟩
  | @stop b' _ _ _ _ _ g' hg' =>
    obtain rfl : b' = b := hb _ rfl
    obtain rfl := Option.some.inj (hg.symm.trans hg')
    exact ⟨_, State.gate?_setGate_self hg _, .rest _ _ _ _⟩
  | @deliver b' _ _ _ e _ _ g' _ he hg' hs =>
    obtain rfl : b' = b := hb _ rfl
    obtain rfl := Option.some.inj (hg.symm.trans hg')
    refine ⟨_, State.gate?_setGate_self hg _, ?_⟩
    simp only [Place.call?, State.gate?_setGate_self hg, Option.bind_some, (hs.push _).call?_cur,
      Place.handed?, if_pos he]
    exact .hand _ _ _ _
  | ignore he =>
    refine ⟨g, hg, ?_⟩
    rw [Place.handed?, if_neg he]
    exact .rest _ _ _ _
  | @serve b' _ _ _ _ _ g' _ _ _ _ _ _ hg' hs hs' ht =>
    obtain rfl : b' = b := hb _ rfl
    obtain rfl := Option.some.inj (hg.symm.trans hg')
    refine ⟨_, State.gate?_setGate_self hg _, ?_⟩
    simp only [Place.call?, State.gate?_setGate_self hg, hg, Option.bind_some, hs.call?_cur,
      hs'.call?_cur]
    exact .turn ht (hs'.tame _ rfl).ended?
  | @answer b' _ _ _ _ _ g' _ _ _ _ _ _ hg' hs hs' ht hv =>
    obtain rfl : b' = b := hb _ rfl
    obtain rfl := Option.some.inj (hg.symm.trans hg')
    obtain ⟨hverdict, hlife, hcount, rfl⟩ := ht.of_done
    refine ⟨_, State.gate?_setGate_self hg _, ?_⟩
    simp only [Place.call?, hg, Option.bind_some, hs.call?_cur, hlife, hcount]
    exact .answer hverdict
  | @unwind b' _ _ _ _ t g' _ _ _ _ _ hg' hs hs' ht =>
    obtain rfl : b' = b := hb _ rfl
    obtain rfl := Option.some.inj (hg.symm.trans hg')
    obtain ⟨hverdict, hlife, hcount, rfl⟩ := ht.of_done
    refine ⟨_, State.gate?_setGate_self hg _, ?_⟩
    simp only [Place.call?, hg, Option.bind_some, hs.call?_cur, hlife, hcount]
    cases t <;> exact .answer hverdict
  | @leave b' _ _ _ e g' hg' =>
    obtain rfl : b' = b := hb _ rfl
    obtain rfl := Option.some.inj (hg.symm.trans hg')
    refine ⟨_, State.gate?_setGate_self hg _, ?_⟩
    cases e <;> exact .rest _ _ _ _
  | _ => exact ⟨g, hg, .rest _ _ _ _⟩

namespace Attends

variable {cur cur' : Option Call} {r r' : Bool} {n n' : UInt64} {s s' : σ} {e : Option Event}

/-- An event that is handed over looks once whether the bridge runs, in its turn. -/
theorem unjudged (ha : Attends h cur r n s e cur' r' n' s') :
    (cur.bind Call.unjudged?).toList ++ e.toList =
      (cur.bind Call.judging?).toList ++ (cur'.bind Call.unjudged?).toList := by
  cases ha with
  | turn ht hend =>
    cases ht with
    | release => simp [Stage.ended?] at hend
    | _ => simp [Call.unjudged?, Call.judging?]
  | @answer _ stage _ _ _ _ hv =>
    cases stage <;> simp_all [Stage.verdict?, Call.unjudged?, Call.judging?]
  | _ => simp [Call.unjudged?]

/-- While the bridge runs, an event that looks goes on to the callback. -/
theorem entering (ha : Attends h cur r n s e cur' r' n' s') (hr : r = true) :
    cur'.bind Call.entering? = cur.bind Call.judging? := by
  cases ha with
  | turn ht hend =>
    cases ht with
    | refuse _ _ _ hnot => exact absurd (Phase.isRunning_iff.mp hr) hnot
    | release => simp [Stage.ended?] at hend
    | _ => rfl
  | @answer _ stage _ _ _ _ hv => cases stage <;> first | rfl | simp [Stage.verdict?] at hv
  | _ => rfl

/-- Once the bridge does not run, no event goes on to the callback. -/
theorem not_entering (ha : Attends h cur r n s e cur' r' n' s') (hr : r = false) :
    cur'.bind Call.entering? = none := by
  cases ha with
  | turn ht hend =>
    cases ht with
    | accept _ _ _ hrun => simp [Lifecycle.isRunning, hrun, Phase.isRunning] at hr
    | _ => rfl
  | _ => rfl

/-- A look does not stop the bridge. -/
theorem not_judging (ha : Attends h cur r n s e cur' r' n' s') (hr : r = true)
    (hr' : r' = false) : cur.bind Call.judging? = none := by
  cases ha with
  | turn ht hend =>
    cases ht with
    | accept | refuse => simp [hr] at hr'
    | release => simp [Stage.ended?] at hend
    | _ => rfl
  | answer => simp [hr] at hr'
  | _ => rfl

theorem host (ha : Attends h cur r n s e cur' r' n' s') :
    s' = h.after s (cur.bind Call.entering?).toList := by
  cases ha with
  | turn ht hend =>
    cases ht with
    | release => simp [Stage.ended?] at hend
    | _ => rfl
  | @answer _ stage _ _ _ _ hv => cases stage <;> first | rfl | simp [Stage.verdict?] at hv
  | _ => rfl

/-- What has been received is counted, unless a panic leaves the gate. -/
theorem counted (ha : Attends h cur r n s e cur' r' n' s')
    (hne : ∀ c ∈ cur, c.stage ≠ .unwinding) :
    n' + (cur'.map Call.uncounted).getD 0 =
      n + (cur.map Call.uncounted).getD 0 +
        UInt64.ofNat (cur.bind Call.entering?).toList.length := by
  cases ha with
  | turn ht hend =>
    cases ht with
    | release => simp [Stage.ended?] at hend
    | _ => simp [Call.uncounted, Call.entering?]
  | @answer _ stage _ _ _ _ hv =>
    cases stage <;> simp_all [Stage.verdict?, Call.uncounted, Call.entering?]
  | _ => simp [Call.uncounted]

end Attends

/-- The host changes only when its callback begins. -/
theorem Leads.host_eq {pl pl' : Place} {p p' : State} {s s' : σ} (hl : Leads h pl p s pl' p' s')
    (hf : pl.Fits p) : s' = h.after s ((pl.call? p).bind Call.entering?).toList := by
  cases hb : pl.bridge? with
  | some b =>
    obtain ⟨g, hg⟩ := hf.there b hb
    have hown : ∀ c, pl.bridge? = some c → c = b := fun c hc => Option.some.inj (hc.symm.trans hb)
    obtain ⟨g', -, ha⟩ := hl.attends hown hg
    exact ha.host
  | none =>
    -- without a bridge there is no call
    cases hl <;> first | rfl | simp [Place.bridge?, Place.run?] at hb

end Desktop

end OpenUrl
