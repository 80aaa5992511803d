import OpenUrl.Gate.Delivery
import OpenUrl.Proofs.Gate.Step

/-!
# Serial and accounted delivery

Any number of threads hand over events, in any interleaving of their steps with each other and
with changes of the lifecycle. Every call leaves marks, and at each stage the marks of a call are
exactly those that its stage says (`history_eq`). So each call calls back at most once, with the
event it was given, if and only if it saw the bridge running; its answer tells what came of it;
and the counter accounts for every callback that has begun.
-/
namespace OpenUrl

namespace Gate

/-- What a call has done. -/
inductive Mark
  /-- It was made, with an event. -/
  | called (e : Event)
  | acquired
  /-- It looked whether the bridge is running. -/
  | checked (running : Bool)
  /-- It began the callback with an event. -/
  | entered (e : Event)
  /-- The callback returned. -/
  | returned
  /-- The callback panicked. -/
  | panicked
  | counted
  | released
  deriving DecidableEq, Repr

/-- Whether a mark is the begin of a callback. -/
def Mark.isEntered : Mark → Bool
  | entered _ => true
  | _ => false

/-- Whether a mark is a look at the lifecycle. -/
def Mark.isChecked : Mark → Bool
  | checked _ => true
  | _ => false

end Gate

open Gate (Mark)

/-- The marks of a call at its stage, the newest first. -/
def Call.marks (c : Call) : List Mark :=
  let refused := [.checked false, .acquired, .called c.event]
  let admitted := [.checked true, .acquired, .called c.event]
  let inside := .entered c.event :: admitted
  match c.stage with
  | .waiting => [.called c.event]
  | .holding => [.acquired, .called c.event]
  | .admitted => admitted
  | .refused => refused
  | .inside _ _ => inside
  | .returned => .returned :: inside
  | .counted => .counted :: .returned :: inside
  | .unwinding => .panicked :: inside
  | .done .delivered => .released :: .counted :: .returned :: inside
  | .done .dropped => .released :: refused
  | .done .panicked => .released :: .panicked :: inside

namespace Call

open OpenUrl.Gate (Mark)

theorem called_mem_marks (c : Call) : .called c.event ∈ c.marks := by
  obtain ⟨e, _ | _ | _ | _ | _ | _ | _ | _ | _ | _ | _⟩ := c <;> simp [marks]

theorem event_of_called {c : Call} {e : Event} (h : .called e ∈ c.marks) : e = c.event := by
  obtain ⟨e', _ | _ | _ | _ | _ | _ | _ | _ | _ | _ | _⟩ := c <;> simpa [marks] using h

theorem event_of_entered {c : Call} {e : Event} (h : .entered e ∈ c.marks) : e = c.event := by
  obtain ⟨e', _ | _ | _ | _ | _ | _ | _ | _ | _ | _ | _⟩ := c <;> simp_all [marks]

theorem countP_isChecked_marks (c : Call) : c.marks.countP Mark.isChecked ≤ 1 := by
  obtain ⟨e, _ | _ | _ | _ | _ | _ | _ | _ | _ | _ | _⟩ := c <;>
    simp [marks, List.countP_cons, Mark.isChecked]

theorem countP_isEntered_marks (c : Call) : c.marks.countP Mark.isEntered ≤ 1 := by
  obtain ⟨e, _ | _ | _ | _ | _ | _ | _ | _ | _ | _ | _⟩ := c <;>
    simp [marks, List.countP_cons, Mark.isEntered]

/-- Between the look and the callback there is one stage, of a call that saw the bridge running. -/
theorem entered_iff_checked {c : Call} (h : c.stage ≠ .admitted) :
    (∃ e, .entered e ∈ c.marks) ↔ .checked true ∈ c.marks := by
  obtain ⟨e, _ | _ | _ | _ | _ | _ | _ | _ | _ | _ | _⟩ := c <;> simp_all [marks]

theorem delivered_iff {c : Call} {v : Verdict} (h : c.stage = .done v) :
    v = .delivered ↔ (∃ e, .entered e ∈ c.marks) ∧ .returned ∈ c.marks := by
  obtain ⟨e, s⟩ := c
  subst h
  cases v <;> simp [marks]

theorem dropped_iff {c : Call} {v : Verdict} (h : c.stage = .done v) :
    v = .dropped ↔ ¬ ∃ e, .entered e ∈ c.marks := by
  obtain ⟨e, s⟩ := c
  subst h
  cases v <;> simp [marks]

theorem stage_of_panicked {c : Call} (h : .panicked ∈ c.marks) :
    .counted ∉ c.marks ∧ (c.stage = .unwinding ∨ c.stage = .done .panicked) := by
  obtain ⟨e, _ | _ | _ | _ | _ | _ | _ | _ | _ | _ | _⟩ := c <;> simp_all [marks]

end Call

namespace Gate

/-- The mark that a move leaves on call `i`. -/
def mark? (i : Nat) (g : Gate) : Move → Option Mark
  | .call e => if i = g.calls.length then some (.called e) else none
  | .acquire j => if j = i then some .acquired else none
  | .check j => if j = i then some (.checked g.lifecycle.isRunning) else none
  | .enter j _ => if j = i then (g.event? j).map .entered else none
  | .act j =>
    match g.stage? j with
    | some (.inside (.spawn e :: _) _) => if i = g.calls.length then some (.called e) else none
    | _ => none
  | .leave j => if j = i then some .returned else none
  | .unwind j => if j = i then some .panicked else none
  | .count j => if j = i then some .counted else none
  | .release j => if j = i then some .released else none
  | .life _ => none

/-- The marks that a run has left on call `i`, the newest first. -/
def history (i : Nat) (past : List (Gate × Move)) : List Mark :=
  past.filterMap fun s => mark? i s.1 s.2

/-- The marks of call `i`; none before it is made. -/
def marks (g : Gate) (i : Nat) : List Mark := (g.calls[i]?.map Call.marks).getD []

theorem marks_of_call {g : Gate} {i : Nat} {c : Call} (h : g.calls[i]? = some c) :
    g.marks i = c.marks := by
  simp [marks, h]

theorem marks_push (g : Gate) (e : Event) (i : Nat) :
    (g.push e).marks i = if i = g.calls.length then [.called e] else g.marks i := by
  rw [marks, call?_push]
  split_ifs <;> rfl

theorem marks_setStage {g : Gate} {i : Nat} {e : Event} {s s' : Stage}
    (h : g.calls[i]? = some ⟨e, s⟩) (j : Nat) :
    (g.setStage i s').marks j = if i = j then Call.marks ⟨e, s'⟩ else g.marks j := by
  simp only [marks, call?_setStage]
  split_ifs with hij
  · subst j
    simp [h]
  · rfl

/-- A call moves on to a stage with one mark more, and nobody else moves. -/
theorem marks_advance {g : Gate} {i : Nat} {e : Event} {s s' : Stage} {k : Mark}
    (hc : g.calls[i]? = some ⟨e, s⟩) (hk : Call.marks ⟨e, s'⟩ = k :: Call.marks ⟨e, s⟩) (j : Nat) :
    (g.setStage i s').marks j = (if i = j then some k else none).toList ++ g.marks j := by
  rw [marks_setStage hc, hk]
  split_ifs with hij
  · subst j
    rw [marks_of_call hc]
    rfl
  · rfl

theorem marks_step {g h : Gate} {m : Move} (hm : g.Step m h) (i : Nat) :
    h.marks i = (mark? i g m).toList ++ g.marks i := by
  cases hm with
  | call e =>
    rw [marks_push]
    simp only [mark?]
    split_ifs with hi
    · subst i
      simp [marks]
    · rfl
  | life m => rfl
  | acquire hc _ => exact marks_advance (by exact hc) rfl i
  | accept hc hp =>
    have hr : g.lifecycle.isRunning = true := by simp [Lifecycle.isRunning, hp]
    rw [mark?, hr]
    exact marks_advance hc rfl i
  | refuse hc hp =>
    have hr : g.lifecycle.isRunning = false := by
      rw [Lifecycle.isRunning, Bool.eq_false_iff, ne_eq, Phase.isRunning_iff]
      exact hp
    rw [mark?, hr]
    exact marks_advance hc rfl i
  | enter r hc =>
    rw [mark?, event?_of_call hc]
    exact marks_advance hc rfl i
  | @act j e a acts panics hc =>
    -- an act leaves no mark on the call itself; a thread that it starts makes a call
    have hs : (g.setStage j (.inside acts panics)).marks i = g.marks i := by
      rw [marks_setStage hc]
      split_ifs with hj
      · subst i
        rw [marks_of_call hc]
        rfl
      · rfl
    rw [mark?, stage?_of_call hc]
    cases a with
    | life m => exact hs
    | spawn e' =>
      have hl : (g.setStage j (.inside acts panics)).calls.length = g.calls.length := by
        simp [setStage]
      simp only [perform, marks_push, hl]
      split_ifs with hi
      · subst i
        simp [marks]
      · simpa using hs
  | leave hc => exact marks_advance hc rfl i
  | unwind hc => exact marks_advance hc rfl i
  | count hc => exact marks_advance (by exact hc) rfl i
  | @release j e s v hc hv =>
    have hk : Call.marks ⟨e, .done v⟩ = .released :: Call.marks ⟨e, s⟩ := by
      cases s <;> simp [Stage.verdict?] at hv <;> subst hv <;> rfl
    exact marks_advance (by exact hc) hk i

/-- The stage of a call tells all that it has done. -/
theorem history_eq {l : Lifecycle} {past : List (Gate × Move)} {g : Gate}
    (h : Trail step? (unused l) past g) (i : Nat) : history i past = g.marks i := by
  induction h with
  | start => simp [history, marks, unused]
  | @step past a b m v _ hm ih =>
    rw [marks_step (step_of_step? hm) i, ← ih]
    simp only [history, List.filterMap_cons]
    cases mark? i a m <;> rfl

theorem mem_history {l : Lifecycle} {past : List (Gate × Move)} {g : Gate}
    (h : Trail step? (unused l) past g) {i : Nat} {k : Mark} :
    k ∈ history i past ↔ ∃ c, g.calls[i]? = some c ∧ k ∈ c.marks := by
  rw [history_eq h, marks]
  cases g.calls[i]? <;> simp

/-- Whether a move is the begin of a callback. -/
def Move.isEnter : Move → Bool
  | enter _ _ => true
  | _ => false

/-- Whether a move is the panic of a callback. -/
def Move.isUnwind : Move → Bool
  | unwind _ => true
  | _ => false

/-- How many callbacks have begun in a run. -/
def begun (past : List (Gate × Move)) : Nat := past.countP fun s => s.2.isEnter

/-- How many callbacks have panicked in a run. -/
def unwound (past : List (Gate × Move)) : Nat := past.countP fun s => s.2.isUnwind

end Gate

/-- 1 for a call whose callback has begun and is neither counted nor has panicked. -/
def Stage.pending : Stage → Nat
  | inside _ _ | returned => 1
  | _ => 0

theorem Stage.pending_of_verdict? {s : Stage} {v : Verdict} (h : s.verdict? = some v) :
    s.pending = 0 := by
  cases s <;> simp_all [verdict?, pending]

namespace Gate

/-- 1 while the call that holds the gate has begun its callback, until it panics or is counted. -/
def pending (g : Gate) : Nat := ((g.holder.bind g.stage?).map Stage.pending).getD 0

theorem pending_of_free {g : Gate} (h : g.holder = none) : g.pending = 0 := by
  simp [pending, h]

theorem pending_of_call {g : Gate} (hg : g.Exclusive) {i : Nat} {e : Event} {s : Stage}
    (hc : g.calls[i]? = some ⟨e, s⟩) (hs : s.holds = true) : g.pending = s.pending := by
  have hh := hg.holder_eq (stage?_of_call hc) hs
  simp [pending, hh, stage?_of_call hc]

theorem pending_push {g : Gate} (hg : g.Exclusive) (e : Event) :
    (g.push e).pending = g.pending := by
  cases hh : g.holder with
  | none => rw [pending_of_free hh, pending_of_free (by rw [holder_push, hh])]
  | some i =>
    obtain ⟨s, hs, -⟩ := (hg i).mp hh
    -- the holder is an older call, so that the new one is not it
    have hi : i ≠ g.calls.length := by
      rintro rfl
      simp [stage?] at hs
    simp [pending, hh, stage?_push, hi]

theorem pending_perform {g : Gate} (hg : g.Exclusive) (a : Act) :
    (g.perform a).1.pending = g.pending := by
  cases a with
  | life m => rfl
  | spawn e => exact pending_push hg e

/-- A begin of a callback is pending, and what is no longer pending is counted or has panicked. -/
theorem accounted_step {g h : Gate} (hg : g.Exclusive) {m : Move} (hm : g.Step m h) :
    (g.delivered.toNat + g.pending + m.isEnter.toNat) % UInt64.size =
      (h.delivered.toNat + h.pending + m.isUnwind.toNat) % UInt64.size := by
  have hh := hg.step hm
  cases hm with
  | call e => simp [Move.isEnter, Move.isUnwind, pending_push hg]
  | life m =>
    have hp : (g.live m).1.pending = g.pending := pending_perform hg (.life m)
    simp [Move.isEnter, Move.isUnwind, hp]
  | acquire hc hf =>
    have hp := pending_of_call hh (call?_setStage_self (by exact hc) .holding) rfl
    rw [hp, pending_of_free hf]
    rfl
  | accept hc _ =>
    rw [pending_of_call hh (call?_setStage_self hc _) rfl, pending_of_call hg hc rfl]
    rfl
  | refuse hc _ =>
    rw [pending_of_call hh (call?_setStage_self hc _) rfl, pending_of_call hg hc rfl]
    rfl
  | enter r hc =>
    rw [pending_of_call hh (call?_setStage_self hc _) rfl, pending_of_call hg hc rfl]
    simp only [Move.isEnter, Move.isUnwind, Stage.pending, delivered_setStage, Bool.toNat_true,
      Bool.toNat_false]
  | @act i e a acts panics hc =>
    have hs : (g.setStage i (.inside acts panics)).Exclusive := hg.setStage (stage?_of_call hc) rfl
    rw [pending_perform hs, pending_of_call hs (call?_setStage_self hc _) rfl,
      pending_of_call hg hc rfl, delivered_perform]
    rfl
  | leave hc =>
    rw [pending_of_call hh (call?_setStage_self hc _) rfl, pending_of_call hg hc rfl]
    rfl
  | unwind hc =>
    rw [pending_of_call hh (call?_setStage_self hc _) rfl, pending_of_call hg hc rfl]
    simp only [Move.isEnter, Move.isUnwind, Stage.pending, delivered_setStage, Bool.toNat_true,
      Bool.toNat_false]
  | count hc =>
    rw [pending_of_call hh (call?_setStage_self (by exact hc) _) rfl, pending_of_call hg hc rfl]
    simp only [Move.isEnter, Move.isUnwind, Stage.pending, delivered_setStage, Bool.toNat_false,
      UInt64.toNat_add, UInt64.reduceToNat, UInt64.size]
    omega
  | @release i e s v hc hv =>
    have hp : ({ g with holder := none }.setStage i (.done v)).pending = 0 := pending_of_free rfl
    rw [hp, pending_of_call hg hc (Stage.holds_of_verdict? hv), Stage.pending_of_verdict? hv]
    rfl

theorem accounted {l : Lifecycle} {past : List (Gate × Move)} {g : Gate}
    (h : Trail step? (unused l) past g) :
    begun past % UInt64.size = (g.delivered.toNat + unwound past + g.pending) % UInt64.size := by
  induction h with
  | start => rfl
  | @step past a b m v ht hm ih =>
    have hs := accounted_step ((exclusive_unused l).trail ht) (step_of_step? hm)
    simp only [begun, unwound, List.countP_cons, UInt64.size] at ih hs ⊢
    cases m <;> simp_all [Move.isEnter, Move.isUnwind] <;> omega

/-- Whether call `i` is in the callback. -/
def InCallback (g : Gate) (i : Nat) : Prop := ∃ acts panics, g.stage? i = some (.inside acts panics)

/-- What holds of a run at a gate and of the state that it has reached. -/
structure Serial (past : List (Gate × Move)) (g : Gate) : Prop where
  /-- No two callbacks overlap. -/
  alone : ∀ i j, g.InCallback i → g.InCallback j → i = j
  /-- A call looks at the lifecycle and calls back at most once. -/
  once : ∀ i, (history i past).countP Mark.isChecked ≤ 1 ∧
    (history i past).countP Mark.isEntered ≤ 1
  /-- The callback is given the event that the call was given. -/
  same : ∀ i e e', .called e ∈ history i past → .entered e' ∈ history i past → e' = e
  /-- A call that is through with its look has called back if and only if it saw the bridge
  running. -/
  running : ∀ i, g.stage? i ≠ some .admitted →
    ((∃ e, .entered e ∈ history i past) ↔ .checked true ∈ history i past)
  /-- What a call answers tells whether the callback was called and has returned. -/
  answer : ∀ i v, g.verdict? i = some v →
    (v = .delivered ↔ (∃ e, .entered e ∈ history i past) ∧ .returned ∈ history i past) ∧
    (v = .dropped ↔ ¬ ∃ e, .entered e ∈ history i past)
  /-- Every callback that has begun is counted, has panicked, or is pending. -/
  counter : begun past % UInt64.size = (g.delivered.toNat + unwound past + g.pending) % UInt64.size
  /-- A call whose callback panicked is never counted and ends in that panic. -/
  panic : ∀ i, .panicked ∈ history i past → .counted ∉ history i past ∧
    (g.stage? i = some .unwinding ∨ g.verdict? i = some .panicked)
  /-- Such a call gives the gate back, and changes nothing else. -/
  unwinds : ∀ i, g.stage? i = some .unwinding → g.holder = some i ∧
    g.step? (.release i) = some ({ g with holder := none }.setStage i (.done .panicked), [])
  /-- The call that holds the gate is never stuck behind it. -/
  progress : ∀ i r, g.holder = some i → ∃ m h notices,
    g.next? i r = some m ∧ g.step? m = some (h, notices)
  /-- A free gate is open to every call in front of it. -/
  free : ∀ i, g.holder = none → g.stage? i = some .waiting →
    g.step? (.acquire i) = some ({ g with holder := some i }.setStage i .holding, [])
  /-- A host is called by that step of a call only that begins the callback, with its event. -/
  host : ∀ {σ : Type} (h : Host σ) (s : σ) (d : Delivery σ) i notices,
    Delivery.advance? h ⟨g, s⟩ i = some (d, notices) →
    if g.stage? i = some .admitted then
      ∃ e, .called e ∈ history i past ∧ d.host = (h.receive s e).1
    else d.host = s
  /-- Before a host too the call that holds the gate is never stuck. It makes its next step at the
  gate, and if that begins the callback, it does so with the reaction of the host. -/
  hosted : ∀ {σ : Type} (h : Host σ) (s : σ) i, g.holder = some i → ∃ r m d notices,
    g.next? i r = some m ∧ g.step? m = some (d.gate, notices) ∧
    Delivery.advance? h ⟨g, s⟩ i = some (d, notices) ∧
    ∀ e, .called e ∈ history i past → g.stage? i = some .admitted → r = (h.receive s e).2

theorem verdict?_eq_some {g : Gate} {i : Nat} {v : Verdict} :
    g.verdict? i = some v ↔ g.stage? i = some (.done v) := by
  unfold verdict?
  split <;> simp_all

theorem countP_history_le {l : Lifecycle} {past : List (Gate × Move)} {g : Gate}
    (h : Trail step? (unused l) past g) {p : Mark → Bool} (hp : ∀ c : Call, c.marks.countP p ≤ 1)
    (i : Nat) : (history i past).countP p ≤ 1 := by
  rw [history_eq h, marks]
  cases g.calls[i]? with
  | none => simp
  | some c => exact hp c

/-- The call that holds the gate has a next step, and it is possible. -/
theorem exists_next {g : Gate} (hg : g.Exclusive) {i : Nat} (hh : g.holder = some i)
    (r : Reaction) : ∃ m h notices, g.next? i r = some m ∧ g.step? m = some (h, notices) := by
  obtain ⟨s, hs, hhold⟩ := (hg i).mp hh
  obtain ⟨e, hc⟩ := exists_call hs
  rcases s with _ | _ | _ | _ | ⟨_ | ⟨a, acts⟩, _ | _⟩ | _ | _ | _ | v
  all_goals simp [Stage.holds] at hhold
  all_goals simp [next?, hs, step?, hc]
  all_goals exact ⟨_, _, rfl⟩

/-- With the reaction of the host, a step of a call at the gate is one of the call before the
host. -/
theorem advance?_of_next {σ : Type} {h : Host σ} {g g' : Gate} {s : σ} {i : Nat} {c : Call}
    {m : Move} {notices : List OpenUrl.Log.Notice} (hc : g.calls[i]? = some c)
    (hnext : g.next? i (if c.stage = .admitted then (h.receive s c.event).2 else .quiet) = some m)
    (hstep : g.step? m = some (g', notices)) :
    Delivery.advance? h ⟨g, s⟩ i =
      some (⟨g', if c.stage = .admitted then (h.receive s c.event).1 else s⟩, notices) := by
  by_cases hadmitted : c.stage = .admitted
  · rw [if_pos hadmitted] at hnext ⊢
    simp [Delivery.advance?, hc, hadmitted, hnext, hstep]
  · rw [if_neg hadmitted] at hnext ⊢
    simp [Delivery.advance?, hc, hadmitted, hnext, hstep]

theorem advance?_host {σ : Type} {h : Host σ} {g : Gate} {s : σ} {d : Delivery σ} {i : Nat}
    {notices : List OpenUrl.Log.Notice} (hd : Delivery.advance? h ⟨g, s⟩ i = some (d, notices)) :
    ∃ c, g.calls[i]? = some c ∧
      d.host = if c.stage = .admitted then (h.receive s c.event).1 else s := by
  simp only [Delivery.advance?, Option.bind_eq_bind, Option.bind_eq_some_iff] at hd
  obtain ⟨c, hc, m, -, ⟨g', n⟩, -, heq⟩ := hd
  refine ⟨c, hc, ?_⟩
  obtain ⟨rfl, -⟩ := by simpa using heq
  split <;> rfl

/-- Deliveries are serial and accounted for, whatever calls come and whoever changes the lifecycle,
at every moment of every run. -/
theorem serial_delivery (l : Lifecycle) {past : List (Gate × Move)} {g : Gate}
    (h : Trail step? (unused l) past g) : Serial past g := by
  have hg : g.Exclusive := (exclusive_unused l).trail h
  refine {
    alone := ?_
    once := ?_
    same := ?_
    running := ?_
    answer := ?_
    counter := accounted h
    panic := ?_
    unwinds := ?_
    progress := fun i r hh => exists_next hg hh r
    free := ?_
    host := ?_
    hosted := ?_ }
  · rintro i j ⟨acts, p, hi⟩ ⟨acts', p', hj⟩
    exact hg.unique hi rfl hj rfl
  · intro i
    exact ⟨countP_history_le h Call.countP_isChecked_marks i,
      countP_history_le h Call.countP_isEntered_marks i⟩
  · intro i e e' he he'
    obtain ⟨c, hc, hm⟩ := (mem_history h).mp he
    obtain ⟨c', hc', hm'⟩ := (mem_history h).mp he'
    obtain rfl : c = c' := Option.some.inj (hc.symm.trans hc')
    rw [Call.event_of_called hm, Call.event_of_entered hm']
  · intro i hi
    simp only [mem_history h]
    constructor
    · rintro ⟨e, c, hc, hm⟩
      have hs : c.stage ≠ .admitted := fun hs => hi (by rw [stage?_of_call hc, hs])
      exact ⟨c, hc, (Call.entered_iff_checked hs).mp ⟨e, hm⟩⟩
    · rintro ⟨c, hc, hm⟩
      have hs : c.stage ≠ .admitted := fun hs => hi (by rw [stage?_of_call hc, hs])
      obtain ⟨e, he⟩ := (Call.entered_iff_checked hs).mpr hm
      exact ⟨e, c, hc, he⟩
  · intro i v hv
    obtain ⟨e, hc⟩ := exists_call (verdict?_eq_some.mp hv)
    simp only [mem_history h, hc, Option.some.injEq, exists_eq_left']
    exact ⟨Call.delivered_iff rfl, Call.dropped_iff rfl⟩
  · intro i hi
    obtain ⟨c, hc, hm⟩ := (mem_history h).mp hi
    obtain ⟨hcount, hs⟩ := Call.stage_of_panicked hm
    rw [verdict?_eq_some, stage?_of_call hc, mem_history h]
    refine ⟨?_, by simpa using hs⟩
    rintro ⟨c', hc', hm'⟩
    obtain rfl : c = c' := Option.some.inj (hc.symm.trans hc')
    exact hcount hm'
  · intro i hi
    exact ⟨hg.holder_eq hi rfl, by simp [step?, hi]⟩
  · intro i hh hi
    simp [step?, hi, hh]
  · intro σ hst s d i notices hd
    obtain ⟨c, hc, hhost⟩ := advance?_host hd
    simp only [stage?_of_call hc, Option.some.injEq]
    split_ifs with hs
    · rw [if_pos hs] at hhost
      exact ⟨c.event, (mem_history h).mpr ⟨c, hc, c.called_mem_marks⟩, hhost⟩
    · rwa [if_neg hs] at hhost
  · intro σ hst s i hh
    obtain ⟨stage, hstage, -⟩ := (hg i).mp hh
    obtain ⟨e, hc⟩ := exists_call hstage
    obtain ⟨m, g', notices, hnext, hstep⟩ :=
      exists_next hg hh (if stage = .admitted then (hst.receive s e).2 else .quiet)
    refine ⟨_, m, ⟨g', _⟩, notices, hnext, hstep, advance?_of_next hc hnext hstep,
      fun e' hcalled hadmitted => ?_⟩
    obtain ⟨c, hc', hmark⟩ := (mem_history h).mp hcalled
    obtain rfl : c = ⟨e, stage⟩ := Option.some.inj (hc'.symm.trans hc)
    obtain rfl : stage = .admitted := Option.some.inj (hstage.symm.trans hadmitted)
    rw [if_pos rfl, Call.event_of_called hmark]

/-- The first of two calls stops the bridge and panics, and the second finds it stopped. -/
theorem serial_delivery_panicked_dropped : ∃ past g, Trail step? (unused .fresh) past g ∧
    g.verdict? 0 = some .panicked ∧ g.verdict? 1 = some .dropped ∧ Serial past g := by
  let moves : List Move :=
    [.life .begin, .call ⟨"a:1", 7⟩, .call ⟨"a:2", 8⟩, .acquire 0, .check 0,
      .enter 0 ⟨[.life .requestStop], true, []⟩, .act 0, .unwind 0, .release 0,
      .acquire 1, .check 1, .release 1]
  have hf : ((Trail.follow? step? (unused .fresh) moves).any fun r =>
      r.2.verdict? 0 = some .panicked ∧ r.2.verdict? 1 = some .dropped) = true := by rfl
  obtain ⟨⟨past, g⟩, hr, hv⟩ := (Option.any_eq_true _ _).mp hf
  obtain ⟨h₀, h₁⟩ := by simpa using hv
  have h : Trail step? (unused .fresh) past g := Trail.of_follow? hr
  exact ⟨past, g, h, h₀, h₁, serial_delivery .fresh h⟩

end Gate

end OpenUrl
