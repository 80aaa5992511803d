import OpenUrl.Gate.Delivery
import OpenUrl.Proofs.Gate.Step

/-!
# One call at a time

A gate to which a single thread hands over all events serves one call after another. `Serves`
splits its calls into those that have ended and the one that is served now, and `Turn` says what
the next step of that call does, to the call, to the lifecycle, to the counter and to the host.
-/
namespace OpenUrl

/-- A callback that has nothing of the bridge but a stop handle. -/
def Host.OnlyStops {σ : Type} (h : Host σ) : Prop :=
  ∀ s e, ∀ a ∈ (h.receive s e).2.acts, a = .life .requestStop

namespace Stage

/-- A stage of a call that has not ended, with a callback that only stops the bridge. -/
def Tame : Stage → Prop
  | inside acts _ => ∀ a ∈ acts, a = .life .requestStop
  | done _ => False
  | _ => True

/-- The verdict of a call that has ended. -/
def ended? : Stage → Option Verdict
  | done v => some v
  | _ => none

theorem Tame.ended? {s : Stage} (h : s.Tame) : s.ended? = none := by
  cases s with
  | done v => exact h.elim
  | _ => rfl

end Stage

namespace Lifecycle

theorem requestStop_ne_idle {l : Lifecycle} (h : l.phase ≠ .idle) :
    l.requestStop.2.1.phase ≠ .idle := by
  rw [phase_requestStop, Phase.requestStop_snd]
  split_ifs
  · simp
  · exact h

@[simp] theorem guards_requestStop (l : Lifecycle) : l.requestStop.2.1.guards = l.guards := by
  obtain ⟨p, guards, issued⟩ := l
  cases p <;> rfl

end Lifecycle

namespace Gate

/-- The gate has served some calls to their ends, and is serving no other one than `cur`. -/
structure Serves (g : Gate) (past : List Call) (cur : Option Call) : Prop where
  calls : g.calls = past ++ cur.toList
  ended : ∀ c ∈ past, ∃ v, c.stage = .done v
  tame : ∀ c ∈ cur, c.stage.Tame
  holder : g.holder = if cur.any fun c => c.stage.holds then some past.length else none

/-- The bridge is idle, no guard of a run is alive, and nobody is at the gate. -/
structure AtRest (g : Gate) : Prop where
  phase : g.lifecycle.phase = .idle
  guards : g.lifecycle.guards = []
  serves : ∃ past, g.Serves past none

theorem atRest_fresh : fresh.AtRest := ⟨rfl, rfl, [], ⟨rfl, by simp, by simp, rfl⟩⟩

/-- A stop has no effect on a bridge at rest. -/
theorem AtRest.stop {g : Gate} (h : g.AtRest) : (g.live .requestStop).1 = g := by
  obtain ⟨⟨p, guards, issued⟩, holder, delivered, calls⟩ := g
  obtain rfl : p = .idle := h.phase
  rfl

theorem verdict?_of_call {g : Gate} {i : Nat} {e : Event} {s : Stage}
    (hc : g.calls[i]? = some ⟨e, s⟩) : g.verdict? i = s.ended? := by
  rw [verdict?, stage?_of_call hc]
  cases s <;> rfl

namespace Serves

variable {g : Gate} {past : List Call} {cur : Option Call} {e : Event} {s s' : Stage}

/-- Only the calls and the holder of a gate matter. -/
theorem congr {g' : Gate} (hg : g.Serves past cur) (hc : g'.calls = g.calls)
    (hh : g'.holder = g.holder) : g'.Serves past cur :=
  ⟨hc.trans hg.calls, hg.ended, hg.tame, hh.trans hg.holder⟩

theorem live (hg : g.Serves past cur) (m : Lifecycle.Move) : (g.live m).1.Serves past cur :=
  hg.congr rfl rfl

theorem call?_cur (hg : g.Serves past (some ⟨e, s⟩)) : g.calls[past.length]? = some ⟨e, s⟩ := by
  simp [hg.calls]

theorem stage?_cur (hg : g.Serves past (some ⟨e, s⟩)) : g.stage? past.length = some s :=
  stage?_of_call hg.call?_cur

/-- The calls of a gate are split in one way only. -/
theorem unique {past' : List Call} {cur' : Option Call} (hg : g.Serves past cur)
    (hg' : g.Serves past' cur') : past = past' ∧ cur = cur' := by
  have heq : past ++ cur.toList = past' ++ cur'.toList := hg.calls.symm.trans hg'.calls
  -- the call that is served has not ended
  have hlast {l : List Call} {c : Call} (hl : ∀ x ∈ l, ∃ v, x.stage = .done v)
      (hc : c.stage.Tame) : c ∉ l := by
    intro hmem
    obtain ⟨v, hv⟩ := hl c hmem
    rw [hv] at hc
    exact hc
  cases cur with
  | none =>
    cases cur' with
    | none => exact ⟨by simpa using heq, rfl⟩
    | some c' =>
      obtain rfl : past = past' ++ [c'] := by simpa using heq
      exact absurd (by simp) (hlast hg.ended (hg'.tame c' rfl))
  | some c =>
    cases cur' with
    | none =>
      obtain rfl : past ++ [c] = past' := by simpa using heq
      exact absurd (by simp) (hlast hg'.ended (hg.tame c rfl))
    | some c' =>
      obtain ⟨rfl, hc⟩ := List.append_inj' heq rfl
      obtain rfl : c = c' := by simpa using hc
      exact ⟨rfl, rfl⟩

theorem push (hg : g.Serves past none) (e : Event) :
    (g.push e).Serves past (some ⟨e, .waiting⟩) := by
  refine ⟨?_, hg.ended, ?_, ?_⟩
  · simp [hg.calls]
  · simp [Stage.Tame]
  · rw [holder_push, hg.holder]
    simp [Stage.holds]

/-- The call that is served has moved on behind the gate. -/
theorem advance (hg : g.Serves past (some ⟨e, s⟩)) {g' : Gate}
    (hc : g'.calls = past ++ [⟨e, s'⟩]) (hs : s'.Tame)
    (hh : g'.holder = if s'.holds then some past.length else none) :
    g'.Serves past (some ⟨e, s'⟩) := by
  refine ⟨hc, hg.ended, ?_, ?_⟩
  · simpa using hs
  · simpa using hh

/-- The call that was served has ended. -/
theorem finish (hg : g.Serves past (some ⟨e, s⟩)) {g' : Gate} {v : Verdict}
    (hc : g'.calls = past ++ [⟨e, .done v⟩]) (hh : g'.holder = none) :
    g'.Serves (past ++ [⟨e, .done v⟩]) none := by
  refine ⟨by simpa using hc, ?_, by simp, hh⟩
  intro c hc
  rcases List.mem_append.mp hc with hc | hc
  · exact hg.ended c hc
  · obtain rfl := List.mem_singleton.mp hc
    exact ⟨v, rfl⟩

end Serves

/-- What the next step of a call does that is at a stage: to the call, to the lifecycle, to the
counter, and to the host. -/
inductive Turn {σ : Type} (h : Host σ) (e : Event) :
    Stage → Lifecycle → UInt64 → σ → Stage → Lifecycle → UInt64 → σ → Prop
  | acquire (l n s) : Turn h e .waiting l n s .holding l n s
  | accept (l n s) : l.phase = .running → Turn h e .holding l n s .admitted l n s
  | refuse (l n s) : l.phase ≠ .running → Turn h e .holding l n s .refused l n s
  | enter (l n s) : Turn h e .admitted l n s
      (.inside (h.receive s e).2.acts (h.receive s e).2.panics) l n (h.receive s e).1
  | act (acts panics l n s) : Turn h e (.inside (.life .requestStop :: acts) panics) l n s
      (.inside acts panics) l.requestStop.2.1 n s
  | leave (l n s) : Turn h e (.inside [] false) l n s .returned l n s
  | unwind (l n s) : Turn h e (.inside [] true) l n s .unwinding l n s
  | count (l n s) : Turn h e .returned l n s .counted l (n + 1) s
  | release {stage v} (l n s) : stage.verdict? = some v → Turn h e stage l n s (.done v) l n s

namespace Turn

variable {σ : Type} {h : Host σ} {e : Event} {s s' : Stage} {l l' : Lifecycle} {n n' : UInt64}
  {x x' : σ}

/-- Calls neither begin nor end a run. -/
theorem phase_ne_idle (ht : Turn h e s l n x s' l' n' x') (hl : l.phase ≠ .idle) :
    l'.phase ≠ .idle := by
  cases ht with
  | act => exact Lifecycle.requestStop_ne_idle hl
  | _ => exact hl

theorem guards (ht : Turn h e s l n x s' l' n' x') : l'.guards = l.guards := by
  cases ht with
  | act => exact Lifecycle.guards_requestStop l
  | _ => rfl

/-- The last turn of a call answers, and does nothing else. -/
theorem of_done {v : Verdict} (ht : Turn h e s l n x (.done v) l' n' x') :
    s.verdict? = some v ∧ l' = l ∧ n' = n ∧ x' = x := by
  cases ht with
  | release _ _ _ hv => exact ⟨hv, rfl, rfl, rfl⟩

theorem of_unwinding (ht : Turn h e .unwinding l n x s' l' n' x') : s' = .done .panicked := by
  cases ht with
  | release _ _ _ hv => rw [← Option.some.inj hv]

end Turn

/-- The gate after the turn of a call from stage `s` to stage `s'`. -/
structure Turned (g : Gate) (i : Nat) (e : Event) (s s' : Stage) (g' : Gate) : Prop where
  calls : g'.calls = g.calls.set i ⟨e, s'⟩
  holder : g'.holder = if s'.holds then if s.holds then g.holder else some i else none

theorem turned_setStage {g g' : Gate} {i : Nat} {e : Event} {s : Stage}
    (hc : g.calls[i]? = some ⟨e, s⟩) (hg' : g'.calls = g.calls) {s' : Stage}
    (hh : g'.holder = if s'.holds then if s.holds then g.holder else some i else none) :
    g.Turned i e s s' (g'.setStage i s') := by
  refine ⟨?_, hh⟩
  refine List.ext_getElem? fun j => ?_
  rw [call?_setStage, hg', List.getElem?_set']
  split_ifs with hij
  · subst j
    simp [hc]
  · rfl

theorem Turned.call? {g g' : Gate} {i : Nat} {e : Event} {s s' : Stage}
    (ht : g.Turned i e s s' g') (hc : g.calls[i]? = some ⟨e, s⟩) (j : Nat) :
    g'.calls[j]? = if i = j then some ⟨e, s'⟩ else g.calls[j]? := by
  rw [ht.calls, List.getElem?_set']
  split_ifs with hij
  · subst j
    simp [hc]
  · rfl

/-- A call that is about to call back does so. -/
theorem advance?_of_admitted {σ : Type} {h : Host σ} {g : Gate} {i : Nat} {e : Event}
    (hc : g.calls[i]? = some ⟨e, .admitted⟩) (host : σ) :
    Delivery.advance? h ⟨g, host⟩ i =
      some (⟨g.setStage i (.inside (h.receive host e).2.acts (h.receive host e).2.panics),
        (h.receive host e).1⟩, (h.receive host e).2.notices) := by
  simp [Delivery.advance?, hc, next?, stage?_of_call hc, step?]

/-- The next step of a call is a turn, whoever else is at the gate. It is possible, unless the call
is in front of a gate that is held. -/
theorem exists_turn {σ : Type} {h : Host σ} {g : Gate} {i : Nat} {e : Event} {s : Stage}
    (hc : g.calls[i]? = some ⟨e, s⟩) (hs : s.Tame) (hw : s = .waiting → g.holder = none)
    (host : σ) :
    ∃ g' host' s' notices,
      Delivery.advance? h ⟨g, host⟩ i = some (⟨g', host'⟩, notices) ∧
      Turn h e s g.lifecycle g.delivered host s' g'.lifecycle g'.delivered host' ∧
      g.Turned i e s s' g' := by
  have hstage := stage?_of_call hc
  cases s with
  | waiting =>
    refine ⟨{ g with holder := some i }.setStage i .holding, host, .holding, [], ?_,
      .acquire _ _ _, turned_setStage hc (by rfl) (by rfl)⟩
    simp [Delivery.advance?, hc, next?, hstage, step?, hw rfl]
  | holding =>
    by_cases hp : g.lifecycle.phase = .running
    · refine ⟨g.setStage i .admitted, host, .admitted, checkNotices e .running, ?_,
        .accept _ _ _ hp, turned_setStage hc (by rfl) (by rfl)⟩
      simp [Delivery.advance?, hc, next?, hstage, step?, hp]
    · refine ⟨g.setStage i .refused, host, .refused, checkNotices e g.lifecycle.phase, ?_,
        .refuse _ _ _ hp, turned_setStage hc (by rfl) (by rfl)⟩
      simp [Delivery.advance?, hc, next?, hstage, step?, hp]
  | admitted =>
    exact ⟨_, _, _, _, advance?_of_admitted hc host, .enter _ _ _,
      turned_setStage hc (by rfl) (by rfl)⟩
  | inside acts panics =>
    cases acts with
    | nil =>
      cases panics with
      | false =>
        refine ⟨g.setStage i .returned, host, .returned, [], ?_, .leave _ _ _,
          turned_setStage hc (by rfl) (by rfl)⟩
        simp [Delivery.advance?, hc, next?, hstage, step?]
      | true =>
        refine ⟨g.setStage i .unwinding, host, .unwinding, [], ?_, .unwind _ _ _,
          turned_setStage hc (by rfl) (by rfl)⟩
        simp [Delivery.advance?, hc, next?, hstage, step?]
    | cons a acts =>
      obtain rfl : a = .life .requestStop := hs a List.mem_cons_self
      have hturned : g.Turned i e (.inside (.life .requestStop :: acts) panics)
          (.inside acts panics) (g.setStage i (.inside acts panics)) :=
        turned_setStage hc (by rfl) (by rfl)
      refine ⟨((g.setStage i (.inside acts panics)).live .requestStop).1, host, _,
        ((g.setStage i (.inside acts panics)).live .requestStop).2, ?_, .act _ _ _ _ _,
        ⟨hturned.calls, hturned.holder⟩⟩
      simp [Delivery.advance?, hc, next?, hstage, step?, perform]
  | returned =>
    refine ⟨{ g with delivered := g.delivered + 1 }.setStage i .counted, host, .counted, [], ?_,
      .count _ _ _, turned_setStage hc (by rfl) (by rfl)⟩
    simp [Delivery.advance?, hc, next?, hstage, step?]
  | counted =>
    refine ⟨{ g with holder := none }.setStage i (.done .delivered), host, _, [], ?_,
      .release _ _ _ rfl, turned_setStage hc (by rfl) (by rfl)⟩
    simp [Delivery.advance?, hc, next?, hstage, step?]
  | refused =>
    refine ⟨{ g with holder := none }.setStage i (.done .dropped), host, _, [], ?_,
      .release _ _ _ rfl, turned_setStage hc (by rfl) (by rfl)⟩
    simp [Delivery.advance?, hc, next?, hstage, step?]
  | unwinding =>
    refine ⟨{ g with holder := none }.setStage i (.done .panicked), host, _, [], ?_,
      .release _ _ _ rfl, turned_setStage hc (by rfl) (by rfl)⟩
    simp [Delivery.advance?, hc, next?, hstage, step?]
  | done v => exact hs.elim

theorem Turn.tame {σ : Type} {h : Host σ} (hh : h.OnlyStops) {e : Event} {s s' : Stage}
    {l l' : Lifecycle} {n n' : UInt64} {x x' : σ} (ht : Turn h e s l n x s' l' n' x')
    (hs : s.Tame) : s'.Tame ∨ ∃ v, s' = .done v := by
  cases ht with
  | enter => exact .inl (hh x e)
  | act => exact .inl fun a ha => hs a (List.mem_cons_of_mem _ ha)
  | @release _ v => exact .inr ⟨v, rfl⟩
  | _ => exact .inl trivial

/-- The call that is served has a next step, and it is a turn. -/
theorem Serves.turn {σ : Type} {h : Host σ} (hh : h.OnlyStops) {g : Gate} {past : List Call}
    {e : Event} {s : Stage} (hg : g.Serves past (some ⟨e, s⟩)) (host : σ) :
    ∃ g' host' s' notices,
      Delivery.advance? h ⟨g, host⟩ past.length = some (⟨g', host'⟩, notices) ∧
      Turn h e s g.lifecycle g.delivered host s' g'.lifecycle g'.delivered host' ∧
      g'.calls = past ++ [⟨e, s'⟩] ∧
      (g'.Serves past (some ⟨e, s'⟩) ∨
        ∃ v, s' = .done v ∧ g'.Serves (past ++ [⟨e, .done v⟩]) none) := by
  have htame : s.Tame := hg.tame _ rfl
  have hfree (hs : s = .waiting) : g.holder = none := by simpa [hs, Stage.holds] using hg.holder
  obtain ⟨g', host', s', notices, hd, ht, hcalls, hholder⟩ :=
    exists_turn hg.call?_cur htame hfree host
  have hset : g'.calls = past ++ [⟨e, s'⟩] := by simpa [hg.calls] using hcalls
  refine ⟨g', host', s', notices, hd, ht, hset, ?_⟩
  rcases ht.tame hh htame with hs' | ⟨v, rfl⟩
  · refine .inl (hg.advance hset hs' ?_)
    rw [hholder, hg.holder]
    cases hs : s.holds <;> simp [hs]
  · exact .inr ⟨v, rfl, hg.finish hset hholder⟩

end Gate

end OpenUrl
