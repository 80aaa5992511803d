import OpenUrl.Proofs.Gate.Serial

/-!
# Delivery after a stop

A stop does not take the gate, so it may land between the look of the call behind the gate and
its callback. `Window` is what holds from there until the bridge is begun again: nobody else gets
past the look, so that at most this one callback begins, and whoever looks is dropped for good.
-/
namespace OpenUrl

namespace Lifecycle

/-- Only the begin of an idle bridge makes it run. -/
theorem phase_step_ne_running {l : Lifecycle} {m : Move} (h : l.phase ≠ .running)
    (hm : ¬ (l.phase = .idle ∧ (m = .begin ∨ m = .beginGuarded))) :
    (l.step m).1.phase ≠ .running := by
  obtain ⟨p, guards, issued⟩ := l
  cases m with
  | begin => cases p <;> simp_all [step, Lifecycle.begin, Phase.begin]
  | beginGuarded => cases p <;> simp_all [step, Lifecycle.beginGuarded, Phase.begin]
  | dropGuard g =>
    simp only [step, dropGuard]
    split_ifs
    · simp
    · exact h
  | requestStop =>
    simp only [step, phase_requestStop]
    exact Phase.requestStop_ne_running p
  | finish => simp [step]

end Lifecycle

namespace Gate

/-- What a move does to the lifecycle, from outside or as an act of a callback. -/
def lifeMove? (g : Gate) : Move → Option Lifecycle.Move
  | .life m => some m
  | .act i =>
    match g.stage? i with
    | some (.inside (.life m :: _) _) => some m
    | _ => none
  | _ => none

/-- A move that stops a running bridge. -/
def Stops (g : Gate) (m : Move) : Prop :=
  g.lifeMove? m = some .requestStop ∧ g.lifecycle.phase = .running

/-- A move that begins an idle bridge. -/
def Begins (g : Gate) (m : Move) : Prop :=
  g.lifecycle.phase = .idle ∧ (g.lifeMove? m = some .begin ∨ g.lifeMove? m = some .beginGuarded)

instance (g : Gate) (m : Move) : Decidable (g.Begins m) :=
  inferInstanceAs (Decidable (_ ∧ (_ ∨ _)))

theorem lifecycle_perform (g : Gate) (a : Act) :
    (g.perform a).1.lifecycle =
      match a with
      | .life m => (g.lifecycle.step m).1
      | .spawn _ => g.lifecycle := by
  cases a <;> rfl

theorem lifecycle_step {g h : Gate} {m : Move} (hm : g.Step m h) :
    h.lifecycle = ((g.lifeMove? m).map fun a => (g.lifecycle.step a).1).getD g.lifecycle := by
  cases hm with
  | @act i e a acts panics hc =>
    rw [lifecycle_perform, lifeMove?, stage?_of_call hc]
    cases a <;> rfl
  | _ => rfl

theorem phase_step_ne_running {g h : Gate} {m : Move} (hm : g.Step m h)
    (hp : g.lifecycle.phase ≠ .running) (hb : ¬ g.Begins m) : h.lifecycle.phase ≠ .running := by
  rw [lifecycle_step hm]
  cases ha : g.lifeMove? m with
  | none => exact hp
  | some a =>
    refine Lifecycle.phase_step_ne_running hp ?_
    rintro ⟨hidle, ha'⟩
    refine hb ⟨hidle, ?_⟩
    rwa [ha, Option.some.injEq, Option.some.injEq]

theorem Stops.phase {g h : Gate} {m : Move} (hs : g.Stops m) (hm : g.Step m h) :
    h.lifecycle.phase = .stopping := by
  obtain ⟨ha, hp⟩ := hs
  rw [lifecycle_step hm, ha]
  simp [Lifecycle.step, hp, Phase.requestStop]

theorem stage?_push_of_some {g : Gate} {i : Nat} {s : Stage} (h : g.stage? i = some s) (e : Event) :
    (g.push e).stage? i = some s := by
  rw [stage?_push, if_neg, h]
  rintro rfl
  simp [stage?] at h

theorem stage?_perform_of_some {g : Gate} {i : Nat} {s : Stage} (h : g.stage? i = some s)
    (a : Act) : (g.perform a).1.stage? i = some s := by
  cases a with
  | life m => exact h
  | spawn e => exact stage?_push_of_some h e

/-- A call that has been refused, whether it has given the gate back or not. -/
def Refused (g : Gate) (i : Nat) : Prop :=
  g.stage? i = some .refused ∨ g.verdict? i = some .dropped

theorem refused_iff {g : Gate} {i : Nat} :
    g.Refused i ↔ ∃ s, g.stage? i = some s ∧ (s = .refused ∨ s = .done .dropped) := by
  rw [Refused, verdict?_eq_some]
  constructor
  · rintro (h | h)
    · exact ⟨_, h, .inl rfl⟩
    · exact ⟨_, h, .inr rfl⟩
  · rintro ⟨s, h, rfl | rfl⟩
    · exact .inl h
    · exact .inr h

/-- The call is the only one that can go on from its stage. -/
theorem refused_setStage {g : Gate} {i j : Nat} {e : Event} {s s' : Stage} (hg : g.Refused i)
    (hc : g.calls[j]? = some ⟨e, s⟩) (hs : s = .refused → s' = .done .dropped)
    (hd : s ≠ .done .dropped) : (g.setStage j s').Refused i := by
  obtain ⟨t, ht, htt⟩ := refused_iff.mp hg
  refine refused_iff.mpr ?_
  rw [stage?_setStage]
  split_ifs with hij
  · subst j
    obtain rfl : s = t := by simpa [stage?_of_call hc] using ht
    obtain rfl | rfl := htt
    · exact ⟨s', by rw [ht]; rfl, .inr (hs rfl)⟩
    · exact absurd rfl hd
  · exact ⟨t, ht, htt⟩

theorem Refused.step {g h : Gate} {m : Move} {i : Nat} (hg : g.Refused i) (hm : g.Step m h) :
    h.Refused i := by
  cases hm with
  | call e =>
    obtain ⟨s, hs, hss⟩ := refused_iff.mp hg
    exact refused_iff.mpr ⟨s, stage?_push_of_some hs e, hss⟩
  | life m => exact hg
  | acquire hc _ => exact refused_setStage (by exact hg) (by exact hc) (by simp) (by simp)
  | accept hc _ => exact refused_setStage hg hc (by simp) (by simp)
  | refuse hc _ => exact refused_setStage hg hc (by simp) (by simp)
  | enter r hc => exact refused_setStage hg hc (by simp) (by simp)
  | @act j e a acts panics hc =>
    have hr : (g.setStage j (.inside acts panics)).Refused i :=
      refused_setStage hg hc (by simp) (by simp)
    obtain ⟨s, hs, hss⟩ := refused_iff.mp hr
    exact refused_iff.mpr ⟨s, stage?_perform_of_some hs a, hss⟩
  | leave hc => exact refused_setStage hg hc (by simp) (by simp)
  | unwind hc => exact refused_setStage hg hc (by simp) (by simp)
  | count hc => exact refused_setStage (by exact hg) (by exact hc) (by simp) (by simp)
  | release hc hv =>
    refine refused_setStage (by exact hg) (by exact hc) ?_ ?_
    · rintro rfl
      obtain rfl : Verdict.dropped = _ := Option.some.inj hv
      rfl
    · rintro rfl
      simp [Stage.verdict?] at hv

/-- A refused call stays so, whatever becomes of the bridge. -/
theorem Refused.trail {g h : Gate} {i : Nat} (hg : g.Refused i) {past : List (Gate × Move)}
    (ht : Trail step? g past h) : h.Refused i :=
  ht.invariant (P := fun a => a.Refused i) hg fun _ _ _ _ ha hm => ha.step (step_of_step? hm)

/-- A call gets past its look in that step only, and only if the bridge is running. -/
theorem admitted_step {g h : Gate} {m : Move} (hm : g.Step m h) {i : Nat}
    (hi : h.stage? i = some .admitted) :
    g.stage? i = some .admitted ∨ m = .check i ∧ g.lifecycle.phase = .running := by
  cases hm with
  | call e =>
    rw [stage?_push] at hi
    split_ifs at hi
    · simp at hi
    · exact .inl hi
  | life m => exact .inl hi
  | @accept j e hc hp =>
    rw [stage?_setStage] at hi
    split_ifs at hi with hj
    · exact .inr ⟨by rw [hj], hp⟩
    · exact .inl hi
  | @act j e a acts panics hc =>
    left
    have hs : (g.setStage j (.inside acts panics)).stage? i = some .admitted := by
      cases a with
      | life m => exact hi
      | spawn e' =>
        change ((g.setStage j _).push e').stage? i = _ at hi
        rw [stage?_push] at hi
        split_ifs at hi
        · simp at hi
        · exact hi
    rw [stage?_setStage] at hs
    split_ifs at hs
    · simp at hs
    · exact hs
  | _ =>
    -- the call moves on to another stage
    left
    rw [stage?_setStage] at hi
    split_ifs at hi
    · simp at hi
    · exact hi

/-- What holds after a stop, from the state `h` right after it, while nobody begins. -/
structure Window (h : Gate) (after : List (Gate × Move)) (k : Gate) : Prop where
  exclusive : k.Exclusive
  phase : k.lifecycle.phase ≠ .running
  /-- Whoever is past the look was so at the stop, and no callback has begun since. -/
  admitted : ∀ i, k.stage? i = some .admitted → h.stage? i = some .admitted ∧ begun after = 0
  most : begun after ≤ 1
  only : ∀ s i r, (s, .enter i r) ∈ after → h.stage? i = some .admitted

theorem begun_cons (s : Gate × Move) (past : List (Gate × Move)) :
    begun (s :: past) = begun past + s.2.isEnter.toNat := by
  simp only [begun, List.countP_cons]
  cases s.2.isEnter <;> rfl

theorem Window.step {h k k' : Gate} {after : List (Gate × Move)} {m : Move}
    (hw : Window h after k) (hm : k.Step m k') (hb : ¬ k.Begins m) :
    Window h ((k, m) :: after) k' := by
  have hx := hw.exclusive.step hm
  have hp := phase_step_ne_running hm hw.phase hb
  -- nobody gets past the look, since the bridge is not running
  have ha : ∀ i, k'.stage? i = some .admitted → k.stage? i = some .admitted := by
    intro i hi
    obtain hi | ⟨-, hr⟩ := admitted_step hm hi
    · exact hi
    · exact absurd hr hw.phase
  cases he : m.isEnter with
  | false =>
    have hn : begun ((k, m) :: after) = begun after := by simp [begun_cons, he]
    refine ⟨hx, hp, ?_, ?_, ?_⟩
    · intro i hi
      rw [hn]
      exact hw.admitted i (ha i hi)
    · rw [hn]
      exact hw.most
    · intro s i r hs
      rcases List.mem_cons.mp hs with heq | hs
      · obtain ⟨-, rfl⟩ := Prod.mk.inj heq
        simp [Move.isEnter] at he
      · exact hw.only s i r hs
  | true =>
    cases hm with
    | @enter j e r hc =>
      obtain ⟨hj, hzero⟩ := hw.admitted j (stage?_of_call hc)
      refine ⟨hx, hp, ?_, ?_, ?_⟩
      · intro i hi
        -- the call that has entered was the only one past the look
        have hij : i = j := hw.exclusive.unique (ha i hi) rfl (stage?_of_call hc) rfl
        subst i
        rw [stage?_of_call (call?_setStage_self hc _)] at hi
        simp at hi
      · simp [begun_cons, hzero, he]
      · intro s i r' hs
        rcases List.mem_cons.mp hs with heq | hs
        · obtain ⟨-, heq⟩ := Prod.mk.inj heq
          obtain ⟨rfl, -⟩ := by simpa using heq
          exact hj
        · exact hw.only s i r' hs
    | _ => simp [Move.isEnter] at he

theorem Window.trail {h k : Gate} {after : List (Gate × Move)} (hx : h.Exclusive)
    (hp : h.lifecycle.phase ≠ .running) (ht : Trail step? h after k)
    (hb : ∀ s ∈ after, ¬ s.1.Begins s.2) : Window h after k := by
  induction ht with
  | start => exact ⟨hx, hp, fun i hi => ⟨hi, rfl⟩, Nat.zero_le _, by simp⟩
  | step _ hm ih =>
    have hw := ih fun s hs => hb s (List.mem_cons_of_mem _ hs)
    exact hw.step (step_of_step? hm) (hb _ List.mem_cons_self)

/-- What holds of a run after a stop was made at `g`, until the bridge is begun again; `before`
is all that came up to the stop, with the stop itself. -/
structure AfterStop (before : List (Gate × Move)) (g : Gate) (after : List (Gate × Move))
    (k : Gate) : Prop where
  /-- At most one callback begins. -/
  most : begun after ≤ 1
  /-- It is that of the call which held the gate at the stop and was past its look. -/
  only : ∀ s i r, (s, .enter i r) ∈ after → g.holder = some i ∧ g.stage? i = some .admitted
  /-- None begins after a stop within a callback, or while nobody was past the look. -/
  none : ((∃ i, g.InCallback i) ∨ ∀ i, g.stage? i ≠ some .admitted) → begun after = 0
  /-- Every call that looks then answers, also after a later begin, that it was dropped. -/
  refused : ∀ s i, (s, .check i) ∈ after → ∀ later k', Trail step? k later k' →
    (k'.verdict? i = some .dropped ∨ k'.stage? i = some .refused ∧
      ∃ k'' notices, k'.step? (.release i) = some (k'', notices) ∧ k''.verdict? i = some .dropped)
  /-- It never calls back and is never counted. -/
  silent : ∀ s i, (s, .check i) ∈ after → ∀ later k', Trail step? k later k' →
    (∀ e, .entered e ∉ history i (later ++ after ++ before)) ∧
      .counted ∉ history i (later ++ after ++ before)

/-- Whoever looks while the bridge does not run is refused. -/
theorem refused_of_check {g h : Gate} {i : Nat} {notices : List OpenUrl.Log.Notice}
    (hm : g.step? (.check i) = some (h, notices)) (hp : g.lifecycle.phase ≠ .running) :
    h.Refused i := by
  cases step_of_step? hm with
  | accept _ hr => exact absurd hr hp
  | refuse hc _ => exact .inl (stage?_of_call (call?_setStage_self hc _))

theorem Refused.release {g : Gate} {i : Nat} (h : g.Refused i) :
    g.verdict? i = some .dropped ∨ g.stage? i = some .refused ∧
      ∃ h notices, g.step? (.release i) = some (h, notices) ∧ h.verdict? i = some .dropped := by
  rcases h with h | h
  · refine .inr ⟨h, ({ g with holder := none }.setStage i (.done .dropped)), [], ?_, ?_⟩
    · simp [step?, h]
    · rw [verdict?_eq_some, stage?_setStage, if_pos rfl]
      change (g.stage? i).map _ = _
      rw [h]
      rfl
  · exact .inl h

theorem Refused.silent {l : Lifecycle} {past : List (Gate × Move)} {g : Gate} {i : Nat}
    (ht : Trail step? (unused l) past g) (h : g.Refused i) :
    (∀ e, .entered e ∉ history i past) ∧ .counted ∉ history i past := by
  obtain ⟨s, hs, hss⟩ := refused_iff.mp h
  obtain ⟨e, hc⟩ := exists_call hs
  rw [history_eq ht, marks_of_call hc]
  obtain rfl | rfl := hss
  · simp [Call.marks]
  · simp [Call.marks]

/-- A stop lets at most one callback begin, until the bridge is begun again. -/
theorem delivery_after_stop (l : Lifecycle) {before after : List (Gate × Move)} {g h k : Gate}
    {m : Move} {notices : List OpenUrl.Log.Notice} (h₀ : Trail step? (unused l) before g)
    (hs : g.Stops m) (hm : g.step? m = some (h, notices)) (h₁ : Trail step? h after k)
    (hb : ∀ s ∈ after, ¬ s.1.Begins s.2) : AfterStop ((g, m) :: before) g after k := by
  have hx : g.Exclusive := (exclusive_unused l).trail h₀
  have hstep := step_of_step? hm
  have hp : h.lifecycle.phase ≠ .running := by
    rw [hs.phase hstep]
    simp
  have hw : Window h after k := Window.trail (hx.step hstep) hp h₁ hb
  -- the stop itself lets nobody past the look
  have hadm : ∀ i, h.stage? i = some .admitted → g.stage? i = some .admitted := by
    intro i hi
    obtain hi | ⟨rfl, -⟩ := admitted_step hstep hi
    · exact hi
    · simp [Stops, lifeMove?] at hs
  have honly : ∀ s i r, (s, .enter i r) ∈ after → g.stage? i = some .admitted :=
    fun s i r hsi => hadm i (hw.only s i r hsi)
  have hrefused : ∀ s i, (s, .check i) ∈ after → k.Refused i := by
    intro s i hsi
    obtain ⟨before', after', c, v, rfl, hbefore, hc, hafter⟩ := h₁.cut hsi
    have hw' : Window h before' s := Window.trail (hx.step hstep) hp hbefore
      fun s hs => hb s (List.mem_append_right _ (List.mem_cons_of_mem _ hs))
    exact (refused_of_check hc hw'.phase).trail hafter
  refine ⟨hw.most, ?_, ?_, ?_, ?_⟩
  · intro s i r hsi
    exact ⟨hx.holder_eq (honly s i r hsi) rfl, honly s i r hsi⟩
  · intro hnone
    rw [begun, List.countP_eq_zero]
    rintro ⟨s, m'⟩ hsm henter
    cases m' with
    | enter i r =>
      have hi := honly s i r hsm
      rcases hnone with ⟨j, acts, panics, hj⟩ | hnone
      · have hij : i = j := hx.unique hi rfl hj rfl
        subst i
        simp [hi] at hj
      · exact hnone i hi
    | _ => simp [Move.isEnter] at henter
  · intro s i hsi later k' hlater
    exact ((hrefused s i hsi).trail hlater).release
  · intro s i hsi later k' hlater
    have ht : Trail step? (unused l) (later ++ (after ++ (g, m) :: before)) k' :=
      ((h₀.step hm).append h₁).append hlater
    rw [List.append_assoc]
    exact ((hrefused s i hsi).trail hlater).silent ht

/-- A stop between the look of the first call and its callback, with a second call in front of
the gate. -/
theorem delivery_after_stop_past_look : ∃ before g after k,
    AfterStop ((g, .life .requestStop) :: before) g after k ∧ begun after = 1 ∧
      k.verdict? 0 = some .delivered ∧ k.verdict? 1 = some .dropped := by
  have h₀ := Trail.of_follow? (by rfl : Trail.follow? step? (unused .fresh)
    [.life .begin, .call ⟨"a:1", 7⟩, .call ⟨"a:2", 8⟩, .acquire 0, .check 0] = some (_, _))
  have h₁ := Trail.of_follow? (by rfl : Trail.follow? step?
    ⟨⟨.stopping, [], 0⟩, some 0, 0, [⟨⟨"a:1", 7⟩, .admitted⟩, ⟨⟨"a:2", 8⟩, .waiting⟩]⟩
    [.enter 0 .quiet, .leave 0, .count 0, .release 0, .acquire 1, .check 1, .release 1] =
      some (_, _))
  exact ⟨_, _, _, _, delivery_after_stop .fresh h₀ ⟨rfl, rfl⟩ rfl h₁ (by decide), rfl, rfl, rfl⟩

end Gate

end OpenUrl
