import OpenUrl.Proofs.Gate.Turn

/-!
# Callbacks that only do their own work

Behind a gate whose callback neither acts on the bridge nor panics, every step of a call is a turn,
whoever else is at the gate. A call whose look has found the bridge running is counted and
answers; the counter tells how many calls have been counted.
-/
namespace OpenUrl

/-- A callback that does nothing beside its own work, and does not panic. -/
def Host.Silent {σ : Type} (h : Host σ) : Prop :=
  ∀ s e, (h.receive s e).2.acts = [] ∧ (h.receive s e).2.panics = false

theorem Host.Silent.onlyStops {σ : Type} {h : Host σ} (hh : h.Silent) : h.OnlyStops := by
  intro s e a ha
  rw [(hh s e).1] at ha
  simp at ha

namespace Stage

/-- A stage of a call whose callback does nothing beside its own work. -/
def Silent : Stage → Prop
  | inside acts panics => acts = [] ∧ panics = false
  | unwinding => False
  | _ => True

/-- Whether the look of a call at this stage has found the bridge running. -/
def passed : Stage → Bool
  | waiting | holding | refused | done .dropped => false
  | _ => true

/-- Whether a call at this stage has been counted. -/
def isCounted : Stage → Bool
  | counted | done .delivered => true
  | _ => false

theorem Silent.tame {s : Stage} (hs : s.Silent) (he : s.ended? = none) : s.Tame := by
  cases s with
  | inside acts panics => simp [Tame, hs.1]
  | done v => simp [ended?] at he
  | _ => trivial

end Stage

/-- Another element in a list changes a count by the difference that it makes itself. -/
theorem countP_set_add {α : Type} {p : α → Bool} {l : List α} {i : Nat} {a b : α}
    (h : l[i]? = some a) :
    (l.set i b).countP p + (p a).toNat = l.countP p + (p b).toNat := by
  obtain ⟨hi, rfl⟩ := List.getElem?_eq_some_iff.mp h
  have hpos (hp : p l[i] = true) : 0 < l.countP p :=
    List.countP_pos_iff.mpr ⟨l[i], List.getElem_mem hi, hp⟩
  rw [List.countP_set hi]
  cases hp : p l[i] with
  | false => cases p b <;> simp
  | true =>
    have := hpos hp
    cases p b <;> simp <;> omega

namespace Gate

/-- A gate all of whose calls have such a callback. -/
def Silent (g : Gate) : Prop := ∀ c ∈ g.calls, c.stage.Silent

variable {σ : Type} {h : Host σ} {g g' : Gate} {i : Nat} {e : Event} {s s' : Stage}
  {l l' : Lifecycle} {n n' : UInt64} {x x' : σ}

/-- Only the calls of a gate matter. -/
theorem Silent.congr (hg : g.Silent) (hc : g'.calls = g.calls) : g'.Silent := by
  rw [Silent, hc]
  exact hg

theorem Silent.push (hg : g.Silent) (e : Event) : (g.push e).Silent := by
  intro c hc
  rcases List.mem_append.mp hc with hc | hc
  · exact hg c hc
  · obtain rfl := List.mem_singleton.mp hc
    trivial

namespace Turn

theorem silent (hh : h.Silent) (ht : Turn h e s l n x s' l' n' x') (hs : s.Silent) :
    s'.Silent ∧ l' = l ∧ s' ≠ .done .panicked := by
  cases ht with
  | enter => exact ⟨hh x e, rfl, by simp⟩
  | act => simp [Stage.Silent] at hs
  | unwind => simp [Stage.Silent] at hs
  | release _ _ _ hv =>
    refine ⟨trivial, rfl, ?_⟩
    rintro ⟨⟩
    rw [Stage.verdict?_eq_panicked.mp hv] at hs
    exact hs
  | _ => exact ⟨trivial, rfl, by simp⟩

theorem of_waiting (ht : Turn h e .waiting l n x s' l' n' x') : s' = .holding ∧ x' = x := by
  cases ht with
  | acquire => exact ⟨rfl, rfl⟩
  | release _ _ _ hv => simp [Stage.verdict?] at hv

theorem of_holding (ht : Turn h e .holding l n x s' l' n' x') (hr : l.phase = .running) :
    s' = .admitted ∧ x' = x := by
  cases ht with
  | accept => exact ⟨rfl, rfl⟩
  | refuse _ _ _ hne => exact absurd hr hne
  | release _ _ _ hv => simp [Stage.verdict?] at hv

theorem of_admitted (ht : Turn h e .admitted l n x s' l' n' x') :
    s' = .inside (h.receive x e).2.acts (h.receive x e).2.panics ∧ n' = n ∧
      x' = (h.receive x e).1 := by
  cases ht with
  | enter => exact ⟨rfl, rfl, rfl⟩
  | release _ _ _ hv => simp [Stage.verdict?] at hv

theorem of_inside (ht : Turn h e (.inside [] false) l n x s' l' n' x') :
    s' = .returned ∧ n' = n ∧ x' = x := by
  cases ht with
  | leave => exact ⟨rfl, rfl, rfl⟩
  | release _ _ _ hv => simp [Stage.verdict?] at hv

theorem of_returned (ht : Turn h e .returned l n x s' l' n' x') :
    s' = .counted ∧ n' = n + 1 ∧ x' = x := by
  cases ht with
  | count => exact ⟨rfl, rfl, rfl⟩
  | release _ _ _ hv => simp [Stage.verdict?] at hv

theorem of_counted (ht : Turn h e .counted l n x s' l' n' x') :
    s' = .done .delivered ∧ n' = n ∧ x' = x := by
  cases ht with
  | release _ _ _ hv =>
    obtain rfl := Option.some.inj hv
    exact ⟨rfl, rfl, rfl⟩

/-- What the look of a call has found stays. -/
theorem passed_eq (ht : Turn h e s l n x s' l' n' x') :
    s'.passed = true ↔ s.passed = true ∨ s = .holding ∧ l.phase = .running := by
  cases ht with
  | accept _ _ _ hr => simp [Stage.passed, hr]
  | refuse _ _ _ hr => simp [Stage.passed, hr]
  | @release s v _ _ _ hv =>
    cases s with
    | counted | refused | unwinding =>
      obtain rfl := Option.some.inj hv
      simp [Stage.passed]
    | _ => simp [Stage.verdict?] at hv
  | _ => simp [Stage.passed]

/-- The counter goes up when the call is counted. -/
theorem delivered_eq (ht : Turn h e s l n x s' l' n' x') :
    n' + UInt64.ofNat s.isCounted.toNat = n + UInt64.ofNat s'.isCounted.toNat := by
  cases ht with
  | @release s v _ _ _ hv =>
    cases s with
    | counted | refused | unwinding =>
      obtain rfl := Option.some.inj hv
      simp [Stage.isCounted]
    | _ => simp [Stage.verdict?] at hv
  | _ => simp [Stage.isCounted]

end Turn

/-- Every step of a call is a turn. -/
theorem Silent.turn_of_advance? (hg : g.Silent) {d : Delivery σ}
    {notices : List OpenUrl.Log.Notice}
    (hd : Delivery.advance? h ⟨g, x⟩ i = some (d, notices)) :
    ∃ e s s', g.calls[i]? = some ⟨e, s⟩ ∧
      Turn h e s g.lifecycle g.delivered x s' d.gate.lifecycle d.gate.delivered d.host ∧
      g.Turned i e s s' d.gate := by
  obtain ⟨⟨e, s⟩, hc, -⟩ := Option.bind_eq_some_iff.mp hd
  have hsilent := hg _ (List.mem_of_getElem? hc)
  have hend : s.ended? = none := by
    cases s with
    | done v => simp [Delivery.advance?, hc, next?, stage?_of_call hc] at hd
    | _ => rfl
  have hfree (hs : s = .waiting) : g.holder = none := by
    subst hs
    cases hh : g.holder with
    | none => rfl
    | some j => simp [Delivery.advance?, hc, next?, stage?_of_call hc, step?, hh] at hd
  obtain ⟨g', x', s', n, hd', ht, hturned⟩ := exists_turn (h := h) hc (hsilent.tame hend) hfree x
  obtain ⟨rfl, -⟩ := Prod.mk.inj (Option.some.inj (hd.symm.trans hd'))
  exact ⟨e, s, s', hc, ht, hturned⟩

/-- No callback has acted on the bridge or panicked, and all that have returned are counted. -/
structure Orderly (g : Gate) : Prop where
  silent : g.Silent
  unhurt : ∀ c ∈ g.calls, c.stage ≠ .done .panicked
  /-- The counter tells how many calls have been counted. -/
  counter : g.delivered = UInt64.ofNat (g.calls.countP fun c => c.stage.isCounted)

namespace Orderly

theorem unused (l : Lifecycle) : (unused l).Orderly := by
  refine ⟨?_, ?_, rfl⟩ <;> simp [Silent, Gate.unused]

theorem live (hg : g.Orderly) (m : Lifecycle.Move) : (g.live m).1.Orderly :=
  ⟨hg.silent, hg.unhurt, hg.counter⟩

theorem push (hg : g.Orderly) (e : Event) : (g.push e).Orderly := by
  refine ⟨hg.silent.push e, ?_, ?_⟩
  · intro c hc
    rcases List.mem_append.mp hc with hc | hc
    · exact hg.unhurt c hc
    · obtain rfl := List.mem_singleton.mp hc
      simp
  · rw [delivered_push, calls_push, List.countP_append, hg.counter]
    simp [Stage.isCounted]

theorem turn (hh : h.Silent) (hg : g.Orderly) (hc : g.calls[i]? = some ⟨e, s⟩)
    (ht : Turn h e s g.lifecycle g.delivered x s' g'.lifecycle g'.delivered x')
    (hg' : g.Turned i e s s' g') : g'.Orderly := by
  obtain ⟨hsilent, -, hne⟩ := ht.silent hh (hg.silent _ (List.mem_of_getElem? hc))
  refine ⟨?_, ?_, ?_⟩
  · intro c hmem
    rw [hg'.calls] at hmem
    rcases List.mem_or_eq_of_mem_set hmem with hmem | rfl
    · exact hg.silent c hmem
    · exact hsilent
  · intro c hmem
    rw [hg'.calls] at hmem
    rcases List.mem_or_eq_of_mem_set hmem with hmem | rfl
    · exact hg.unhurt c hmem
    · exact hne
  · have hcount := countP_set_add (p := fun c : Call => c.stage.isCounted) (b := ⟨e, s'⟩) hc
    have hdelivered := ht.delivered_eq
    rw [hg.counter, ← UInt64.ofNat_add, ← hcount, UInt64.ofNat_add] at hdelivered
    rw [hg'.calls]
    exact (UInt64.add_left_inj _).mp hdelivered

/-- Where a call can be whose look has found the bridge running. -/
theorem of_passed (hg : g.Orderly) (hc : g.calls[i]? = some ⟨e, s⟩) (hp : s.passed = true) :
    s = .admitted ∨ s = .inside [] false ∨ s = .returned ∨ s = .counted ∨ s = .done .delivered := by
  have hsilent := hg.silent _ (List.mem_of_getElem? hc)
  have hunhurt := hg.unhurt _ (List.mem_of_getElem? hc)
  cases s with
  | inside acts panics =>
    obtain ⟨rfl, rfl⟩ := hsilent
    simp
  | unwinding => exact hsilent.elim
  | done v => cases v <;> simp_all [Stage.passed]
  | waiting | holding | refused => simp [Stage.passed] at hp
  | _ => simp

end Orderly

end Gate

end OpenUrl
