import Mathlib.Tactic.Common

/-!
# Trails

A trail is one run of a partial step function, with every state that it passed and the move
that it made there. What is said of the past of a run, and not only of the state that it has
reached, is said over trails. A property that holds at the start and is kept by every step
holds at the end; a trail may be cut at each of its moves and put together again.
-/
namespace OpenUrl

/-- A run from `start`: the states that it passed, each with the move made there, the newest
first, and the state that it has reached. -/
inductive Trail {α μ ν : Type} (step? : α → μ → Option (α × ν)) (start : α) :
    List (α × μ) → α → Prop
  | start : Trail step? start [] start
  | step {past : List (α × μ)} {a b : α} {m : μ} {v : ν} :
      Trail step? start past a → step? a m = some (b, v) → Trail step? start ((a, m) :: past) b

namespace Trail

variable {α μ ν : Type} {step? : α → μ → Option (α × ν)} {start a b : α} {m : μ}
  {past later : List (α × μ)}

theorem invariant {P : α → Prop} (h₀ : P start)
    (hstep : ∀ a m b v, P a → step? a m = some (b, v) → P b)
    (h : Trail step? start past a) : P a := by
  induction h with
  | start => exact h₀
  | step _ hm ih => exact hstep _ _ _ _ ih hm

theorem append (h₁ : Trail step? start past a) (h₂ : Trail step? a later b) :
    Trail step? start (later ++ past) b := by
  induction h₂ with
  | start => exact h₁
  | step _ hm ih => exact .step ih hm

/-- A move of the past cuts a trail into what came before it, its own step, and the rest. -/
theorem cut (h : Trail step? start past b) (hm : (a, m) ∈ past) :
    ∃ before after c v, past = after ++ (a, m) :: before ∧ Trail step? start before a ∧
      step? a m = some (c, v) ∧ Trail step? c after b := by
  induction h with
  | start => simp at hm
  | @step past a' b' m' v' h hstep ih =>
    rcases List.mem_cons.mp hm with heq | hm
    · obtain ⟨rfl, rfl⟩ := Prod.mk.inj heq
      exact ⟨past, [], b', v', rfl, h, hstep, .start⟩
    · obtain ⟨before, after, c, v, rfl, hbefore, hc, hafter⟩ := ih hm
      exact ⟨before, (a', m') :: after, c, v, rfl, hbefore, hc, .step hafter hstep⟩

/-- A trail up to one of its moves, and from there on. -/
theorem split (h : Trail step? start (later ++ (a, m) :: past) b) :
    Trail step? start past a ∧ ∃ c v, step? a m = some (c, v) ∧ Trail step? c later b := by
  induction later generalizing b with
  | nil =>
    cases h with
    | step h hm => exact ⟨h, b, _, hm, .start⟩
  | cons s later ih =>
    cases h with
    | step h hm =>
      obtain ⟨hpast, c, v, hc, hlater⟩ := ih h
      exact ⟨hpast, c, v, hc, .step hlater hm⟩

/-- The moves of a trail decide where it goes. -/
theorem eq_of_moves {past' : List (α × μ)} {b : α} (h : Trail step? start past a)
    (h' : Trail step? start past' b) (hm : past.map Prod.snd = past'.map Prod.snd) :
    past = past' ∧ a = b := by
  induction h generalizing past' b with
  | start =>
    obtain rfl : past' = [] := by simpa using hm.symm
    cases h'
    exact ⟨rfl, rfl⟩
  | @step past a b' m v _ hstep ih =>
    cases h' with
    | start => simp at hm
    | @step past' c _ m' v' hpast' hstep' =>
      obtain ⟨rfl, hmoves⟩ := List.cons.inj hm
      obtain ⟨rfl, rfl⟩ := ih hpast' hmoves
      obtain ⟨rfl, -⟩ := Prod.mk.inj (Option.some.inj (hstep.symm.trans hstep'))
      exact ⟨rfl, rfl⟩

/-- Follow some moves, if all of them are possible. -/
def follow? (step? : α → μ → Option (α × ν)) (a : α) : List μ → Option (List (α × μ) × α)
  | [] => some ([], a)
  | m :: ms =>
    match step? a m with
    | none => none
    | some (b, _) => (follow? step? b ms).map fun r => (r.1 ++ [(a, m)], r.2)

theorem of_follow? {ms : List μ} (h : follow? step? a ms = some (past, b)) :
    Trail step? a past b := by
  induction ms generalizing a past with
  | nil =>
    obtain ⟨rfl, rfl⟩ := by simpa [follow?] using h
    exact .start
  | cons m ms ih =>
    simp only [follow?] at h
    split at h
    · simp at h
    · rename_i c v hc
      obtain ⟨⟨later, b'⟩, hl, heq⟩ := Option.map_eq_some_iff.mp h
      obtain ⟨rfl, rfl⟩ := Prod.mk.inj heq
      exact append (.step .start hc) (ih hl)

theorem of_isSome (ms : List μ) (h : (follow? step? a ms).isSome = true) :
    Trail step? a ((follow? step? a ms).get h).1 ((follow? step? a ms).get h).2 :=
  of_follow? (Option.some_get h).symm

end Trail

/-- What the moves of a run have brought, in their order. -/
def recorded {α μ β : Type} (f : α → μ → Option β) (past : List (α × μ)) : List β :=
  (past.filterMap fun s => f s.1 s.2).reverse

section recorded

variable {α μ β : Type} (f : α → μ → Option β)

@[simp] theorem recorded_nil : recorded f [] = [] := rfl

theorem recorded_cons (a : α) (m : μ) (past : List (α × μ)) :
    recorded f ((a, m) :: past) = recorded f past ++ (f a m).toList := by
  simp only [recorded, List.filterMap_cons]
  cases f a m <;> simp

theorem recorded_append (later past : List (α × μ)) :
    recorded f (later ++ past) = recorded f past ++ recorded f later := by
  simp [recorded]

end recorded

end OpenUrl
