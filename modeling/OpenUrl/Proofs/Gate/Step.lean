import OpenUrl.Gate
import OpenUrl.Proofs.Trail

/-!
# The steps of a gate

`Step` says once what each move does to a gate, guards included; everything that is proved of
runs at a gate is proved over it. From it follows who is behind the gate: exactly the call that
holds it, so that no two callbacks ever overlap.
-/
namespace OpenUrl

namespace Stage

/-- Whether a call at this stage holds the gate. -/
def holds : Stage → Bool
  | waiting | done _ => false
  | _ => true

/-- How a call ends that is about to give the gate back. -/
def verdict? : Stage → Option Verdict
  | counted => some .delivered
  | refused => some .dropped
  | unwinding => some .panicked
  | _ => none

theorem holds_of_verdict? {s : Stage} {v : Verdict} (h : s.verdict? = some v) :
    s.holds = true := by
  cases s <;> simp_all [verdict?, holds]

theorem verdict?_eq_panicked {s : Stage} : s.verdict? = some .panicked ↔ s = .unwinding := by
  cases s <;> simp [verdict?]

end Stage

namespace Gate

open OpenUrl.Log (Notice)

/-- A gate that nobody has come to, of a bridge in any phase. -/
def unused (l : Lifecycle) : Gate := ⟨l, none, 0, []⟩

@[simp] theorem holder_live (g : Gate) (m : Lifecycle.Move) : (g.live m).1.holder = g.holder := rfl

@[simp] theorem calls_live (g : Gate) (m : Lifecycle.Move) : (g.live m).1.calls = g.calls := rfl

@[simp] theorem delivered_live (g : Gate) (m : Lifecycle.Move) :
    (g.live m).1.delivered = g.delivered := rfl

@[simp] theorem lifecycle_live (g : Gate) (m : Lifecycle.Move) :
    (g.live m).1.lifecycle = (g.lifecycle.step m).1 := rfl

@[simp] theorem stage?_live (g : Gate) (m : Lifecycle.Move) (i : Nat) :
    (g.live m).1.stage? i = g.stage? i := rfl

@[simp] theorem holder_push (g : Gate) (e : Event) : (g.push e).holder = g.holder := rfl

@[simp] theorem delivered_push (g : Gate) (e : Event) : (g.push e).delivered = g.delivered := rfl

@[simp] theorem lifecycle_push (g : Gate) (e : Event) : (g.push e).lifecycle = g.lifecycle := rfl

@[simp] theorem holder_perform (g : Gate) (a : Act) : (g.perform a).1.holder = g.holder := by
  cases a <;> rfl

@[simp] theorem delivered_perform (g : Gate) (a : Act) :
    (g.perform a).1.delivered = g.delivered := by
  cases a <;> rfl

theorem call?_push (g : Gate) (e : Event) (i : Nat) :
    (g.push e).calls[i]? = if i = g.calls.length then some ⟨e, .waiting⟩ else g.calls[i]? := by
  rw [calls_push]
  rcases Nat.lt_trichotomy i g.calls.length with hi | rfl | hi
  · rw [List.getElem?_append_left hi, if_neg (Nat.ne_of_lt hi)]
  · simp
  · rw [if_neg (Nat.ne_of_gt hi), List.getElem?_eq_none (by rw [List.length_append]; exact hi),
      List.getElem?_eq_none (Nat.le_of_lt hi)]

theorem stage?_push (g : Gate) (e : Event) (i : Nat) :
    (g.push e).stage? i = if i = g.calls.length then some .waiting else g.stage? i := by
  rw [stage?, call?_push]
  split_ifs <;> rfl

theorem call?_setStage (g : Gate) (i j : Nat) (s : Stage) :
    (g.setStage i s).calls[j]? =
      if i = j then g.calls[j]?.map fun c => { c with stage := s } else g.calls[j]? := by
  simp [setStage, List.getElem?_modify]
  split <;> simp

/-- What `setStage` does to the call that it is about. -/
theorem call?_setStage_self {g : Gate} {i : Nat} {e : Event} {s : Stage}
    (h : g.calls[i]? = some ⟨e, s⟩) (s' : Stage) :
    (g.setStage i s').calls[i]? = some ⟨e, s'⟩ := by
  simp [call?_setStage, h]

theorem stage?_of_call {g : Gate} {i : Nat} {c : Call} (h : g.calls[i]? = some c) :
    g.stage? i = some c.stage := by
  simp [stage?, h]

theorem event?_of_call {g : Gate} {i : Nat} {c : Call} (h : g.calls[i]? = some c) :
    g.event? i = some c.event := by
  simp [event?, h]

theorem exists_call {g : Gate} {i : Nat} {s : Stage} (h : g.stage? i = some s) :
    ∃ e, g.calls[i]? = some ⟨e, s⟩ := by
  obtain ⟨c, hc, rfl⟩ := Option.map_eq_some_iff.mp h
  exact ⟨c.event, hc⟩

/-- What a move does to a gate, if it is possible. -/
inductive Step (g : Gate) : Move → Gate → Prop
  | call (e : Event) : Step g (.call e) (g.push e)
  | life (m : Lifecycle.Move) : Step g (.life m) (g.live m).1
  | acquire {i : Nat} {e : Event} : g.calls[i]? = some ⟨e, .waiting⟩ → g.holder = none →
      Step g (.acquire i) ({ g with holder := some i }.setStage i .holding)
  | accept {i : Nat} {e : Event} : g.calls[i]? = some ⟨e, .holding⟩ →
      g.lifecycle.phase = .running → Step g (.check i) (g.setStage i .admitted)
  | refuse {i : Nat} {e : Event} : g.calls[i]? = some ⟨e, .holding⟩ →
      g.lifecycle.phase ≠ .running → Step g (.check i) (g.setStage i .refused)
  | enter {i : Nat} {e : Event} (r : Reaction) : g.calls[i]? = some ⟨e, .admitted⟩ →
      Step g (.enter i r) (g.setStage i (.inside r.acts r.panics))
  | act {i : Nat} {e : Event} {a : Act} {acts : List Act} {panics : Bool} :
      g.calls[i]? = some ⟨e, .inside (a :: acts) panics⟩ →
      Step g (.act i) ((g.setStage i (.inside acts panics)).perform a).1
  | leave {i : Nat} {e : Event} : g.calls[i]? = some ⟨e, .inside [] false⟩ →
      Step g (.leave i) (g.setStage i .returned)
  | unwind {i : Nat} {e : Event} : g.calls[i]? = some ⟨e, .inside [] true⟩ →
      Step g (.unwind i) (g.setStage i .unwinding)
  | count {i : Nat} {e : Event} : g.calls[i]? = some ⟨e, .returned⟩ →
      Step g (.count i) ({ g with delivered := g.delivered + 1 }.setStage i .counted)
  | release {i : Nat} {e : Event} {s : Stage} {v : Verdict} : g.calls[i]? = some ⟨e, s⟩ →
      s.verdict? = some v →
      Step g (.release i) ({ g with holder := none }.setStage i (.done v))

theorem step_of_step? {g h : Gate} {m : Move} {notices : List Notice}
    (hm : g.step? m = some (h, notices)) : Step g m h := by
  cases m with
  | call e =>
    obtain ⟨rfl, -⟩ := by simpa [step?] using hm
    exact .call e
  | life m =>
    obtain rfl : (g.live m).1 = h := by simpa [step?] using congrArg (Option.map Prod.fst) hm
    exact .life m
  | acquire i =>
    simp only [step?] at hm
    split at hm
    · rename_i hs hh
      obtain ⟨e, hc⟩ := exists_call hs
      obtain ⟨rfl, -⟩ := by simpa using hm
      exact .acquire hc hh
    · simp at hm
  | check i =>
    simp only [step?] at hm
    split at hm
    · rename_i e hc
      obtain ⟨rfl, -⟩ := by simpa using hm
      split_ifs with hp
      · exact .accept hc hp
      · exact .refuse hc hp
    · simp at hm
  | enter i r =>
    simp only [step?] at hm
    split at hm
    · rename_i hs
      obtain ⟨e, hc⟩ := exists_call hs
      obtain ⟨rfl, -⟩ := by simpa using hm
      exact .enter r hc
    · simp at hm
  | act i =>
    simp only [step?] at hm
    split at hm
    · rename_i a acts panics hs
      obtain ⟨e, hc⟩ := exists_call hs
      obtain rfl : ((g.setStage i (.inside acts panics)).perform a).1 = h := by
        simpa using congrArg (Option.map Prod.fst) hm
      exact .act hc
    · simp at hm
  | leave i =>
    simp only [step?] at hm
    split at hm
    · rename_i hs
      obtain ⟨e, hc⟩ := exists_call hs
      obtain ⟨rfl, -⟩ := by simpa using hm
      exact .leave hc
    · simp at hm
  | unwind i =>
    simp only [step?] at hm
    split at hm
    · rename_i hs
      obtain ⟨e, hc⟩ := exists_call hs
      obtain ⟨rfl, -⟩ := by simpa using hm
      exact .unwind hc
    · simp at hm
  | count i =>
    simp only [step?] at hm
    split at hm
    · rename_i hs
      obtain ⟨e, hc⟩ := exists_call hs
      obtain ⟨rfl, -⟩ := by simpa using hm
      exact .count hc
    · simp at hm
  | release i =>
    simp only [step?] at hm
    split at hm
    all_goals try simp at hm
    all_goals
      rename_i hs
      obtain ⟨e, hc⟩ := exists_call hs
      obtain ⟨rfl, -⟩ := hm
      exact .release hc rfl

/-- The gate is held by the call that is behind it. -/
def Exclusive (g : Gate) : Prop :=
  ∀ i, g.holder = some i ↔ ∃ s, g.stage? i = some s ∧ s.holds = true

theorem exclusive_unused (l : Lifecycle) : (unused l).Exclusive := by
  intro i
  simp [unused, stage?]

namespace Exclusive

variable {g h : Gate} {i j : Nat} {s s' : Stage}

theorem holder_eq (hg : g.Exclusive) (hs : g.stage? i = some s) (hh : s.holds = true) :
    g.holder = some i := (hg i).mpr ⟨s, hs, hh⟩

/-- No two calls are behind the gate. -/
theorem unique (hg : g.Exclusive) (hi : g.stage? i = some s) (hs : s.holds = true)
    (hj : g.stage? j = some s') (hs' : s'.holds = true) : i = j := by
  have hhi := hg.holder_eq hi hs
  have hhj := hg.holder_eq hj hs'
  exact Option.some.inj (hhi.symm.trans hhj)

/-- A step of a call from one side of the gate to the same side. -/
theorem setStage (hg : g.Exclusive) (hs : g.stage? i = some s) (he : s'.holds = s.holds) :
    (g.setStage i s').Exclusive := by
  intro j
  rw [holder_setStage, hg j, stage?_setStage]
  by_cases hij : i = j
  · subst j
    simp [hs, he]
  · simp [hij]

theorem push (hg : g.Exclusive) (e : Event) : (g.push e).Exclusive := by
  intro j
  rw [holder_push, hg j, stage?_push]
  split_ifs with hj
  · -- the new call is in front of the gate, and no call had its number
    simp [hj, stage?, Stage.holds]
  · rfl

theorem live (hg : g.Exclusive) (m : Lifecycle.Move) : (g.live m).1.Exclusive := hg

theorem perform (hg : g.Exclusive) (a : Act) : (g.perform a).1.Exclusive := by
  cases a with
  | life m => exact hg.live m
  | spawn e => exact hg.push e

theorem acquire (hg : g.Exclusive) (hs : g.stage? i = some .waiting) (hh : g.holder = none) :
    ({ g with holder := some i }.setStage i .holding).Exclusive := by
  intro j
  have hj : ¬ ∃ s, g.stage? j = some s ∧ s.holds = true := by
    rw [← hg j, hh]
    simp
  rw [holder_setStage, stage?_setStage]
  change some i = some j ↔ ∃ s, (if i = j then (g.stage? j).map _ else g.stage? j) = some s ∧ _
  by_cases hij : i = j
  · subst j
    simp [hs, Stage.holds]
  · simpa [hij] using hj

theorem release (hg : g.Exclusive) (hs : g.stage? i = some s) (hv : s.verdict? = some v) :
    ({ g with holder := none }.setStage i (.done v)).Exclusive := by
  intro j
  have hi := hg.holder_eq hs (Stage.holds_of_verdict? hv)
  rw [holder_setStage, stage?_setStage]
  change none = some j ↔ ∃ s, (if i = j then (g.stage? j).map _ else g.stage? j) = some s ∧ _
  by_cases hij : i = j
  · subst j
    simp [hs, Stage.holds]
  · have hj : ¬ ∃ s, g.stage? j = some s ∧ s.holds = true := by
      rw [← hg j, hi]
      simpa using hij
    simpa [hij] using hj

theorem step (hg : g.Exclusive) {m : Move} (hm : g.Step m h) : h.Exclusive := by
  cases hm with
  | call e => exact hg.push e
  | life m => exact hg.live m
  | acquire hc hh => exact hg.acquire (stage?_of_call hc) hh
  | accept hc _ => exact hg.setStage (stage?_of_call hc) rfl
  | refuse hc _ => exact hg.setStage (stage?_of_call hc) rfl
  | enter r hc => exact hg.setStage (stage?_of_call hc) rfl
  | @act i e a acts panics hc =>
    have hs : (g.setStage i (.inside acts panics)).Exclusive := hg.setStage (stage?_of_call hc) rfl
    exact hs.perform a
  | leave hc => exact hg.setStage (stage?_of_call hc) rfl
  | unwind hc => exact hg.setStage (stage?_of_call hc) rfl
  | count hc =>
    have hd : { g with delivered := g.delivered + 1 }.Exclusive := hg
    exact hd.setStage (stage?_of_call hc) rfl
  | release hc hv => exact hg.release (stage?_of_call hc) hv

theorem trail (hg : g.Exclusive) {past : List (Gate × Move)} (ht : Trail step? g past h) :
    h.Exclusive :=
  ht.invariant hg fun _ _ _ _ ha hm => ha.step (step_of_step? hm)

end Exclusive

end Gate

end OpenUrl
