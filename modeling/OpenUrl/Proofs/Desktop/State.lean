import OpenUrl.Desktop.State
import OpenUrl.Proofs.Gate.Step

/-!
# What changes in a process

The gates and the handlers of a process after each of its operations. No operation reaches a gate
but a change of that gate itself and, for its lifecycle only, a stop.
-/
namespace OpenUrl.Desktop

/-- Whether an Apple Event goes to the bridge that is registered for open-URL events. -/
def AppleEvent.OpensUrl (e : AppleEvent) : Prop :=
  e.eventClass = openUrlCode ∧ e.identifier = openUrlCode

instance (e : AppleEvent) : Decidable e.OpensUrl := inferInstanceAs (Decidable (_ ∧ _))

namespace State

@[simp] theorem gate?_setGate (p : State) (b c : Nat) (g : Gate) :
    (p.setGate b g).gate? c = if b = c then (p.gate? c).map fun _ => g else p.gate? c := by
  simp only [gate?, setGate, List.getElem?_modify]
  split <;> cases p.bridges[c]? <;> simp

theorem gate?_setGate_self {p : State} {b : Nat} {g : Gate} (h : p.gate? b = some g) (g' : Gate) :
    (p.setGate b g').gate? b = some g' := by
  simp [h]

theorem isRunning_eq {p : State} {b : Nat} {g : Gate} (h : p.gate? b = some g) :
    p.isRunning b = g.lifecycle.isRunning := by
  simp [isRunning, h]

theorem stopRequested_eq {p : State} {b : Nat} {g : Gate} (h : p.gate? b = some g) :
    p.stopRequested b = g.lifecycle.stopRequested := by
  simp [stopRequested, h]

theorem isRunning_of_stopRequested {p : State} {b : Nat} (h : p.stopRequested b = true) :
    p.isRunning b = false := by
  unfold stopRequested at h
  split at h
  · rename_i g hg
    rw [isRunning_eq hg, Lifecycle.isRunning, Phase.stopRequested_iff.mp h]
    rfl
  · simp at h

theorem live_eq {p : State} {b : Nat} {g : Gate} (h : p.gate? b = some g) (m : Lifecycle.Move) :
    p.live b m = (p.setGate b (g.live m).1, (g.live m).2) := by
  simp [live, h]

theorem stop_eq {p : State} {b : Nat} {g : Gate} (h : p.gate? b = some g) :
    (p.stop b).2 = (p.setGate b (g.live .requestStop).1, (g.live .requestStop).2) := by
  simp [stop, live_eq h]

theorem handler?_of_handlers {p : State} {b : Nat}
    (h : p.handlers = [((openUrlCode, openUrlCode), b)]) (e : AppleEvent) :
    p.handler? e = if e.OpensUrl then some b else none := by
  rw [handler?, h]
  by_cases he : e.OpensUrl
  · rw [if_pos he]
    simp [he.1, he.2]
  · rw [if_neg he]
    have hne : ¬ (openUrlCode = e.eventClass ∧ openUrlCode = e.identifier) :=
      fun h => he ⟨h.1.symm, h.2.symm⟩
    simpa using hne

theorem handlers_unregister {p : State} {b : Nat}
    (h : p.handlers = [((openUrlCode, openUrlCode), b)]) : p.unregister.handlers = [] := by
  simp [unregister, h]

theorem handlers_register {p : State} (h : p.handlers = []) (b : Nat) :
    (p.register b).handlers = [((openUrlCode, openUrlCode), b)] := by
  simp [register, unregister, h]

theorem gate?_newBridge {p : State} {poll : UInt64} {b : Nat} {g : Gate}
    (h : (p.newBridge poll).2.1.gate? b = some g) :
    p.gate? b = some g ∨ p.gate? b = none ∧ g = .fresh := by
  unfold newBridge at h
  split at h
  · exact .inl h
  · simp only [gate?] at h ⊢
    rcases Nat.lt_trichotomy b p.bridges.length with hb | rfl | hb
    · rw [List.getElem?_append_left hb] at h
      exact .inl h
    · right
      simpa [eq_comm] using h
    · rw [List.getElem?_eq_none (by rw [List.length_append]; exact hb)] at h
      simp at h

theorem gate?_newBridge_of_some {p : State} {b : Nat} {g : Gate} (h : p.gate? b = some g)
    (poll : UInt64) : (p.newBridge poll).2.1.gate? b = some g := by
  unfold newBridge
  split
  · exact h
  · obtain ⟨x, hx, -⟩ := Option.map_eq_some_iff.mp h
    have hb : b < p.bridges.length := (List.getElem?_eq_some_iff.mp hx).1
    simp only [gate?] at h ⊢
    rw [List.getElem?_append_left hb, h]

@[simp] theorem gate?_dropBridge (p : State) (b c : Nat) :
    (p.dropBridge b).2.1.gate? c = p.gate? c := by
  unfold dropBridge
  split
  · split_ifs
    · simp only [gate?, List.getElem?_modify]
      split <;> cases p.bridges[c]? <;> rfl
    · rfl
  · rfl

theorem gate?_stop (p : State) (b c : Nat) :
    (p.stop b).2.1.gate? c =
      if b = c then (p.gate? c).map fun g => (g.live .requestStop).1 else p.gate? c := by
  cases hg : p.gate? b with
  | none =>
    have hs : (p.stop b).2.1 = p := by simp [stop, live, hg]
    rw [hs]
    split_ifs with hc
    · subst c
      simp [hg]
    · rfl
  | some g =>
    rw [stop_eq hg, gate?_setGate]
    split_ifs with hc
    · subst c
      simp [hg]
    · rfl

theorem isRunning_stop (p : State) (b c : Nat) :
    (p.stop b).2.1.isRunning c = if b = c then false else p.isRunning c := by
  rw [isRunning, gate?_stop]
  split_ifs with hc
  · cases p.gate? c <;> simp [Lifecycle.isRunning, Lifecycle.step, Bool.eq_false_iff]
  · rfl

/-- A stop changes nothing but bridges. -/
theorem stop_frame (p : State) (b : Nat) :
    (p.stop b).2.1 = { p with bridges := (p.stop b).2.1.bridges } := by
  simp only [stop, live]
  cases p.gate? b <;> rfl

/-- A new bridge changes nothing but the slot and the bridges. -/
theorem newBridge_frame (p : State) (poll : UInt64) :
    (p.newBridge poll).2.1 = { p with
      slot := (p.newBridge poll).2.1.slot
      bridges := (p.newBridge poll).2.1.bridges } := by
  unfold newBridge
  split <;> rfl

/-- The drop of a bridge changes nothing but the slot and the bridges. -/
theorem dropBridge_frame (p : State) (b : Nat) :
    (p.dropBridge b).2.1 = { p with
      slot := (p.dropBridge b).2.1.slot
      bridges := (p.dropBridge b).2.1.bridges } := by
  unfold dropBridge
  split
  · split_ifs <;> rfl
  · rfl

/-- Others than the bridges change nothing but the slot. -/
theorem slotStep?_eq {p p' : State} {move : Slot.Move} {notices : List OpenUrl.Log.Notice}
    (h : p.slotStep? move = some (p', notices)) : p' = { p with slot := p'.slot } := by
  cases move with
  | claim =>
    obtain ⟨rfl, -⟩ := by simpa [slotStep?] using h
    rfl
  | drop g =>
    simp only [slotStep?] at h
    split_ifs at h
    obtain ⟨rfl, -⟩ := by simpa using h
    rfl

end State

end OpenUrl.Desktop
