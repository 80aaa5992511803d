import Mathlib.Tactic.SplitIfs
import OpenUrl.Listening

/-!
# Steps of listening

The two threads of listening, the time and the other users of the slot take turns in any order.
`Goes` says once what each possible step does; what is proved of listening is proved by cases of it.
-/
namespace OpenUrl.Listening

/-- Where the main thread goes when it drops the bridge after a start. -/
def Main.after : Desktop.Ending → Main
  | .finished => .joining
  | .failed f => .ended (.heard (.error (.start f)))
  | .panicked => .ended .panicked

/-- What a step of listening does. -/
inductive Goes (l : Listening) : Move → Listening → Prop
  | create {b p notices} : l.main = .entering →
      l.state.newBridge l.settings.pollInterval = (.ok b, p, notices) →
      Goes l .main { l.setState p with bridge := b, main := .created }
  | refuse {f p notices} : l.main = .entering →
      l.state.newBridge l.settings.pollInterval = (.error f, p, notices) →
      Goes l .main { l.setState p with main := .ended (.heard (.error (.creation f))) }
  | spawn : l.main = .created → Goes l .main { l with main := .spawned, worker := .starting }
  | start : l.main = .spawned →
      Goes l .main { l with main := .running, machine := l.machine.start l.bridge l.onMain }
  | task {m v} : l.main = .running → l.machine.step? Handoff.callback = some (m, v) →
      Goes l .main { l with machine := m }
  | finish {e} : l.main = .running → l.machine.agenda = [] → l.machine.ending = some e →
      Goes l .main { l with main := .leaving e }
  | leave {e} : l.main = .leaving e → Goes l .main (l.dropBridge (.after e)).1
  | retreat {reason} : l.main = .retreating reason →
      Goes l .main (l.dropBridge (.ended (.heard (.error (.spawn reason))))).1
  | join {r} : l.main = .joining → l.worker = .done r →
      Goes l .main { l with main := .ended (.heard r) }
  | noThread (reason) : l.main = .created →
      Goes l (.noThread reason)
        { l.setHandoff l.machine.host.dropReceiver with main := .retreating reason }
  | note : l.worker = .starting →
      Goes l .worker
        { l with worker := .polling, deadline := l.clock + l.settings.waitTimeout.toNat }
  | see : l.worker = .polling → l.state.isRunning l.bridge = true →
      Goes l .worker { l with worker := .ready }
  | doubt : l.worker = .polling → l.state.isRunning l.bridge = false →
      Goes l .worker { l with worker := .doubting }
  | sleep : l.worker = .doubting → l.clock < l.deadline →
      Goes l .worker { l with worker := .sleeping (l.clock + startupPoll) }
  | giveUp : l.worker = .doubting → l.deadline ≤ l.clock →
      Goes l .worker { l with worker := .ready }
  | wake {wake} : l.worker = .sleeping wake → wake ≤ l.clock →
      Goes l .worker { l with worker := .polling }
  | wait : l.worker = .ready →
      Goes l .worker
        { l with worker := .waiting (l.deadline - l.clock) (l.clock + (l.deadline - l.clock)) }
  | noRuntime (reason) : l.worker = .ready →
      Goes l (.noRuntime reason) { l with worker := .closing (.error (.runtime reason)) }
  | hear {time wake e h} : l.worker = .waiting time wake →
      l.machine.host.look = (.event e, h) →
      Goes l .worker { l.setHandoff h with worker := .stopping (.ok e) }
  | miss {time wake h} : l.worker = .waiting time wake →
      l.machine.host.look = (.closed, h) →
      Goes l .worker
        { l.setHandoff h with worker := .stopping (.error (.wait .channelClosed)) }
  | timeOut {time wake h} : l.worker = .waiting time wake →
      l.machine.host.look = (.pending, h) → wake ≤ l.clock →
      Goes l .worker { l with worker := .stopping (.error (.wait .waitTimeout)) }
  | stop {r} : l.worker = .stopping r →
      Goes l .worker
        { l.setState (l.state.stop l.bridge).2.1 with worker := .closing r }
  | close {r} : l.worker = .closing r →
      Goes l .worker { l.setHandoff l.machine.host.dropReceiver with worker := .done r }
  | tick : Goes l .tick { l with clock := l.clock + 1 }
  | slot {m p notices} : l.state.slotStep? m = some (p, notices) →
      Goes l (.slot m) (l.setState p)

variable {l k : Listening} {notices : List OpenUrl.Log.Notice}

theorem goes_of_mainStep? (h : l.mainStep? = some (k, notices)) : l.Goes .main k := by
  unfold mainStep? at h
  split at h
  · rename_i hm
    split at h
    · rename_i hp
      obtain ⟨rfl, -⟩ := by simpa using h
      exact .create hm hp
    · rename_i hp
      obtain ⟨rfl, -⟩ := by simpa using h
      exact .refuse hm hp
  · rename_i hm
    obtain ⟨rfl, -⟩ := by simpa using h
    exact .spawn hm
  · rename_i hm
    obtain ⟨rfl, -⟩ := by simpa using h
    exact .start hm
  · rename_i hm
    split at h
    · rename_i hstep
      obtain ⟨rfl, -⟩ := by simpa using h
      exact .task hm hstep
    · split at h
      · rename_i hagenda hending
        obtain ⟨rfl, -⟩ := by simpa using h
        exact .finish hm hagenda hending
      · simp at h
  · rename_i e hm
    obtain rfl : (l.dropBridge (.after e)).1 = k := by
      cases e <;> simpa [Main.after] using congrArg (Option.map Prod.fst) h
    exact .leave hm
  · rename_i hm
    obtain rfl := by simpa using congrArg (Option.map Prod.fst) h
    exact .retreat hm
  · rename_i hm
    split at h
    · rename_i hw
      obtain ⟨rfl, -⟩ := by simpa using h
      exact .join hm hw
    · simp at h
  · simp at h

theorem goes_of_workerStep? (h : l.workerStep? = some (k, notices)) : l.Goes .worker k := by
  unfold workerStep? at h
  split at h
  · simp at h
  · simp at h
  · rename_i hw
    obtain ⟨rfl, -⟩ := by simpa using h
    exact .note hw
  · rename_i hw
    cases hr : l.state.isRunning l.bridge with
    | true =>
      obtain ⟨rfl, -⟩ := by simpa [hr] using h
      exact .see hw hr
    | false =>
      obtain ⟨rfl, -⟩ := by simpa [hr] using h
      exact .doubt hw hr
  · rename_i hw
    by_cases hlt : l.clock < l.deadline
    · obtain ⟨rfl, -⟩ := by simpa [hlt] using h
      exact .sleep hw hlt
    · obtain ⟨rfl, -⟩ := by simpa [hlt] using h
      exact .giveUp hw (Nat.le_of_not_lt hlt)
  · rename_i hw
    split_ifs at h with hwake
    obtain ⟨rfl, -⟩ := by simpa using h
    exact .wake hw hwake
  · rename_i hw
    obtain ⟨rfl, -⟩ := by simpa using h
    exact .wait hw
  · rename_i hw
    split at h
    · rename_i hlook
      obtain ⟨rfl, -⟩ := by simpa using h
      exact .hear hw hlook
    · rename_i hlook
      obtain ⟨rfl, -⟩ := by simpa using h
      exact .miss hw hlook
    · rename_i hlook
      split_ifs at h with hwake
      obtain ⟨rfl, -⟩ := by simpa using h
      exact .timeOut hw hlook hwake
  · rename_i hw
    obtain ⟨rfl, -⟩ := by simpa using h
    exact .stop hw
  · rename_i hw
    obtain ⟨rfl, -⟩ := by simpa using h
    exact .close hw

theorem goes_of_move? {m : Move} (h : l.move? m = some (k, notices)) : l.Goes m k := by
  cases m with
  | main => exact goes_of_mainStep? h
  | worker => exact goes_of_workerStep? h
  | noThread reason =>
    simp only [move?] at h
    split at h
    · rename_i hm
      obtain ⟨rfl, -⟩ := by simpa using h
      exact .noThread reason hm
    · simp at h
  | noRuntime reason =>
    simp only [move?] at h
    split at h
    · rename_i hw
      obtain ⟨rfl, -⟩ := by simpa using h
      exact .noRuntime reason hw
    · simp at h
  | tick =>
    obtain ⟨rfl, -⟩ := by simpa [move?] using h
    exact .tick
  | slot m =>
    simp only [move?, Option.bind_eq_bind, Option.bind_eq_some_iff] at h
    obtain ⟨⟨p, more⟩, hp, h⟩ := h
    obtain ⟨rfl, -⟩ := by simpa using h
    exact .slot hp

end OpenUrl.Listening
