import OpenUrl.Listening
import OpenUrl.Proofs.Desktop.Mask
import OpenUrl.Proofs.Handoff.Mask

/-!
# Listening with a masked URL

A call that listens hands the event on that it gets, and does the same whatever URL is in it.
So nothing that is logged above the trace level, by a gate, at a hand-off, in a desktop process or
while one listens, tells two URLs of the same length apart.
-/
namespace OpenUrl

open OpenUrl.Desktop
open OpenUrl.Log (Notice)
open OpenUrl.Probe (Hearing)

namespace Listening

def maskHearing (r : Hearing) : Hearing := r.map Event.mask

def Worker.mask : Worker → Worker
  | .stopping r => .stopping (maskHearing r)
  | .closing r => .closing (maskHearing r)
  | .done r => .done (maskHearing r)
  | w => w

def Ending.mask : Ending → Ending
  | .heard r => .heard (maskHearing r)
  | .panicked => .panicked

def Main.mask : Main → Main
  | .ended e => .ended e.mask
  | m => m

def mask (l : Listening) : Listening :=
  { l with
    machine := l.machine.mask Handoff.mask
    main := l.main.mask
    worker := l.worker.mask }

variable (l : Listening)

@[simp] theorem machine_mask : l.mask.machine = l.machine.mask Handoff.mask := rfl

@[simp] theorem settings_mask : l.mask.settings = l.settings := rfl

@[simp] theorem onMain_mask : l.mask.onMain = l.onMain := rfl

@[simp] theorem bridge_mask : l.mask.bridge = l.bridge := rfl

@[simp] theorem main_mask : l.mask.main = l.main.mask := rfl

@[simp] theorem worker_mask : l.mask.worker = l.worker.mask := rfl

@[simp] theorem clock_mask : l.mask.clock = l.clock := rfl

@[simp] theorem deadline_mask : l.mask.deadline = l.deadline := rfl

@[simp] theorem state_mask : l.mask.state = l.state.mask := rfl

theorem mask_dropBridge (next : Main) : l.mask.dropBridge next.mask =
    Prod.map mask (List.map Notice.mask) (l.dropBridge next) := by
  simp only [dropBridge, state_mask, bridge_mask, State.mask_dropBridge]
  rfl

theorem mask_mainStep? :
    l.mask.mainStep? = l.mainStep?.map (Prod.map mask (List.map Notice.mask)) := by
  cases hm : l.main with
  | entering =>
    cases hp : l.state.newBridge l.settings.pollInterval with
    | mk outcome r =>
      cases outcome <;> simp [mainStep?, hm, Main.mask, State.mask_newBridge, hp] <;> rfl
  | created | spawned =>
    simp [mainStep?, hm, Main.mask, Notice.mask]
    rfl
  | running =>
    have hstep := Machine.mask_step? Handoff.masks_callback l.machine
    cases hs : l.machine.step? Handoff.callback with
    | some r =>
      simp [mainStep?, hm, Main.mask, hstep, hs]
      exact ⟨by simp [mask, Main.mask], rfl⟩
    | none =>
      cases ha : l.machine.agenda <;> cases he : l.machine.ending <;>
        simp [mainStep?, hm, Main.mask, hstep, hs, ha, he]
      rfl
  | leaving e =>
    cases e <;> simp [mainStep?, hm, Main.mask, ← l.mask_dropBridge, Ending.mask, maskHearing,
      Except.map]
  | retreating reason =>
    simp [mainStep?, hm, Main.mask, ← l.mask_dropBridge, Ending.mask, maskHearing, Except.map]
  | joining =>
    cases hw : l.worker <;> simp [mainStep?, hm, Main.mask, hw, Worker.mask]
    rfl
  | ended e => simp [mainStep?, hm, Main.mask]

theorem mask_workerStep? :
    l.mask.workerStep? = l.workerStep?.map (Prod.map mask (List.map Notice.mask)) := by
  cases hw : l.worker with
  | absent | done r => simp [workerStep?, hw, Worker.mask]
  | starting =>
    simp [workerStep?, hw, Worker.mask]
    rfl
  | polling =>
    cases hr : l.state.isRunning l.bridge <;> simp [workerStep?, hw, Worker.mask, hr] <;> rfl
  | doubting =>
    by_cases hc : l.clock < l.deadline <;> simp [workerStep?, hw, Worker.mask, hc] <;> rfl
  | sleeping wake =>
    by_cases hc : wake ≤ l.clock <;> simp [workerStep?, hw, Worker.mask, hc]
    rfl
  | ready =>
    simp [workerStep?, hw, Worker.mask]
    rfl
  | waiting time wake =>
    cases hl : l.machine.host.look with
    | mk sight h =>
      cases sight with
      | event e | closed =>
        simp [workerStep?, hw, Worker.mask, Handoff.mask_look, hl, Handoff.Sight.mask]
        rfl
      | pending =>
        by_cases hc : wake ≤ l.clock <;>
          simp [workerStep?, hw, Worker.mask, Handoff.mask_look, hl, Handoff.Sight.mask, hc]
        exact ⟨rfl, rfl⟩
  | stopping r =>
    simp [workerStep?, hw, Worker.mask, State.mask_stop]
    rfl
  | closing r =>
    simp [workerStep?, hw, Worker.mask]
    rfl

/-- A call makes the same steps on masked events. -/
theorem masks_move? : Masks move? move? mask id (List.map Notice.mask) := by
  intro l m
  cases m with
  | main => exact l.mask_mainStep?
  | worker => exact l.mask_workerStep?
  | noThread reason =>
    cases hm : l.main <;> simp [move?, hm, Main.mask]
    rfl
  | noRuntime reason =>
    cases hw : l.worker <;> simp [move?, hw, Worker.mask]
    rfl
  | tick => rfl
  | slot m =>
    cases hs : l.state.slotStep? m <;> simp [move?, State.mask_slotStep?, hs]
    rfl

end Listening

/-- With a callback that does not look at URLs, which the callback of a hand-off is, no URL has an
effect on what is logged above the trace level: at a gate, at a hand-off, in a desktop process, and
while one listens. -/
theorem discreet_of_blind {σ τ : Type} {h : Host σ} {view : σ → τ} (hb : h.Blind view) :
    Handoff.callback.Blind Handoff.mask ∧
      Discreet Gate.step? id Gate.mask Gate.Move.mask ∧
      Discreet Handoff.Traffic.move? (fun v => v.2) Handoff.Traffic.mask
        Handoff.Traffic.Move.mask ∧
      Discreet (Machine.move? h) Visible.notices (Machine.mask view) Desktop.Move.mask ∧
      Discreet Listening.move? id Listening.mask id := by
  obtain ⟨k, hk⟩ := hb.exists_masks
  exact ⟨Handoff.masks_callback.blind, Gate.masks_step?.discreet id fun _ => rfl,
    Handoff.Traffic.masks_move?.discreet (fun v => v.2) fun _ => rfl,
    (Machine.masks_move? hk).discreet Visible.notices fun _ => rfl,
    Listening.masks_move?.discreet id fun _ => rfl⟩

/-- Three events with the same URL at one callback: one is delivered, one is discarded since the
receiver is gone, and one is dropped since the bridge has been asked to stop. -/
def Handoff.Traffic.threeEvents (url : String) : List Handoff.Traffic.Move :=
  .intoCallback 0 ⟨.running, [], 0⟩ :: .dispatch 0 ⟨url, 7⟩ ::
    List.replicate 6 (.advance 0 0) ++ [.dropReceiver, .dispatch 0 ⟨url, 7⟩] ++
    List.replicate 6 (.advance 0 1) ++ [.life 0 .requestStop, .dispatch 0 ⟨url, 7⟩] ++
    List.replicate 3 (.advance 0 2)

open Handoff.Traffic in
/-- Two URLs of two bytes each make different notices at the trace level, and no others. -/
theorem discreet_of_two_bytes : ∃ past past' t t',
    Twins move? mask Move.mask fresh fresh past past' t t' ∧
      logged move? (fun v => v.2) past ≠ logged move? (fun v => v.2) past' ∧
      Log.select .debug (logged move? (fun v => v.2) past) =
        Log.select .debug (logged move? (fun v => v.2) past') := by
  have ht : Twins move? mask Move.mask fresh fresh _ _ _ _ :=
    ⟨Trail.of_isSome (threeEvents "é") (by decide +kernel),
      Trail.of_isSome (threeEvents "ab") (by decide +kernel), rfl, by decide +kernel⟩
  exact ⟨_, _, _, _, ht, by decide +kernel,
    (discreet_of_blind Handoff.masks_callback.blind).2.2.1.grave ht⟩

end OpenUrl
