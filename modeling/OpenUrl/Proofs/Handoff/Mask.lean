import OpenUrl.Handoff.Traffic
import OpenUrl.Proofs.Gate.Mask

/-!
# Hand-offs with masked URLs

What is queued has no effect on how a hand-off is used, and nothing of it is logged when an event
is sent, received or discarded. The callback that sends every event does not look at URLs.
-/
namespace OpenUrl.Handoff

open OpenUrl.Log (Notice)

def mask (h : Handoff) : Handoff := { h with queue := h.queue.map Event.mask }

def Sight.mask : Sight → Sight
  | .event e => .event e.mask
  | s => s

variable (h : Handoff)

@[simp] theorem senders_mask : h.mask.senders = h.senders := rfl

@[simp] theorem receiver_mask : h.mask.receiver = h.receiver := rfl

theorem mask_send (e : Event) : h.mask.send e.mask = Prod.map id mask (h.send e) := by
  cases hr : h.receiver <;> simp [send, mask, hr]

theorem mask_look : h.mask.look = Prod.map Sight.mask mask h.look := by
  cases hq : h.queue with
  | nil => by_cases hs : h.senders = 0 <;> simp [look, mask, hq, hs, Sight.mask]
  | cons e es => simp [look, mask, hq, Sight.mask]

theorem mask_tryReceive :
    h.mask.tryReceive = Prod.map (Option.map Event.mask) mask h.tryReceive := by
  cases hq : h.queue <;> simp [tryReceive, mask, hq]

theorem masks_callback : callback.Masks callback mask := by
  intro h e
  cases hr : h.receiver <;>
    simp [callback, send, mask, hr, Reaction.mask, Reaction.quiet, Notice.mask]

namespace Traffic

def mask (t : Traffic) : Traffic :=
  { t with handoff := t.handoff.mask, gates := t.gates.map (Option.map Gate.mask) }

def Move.mask : Move → Move
  | .send j e => .send j e.mask
  | .dispatch o e => .dispatch o e.mask
  | m => m

def Answer.mask : Answer → Answer
  | .event e => .event e.mask
  | a => a

variable (t : Traffic)

@[simp] theorem hasSender_mask (j : Nat) : t.mask.hasSender j = t.hasSender j := rfl

@[simp] theorem isFree_mask : t.mask.isFree = t.isFree := rfl

@[simp] theorem gate?_mask (o : Nat) : t.mask.gate? o = (t.gate? o).map Gate.mask := by
  simp only [gate?, mask, List.getElem?_map]
  rcases t.gates[o]? with _ | _ | g <;> rfl

@[simp] theorem mask_setGate (o : Nat) (g : Gate) :
    (t.setGate o g).mask = t.mask.setGate o g.mask := by
  simp [mask, setGate]

@[simp] theorem handoff_mask : t.mask.handoff = t.handoff.mask := rfl

@[simp] theorem reading_mask : t.mask.reading = t.reading := rfl

@[simp] theorem clock_mask : t.mask.clock = t.clock := rfl

theorem mask_handoff (h : Handoff) :
    mask { t with handoff := h } = { t.mask with handoff := h.mask } := rfl

theorem mask_read? : t.mask.read? = t.read?.map
    (Prod.map mask (Prod.map Answer.mask (List.map Notice.mask))) := by
  cases hr : t.reading with
  | free => simp [read?, hr]
  | receiving | waiting timeout wake =>
    cases hl : t.handoff.look with
    | mk sight h =>
      cases sight <;> simp [read?, hr, mask_look, hl, Sight.mask, Answer.mask, mask]
  | doubting timeout wake =>
    by_cases hw : wake ≤ t.clock <;>
      simp [read?, hr, hw, Answer.mask, mask, waitNotices, Failure.waitTimeout, Notice.mask]

/-- Everybody at a hand-off makes the same steps on masked events. -/
theorem masks_move? :
    Masks move? move? mask Move.mask (Prod.map Answer.mask (List.map Notice.mask)) := by
  intro t m
  cases m with
  | read => exact t.mask_read?
  | tick => rfl
  | send j e =>
    by_cases hj : t.hasSender j = true
    · cases ho : t.handoff.send e with
      | mk outcome h =>
        cases outcome <;>
          simp [move?, Move.mask, hj, mask_send, ho, Answer.mask, Answer.ofSending] <;> rfl
    · simp [move?, Move.mask, hj]
  | cloneSender j | dropSender j =>
    by_cases hj : t.hasSender j = true <;> simp [move?, Move.mask, hj, Answer.mask]
    rfl
  | intoCallback j l =>
    by_cases hj : t.hasSender j = true
    · simp only [move?, Move.mask, hasSender_mask, hj, if_true]
      simp [mask, Gate.mask, Answer.mask]
    · simp [move?, Move.mask, hj]
  | dispatch o e =>
    cases ho : t.gate? o <;> simp [move?, Move.mask, ho, Answer.mask]
  | life o m =>
    cases ho : t.gate? o <;> simp [move?, Move.mask, ho, Answer.mask, Gate.mask_live]
  | advance o i =>
    cases ho : t.gate? o with
    | none => simp [move?, Move.mask, ho]
    | some g =>
      have hd := Delivery.mask_advance? masks_callback ⟨g, t.handoff⟩ i
      simp only [Delivery.mask] at hd
      have hverdict (g : Gate) : (Answer.ofVerdict (g.verdict? i)).mask =
          Answer.ofVerdict (g.verdict? i) := by
        rcases g.verdict? i with _ | _ | _ | _ <;> rfl
      cases hstep : Delivery.advance? callback ⟨g, t.handoff⟩ i with
      | none => simp [move?, Move.mask, ho, hd, hstep]
      | some r =>
        simp [move?, Move.mask, ho, hd, hstep, hverdict, Delivery.mask, mask_handoff]
  | dropCallback o =>
    cases ho : t.gate? o with
    | none => simp [move?, Move.mask, ho]
    | some g =>
      have hgates : t.mask.gates.set o none = (t.gates.set o none).map (Option.map Gate.mask) := by
        simp [mask]
      simp only [move?, Move.mask, gate?_mask, ho, Option.map_some, Option.bind_eq_bind,
        Option.bind_some, Gate.length_calls_mask, Gate.verdict?_mask, hgates]
      split_ifs <;> rfl
  | tryReceive =>
    by_cases hf : t.isFree = true
    · cases ho : t.handoff.tryReceive with
      | mk e h =>
        cases e <;>
          simp [move?, Move.mask, hf, mask_tryReceive, ho, Answer.mask] <;> rfl
    · simp [move?, Move.mask, hf]
  | receive | wait timeout | dropReceiver =>
    by_cases hf : t.isFree = true <;> simp [move?, Move.mask, hf, Answer.mask]
    rfl
  | abandon =>
    by_cases hf : t.reading = .free <;> simp [move?, Move.mask, hf, Answer.mask]
    rfl

end Traffic

end OpenUrl.Handoff
