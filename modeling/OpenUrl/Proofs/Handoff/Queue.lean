import OpenUrl.Handoff
import OpenUrl.Proofs.Gate.Ledger
import OpenUrl.Proofs.Gate.Silent

/-!
# The queue of a hand-off

What each operation does to the queue, to the count of the senders and to the receiver.
-/
namespace OpenUrl.Handoff

variable {h h' : Handoff} {e : Event}

@[simp] theorem receiver_send (h : Handoff) (e : Event) : (h.send e).2.receiver = h.receiver := by
  unfold send
  split <;> rfl

@[simp] theorem queue_dropSender (h : Handoff) : h.dropSender.queue = h.queue := rfl

@[simp] theorem senders_dropSender (h : Handoff) : h.dropSender.senders = h.senders - 1 := rfl

@[simp] theorem receiver_dropSender (h : Handoff) : h.dropSender.receiver = h.receiver := rfl

@[simp] theorem senders_dropReceiver (h : Handoff) : h.dropReceiver.senders = h.senders := rfl

@[simp] theorem receiver_dropReceiver (h : Handoff) : h.dropReceiver.receiver = false := rfl

/-- Without a receiver nothing changes. -/
theorem send_eq_of_receiver (hr : h.receiver = false) (e : Event) :
    h.send e = (.error .channelClosed, h) := by
  simp [send, hr]

/-- A look that finds an event takes the oldest one, and nothing else changes. -/
theorem look_eq_event : h.look = (.event e, h') ↔
    h.queue = e :: h'.queue ∧ h' = { h with queue := h'.queue } := by
  obtain ⟨queue, senders, receiver⟩ := h
  obtain ⟨queue', senders', receiver'⟩ := h'
  cases queue with
  | nil =>
    simp only [look, Prod.mk.injEq]
    split_ifs <;> simp
  | cons e' queue =>
    simp only [look, Prod.mk.injEq, Sight.event.injEq, List.cons.injEq, Handoff.mk.injEq]
    constructor
    · rintro ⟨rfl, rfl, rfl, rfl⟩
      simp
    · rintro ⟨⟨rfl, rfl⟩, -, rfl, rfl⟩
      simp

theorem look_eq_closed : h.look = (.closed, h') ↔ h.queue = [] ∧ h.senders = 0 ∧ h' = h := by
  unfold look
  split
  · rename_i hq
    simp [hq]
  · rename_i hq
    split_ifs with hs <;> simp [hq, hs, eq_comm]

theorem look_eq_pending : h.look = (.pending, h') ↔ h.queue = [] ∧ h.senders ≠ 0 ∧ h' = h := by
  unfold look
  split
  · rename_i hq
    simp [hq]
  · rename_i hq
    split_ifs with hs <;> simp [hq, hs, eq_comm]

/-- An event that is there is taken, whichever way the receiver looks for it. -/
theorem tryReceive_eq_event : h.tryReceive = (some e, h') ↔ h.look = (.event e, h') := by
  unfold tryReceive look
  cases h.queue with
  | nil => split_ifs <;> simp
  | cons e' queue => simp

theorem tryReceive_eq_none : h.tryReceive = (none, h') ↔ h.queue = [] ∧ h' = h := by
  unfold tryReceive
  cases hq : h.queue <;> simp [eq_comm]

@[simp] theorem receive_callback (h : Handoff) (e : Event) :
    (callback.receive h e).1 = (h.send e).2 := by
  cases hr : h.receiver <;> simp [callback, send, hr]

/-- The callback sends, and does nothing else. -/
theorem silent_callback : callback.Silent := by
  intro h e
  cases hr : h.receiver <;> simp [callback, send, hr, Reaction.quiet]

/-- The callback sends the events that it receives while the receiver is there. -/
theorem after_callback (h : Handoff) (events : List Event) :
    callback.after h events =
      if h.receiver then { h with queue := h.queue ++ events } else h := by
  induction events generalizing h with
  | nil => simp [Host.after]
  | cons e events ih =>
    have hstep : callback.after h (e :: events) = callback.after (h.send e).2 events := by
      simp only [Host.after, List.foldl_cons, receive_callback]
    rw [hstep, ih]
    cases hr : h.receiver <;> simp [send, hr]

end OpenUrl.Handoff
