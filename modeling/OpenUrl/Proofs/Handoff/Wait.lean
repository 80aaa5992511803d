import OpenUrl.Proofs.Handoff.Traffic

/-!
# A wait in traffic

A wait that is made at once, with the deeds of others at their times, is one of the waits that come
about in traffic: time passes from deed to deed, senders do them, and the receiver looks after each.
-/
namespace OpenUrl.Handoff

/-- How many senders are gone after a deed. -/
def Deed.spent : Deed → Nat
  | sendLast _ => 1
  | drop n => n

namespace Traffic

variable {t k : Traffic}

def Answer.ofWait : Outcome Event → Answer
  | .ok e => event e
  | .error f => failure f

/-- Some moves lead from a state to another, and nothing is received by them. -/
def Elapses (t k : Traffic) : Prop :=
  ∃ later, Trail move? t later k ∧ ∀ s ∈ later, received? s.1 s.2 = none

namespace Elapses

theorem refl (t : Traffic) : Elapses t t := ⟨[], .start, by simp⟩

theorem trans {u : Traffic} (h₁ : Elapses t k) (h₂ : Elapses k u) : Elapses t u := by
  obtain ⟨later, hl, hnone⟩ := h₁
  obtain ⟨latest, hl', hnone'⟩ := h₂
  refine ⟨latest ++ later, hl.append hl', ?_⟩
  intro s hs
  rcases List.mem_append.mp hs with hs | hs
  · exact hnone' s hs
  · exact hnone s hs

theorem move {m : Move} {a : Answer} {notices : List Log.Notice}
    (hm : t.move? m = some (k, a, notices)) (ha : a.event? = none) : Elapses t k :=
  ⟨[(t, m)], .step .start hm, by simpa [received?_eq hm] using ha⟩

theorem time (t : Traffic) (n : Nat) : Elapses t { t with clock := t.clock + n } := by
  induction n with
  | zero => exact refl t
  | succ n ih => exact ih.trans (move (m := .tick) rfl rfl)

end Elapses

theorem exists_sender (h : 0 < t.senders.countP id) : ∃ j, t.hasSender j = true := by
  obtain ⟨b, hmem, hb⟩ := List.countP_pos_iff.mp h
  obtain ⟨j, hj⟩ := List.getElem?_of_mem hmem
  exact ⟨j, hasSender_eq_true.mpr (by rw [hj, show b = true from hb])⟩

/-- A deed has been done by senders, and nothing else has changed. -/
structure Does (t : Traffic) (d : Deed) (k : Traffic) : Prop where
  elapses : Elapses t k
  handoff : k.handoff = t.handoff.after d
  senders : k.senders.countP id + d.spent = t.senders.countP id
  reading : k.reading = t.reading
  clock : k.clock = t.clock

theorem does_drop {j : Nat} (hj : t.hasSender j = true) : ∃ k, Does t (.drop 1) k := by
  have hm : t.move? (.dropSender j) = some ({ t with
      handoff := t.handoff.dropSender
      senders := t.senders.set j false }, .ok, []) := by
    simp only [move?, hj, if_true]
  have hcount := countP_set_add (p := id) (b := false) (hasSender_eq_true.mp hj)
  exact ⟨_, .move hm rfl, rfl, hcount, rfl, rfl⟩

/-- Senders can do any deed that leaves none too few. -/
theorem exists_does (d : Deed) (h : d.spent ≤ t.senders.countP id) : ∃ k, Does t d k := by
  cases d with
  | sendLast e =>
    obtain ⟨j, hj⟩ := exists_sender (t := t) h
    have hm : t.move? (.send j e) = some ({ t with handoff := (t.handoff.send e).2 },
        .ofSending (t.handoff.send e).1, []) := by
      simp only [move?, hj, if_true]
    obtain ⟨k, hk⟩ := does_drop (t := { t with handoff := (t.handoff.send e).2 }) (j := j) hj
    have hsend := Elapses.move hm (Answer.event?_ofSending _)
    exact ⟨k, hsend.trans hk.elapses, hk.handoff, hk.senders, hk.reading, hk.clock⟩
  | drop n =>
    induction n generalizing t with
    | zero => exact ⟨t, .refl t, rfl, rfl, rfl, rfl⟩
    | succ n ih =>
      have hspent : n + 1 ≤ t.senders.countP id := h
      obtain ⟨j, hj⟩ := exists_sender (t := t) (by omega)
      obtain ⟨u, hu⟩ := does_drop hj
      have husenders : u.senders.countP id + 1 = t.senders.countP id := hu.senders
      have hrest : n ≤ u.senders.countP id := by omega
      obtain ⟨k, hk⟩ := ih hrest
      have hksenders : k.senders.countP id + n = u.senders.countP id := hk.senders
      refine ⟨k, hu.elapses.trans hk.elapses, ?_, ?_, hk.reading.trans hu.reading,
        hk.clock.trans hu.clock⟩
      · rw [hk.handoff, hu.handoff]
        simp only [after, Handoff.mk.injEq, true_and, and_true]
        omega
      · change k.senders.countP id + (n + 1) = t.senders.countP id
        omega

/-- A look ends a wait, or finds nothing. -/
theorem read_waiting {timeout wake : Nat} (hr : t.reading = .waiting timeout wake) :
    (∃ outcome h, (∀ deeds, t.handoff.wait timeout deeds = (outcome, h)) ∧
      t.move? .read = some ({ t with handoff := h, reading := .free }, .ofWait outcome,
        waitNotices (UInt64.ofNatClamp timeout) outcome)) ∨
    t.handoff.look = (.pending, t.handoff) ∧
      t.move? .read = some ({ t with reading := .doubting timeout wake }, .pending, []) := by
  have hread : t.move? .read = t.read? := rfl
  rcases hlook : t.handoff.look with ⟨sight, h⟩
  cases sight with
  | event e =>
    refine .inl ⟨.ok e, h, fun deeds => ?_, by simp only [hread, read?, hr, hlook]; rfl⟩
    rw [Handoff.wait, hlook]
  | closed =>
    refine .inl ⟨.error .channelClosed, h, fun deeds => ?_, ?_⟩
    · rw [Handoff.wait, hlook]
    · simp only [hread, read?, hr, hlook]
      rfl
  | pending =>
    obtain ⟨-, -, rfl⟩ := look_eq_pending.mp hlook
    exact .inr ⟨rfl, by simp only [hread, read?, hr, hlook]⟩

/-- How many senders are gone after some deeds. -/
def spent : List (Nat × Deed) → Nat
  | [] => 0
  | (_, d) :: deeds => d.spent + spent deeds

/-- The receiver comes to the end of a wait with an outcome. -/
def Ends (t : Traffic) (timeout : Nat) (outcome : Outcome Event) (h : Handoff) : Prop :=
  ∃ u k, Elapses t u ∧ u.move? .read = some (k, .ofWait outcome,
    waitNotices (UInt64.ofNatClamp timeout) outcome) ∧ k.handoff = h ∧ k.reading = .free

/-- A receiver that has looked in vain may see nothing until its time is over. -/
theorem ends_of_pending {timeout wake : Nat}
    (hread : t.move? .read = some ({ t with reading := .doubting timeout wake }, .pending, [])) :
    t.Ends timeout (.error .waitTimeout) t.handoff := by
  refine ⟨{ t with reading := .doubting timeout wake, clock := t.clock + (wake - t.clock) },
    { t with reading := .free, clock := t.clock + (wake - t.clock) },
    (Elapses.move hread rfl).trans (.time _ _), ?_, rfl, rfl⟩
  have htime : wake ≤ t.clock + (wake - t.clock) := by omega
  simp only [move?, read?, if_pos htime]
  rfl

/-- A receiver that waits can come to the end of the wait that is made at once with some deeds: with
the same outcome and notices, and with the same hand-off. -/
theorem ends_wait {timeout start : Nat} (hr : t.reading = .waiting timeout (start + timeout))
    (hclock : 0 < timeout → t.clock < start + timeout) (deeds : List (Nat × Deed))
    (hspent : spent deeds ≤ t.senders.countP id) :
    t.Ends timeout (t.handoff.wait timeout deeds).1 (t.handoff.wait timeout deeds).2 := by
  induction deeds generalizing t with
  | nil =>
    rcases read_waiting hr with ⟨outcome, h, hwait, hread⟩ | ⟨hlook, hread⟩
    · rw [hwait]
      exact ⟨t, _, .refl t, hread, rfl, rfl⟩
    · have hwait : t.handoff.wait timeout [] = (.error .waitTimeout, t.handoff) := by
        rw [Handoff.wait, hlook]
      rw [hwait]
      exact ends_of_pending hread
  | cons d deeds ih =>
    obtain ⟨at_, d⟩ := d
    rcases read_waiting hr with ⟨outcome, h, hwait, hread⟩ | ⟨hlook, hread⟩
    · rw [hwait]
      exact ⟨t, _, .refl t, hread, rfl, rfl⟩
    · by_cases htime : at_ < timeout
      · have hwait : t.handoff.wait timeout ((at_, d) :: deeds) =
            (t.handoff.after d).wait timeout deeds := by
          rw [Handoff.wait, hlook]
          simp only [if_pos htime]
        -- the receiver goes on, time passes until the deed is due, and it is done
        have hwake : ¬ start + timeout ≤ t.clock := by have := hclock (by omega); omega
        let doubting : Traffic := { t with reading := .doubting timeout (start + timeout) }
        have hon : doubting.move? .read = some (t, .pending, []) := by
          simp only [doubting, move?, read?, if_neg hwake, ← hr]
        let due : Traffic := { t with clock := t.clock + (start + at_ - t.clock) }
        have hdue : Elapses t due :=
          (Elapses.move hread rfl).trans ((Elapses.move hon rfl).trans (.time t _))
        have hsum : d.spent + spent deeds ≤ t.senders.countP id := hspent
        obtain ⟨k, hk⟩ := exists_does (t := due) d (by change _ ≤ t.senders.countP id; omega)
        have hkclock : k.clock = t.clock + (start + at_ - t.clock) := hk.clock
        have hksenders : k.senders.countP id + d.spent = t.senders.countP id := hk.senders
        have hkhandoff : k.handoff = t.handoff.after d := hk.handoff
        obtain ⟨u, v, hu, hend⟩ := ih (t := k) (hk.reading.trans hr) (by omega) (by omega)
        rw [hkhandoff] at hend
        rw [hwait]
        exact ⟨u, v, hdue.trans (hk.elapses.trans hu), hend⟩
      · have hwait : t.handoff.wait timeout ((at_, d) :: deeds) =
            (.error .waitTimeout, t.handoff) := by
          rw [Handoff.wait, hlook]
          simp only [if_neg htime]
        rw [hwait]
        exact ends_of_pending hread

/-- The wait that is made at once is a wait of a receiver that is free, among senders enough for
the deeds. -/
theorem ends_of_wait (hfree : t.isFree = true) (timeout : Nat) (deeds : List (Nat × Deed))
    (hspent : spent deeds ≤ t.senders.countP id) : ∃ k notices,
    t.move? (.wait timeout) = some (k, .pending, notices) ∧
      k.Ends timeout (t.handoff.wait timeout deeds).1 (t.handoff.wait timeout deeds).2 := by
  refine ⟨{ t with reading := .waiting timeout (t.clock + timeout) }, [], ?_, ?_⟩
  · simp only [move?, hfree, if_true]
  · exact ends_wait (t := { t with reading := .waiting timeout (t.clock + timeout) }) rfl
      (fun h => by change t.clock < t.clock + timeout; omega) deeds hspent

end Traffic

end OpenUrl.Handoff
