import OpenUrl.Proofs.Handoff.Wait

/-!
# Conservation of events

While the receiver is there, the events received and then those queued are the events sent, in
their order, whoever has sent them and however they were received. A wait ends without an event
only when its time is over, which takes nothing, or when nobody is left to send, which comes after
all events. Without the receiver a sender is told so; a callback loses its event, and its call
ends as always.
-/
namespace OpenUrl.Handoff.Traffic

variable {past : List (Traffic × Move)} {t k : Traffic} {m : Move} {a : Answer}
  {notices : List Log.Notice}

/-- The events sent in a run, in their order. -/
def sent (past : List (Traffic × Move)) : List Event := recorded sent? past

/-- The events received in a run, in their order. -/
def received (past : List (Traffic × Move)) : List Event := recorded received? past

/-- The gate and the number of a call that looks, by a move, while its bridge runs. -/
def admits? (t : Traffic) : Move → Option (Nat × Nat)
  | .advance o i => (t.gate? o).bind fun g =>
      if g.stage? i = some .holding ∧ g.lifecycle.phase = .running then some (o, i) else none
  | _ => none

/-- The calls that have looked in a run while their bridge ran. -/
def admitted (past : List (Traffic × Move)) : List (Nat × Nat) := recorded admits? past

/-- Whether a move begins to receive or to wait. -/
def Move.begins : Move → Bool
  | receive | wait _ => true
  | _ => false

/-- The moves since the receiver last began to receive or to wait. -/
def current (past : List (Traffic × Move)) : List (Traffic × Move) :=
  past.takeWhile fun s => !s.2.begins

/-- What a call does next whose bridge runs when it looks, by its stage. -/
inductive Onward (t : Traffic) (o i : Nat) (e : Event) : Stage → Prop
  | acquire {k : Traffic} {notices : List Log.Notice} :
      t.move? (.advance o i) = some (k, .pending, notices) →
      k.call? o i = some ⟨e, .holding⟩ → k.handoff = t.handoff → Onward t o i e .waiting
  | look {k : Traffic} {notices : List Log.Notice} :
      t.move? (.advance o i) = some (k, .pending, notices) →
      k.call? o i = some ⟨e, .admitted⟩ → k.handoff = t.handoff → Onward t o i e .holding
  /-- The callback sends. Without the receiver the event is lost. -/
  | enter {k : Traffic} {notices : List Log.Notice} :
      t.move? (.advance o i) = some (k, .pending, notices) →
      k.call? o i = some ⟨e, .inside [] false⟩ → k.handoff = (t.handoff.send e).2 →
      (t.handoff.receiver = false →
        k.handoff = t.handoff ∧ notices = [.eventDiscarded .channelClosed e.senderPid]) →
      Onward t o i e .admitted
  | leave {k : Traffic} {notices : List Log.Notice} :
      t.move? (.advance o i) = some (k, .pending, notices) →
      k.call? o i = some ⟨e, .returned⟩ → k.handoff = t.handoff →
      Onward t o i e (.inside [] false)
  | count {k : Traffic} {notices : List Log.Notice} {g g' : Gate} :
      t.move? (.advance o i) = some (k, .pending, notices) →
      k.call? o i = some ⟨e, .counted⟩ → k.handoff = t.handoff →
      t.gate? o = some g → k.gate? o = some g' → g'.delivered = g.delivered + 1 →
      Onward t o i e .returned
  | answer {k : Traffic} {notices : List Log.Notice} :
      t.move? (.advance o i) = some (k, .returned true, notices) →
      k.call? o i = some ⟨e, .done .delivered⟩ → k.handoff = t.handoff →
      Onward t o i e .counted
  | ended : Onward t o i e (.done .delivered)

/-- What holds after the moves of a run. -/
structure Conserves (past : List (Traffic × Move)) (t : Traffic) : Prop where
  /-- Nothing is lost, doubled or out of order while the receiver is there. -/
  balance : t.handoff.receiver = true → received past ++ t.handoff.queue = sent past
  /-- The receiver is there until it is dropped. -/
  receiver : t.handoff.receiver = false ↔ .dropReceiver ∈ past.map Prod.snd
  /-- Looking in vain takes nothing, and a wait whose time is over has taken nothing. -/
  vain : ∀ m k a notices, t.move? m = some (k, a, notices) →
    a = .nothing ∨ a = .failure .waitTimeout →
    k.handoff = t.handoff ∧ (a = .failure .waitTimeout → received (current past) = [])
  /-- A wait that is made at once, with deeds of senders at their times, is one of these waits. -/
  wait : t.isFree = true → ∀ timeout deeds, spent deeds ≤ t.senders.countP id → ∃ k notices,
    t.move? (.wait timeout) = some (k, .pending, notices) ∧
      k.Ends timeout (t.handoff.wait timeout deeds).1 (t.handoff.wait timeout deeds).2
  /-- That no more events will come is said when nobody is left to send and all events have been
  received. -/
  closed : ∀ k a notices, t.move? .read = some (k, a, notices) →
    a = .closed ∨ a = .failure .channelClosed →
    (∀ j, t.hasSender j = false) ∧ (∀ o, t.gate? o = none) ∧ t.handoff.queue = [] ∧
      received past = sent past
  /-- Sending fails without the receiver, and only then. -/
  send : ∀ j e, t.hasSender j = true → ∃ k a, t.move? (.send j e) = some (k, a, []) ∧
    (a = .failure .channelClosed ↔ t.handoff.receiver = false) ∧
    (a = .ok ↔ t.handoff.receiver = true)
  /-- The calls that call back are those that have looked while their bridge ran. -/
  passed : ∀ o i g, t.gate? o = some g →
    ((o, i) ∈ admitted past ↔ ∃ c, g.calls[i]? = some c ∧ c.stage.passed = true)
  /-- Such a call goes on to its end, with or without the receiver; a call comes to its look when
  the gate is free. -/
  onward : ∀ o i g e s, t.gate? o = some g → g.calls[i]? = some ⟨e, s⟩ →
    s.passed = true ∨ s = .holding ∧ g.lifecycle.phase = .running ∨
      s = .waiting ∧ g.holder = none → t.Onward o i e s
  /-- Nobody else moves a call, and a callback is not dropped before its calls have ended. -/
  others : ∀ m k a notices, t.move? m = some (k, a, notices) → ∀ o i c, m ≠ .advance o i →
    t.call? o i = some c →
    k.call? o i = some c ∨ m = .dropCallback o ∧ ∃ v, c.stage = .done v
  /-- Handing over an event answers whether it has looked while its bridge ran. -/
  returns : ∀ o i k b notices, t.move? (.advance o i) = some (k, .returned b, notices) →
    (b = true ↔ (o, i) ∈ admitted past)
  /-- Every such call is counted, once. -/
  counter : ∀ o g, t.gate? o = some g →
    g.delivered = UInt64.ofNat (g.calls.countP fun c => c.stage.isCounted)

/-! ## One step -/

theorem isFree_iff : t.isFree = true ↔ t.handoff.receiver = true ∧ t.reading = .free := by
  simp [isFree]

theorem Reading.ne_free_of_looks {r : Reading} (h : r.looks = true) : r ≠ .free := by
  rintro rfl
  simp [Reading.looks] at h

theorem call?_eq_some {o i : Nat} {c : Call} :
    t.call? o i = some c ↔ ∃ g, t.gate? o = some g ∧ g.calls[i]? = some c := by
  simp [call?, Option.bind_eq_some_iff]

theorem admits?_eq_some {o i : Nat} : t.admits? m = some (o, i) ↔ m = .advance o i ∧
    ∃ g, t.gate? o = some g ∧ g.stage? i = some .holding ∧ g.lifecycle.phase = .running := by
  cases m with
  | advance o' i' =>
    simp only [admits?, Option.bind_eq_some_iff, Option.ite_none_right_eq_some, Option.some.injEq,
      Prod.mk.injEq, Move.advance.injEq]
    constructor
    · rintro ⟨g, hg, hlook, rfl, rfl⟩
      exact ⟨⟨rfl, rfl⟩, g, hg, hlook⟩
    · rintro ⟨⟨rfl, rfl⟩, g, hg, hlook⟩
      exact ⟨g, hg, hlook, rfl, rfl⟩
  | _ => simp [admits?]

theorem Step.length_le (hs : t.Step m k a) : t.gates.length ≤ k.gates.length := by
  cases hs <;> simp [setGate]

/-- A receiver that is busy after a step has begun with it, or was busy and has got nothing. -/
theorem Step.reading (hs : t.Step m k a) (hk : k.reading ≠ .free) : m ≠ .dropReceiver ∧
    (m.begins = true ∧ t.handoff.receiver = true ∨
      m.begins = false ∧ t.reading ≠ .free ∧ a.event? = none) := by
  cases hs with
  | receive hfree | wait _ hfree =>
    exact ⟨by simp, .inl ⟨rfl, (isFree_iff.mp hfree).1⟩⟩
  | take hfree | lack hfree | dropReceiver hfree => exact absurd (isFree_iff.mp hfree).2 hk
  | hear | close | timeOut | abandon => exact absurd rfl hk
  | miss hlooks => exact ⟨by simp, .inr ⟨rfl, Reading.ne_free_of_looks hlooks, rfl⟩⟩
  | goOn hdoubting => exact ⟨by simp, .inr ⟨rfl, by simp [hdoubting], rfl⟩⟩
  | send | advance => exact ⟨by simp, .inr ⟨rfl, hk, by simp⟩⟩
  | _ => exact ⟨by simp, .inr ⟨rfl, hk, rfl⟩⟩

/-- A step that answers in vain leaves the hand-off as it is. -/
theorem Step.vain (hs : t.Step m k a) (ha : a = .nothing ∨ a = .failure .waitTimeout) :
    k.handoff = t.handoff ∧ (a = .failure .waitTimeout → t.reading ≠ .free) := by
  cases hs with
  | lack => exact ⟨rfl, by simp⟩
  | timeOut hdoubting => exact ⟨rfl, fun _ => by simp [hdoubting]⟩
  | send e hj =>
    rcases ha with ha | ha
    · cases hr : t.handoff.receiver <;> simp [Handoff.send, hr, Answer.ofSending] at ha
    · cases hr : t.handoff.receiver <;>
        simp [Handoff.send, hr, Answer.ofSending, Failure.waitTimeout] at ha
  | @advance o i g d =>
    rcases hv : d.gate.verdict? i with _ | v
    · simp [hv, Answer.ofVerdict] at ha
    · cases v <;> simp [hv, Answer.ofVerdict] at ha
  | close _ _ _ hclosed => rcases hclosed with rfl | rfl <;> simp [Failure.waitTimeout] at ha
  | _ => simp at ha

theorem Step.closed (hs : t.Step .read k a) (ha : a = .closed ∨ a = .failure .channelClosed) :
    t.reading ≠ .free ∧ t.handoff.queue = [] ∧ t.handoff.senders = 0 := by
  cases hs with
  | close hlooks hq hsenders _ => exact ⟨Reading.ne_free_of_looks hlooks, hq, hsenders⟩
  | timeOut => simp [Failure.waitTimeout] at ha
  | _ => simp at ha

/-! ## The invariant of a run -/

/-- What every move of a run keeps. -/
structure Keeps (past : List (Traffic × Move)) (t : Traffic) : Prop where
  balance : t.handoff.receiver = true → received past ++ t.handoff.queue = sent past
  owned : t.Owned
  receiver : t.handoff.receiver = false ↔ .dropReceiver ∈ past.map Prod.snd
  /-- A receiver that is busy has got nothing since it began. -/
  reading : t.reading ≠ .free → t.handoff.receiver = true ∧ received (current past) = []
  orderly : ∀ o g, t.gate? o = some g → g.Orderly
  /-- No call has looked at a gate that is still to come. -/
  made : ∀ c ∈ admitted past, c.1 < t.gates.length
  passed : ∀ o i g, t.gate? o = some g →
    ((o, i) ∈ admitted past ↔ ∃ c, g.calls[i]? = some c ∧ c.stage.passed = true)

theorem received_cons (hm : t.move? m = some (k, a, notices)) :
    received ((t, m) :: past) = received past ++ a.event?.toList := by
  rw [received, recorded_cons, received?_eq hm]
  rfl

theorem mem_admitted_cons {c : Nat × Nat} :
    c ∈ admitted ((t, m) :: past) ↔ c ∈ admitted past ∨ t.admits? m = some c := by
  rw [admitted, recorded_cons, List.mem_append, Option.mem_toList]
  rfl

namespace Keeps

theorem start : Keeps [] fresh := by
  have hgate (o : Nat) : fresh.gate? o = none := by simp [gate?, fresh]
  refine ⟨fun _ => rfl, rfl, by simp [fresh, Handoff.fresh], by simp [fresh], ?_, ?_, ?_⟩
  · simp [hgate]
  · simp [admitted]
  · simp [hgate]

theorem step_balance (hk : Keeps past t) (hm : t.move? m = some (k, a, notices))
    (hr : k.handoff.receiver = true) :
    received ((t, m) :: past) ++ k.handoff.queue = sent ((t, m) :: past) := by
  have hs := step_of_move? hm
  have ht : t.handoff.receiver = true := by
    rw [← hs.receiver_eq ?_, hr]
    rintro rfl
    cases hs with
    | dropReceiver => simp at hr
  calc received ((t, m) :: past) ++ k.handoff.queue
      = received past ++ (a.event?.toList ++ k.handoff.queue) := by
        rw [received_cons hm, List.append_assoc]
    _ = received past ++ t.handoff.queue ++ (t.sent? m).toList := by
        rw [hs.flow hr, List.append_assoc]
    _ = sent ((t, m) :: past) := by
        rw [hk.balance ht, sent, sent, recorded_cons]

theorem step_receiver (hk : Keeps past t) (hs : t.Step m k a) :
    k.handoff.receiver = false ↔ .dropReceiver ∈ ((t, m) :: past).map Prod.snd := by
  rw [List.map_cons, List.mem_cons, ← hk.receiver]
  by_cases hm : m = .dropReceiver
  · subst hm
    cases hs with
    | dropReceiver => simp
  · rw [hs.receiver_eq hm]
    simp [Ne.symm hm]

theorem step_reading (hk : Keeps past t) (hm : t.move? m = some (k, a, notices))
    (hbusy : k.reading ≠ .free) :
    k.handoff.receiver = true ∧ received (current ((t, m) :: past)) = [] := by
  have hs := step_of_move? hm
  obtain ⟨hne, hbegins | hbegins⟩ := hs.reading hbusy
  · refine ⟨(hs.receiver_eq hne).trans hbegins.2, ?_⟩
    simp [current, hbegins.1, received]
  · obtain ⟨hgoes, ht, hnone⟩ := hbegins
    obtain ⟨hreceiver, hempty⟩ := hk.reading ht
    refine ⟨(hs.receiver_eq hne).trans hreceiver, ?_⟩
    have hcurrent : current ((t, m) :: past) = (t, m) :: current past := by
      simp [current, hgoes]
    rw [hcurrent, received_cons hm, hempty, hnone]
    rfl

theorem step_orderly (hk : Keeps past t) (hs : t.Step m k a) {o : Nat} {g : Gate}
    (hg : k.gate? o = some g) : g.Orderly := by
  cases hs.yields hg with
  | stay hg' => exact hk.orderly o g hg'
  | new j l => exact .unused l
  | push e hg' => exact (hk.orderly o _ hg').push e
  | live m hg' => exact (hk.orderly o _ hg').live m
  | advance hg' hd =>
    have hord := hk.orderly o _ hg'
    obtain ⟨e, s, s', hc, ht, hturned⟩ := hord.silent.turn_of_advance? hd
    exact hord.turn silent_callback hc ht hturned

theorem step_made (hk : Keeps past t) (hs : t.Step m k a) :
    ∀ c ∈ admitted ((t, m) :: past), c.1 < k.gates.length := by
  intro ⟨o, i⟩ hc
  have hlength := hs.length_le
  rcases mem_admitted_cons.mp hc with hc | hc
  · have := hk.made _ hc
    omega
  · obtain ⟨-, g, hg, -⟩ := admits?_eq_some.mp hc
    obtain ⟨ho, -⟩ := List.getElem?_eq_some_iff.mp (gate?_eq_some.mp hg)
    exact Nat.lt_of_lt_of_le ho hlength

theorem step_passed (hk : Keeps past t) (hs : t.Step m k a) {o : Nat} (i : Nat) {g : Gate}
    (hg : k.gate? o = some g) : (o, i) ∈ admitted ((t, m) :: past) ↔
      ∃ c, g.calls[i]? = some c ∧ c.stage.passed = true := by
  have hold (hm : m ≠ .advance o i) :
      (o, i) ∈ admitted ((t, m) :: past) ↔ (o, i) ∈ admitted past := by
    rw [mem_admitted_cons, admits?_eq_some]
    simp [hm]
  cases hs.yields hg with
  | stay hg' hm => rw [hold (hm i), hk.passed o i g hg']
  | new j l =>
    rw [hold (by simp)]
    constructor
    · intro hmem
      have := hk.made _ hmem
      simp at this
    · simp [Gate.unused]
  | @push _ g' e hg' =>
    rw [hold (by simp), hk.passed o i g' hg', Gate.call?_push]
    split_ifs with hi
    · subst i
      simp [Stage.passed]
    · rfl
  | @live _ g' m hg' => exact (hold (by simp)).trans (hk.passed o i g' hg')
  | @advance _ i' g' d _ hg' hd =>
    obtain ⟨e, s, s', hc, ht, hturned⟩ := (hk.orderly o g' hg').silent.turn_of_advance? hd
    rw [hturned.call? hc i]
    by_cases hi : i' = i
    · subst i'
      rw [mem_admitted_cons, admits?_eq_some, hk.passed o i g' hg']
      simp [hc, hg', Gate.stage?_of_call hc, ht.passed_eq]
    · rw [if_neg hi, hold (by simp [hi]), hk.passed o i g' hg']

theorem step (hk : Keeps past t) (hm : t.move? m = some (k, a, notices)) :
    Keeps ((t, m) :: past) k := by
  have hs := step_of_move? hm
  exact ⟨hk.step_balance hm, hs.owned hk.owned, hk.step_receiver hs, hk.step_reading hm,
    fun _ _ => hk.step_orderly hs, hk.step_made hs, fun _ i _ => hk.step_passed hs i⟩

theorem of_trail (ht : Trail move? fresh past t) : Keeps past t := by
  induction ht with
  | start => exact start
  | step _ hm ih => exact ih.step hm

end Keeps

/-! ## The calls -/

theorem Step.others (hk : Keeps past t) (hs : t.Step m k a) {o i : Nat} {c : Call}
    (hm : m ≠ .advance o i) (hc : t.call? o i = some c) :
    k.call? o i = some c ∨ m = .dropCallback o ∧ ∃ v, c.stage = .done v := by
  obtain ⟨g, hg, hcall⟩ := call?_eq_some.mp hc
  by_cases hdrop : m = .dropCallback o
  · subst hdrop
    cases hs with
    | dropCallback hg' hall =>
      obtain rfl := Option.some.inj (hg.symm.trans hg')
      obtain ⟨hi, -⟩ := List.getElem?_eq_some_iff.mp hcall
      have hv := hall i hi
      rw [Gate.verdict?_of_call (e := c.event) (s := c.stage) hcall] at hv
      refine .inr ⟨rfl, ?_⟩
      cases hstage : c.stage with
      | done v => exact ⟨v, rfl⟩
      | _ => simp [hstage, Stage.ended?] at hv
  · left
    obtain ⟨g', hg'⟩ := Option.ne_none_iff_exists'.mp
      (hs.gate?_ne_none hdrop (by simp [hg]))
    refine call?_eq_some.mpr ⟨g', hg', ?_⟩
    cases hs.yields hg' with
    | stay hg'' =>
      obtain rfl := Option.some.inj (hg.symm.trans hg'')
      exact hcall
    | new j l =>
      obtain ⟨ho, -⟩ := List.getElem?_eq_some_iff.mp (gate?_eq_some.mp hg)
      simp at ho
    | push e hg'' =>
      obtain rfl := Option.some.inj (hg.symm.trans hg'')
      obtain ⟨hi, -⟩ := List.getElem?_eq_some_iff.mp hcall
      rw [Gate.call?_push, if_neg (Nat.ne_of_lt hi)]
      exact hcall
    | live _ hg'' =>
      obtain rfl := Option.some.inj (hg.symm.trans hg'')
      exact hcall
    | @advance _ i' _ _ _ hg'' hd =>
      obtain rfl := Option.some.inj (hg.symm.trans hg'')
      obtain ⟨e, s, s', hc', -, hturned⟩ := (hk.orderly o g hg).silent.turn_of_advance? hd
      have hi : i' ≠ i := by
        rintro rfl
        exact hm rfl
      rw [hturned.call? hc' i, if_neg hi]
      exact hcall

theorem exists_send {j : Nat} (hj : t.hasSender j = true) (e : Event) :
    ∃ k a, t.move? (.send j e) = some (k, a, []) ∧
      (a = .failure .channelClosed ↔ t.handoff.receiver = false) ∧
      (a = .ok ↔ t.handoff.receiver = true) := by
  refine ⟨_, _, by simp only [move?, hj, if_true]; rfl, ?_⟩
  cases hr : t.handoff.receiver <;> simp [Handoff.send, hr, Answer.ofSending]

/-- The next step of a call in traffic, if it has not ended and is not in front of a gate that is
held. -/
theorem exists_advance {o i : Nat} {g : Gate} {e : Event} {s : Stage} (hg : t.gate? o = some g)
    (hc : g.calls[i]? = some ⟨e, s⟩) (hs : s.Tame) (hw : s = .waiting → g.holder = none) :
    ∃ k g' s' notices, t.move? (.advance o i) = some (k, .ofVerdict s'.ended?, notices) ∧
      k.gate? o = some g' ∧ k.call? o i = some ⟨e, s'⟩ ∧
      Gate.Turn callback e s g.lifecycle g.delivered t.handoff s' g'.lifecycle g'.delivered
        k.handoff ∧
      (s = .admitted → notices = (callback.receive t.handoff e).2.notices) := by
  obtain ⟨g', h, s', notices, hd, ht, hturned⟩ :=
    Gate.exists_turn (h := callback) hc hs hw t.handoff
  have hcall := (hturned.call? hc i).trans (if_pos rfl)
  have hgate : ({ t.setGate o g' with handoff := h } : Traffic).gate? o = some g' :=
    (gate?_set hg (some g') o).trans (if_pos rfl)
  refine ⟨{ t.setGate o g' with handoff := h }, g', s', notices, ?_, hgate,
    call?_eq_some.mpr ⟨g', hgate, hcall⟩, ht, ?_⟩
  · simp [move?, hg, hd, Gate.verdict?_of_call hcall]
  · rintro rfl
    exact (Prod.mk.inj (Option.some.inj (hd.symm.trans (Gate.advance?_of_admitted hc _)))).2

/-- A call that has looked while its bridge ran goes on. -/
theorem onward_of_passed {o i : Nat} {g : Gate} {e : Event} {s : Stage} (hg : t.gate? o = some g)
    (hord : g.Orderly) (hc : g.calls[i]? = some ⟨e, s⟩) (hp : s.passed = true) :
    t.Onward o i e s := by
  have hnext (hs : s.Tame) := exists_advance hg hc hs (by rintro rfl; simp [Stage.passed] at hp)
  rcases hord.of_passed hc hp with rfl | rfl | rfl | rfl | rfl
  · obtain ⟨k, g', s', notices, hm, -, hcall, ht, hnotices⟩ := hnext trivial
    obtain ⟨rfl, -, hhost⟩ := ht.of_admitted
    obtain ⟨hacts, hpanics⟩ := silent_callback t.handoff e
    rw [hacts, hpanics] at hcall
    rw [receive_callback] at hhost
    refine .enter hm hcall hhost fun hr => ⟨?_, ?_⟩
    · rw [hhost, send_eq_of_receiver hr]
    · rw [hnotices rfl]
      simp [callback, send_eq_of_receiver hr]
  · obtain ⟨k, g', s', notices, hm, -, hcall, ht, -⟩ := hnext (by simp [Stage.Tame])
    obtain ⟨rfl, -, hhost⟩ := ht.of_inside
    exact .leave hm hcall hhost
  · obtain ⟨k, g', s', notices, hm, hg', hcall, ht, -⟩ := hnext trivial
    obtain ⟨rfl, hdelivered, hhost⟩ := ht.of_returned
    exact .count hm hcall hhost hg hg' hdelivered
  · obtain ⟨k, g', s', notices, hm, -, hcall, ht, -⟩ := hnext trivial
    obtain ⟨rfl, -, hhost⟩ := ht.of_counted
    exact .answer hm hcall hhost
  · exact .ended

theorem onward {o i : Nat} {g : Gate} {e : Event} {s : Stage} (hg : t.gate? o = some g)
    (hord : g.Orderly) (hc : g.calls[i]? = some ⟨e, s⟩)
    (hs : s.passed = true ∨ s = .holding ∧ g.lifecycle.phase = .running ∨
      s = .waiting ∧ g.holder = none) : t.Onward o i e s := by
  rcases hs with hp | ⟨rfl, hrun⟩ | ⟨rfl, hfree⟩
  · exact onward_of_passed hg hord hc hp
  · obtain ⟨k, g', s', notices, hm, -, hcall, ht, -⟩ := exists_advance hg hc trivial (by simp)
    obtain ⟨rfl, hhost⟩ := ht.of_holding hrun
    exact .look hm hcall hhost
  · obtain ⟨k, g', s', notices, hm, -, hcall, ht, -⟩ :=
      exists_advance hg hc trivial (fun _ => hfree)
    obtain ⟨rfl, hhost⟩ := ht.of_waiting
    exact .acquire hm hcall hhost

theorem Answer.ofVerdict_eq_returned {v : Option Verdict} {b : Bool} :
    ofVerdict v = returned b ↔ v = some (if b then .delivered else .dropped) := by
  cases v with
  | none => simp [ofVerdict]
  | some v => cases v <;> cases b <;> simp [ofVerdict]

/-- What handing over an event answers tells what its look has found. -/
theorem Step.returns (hk : Keeps past t) {o i : Nat} (hs : t.Step (.advance o i) k a) {b : Bool}
    (ha : a = .returned b) : b = true ↔ (o, i) ∈ admitted past := by
  cases hs with
  | @advance _ _ g d _ hg hd =>
    obtain ⟨e, s, s', hc, ht, hturned⟩ := (hk.orderly o g hg).silent.turn_of_advance? hd
    have hcall := (hturned.call? hc i).trans (if_pos rfl)
    rw [Gate.verdict?_of_call hcall, Answer.ofVerdict_eq_returned] at ha
    cases s' with
    | done v =>
      obtain rfl := Option.some.inj ha
      obtain ⟨hv, -⟩ := ht.of_done
      rw [hk.passed o i g hg]
      cases s with
      | counted | refused | unwinding => cases b <;> simp_all [Stage.verdict?, Stage.passed]
      | _ => simp [Stage.verdict?] at hv
    | _ => simp [Stage.ended?] at ha

/-- Events are conserved in every run of senders, callbacks and the receiver, at every moment. -/
theorem conservation (ht : Trail move? fresh past t) : Conserves past t := by
  have hk := Keeps.of_trail ht
  refine {
    balance := hk.balance
    receiver := hk.receiver
    vain := ?_
    wait := fun hfree => ends_of_wait hfree
    closed := ?_
    send := fun j e hj => exists_send hj e
    passed := hk.passed
    onward := fun o i g e s hg hc hs => onward hg (hk.orderly o g hg) hc hs
    others := fun m k a notices hm o i c hne hc => (step_of_move? hm).others hk hne hc
    returns := fun o i k b notices hm => (step_of_move? hm).returns hk rfl
    counter := fun o g hg => (hk.orderly o g hg).counter }
  · intro m k a notices hm ha
    obtain ⟨hsame, hbusy⟩ := (step_of_move? hm).vain ha
    exact ⟨hsame, fun htime => (hk.reading (hbusy htime)).2⟩
  · intro k a notices hm ha
    obtain ⟨hbusy, hqueue, hsenders⟩ := (step_of_move? hm).closed ha
    obtain ⟨hnone, hgates⟩ := hk.owned.gone hsenders
    refine ⟨hnone, hgates, hqueue, ?_⟩
    have hbalance := hk.balance (hk.reading hbusy).1
    rwa [hqueue, List.append_nil] at hbalance

/-- Two events, of a sender and of a callback, are received in the order in which they were sent;
a wait is in vain; then the receiver goes, a sender is told so, and the callback is called once
more. -/
theorem conservation_until_receiver_gone : ∃ past t, Trail move? fresh past t ∧
    received past = [⟨"b", 2⟩, ⟨"a", 1⟩] ∧
    sent past = [⟨"b", 2⟩, ⟨"a", 1⟩, ⟨"c", 3⟩, ⟨"d", 4⟩] ∧ admitted past = [(0, 0), (0, 1)] ∧
    t.handoff.receiver = false ∧ Conserves past t := by
  have ht : Trail move? fresh _ _ := Trail.of_isSome
    ([.cloneSender 0, .intoCallback 0 ⟨.running, [], 0⟩, .dispatch 0 ⟨"a", 1⟩,
      .send 1 ⟨"b", 2⟩, .advance 0 0, .advance 0 0, .tryReceive, .advance 0 0, .wait 1, .read,
      .wait 1, .read, .tick, .read, .dropReceiver, .send 1 ⟨"c", 3⟩, .advance 0 0, .advance 0 0,
      .advance 0 0, .dispatch 0 ⟨"d", 4⟩] ++ List.replicate 6 (.advance 0 1))
    (by decide +kernel)
  exact ⟨_, _, ht, by decide +kernel, by decide +kernel, by decide +kernel, by decide +kernel,
    conservation ht⟩

end OpenUrl.Handoff.Traffic
