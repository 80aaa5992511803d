import OpenUrl.Handoff.Traffic
import OpenUrl.Proofs.Gate.Serial
import OpenUrl.Proofs.Handoff.Queue

/-!
# The steps of the traffic on a hand-off

`Step` says once what each move does and answers. From it follows what a step does to the queue
(`Step.flow`), to the receiver, to those who hold a sender, and to the gates.
-/
namespace OpenUrl.Handoff

/-- Whether the receiver is about to look for an event. -/
def Reading.looks : Reading → Bool
  | receiving | waiting _ _ => true
  | _ => false

namespace Traffic

variable {t k : Traffic} {m : Move} {a : Answer}

/-- What a move does and answers, if it is possible. -/
inductive Step (t : Traffic) : Move → Traffic → Answer → Prop
  | send {j : Nat} (e : Event) : t.hasSender j = true →
      Step t (.send j e) { t with handoff := (t.handoff.send e).2 }
        (.ofSending (t.handoff.send e).1)
  | cloneSender {j : Nat} : t.hasSender j = true →
      Step t (.cloneSender j)
        { t with handoff := t.handoff.addSender, senders := t.senders ++ [true] } .ok
  | dropSender {j : Nat} : t.hasSender j = true →
      Step t (.dropSender j)
        { t with handoff := t.handoff.dropSender, senders := t.senders.set j false } .ok
  | intoCallback {j : Nat} (l : Lifecycle) : t.hasSender j = true →
      Step t (.intoCallback j l)
        { t with senders := t.senders.set j false, gates := t.gates ++ [some (.unused l)] } .ok
  | dispatch {o : Nat} {g : Gate} (e : Event) : t.gate? o = some g →
      Step t (.dispatch o e) (t.setGate o (g.push e)) .pending
  | advance {o i : Nat} {g : Gate} {d : Delivery Handoff} {notices : List Log.Notice} :
      t.gate? o = some g → Delivery.advance? callback ⟨g, t.handoff⟩ i = some (d, notices) →
      Step t (.advance o i) { t.setGate o d.gate with handoff := d.host }
        (.ofVerdict (d.gate.verdict? i))
  | life {o : Nat} {g : Gate} (m : Lifecycle.Move) : t.gate? o = some g →
      Step t (.life o m) (t.setGate o (g.live m).1) .ok
  | dropCallback {o : Nat} {g : Gate} : t.gate? o = some g →
      (∀ i, i < g.calls.length → (g.verdict? i).isSome = true) →
      Step t (.dropCallback o)
        { t with handoff := t.handoff.dropSender, gates := t.gates.set o none } .ok
  | take {e : Event} {h : Handoff} : t.isFree = true → t.handoff.look = (.event e, h) →
      Step t .tryReceive { t with handoff := h } (.event e)
  | lack : t.isFree = true → t.handoff.queue = [] → Step t .tryReceive t .nothing
  | receive : t.isFree = true → Step t .receive { t with reading := .receiving } .pending
  | wait (timeout : Nat) : t.isFree = true →
      Step t (.wait timeout) { t with reading := .waiting timeout (t.clock + timeout) } .pending
  | hear {e : Event} {h : Handoff} : t.reading.looks = true → t.handoff.look = (.event e, h) →
      Step t .read { t with handoff := h, reading := .free } (.event e)
  | close {a : Answer} : t.reading.looks = true → t.handoff.queue = [] → t.handoff.senders = 0 →
      a = .closed ∨ a = .failure .channelClosed → Step t .read { t with reading := .free } a
  | miss {r : Reading} : t.reading.looks = true → Step t .read { t with reading := r } .pending
  | timeOut {timeout wake : Nat} : t.reading = .doubting timeout wake → wake ≤ t.clock →
      Step t .read { t with reading := .free } (.failure .waitTimeout)
  | goOn {timeout wake : Nat} : t.reading = .doubting timeout wake → t.clock < wake →
      Step t .read { t with reading := .waiting timeout wake } .pending
  | abandon : t.reading ≠ .free → Step t .abandon { t with reading := .free } .ok
  | dropReceiver : t.isFree = true →
      Step t .dropReceiver { t with handoff := t.handoff.dropReceiver } .ok
  | tick : Step t .tick { t with clock := t.clock + 1 } .ok

theorem step_of_read? {notices : List Log.Notice} (hm : t.read? = some (k, a, notices)) :
    t.Step .read k a := by
  unfold read? at hm
  cases hr : t.reading with
  | free => simp [hr] at hm
  | receiving | waiting =>
    have hlooks : t.reading.looks = true := by rw [hr]; rfl
    simp only [hr] at hm
    split at hm
    · rename_i hlook
      obtain ⟨rfl, rfl, -⟩ := by simpa using hm
      exact .hear hlooks hlook
    · rename_i hlook
      obtain ⟨hq, hs, rfl⟩ := look_eq_closed.mp hlook
      obtain ⟨rfl, rfl, -⟩ := by simpa using hm
      exact .close hlooks hq hs (by simp)
    · rename_i hlook
      obtain ⟨-, -, rfl⟩ := look_eq_pending.mp hlook
      obtain ⟨rfl, rfl, -⟩ := by simpa using hm
      exact .miss hlooks
  | doubting timeout wake =>
    simp only [hr] at hm
    split_ifs at hm with htime
    · obtain ⟨rfl, rfl, -⟩ := by simpa using hm
      exact .timeOut hr htime
    · obtain ⟨rfl, rfl, -⟩ := by simpa using hm
      exact .goOn hr (by omega)

theorem step_of_move? {notices : List Log.Notice} (hm : t.move? m = some (k, a, notices)) :
    t.Step m k a := by
  cases m with
  | send j e =>
    obtain ⟨hj, rfl, rfl, -⟩ := by simpa [move?] using hm
    exact .send e hj
  | cloneSender j =>
    obtain ⟨hj, rfl, rfl, -⟩ := by simpa [move?] using hm
    exact .cloneSender hj
  | dropSender j =>
    obtain ⟨hj, rfl, rfl, -⟩ := by simpa [move?] using hm
    exact .dropSender hj
  | intoCallback j l =>
    obtain ⟨hj, rfl, rfl, -⟩ := by simpa [move?] using hm
    exact .intoCallback l hj
  | dispatch o e =>
    obtain ⟨g, hg, rfl, rfl, -⟩ := by simpa [move?, Option.bind_eq_some_iff] using hm
    exact .dispatch e hg
  | advance o i =>
    simp only [move?, Option.bind_eq_bind, Option.bind_eq_some_iff] at hm
    obtain ⟨g, hg, ⟨d, n⟩, hd, heq⟩ := hm
    obtain ⟨rfl, rfl, -⟩ := by simpa using heq
    exact .advance hg hd
  | life o m =>
    obtain ⟨g, hg, rfl, rfl, -⟩ := by simpa [move?, Option.bind_eq_some_iff] using hm
    exact .life m hg
  | dropCallback o =>
    obtain ⟨g, hg, hall, rfl, rfl, -⟩ := by simpa [move?, Option.bind_eq_some_iff] using hm
    exact .dropCallback hg hall
  | tryReceive =>
    simp only [move?] at hm
    split_ifs at hm with hfree
    split at hm
    · rename_i hlook
      obtain ⟨rfl, rfl, -⟩ := by simpa using hm
      exact .take hfree (tryReceive_eq_event.mp hlook)
    · rename_i hlook
      obtain ⟨hq, rfl⟩ := tryReceive_eq_none.mp hlook
      obtain ⟨rfl, rfl, -⟩ := by simpa using hm
      exact .lack hfree hq
  | receive =>
    obtain ⟨hfree, rfl, rfl, -⟩ := by simpa [move?] using hm
    exact .receive hfree
  | wait timeout =>
    obtain ⟨hfree, rfl, rfl, -⟩ := by simpa [move?] using hm
    exact .wait timeout hfree
  | read => exact step_of_read? hm
  | abandon =>
    obtain ⟨hreading, rfl, rfl, -⟩ := by simpa [move?] using hm
    exact .abandon hreading
  | dropReceiver =>
    obtain ⟨hfree, rfl, rfl, -⟩ := by simpa [move?] using hm
    exact .dropReceiver hfree
  | tick =>
    obtain ⟨rfl, rfl, -⟩ := by simpa [move?] using hm
    exact .tick

/-! ## The gates -/

theorem gate?_eq_some {o : Nat} {g : Gate} : t.gate? o = some g ↔ t.gates[o]? = some (some g) := by
  simp [gate?, Option.join_eq_some_iff]

theorem gate?_set {o : Nat} {g : Gate} (hg : t.gate? o = some g) (new : Option Gate) (o' : Nat) :
    ((t.gates.set o new)[o']?).join = if o = o' then new else t.gate? o' := by
  obtain ⟨ho, -⟩ := List.getElem?_eq_some_iff.mp (gate?_eq_some.mp hg)
  rw [List.getElem?_set]
  split_ifs <;> rfl

/-- What a step has made of a gate that is there after it. -/
inductive Yields (t : Traffic) : Move → Nat → Gate → Prop
  | stay {m : Move} {o : Nat} {g : Gate} : t.gate? o = some g → (∀ i, m ≠ .advance o i) →
      Yields t m o g
  | new (j : Nat) (l : Lifecycle) : Yields t (.intoCallback j l) t.gates.length (.unused l)
  | push {o : Nat} {g : Gate} (e : Event) : t.gate? o = some g →
      Yields t (.dispatch o e) o (g.push e)
  | live {o : Nat} {g : Gate} (m : Lifecycle.Move) : t.gate? o = some g →
      Yields t (.life o m) o (g.live m).1
  | advance {o i : Nat} {g : Gate} {d : Delivery Handoff} {notices : List Log.Notice} :
      t.gate? o = some g → Delivery.advance? callback ⟨g, t.handoff⟩ i = some (d, notices) →
      Yields t (.advance o i) o d.gate

theorem Step.yields (hs : t.Step m k a) {o : Nat} {g : Gate} (hg : k.gate? o = some g) :
    t.Yields m o g := by
  cases hs with
  | intoCallback l hj =>
    simp only [gate?, List.getElem?_append] at hg
    split_ifs at hg with ho
    · exact .stay hg (by simp)
    · obtain rfl : o = t.gates.length := by
        by_contra hne
        rw [List.getElem?_eq_none (by simp; omega)] at hg
        simp at hg
      obtain rfl : Gate.unused l = g := by simpa using hg
      exact .new _ l
  | @dispatch o' g' e hg' =>
    have heq := (gate?_set hg' (g'.push e) o).symm.trans hg
    split_ifs at heq with ho
    · obtain rfl := Option.some.inj heq
      subst ho
      exact .push e hg'
    · exact .stay heq (by simp)
  | @advance o' i g' d n hg' hd =>
    have heq := (gate?_set hg' d.gate o).symm.trans hg
    split_ifs at heq with ho
    · obtain rfl := Option.some.inj heq
      subst ho
      exact .advance hg' hd
    · exact .stay heq (by simp [ho])
  | @life o' g' m hg' =>
    have heq := (gate?_set hg' (g'.live m).1 o).symm.trans hg
    split_ifs at heq with ho
    · obtain rfl := Option.some.inj heq
      subst ho
      exact .live m hg'
    · exact .stay heq (by simp)
  | @dropCallback o' g' hg' =>
    have heq := (gate?_set hg' none o).symm.trans hg
    split_ifs at heq with ho
    exact .stay heq (by simp)
  | _ => exact .stay hg (by simp)

/-- A gate stays until it is dropped. -/
theorem Step.gate?_ne_none (hs : t.Step m k a) {o : Nat} (hm : m ≠ .dropCallback o)
    (ho : t.gate? o ≠ none) : k.gate? o ≠ none := by
  have hset (o' : Nat) (g : Gate) : (if o' = o then some g else t.gate? o) ≠ none := by
    split_ifs
    · simp
    · exact ho
  cases hs with
  | intoCallback l hj =>
    have hlt : o < t.gates.length := by
      by_contra hge
      exact ho (by simp [gate?, List.getElem?_eq_none (Nat.not_lt.mp hge)])
    simpa only [gate?, List.getElem?_append_left hlt] using ho
  | dispatch e hg => exact (gate?_set hg _ o).trans_ne (hset _ _)
  | advance hg hd => exact (gate?_set hg _ o).trans_ne (hset _ _)
  | life m hg => exact (gate?_set hg _ o).trans_ne (hset _ _)
  | @dropCallback o' g' hg =>
    have hne : o' ≠ o := fun h => hm (by rw [h])
    exact (gate?_set hg none o).trans_ne (by rwa [if_neg hne])
  | _ => exact ho

/-! ## What is sent and received -/

/-- The event that an answer hands out. -/
def Answer.event? : Answer → Option Event
  | event e => some e
  | _ => none

@[simp] theorem Answer.event?_ofSending (outcome : Outcome Unit) :
    (ofSending outcome).event? = none := by
  cases outcome <;> rfl

@[simp] theorem Answer.event?_ofVerdict (v : Option Verdict) : (ofVerdict v).event? = none := by
  cases v with
  | none => rfl
  | some v => cases v <;> rfl

/-- The event that a move sends: itself, or in the callback of a call that has looked while its
bridge ran. -/
def sent? (t : Traffic) : Move → Option Event
  | .send _ e => some e
  | .advance o i => (t.call? o i).bind fun c => if c.stage = .admitted then some c.event else none
  | _ => none

/-- The event that a move receives. -/
def received? (t : Traffic) (m : Move) : Option Event := (t.move? m).bind fun r => r.2.1.event?

theorem received?_eq {notices : List Log.Notice} (hm : t.move? m = some (k, a, notices)) :
    received? t m = a.event? := by
  simp [received?, hm]

theorem Step.receiver_eq (hs : t.Step m k a) (hm : m ≠ .dropReceiver) :
    k.handoff.receiver = t.handoff.receiver := by
  cases hs with
  | advance hg hd =>
    obtain ⟨c, -, hhost⟩ := Gate.advance?_host hd
    rw [hhost]
    split_ifs <;> simp
  | send | dropSender | dropCallback => simp
  | take _ hlook | hear _ hlook => rw [(look_eq_event.mp hlook).2]
  | dropReceiver => exact absurd rfl hm
  | _ => rfl

/-- Events leave the queue at its head and enter it at its end. -/
theorem Step.flow (hs : t.Step m k a) (hr : k.handoff.receiver = true) :
    a.event?.toList ++ k.handoff.queue = t.handoff.queue ++ (sent? t m).toList := by
  have hreceiver (hm : m ≠ .dropReceiver) : t.handoff.receiver = true :=
    (hs.receiver_eq hm).symm.trans hr
  cases hs with
  | send e => simp [sent?, queue_send (hreceiver (by simp))]
  | @advance o i g d _ hg hd =>
    obtain ⟨c, hc, hhost⟩ := Gate.advance?_host hd
    have hcall : t.call? o i = some c := by rw [call?, hg]; exact hc
    simp only [Answer.event?_ofVerdict, sent?, hcall, hhost]
    by_cases hstage : c.stage = .admitted
    · simp [hstage, queue_send (hreceiver (by simp))]
    · simp [hstage]
  | take _ hlook | hear _ hlook =>
    simp [Answer.event?, sent?, (look_eq_event.mp hlook).1]
  | dropReceiver => simp at hr
  | close _ _ _ ha =>
    rcases ha with rfl | rfl
    · simp [Answer.event?, sent?]
    · simp [Answer.event?, sent?]
  | _ => simp [Answer.event?, sent?, setGate, addSender]

/-! ## Who holds a sender -/

/-- The senders are those that are there and those in the callbacks that are there. -/
def Owned (t : Traffic) : Prop :=
  t.handoff.senders = t.senders.countP id + t.gates.countP Option.isSome

theorem hasSender_eq_true {j : Nat} : t.hasSender j = true ↔ t.senders[j]? = some true := by
  cases h : t.senders[j]? <;> simp [hasSender, h]

theorem Step.owned (hs : t.Step m k a) (ht : t.Owned) : k.Owned := by
  have hset {j : Nat} (hj : t.hasSender j = true) :
      (t.senders.set j false).countP id + 1 = t.senders.countP id :=
    countP_set_add (p := id) (b := false) (hasSender_eq_true.mp hj)
  have hgate {o : Nat} {g : Gate} (hg : t.gate? o = some g) (new : Option Gate) :
      (t.gates.set o new).countP Option.isSome + 1 =
        t.gates.countP Option.isSome + new.isSome.toNat :=
    countP_set_add (p := Option.isSome) (b := new) (gate?_eq_some.mp hg)
  have hsame {o : Nat} {g : Gate} (hg : t.gate? o = some g) (g' : Gate) :
      (t.gates.set o (some g')).countP Option.isSome = t.gates.countP Option.isSome :=
    Nat.add_right_cancel (hgate hg (some g'))
  unfold Owned at ht ⊢
  cases hs with
  | send => simpa using ht
  | cloneSender =>
    simp only [addSender, List.countP_append, List.countP_singleton, id, if_true]
    omega
  | dropSender hj =>
    have := hset hj
    simp only [senders_dropSender]
    omega
  | intoCallback l hj =>
    have := hset hj
    simp only [List.countP_append, List.countP_singleton, Option.isSome_some, if_true]
    omega
  | dispatch e hg | life m hg => simpa only [setGate, hsame hg] using ht
  | @advance o i g d _ hg hd =>
    obtain ⟨c, -, hhost⟩ := Gate.advance?_host hd
    have hsenders : d.host.senders = t.handoff.senders := by
      rw [hhost]
      split_ifs <;> simp
    simpa only [setGate, hsame hg, hsenders] using ht
  | dropCallback hg =>
    have := hgate hg none
    simp only [senders_dropSender, Option.isSome_none, Bool.toNat_false] at this ⊢
    omega
  | take _ hlook | hear _ hlook =>
    rw [(look_eq_event.mp hlook).2]
    exact ht
  | _ => exact ht

/-- With no sender left, everybody who held one is gone. -/
theorem Owned.gone (ht : t.Owned) (h : t.handoff.senders = 0) :
    (∀ j, t.hasSender j = false) ∧ ∀ o, t.gate? o = none := by
  rw [Owned, h] at ht
  have hsenders : t.senders.countP id = 0 := by omega
  have hgates : t.gates.countP Option.isSome = 0 := by omega
  constructor
  · intro j
    rw [Bool.eq_false_iff, ne_eq, hasSender_eq_true]
    intro hj
    exact List.countP_eq_zero.mp hsenders true (List.mem_of_getElem? hj) rfl
  · intro o
    cases hg : t.gate? o with
    | none => rfl
    | some g =>
      have hmem := List.mem_of_getElem? (gate?_eq_some.mp hg)
      exact absurd rfl (List.countP_eq_zero.mp hgates _ hmem)

end Traffic

end OpenUrl.Handoff
