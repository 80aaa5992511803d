import OpenUrl.Proofs.Desktop.Launch

/-!
# Who holds the slot

The slot has at most one owner, and a bridge that has not been dropped is that owner. So there is
at most one such bridge, and while the main thread is busy nobody else's use of the slot has an
effect: the slot cannot be claimed, and the guard of the bridge is not given away.
-/
namespace OpenUrl.Desktop

open OpenUrl.Log (Notice)

namespace State

/-- The guards of the bridges, and whether their bridges are still there. -/
def claims (p : State) : List (Nat × Bool) := p.bridges.map fun x => (x.claim, x.alive)

@[simp] theorem claims_setGate (p : State) (b : Nat) (g : Gate) :
    (p.setGate b g).claims = p.claims := by
  refine List.ext_getElem? fun i => ?_
  simp only [claims, setGate, List.getElem?_map, List.getElem?_modify]
  split <;> cases p.bridges[i]? <;> rfl

@[simp] theorem claims_stop (p : State) (b : Nat) : (p.stop b).2.1.claims = p.claims := by
  cases hg : p.gate? b with
  | none => simp [stop, live, hg]
  | some g => simp [stop_eq hg]

theorem claims_of_alive {p : State} {b : Nat} (h : (p.bridges[b]?).any Bridge.alive = true) :
    ∃ guard, p.claims[b]? = some (guard, true) := by
  obtain ⟨x, hx, halive⟩ := (Option.any_eq_true _ _).mp h
  exact ⟨x.claim, by simp [claims, hx, halive]⟩

theorem exists_gate_of_claims {p : State} {b guard : Nat} {alive : Bool}
    (h : p.claims[b]? = some (guard, alive)) : ∃ g, p.gate? b = some g := by
  simp only [claims, List.getElem?_map] at h
  obtain ⟨x, hx, -⟩ := Option.map_eq_some_iff.mp h
  exact ⟨x.gate, by simp [gate?, hx]⟩

theorem holds_of_claims {p : State} {b guard : Nat} (h : p.claims[b]? = some (guard, true)) :
    p.holds guard = true := by
  simp only [claims, List.getElem?_map] at h
  obtain ⟨x, hx, heq⟩ := Option.map_eq_some_iff.mp h
  obtain ⟨rfl, halive⟩ := Prod.mk.inj heq
  exact List.any_eq_true.mpr ⟨x, List.mem_of_getElem? hx, by simp [halive]⟩

/-- The slot has the given owner, and every bridge that is there holds the owner's guard. -/
structure Owned (p : State) (owner : Option Nat) : Prop where
  guards : p.slot.guards = owner.toList
  claimed : p.slot.claimed = owner.isSome
  bridge : ∀ b guard : Nat, p.claims[b]? = some (guard, true) → owner = some guard
  alone : ∀ b c guard guard' : Nat, p.claims[b]? = some (guard, true) →
    p.claims[c]? = some (guard', true) → b = c

theorem owned_fresh (scriptEnd : ScriptEnd) : (fresh scriptEnd).Owned none :=
  ⟨rfl, rfl, by simp [fresh, claims], by simp [fresh, claims]⟩

namespace Owned

variable {p p' : State} {owner : Option Nat} {guard : Nat}

/-- Only the slot and the claims matter. -/
theorem congr (ho : p.Owned owner) (hs : p'.slot = p.slot) (hc : p'.claims = p.claims) :
    p'.Owned owner := by
  refine ⟨hs ▸ ho.guards, hs ▸ ho.claimed, ?_, ?_⟩
  · rw [hc]
    exact ho.bridge
  · rw [hc]
    exact ho.alone

/-- A slot that has an owner is not claimed again. -/
theorem claim_eq (ho : p.Owned (some guard)) :
    p.slot.claim = (.error .alreadyClaimed, p.slot, [.slotTaken]) := by
  simp [Slot.claim, ho.claimed]

theorem newBridge_eq (ho : p.Owned (some guard)) (poll : UInt64) :
    (p.newBridge poll).2.1 = p := by
  simp [newBridge, ho.claim_eq]

theorem newBridge (ho : p.Owned owner) (poll : UInt64) :
    ∃ owner', (p.newBridge poll).2.1.Owned owner' := by
  cases owner with
  | some guard =>
    rw [ho.newBridge_eq]
    exact ⟨_, ho⟩
  | none =>
    have hfree : p.slot.claimed = false := ho.claimed
    have hguards : p.slot.guards = [] := ho.guards
    have hnone : ∀ c guard : Nat, p.claims[c]? ≠ some (guard, true) :=
      fun c guard h => Option.some_ne_none _ (ho.bridge c guard h).symm
    have hclaims : (p.newBridge poll).2.1.claims = p.claims ++ [(p.slot.issued, true)] := by
      simp [State.newBridge, Slot.claim, hfree, claims]
    -- the new bridge is the only one that is there
    have hlast {c guard : Nat} (h : (p.newBridge poll).2.1.claims[c]? = some (guard, true)) :
        c = p.claims.length ∧ guard = p.slot.issued := by
      rw [hclaims] at h
      rcases Nat.lt_trichotomy c p.claims.length with hc | rfl | hc
      · rw [List.getElem?_append_left hc] at h
        exact absurd h (hnone c guard)
      · exact ⟨rfl, by simpa [eq_comm] using h⟩
      · rw [List.getElem?_eq_none (by rw [List.length_append]; exact hc)] at h
        simp at h
    refine ⟨some p.slot.issued, ?_, ?_, ?_, ?_⟩
    · simp [State.newBridge, Slot.claim, hfree, hguards]
    · simp [State.newBridge, Slot.claim, hfree]
    · intro c guard h
      rw [(hlast h).2]
    · intro c d guard guard' h h'
      rw [(hlast h).1, (hlast h').1]

theorem drop_owner (ho : p.Owned (some guard)) :
    (p.slot.drop guard).2.1 = ⟨false, [], p.slot.issued⟩ := by
  have hguards : p.slot.guards = [guard] := ho.guards
  simp [Slot.drop, hguards]

/-- Nobody else can drop the owner's guard. -/
theorem drop_ne (ho : p.Owned owner) {g : Nat} (hne : owner ≠ some g) :
    (p.slot.drop g).2.1 = p.slot := by
  have hnot : g ∉ p.slot.guards := by
    rw [ho.guards, Option.mem_toList]
    exact hne
  simp [Slot.drop, hnot]

theorem dropBridge (ho : p.Owned owner) (b : Nat) :
    ∃ owner', (p.dropBridge b).2.1.Owned owner' := by
  cases hx : p.bridges[b]? with
  | none =>
    have heq : (p.dropBridge b).2.1 = p := by simp [State.dropBridge, hx]
    rw [heq]
    exact ⟨owner, ho⟩
  | some x =>
    cases halive : x.alive with
    | false =>
      have heq : (p.dropBridge b).2.1 = p := by simp [State.dropBridge, hx, halive]
      rw [heq]
      exact ⟨owner, ho⟩
    | true =>
      have hb : p.claims[b]? = some (x.claim, true) := by simp [claims, hx, halive]
      obtain rfl := ho.bridge b _ hb
      have hslot : (p.dropBridge b).2.1.slot = ⟨false, [], p.slot.issued⟩ := by
        rw [← ho.drop_owner]
        simp [State.dropBridge, hx, halive]
      have hnone : ∀ c guard : Nat, (p.dropBridge b).2.1.claims[c]? ≠ some (guard, true) := by
        intro c guard h
        simp only [State.dropBridge, hx, halive, if_true, claims, List.getElem?_map,
          List.getElem?_modify] at h
        by_cases hc : b = c
        · subst c
          simp [hx] at h
        · simp only [if_neg hc] at h
          refine hc (ho.alone b c _ guard hb ?_)
          simpa [claims] using h
      refine ⟨none, by rw [hslot]; rfl, by rw [hslot]; rfl, ?_, ?_⟩
      · exact fun c guard h => absurd h (hnone c guard)
      · exact fun c _ guard _ h => absurd h (hnone c guard)

/-- Others use the slot. -/
theorem slotStep (ho : p.Owned owner) {move : Slot.Move} {notices : List Notice}
    (hp : p.slotStep? move = some (p', notices)) : ∃ owner', p'.Owned owner' := by
  cases move with
  | claim =>
    obtain ⟨rfl, -⟩ := by simpa [slotStep?] using hp
    cases owner with
    | some guard =>
      refine ⟨some guard, ho.congr ?_ rfl⟩
      simp [Slot.step, ho.claim_eq]
    | none =>
      have hfree : p.slot.claimed = false := ho.claimed
      have hguards : p.slot.guards = [] := ho.guards
      refine ⟨some p.slot.issued, ?_, ?_, ?_, ho.alone⟩
      · simp [Slot.step, Slot.claim, hfree, hguards]
      · simp [Slot.step, Slot.claim, hfree]
      · intro b guard h
        have hnone := ho.bridge b guard h
        simp at hnone
  | drop g =>
    simp only [slotStep?] at hp
    split_ifs at hp with hholds
    obtain ⟨rfl, -⟩ := by simpa using hp
    by_cases heq : owner = some g
    · subst owner
      refine ⟨none, ?_, ?_, ?_, ho.alone⟩
      · simp [Slot.step, ho.drop_owner]
      · simp [Slot.step, ho.drop_owner]
      · intro b guard h
        obtain rfl : g = guard := Option.some.inj (ho.bridge b guard h)
        exact absurd (holds_of_claims h) hholds
    · exact ⟨owner, ho.congr (ho.drop_ne heq) rfl⟩

/-- While a bridge is there, nothing that others do to the slot has an effect. -/
theorem slotStep_eq (ho : p.Owned (some guard)) (hholds : p.holds guard = true)
    {move : Slot.Move} {notices : List Notice}
    (hp : p.slotStep? move = some (p', notices)) : p' = p := by
  cases move with
  | claim =>
    obtain ⟨rfl, -⟩ := by simpa [slotStep?] using hp
    simp [Slot.step, ho.claim_eq]
  | drop g =>
    simp only [slotStep?] at hp
    split_ifs at hp with hnot
    obtain ⟨rfl, -⟩ := by simpa using hp
    have hne : some guard ≠ some g := by
      rintro ⟨⟩
      exact hnot hholds
    simp [Slot.step, ho.drop_ne hne]

end Owned

end State

variable {σ : Type} {h : Host σ}

/-- The main thread does not touch the claims. -/
theorem Leads.claims {pl pl' : Place} {p p' : State} {s s' : σ} (hl : Leads h pl p s pl' p' s') :
    p'.slot = p.slot ∧ p'.claims = p.claims := by
  cases hl with
  | begin | stop | deliver | serve | answer | unwind | leave =>
    exact ⟨rfl, State.claims_setGate _ _ _⟩
  | _ => exact ⟨rfl, rfl⟩

namespace Machine

variable {m n : Machine σ} {pl : Place}

theorem slotStep?_of_move? {move : Slot.Move} {v : Visible}
    (hn : m.move? h (.slot move) = some (n, v)) :
    ∃ notices, m.state.slotStep? move = some (n.state, notices) := by
  simp only [move?, Option.bind_eq_bind, Option.bind_eq_some_iff] at hn
  obtain ⟨⟨p, notices⟩, hp, hn⟩ := hn
  obtain ⟨rfl, -⟩ := by simpa using hn
  exact ⟨notices, hp⟩

/-- Whatever happens, the slot has at most one owner. -/
theorem At.owned (hm : m.At pl) (hh : h.OnlyStops) {owner : Option Nat}
    (ho : m.state.Owned owner) {move : Move} {v : Visible} (hn : m.move? h move = some (n, v)) :
    ∃ owner', n.state.Owned owner' := by
  obtain ⟨pl', hmoves⟩ := hm.moves hh hn
  cases hmoves with
  | main hl => exact ⟨owner, ho.congr hl.claims.1 hl.claims.2⟩
  | stop b =>
    refine ⟨owner, ho.congr ?_ (m.state.claims_stop b)⟩
    exact (congrArg State.slot (m.state.stop_frame b) :)
  | new poll => exact ho.newBridge poll
  | drop b => exact ho.dropBridge b
  | slot move slot =>
    obtain ⟨notices, hp⟩ := slotStep?_of_move? hn
    exact ho.slotStep hp
  | start | receive | set => exact ⟨owner, ho.congr rfl rfl⟩

theorem exists_owner (hh : h.OnlyStops) {scriptEnd : ScriptEnd} {s : σ}
    {past : List (Machine σ × Move)} (ht : Trail (move? h) (idle scriptEnd s) past m) :
    ∃ owner, m.state.Owned owner := by
  have hinv : (∃ pl, m.At pl) ∧ ∃ owner, m.state.Owned owner := by
    refine ht.invariant (P := fun m => (∃ pl, m.At pl) ∧ ∃ owner, m.state.Owned owner)
      ⟨⟨_, at_idle scriptEnd s⟩, none, State.owned_fresh scriptEnd⟩ ?_
    rintro a move b v ⟨⟨pl, ha⟩, owner, ho⟩ hb
    obtain ⟨pl', hm⟩ := ha.moves hh hb
    exact ⟨⟨pl', ha.of_moves hm⟩, ha.owned hh ho hb⟩
  exact hinv.2

/-- While the main thread is busy and a bridge is there, nobody's claim changes. -/
theorem At.claims_eq (hm : m.At pl) (hh : h.OnlyStops) (hbusy : m.agenda ≠ []) {guard b : Nat}
    (ho : m.state.Owned (some guard)) (hb : m.state.claims[b]? = some (guard, true))
    {move : Move} {v : Visible} (hn : m.move? h move = some (n, v)) :
    n.state.slot = m.state.slot ∧ n.state.claims = m.state.claims := by
  have hplace : pl ≠ .away := by
    rintro rfl
    exact hbusy hm.agenda
  obtain ⟨pl', hmoves⟩ := hm.moves hh hn
  cases hmoves with
  | main hl => exact hl.claims
  | stop c => exact ⟨(congrArg State.slot (m.state.stop_frame c) :), m.state.claims_stop c⟩
  | new poll =>
    change (m.state.newBridge poll).2.1.slot = _ ∧ (m.state.newBridge poll).2.1.claims = _
    rw [ho.newBridge_eq poll]
    exact ⟨rfl, rfl⟩
  | slot move slot =>
    obtain ⟨notices, hp⟩ := slotStep?_of_move? hn
    have heq := ho.slotStep_eq (State.holds_of_claims hb) hp
    exact ⟨congrArg State.slot heq, congrArg State.claims heq⟩
  | _ => exact absurd rfl hplace

/-- No claim changes in a start. -/
theorem At.claims_of_trail (hm : m.At pl) (hh : h.OnlyStops) {guard b : Nat}
    (ho : m.state.Owned (some guard)) (hb : m.state.claims[b]? = some (guard, true))
    {run : List (Machine σ × Move)} (ht : Trail (move? h) m run n)
    (hbusy : ∀ s ∈ run, s.1.agenda ≠ []) :
    n.state.slot = m.state.slot ∧ n.state.claims = m.state.claims := by
  have hinv : (∃ pl, n.At pl) ∧ n.state.slot = m.state.slot ∧ n.state.claims = m.state.claims := by
    induction ht with
    | start => exact ⟨⟨pl, hm⟩, rfl, rfl⟩
    | @step run a c move v _ hc ih =>
      obtain ⟨⟨pl', ha⟩, hslot, hclaims⟩ := ih fun s hs => hbusy s (List.mem_cons_of_mem _ hs)
      have hbusy' : a.agenda ≠ [] := hbusy (a, move) List.mem_cons_self
      obtain ⟨hslot', hclaims'⟩ :=
        ha.claims_eq hh hbusy' (ho.congr hslot hclaims) (hclaims ▸ hb) hc
      obtain ⟨pl'', hmoves⟩ := ha.moves hh hc
      exact ⟨⟨pl'', ha.of_moves hmoves⟩, hslot'.trans hslot, hclaims'.trans hclaims⟩
  exact hinv.2

end Machine

end OpenUrl.Desktop
