import OpenUrl.Proofs.Desktop.Claim
import OpenUrl.Proofs.Listening.Step
import OpenUrl.Slot.Traffic

/-!
# One owner of the slot

Whoever uses the slot, it has at most one owner. The release of a guard is written without a look
at the slot, and still frees nobody else's claim, since there is none. A call that listens gives
back exactly what it has claimed, whichever way it ends, and a start gives nothing back.
-/
namespace OpenUrl

open OpenUrl.Desktop
open OpenUrl.Log (Notice)

namespace Desktop

variable {σ : Type} {h : Host σ}

@[simp] theorem State.slot_live (p : State) (b : Nat) (m : Lifecycle.Move) :
    (p.live b m).1.slot = p.slot := by
  unfold live
  cases p.gate? b <;> rfl

@[simp] theorem State.claims_live (p : State) (b : Nat) (m : Lifecycle.Move) :
    (p.live b m).1.claims = p.claims := by
  unfold live
  cases p.gate? b with
  | none => rfl
  | some g => exact p.claims_setGate b _

/-- No task of a main thread touches the slot, or makes or drops a bridge. -/
theorem Machine.claims_of_step? {m n : Machine σ} {v : Visible} (hn : m.step? h = some (n, v)) :
    n.state.slot = m.state.slot ∧ n.state.claims = m.state.claims := by
  unfold step? at hn
  split at hn
  · simp at hn
  · rename_i task rest ha
    cases task with
    | «begin» b onMain =>
      simp only at hn
      split_ifs at hn with hmain
      · split at hn
        · simp at hn
        · split at hn
          · obtain ⟨rfl, -⟩ := by simpa using hn
            exact ⟨rfl, State.claims_setGate _ _ _⟩
          · obtain ⟨rfl, -⟩ := by simpa using hn
            exact ⟨rfl, rfl⟩
      · obtain ⟨rfl, -⟩ := by simpa using hn
        exact ⟨rfl, rfl⟩
    | deliver e =>
      simp only at hn
      split at hn
      · obtain ⟨rfl, -⟩ := by simpa using hn
        exact ⟨rfl, rfl⟩
      · split at hn
        · simp at hn
        · obtain ⟨rfl, -⟩ := by simpa using hn
          exact ⟨rfl, State.claims_setGate _ _ _⟩
    | serve b call =>
      simp only [serve?, Option.bind_eq_bind, Option.bind_eq_some_iff] at hn
      obtain ⟨g, -, ⟨d, notices⟩, -, hn⟩ := hn
      obtain ⟨rfl, -⟩ := by simpa using hn
      exact ⟨rfl, State.claims_setGate _ _ _⟩
    | stop b =>
      obtain ⟨rfl, -⟩ := by simpa using hn
      exact ⟨(congrArg State.slot (m.state.stop_frame b) :), m.state.claims_stop b⟩
    | finish b guard =>
      obtain ⟨rfl, -⟩ := by simpa using hn
      exact ⟨m.state.slot_live b _, m.state.claims_live b _⟩
    | duringLaunch b a =>
      cases a <;>
      · obtain ⟨rfl, -⟩ := by simpa using hn
        exact ⟨rfl, rfl⟩
    | install | launch | check | next =>
      simp only at hn
      split at hn <;>
      · obtain ⟨rfl, -⟩ := by simpa using hn
        exact ⟨rfl, rfl⟩
    | announce | launched | poison | send | uninstall | dealloc | report | conclude =>
      obtain ⟨rfl, -⟩ := by simpa using hn
      exact ⟨rfl, rfl⟩

namespace State

variable {p : State} {owner : Option Nat}

/-- The slot has no other owner than its guard. -/
theorem Owned.eq_head? (ho : p.Owned owner) : owner = p.slot.guards.head? := by
  rw [ho.guards]
  cases owner <;> rfl

/-- A free slot is claimed by a new bridge. -/
theorem newBridge_of_free (ho : p.Owned none) (poll : UInt64) :
    p.newBridge poll = (.ok p.bridges.length,
      { p with
        slot := ⟨true, [p.slot.issued], p.slot.issued + 1⟩
        bridges := p.bridges ++ [⟨.fresh, poll, p.slot.issued, true⟩] }, [.slotClaimed]) := by
  have hfree : p.slot.claimed = false := ho.claimed
  have hguards : p.slot.guards = [] := ho.guards
  simp [newBridge, Slot.claim, hfree, hguards]

/-- A new bridge is refused while the slot has an owner. -/
theorem newBridge_of_owner {g : Nat} (ho : p.Owned (some g)) (poll : UInt64) :
    p.newBridge poll = (.error .alreadyClaimed, p, [.slotTaken]) := by
  simp [newBridge, ho.claim_eq]

/-- A bridge that is made has claimed the free slot. -/
theorem newBridge_ok (ho : p.Owned owner) {poll : UInt64} {b : Nat} {p' : State}
    {notices : List Notice} (hp : p.newBridge poll = (.ok b, p', notices)) :
    owner = none ∧ p'.Owned (some p.slot.issued) ∧
      p'.claims[b]? = some (p.slot.issued, true) := by
  cases owner with
  | some g =>
    rw [newBridge_of_owner ho] at hp
    simp at hp
  | none =>
    obtain ⟨owner', ho'⟩ := ho.newBridge poll
    rw [newBridge_of_free ho] at hp ho'
    obtain ⟨rfl, rfl, -⟩ := by simpa using hp
    obtain rfl := ho'.eq_head?
    exact ⟨rfl, ho', by simp [claims]⟩

/-- A bridge that could not be made leaves nothing behind. -/
theorem newBridge_error {poll : UInt64} {f : Failure} {p' : State} {notices : List Notice}
    (hp : p.newBridge poll = (.error f, p', notices)) : p' = p := by
  unfold newBridge at hp
  split at hp
  · rename_i hclaim
    unfold Slot.claim at hclaim
    split_ifs at hclaim
    · obtain ⟨-, rfl, -⟩ := by simpa using hclaim
      obtain ⟨-, rfl, -⟩ := by simpa using hp
      rfl
    · simp at hclaim
  · simp at hp

/-- The drop of a bridge that is not there has no effect. -/
theorem dropBridge_of_gone {b : Nat} (hb : ∀ g, p.claims[b]? ≠ some (g, true)) :
    (p.dropBridge b).2.1 = p := by
  cases hx : p.bridges[b]? with
  | none => simp [dropBridge, hx]
  | some x =>
    have hgone : x.alive = false := by
      rw [← Bool.not_eq_true]
      intro halive
      exact hb x.claim (by simp [claims, hx, halive])
    simp [dropBridge, hx, hgone]

/-- The drop of a bridge that is there gives its claim back. -/
theorem dropBridge_eq {b g : Nat} (ho : p.Owned owner) (hb : p.claims[b]? = some (g, true)) :
    owner = some g ∧ (p.dropBridge b).2.1.slot = ⟨false, [], p.slot.issued⟩ ∧
      (p.dropBridge b).2.1.claims = p.claims.modify b fun c => (c.1, false) := by
  have howner := ho.bridge b g hb
  subst howner
  simp only [claims, List.getElem?_map] at hb
  obtain ⟨x, hx, heq⟩ := Option.map_eq_some_iff.mp hb
  obtain ⟨rfl, halive⟩ := Prod.mk.inj heq
  refine ⟨rfl, ?_, ?_⟩
  · rw [← ho.drop_owner]
    simp [dropBridge, hx, halive]
  · refine List.ext_getElem? fun i => ?_
    simp only [dropBridge, hx, halive, if_true, claims, List.getElem?_map, List.getElem?_modify]
    split <;> cases p.bridges[i]? <;> rfl

end State

end Desktop

namespace Listening

variable {l k : Listening} {m : Move}

/-- What a step of a call does to the slot. -/
inductive Uses (l k : Listening) : Prop
  | nothing : k.state.slot = l.state.slot → k.state.claims = l.state.claims →
      k.owned? = l.owned? → (k.main = .entering → l.main = .entering) → Uses l k
  | claim {b : Nat} {p : State} {notices : List Notice} : l.main = .entering →
      l.state.newBridge l.settings.pollInterval = (.ok b, p, notices) → k.state = p →
      k.main = .created → k.owned? = some b → Uses l k
  | release {b : Nat} : l.owned? = some b → k.state = (l.state.dropBridge b).2.1 →
      k.owned? = none → k.main ≠ .entering → Uses l k

theorem Goes.uses (hg : l.Goes m k) (hm : ∀ s, m ≠ .slot s) : l.Uses k := by
  cases hg with
  | create hl hp => exact .claim hl hp rfl rfl rfl
  | refuse hl hp =>
    obtain rfl := State.newBridge_error hp
    exact .nothing rfl rfl (by simp [owned?, hl]) (by simp)
  | task hl hstep =>
    have hclaims := Machine.claims_of_step? hstep
    exact .nothing hclaims.1 hclaims.2 rfl (fun h => h)
  | @leave e hl =>
    refine .release (b := l.bridge) (by simp [owned?, hl]) rfl ?_ ?_
    · cases e <;> rfl
    · cases e <;> simp [Listening.dropBridge, Main.after]
  | retreat hl =>
    exact .release (b := l.bridge) (by simp [owned?, hl]) rfl rfl (by simp [Listening.dropBridge])
  | stop hw =>
    refine .nothing ?_ (l.state.claims_stop _) rfl (fun h => h)
    exact (congrArg State.slot (l.state.stop_frame _) :)
  | slot => exact absurd rfl (hm _)
  | spawn hl | start hl | finish hl | join hl =>
    exact .nothing rfl rfl (by simp [owned?, hl]) (by simp)
  | noThread reason hl =>
    exact .nothing rfl rfl (by simp [owned?, hl, setHandoff]) (by simp)
  | _ => exact .nothing rfl rfl rfl (fun h => h)

/-- Whether the next step of the main thread belongs to the start of the bridge. -/
def isStarting (l : Listening) : Bool :=
  match l.main with
  | .spawned | .running => true
  | _ => false

/-- A start leaves the slot and the bridges alone, to its end. -/
theorem Goes.claims_of_isStarting (hg : l.Goes .main k) (hl : l.isStarting = true) :
    k.state.slot = l.state.slot ∧ k.state.claims = l.state.claims := by
  cases hg with
  | task _ hstep => exact Machine.claims_of_step? hstep
  | create hm | refuse hm | leave hm | retreat hm | spawn hm | join hm =>
    simp [isStarting, hm] at hl
  | _ => exact ⟨rfl, rfl⟩

end Listening

namespace Desktop

variable {σ : Type} {h : Host σ} {m n : Machine σ} {v : Visible}

/-- What a move in a process does to the slot. -/
inductive Uses (p p' : State) : Desktop.Move → Prop
  | nothing {move : Desktop.Move} : p'.slot = p.slot → p'.claims = p.claims → Uses p p' move
  | new (poll : UInt64) : p' = (p.newBridge poll).2.1 → Uses p p' (.new poll)
  | drop (b : Nat) : p' = (p.dropBridge b).2.1 → Uses p p' (.drop b)
  | slot {move : Slot.Move} {notices : List Notice} : p.slotStep? move = some (p', notices) →
      Uses p p' (.slot move)

theorem Machine.uses_of_move? {move : Desktop.Move} (hn : m.move? h move = some (n, v)) :
    Uses m.state n.state move := by
  cases move with
  | main =>
    have hclaims := claims_of_step? hn
    exact .nothing hclaims.1 hclaims.2
  | stop b =>
    obtain ⟨rfl, -⟩ := by simpa [move?] using hn
    exact .nothing (congrArg State.slot (m.state.stop_frame b) :) (m.state.claims_stop b)
  | new poll =>
    obtain ⟨rfl, -⟩ := by simpa [move?] using hn
    exact .new poll rfl
  | drop b =>
    obtain ⟨-, rfl, -⟩ := by simpa [move?] using hn
    exact .drop b rfl
  | slot move =>
    obtain ⟨notices, hp⟩ := slotStep?_of_move? hn
    exact .slot hp
  | start | receive | set =>
    obtain ⟨-, rfl, -⟩ := by simpa [move?] using hn
    exact .nothing rfl rfl

namespace Uses

variable {p p' : State} {move : Desktop.Move} {g : Nat}

/-- Whatever happens in a process, its slot has at most one owner. -/
theorem owned (hu : Uses p p' move) {owner : Option Nat} (ho : p.Owned owner) :
    ∃ owner', p'.Owned owner' := by
  cases hu with
  | nothing hslot hclaims => exact ⟨owner, ho.congr hslot hclaims⟩
  | new poll hp => exact hp ▸ ho.newBridge poll
  | drop b hp => exact hp ▸ ho.dropBridge b
  | slot hp => exact ho.slotStep hp

/-- While a bridge is there, nothing but its drop has an effect on the slot. -/
theorem claims_eq (hu : Uses p p' move) {b : Nat} (ho : p.Owned (some g))
    (hb : p.claims[b]? = some (g, true)) (hmove : move ≠ .drop b) :
    p'.slot = p.slot ∧ p'.claims = p.claims := by
  cases hu with
  | nothing hslot hclaims => exact ⟨hslot, hclaims⟩
  | new poll hp =>
    obtain rfl := hp.trans (ho.newBridge_eq poll)
    exact ⟨rfl, rfl⟩
  | drop c hp =>
    have hgone : ∀ g', p.claims[c]? ≠ some (g', true) := by
      intro g' hc
      exact hmove (congrArg _ (ho.alone b c g g' hb hc).symm)
    obtain rfl := hp.trans (State.dropBridge_of_gone hgone)
    exact ⟨rfl, rfl⟩
  | slot hp =>
    obtain rfl := ho.slotStep_eq (State.holds_of_claims hb) hp
    exact ⟨rfl, rfl⟩

/-- The owner's guard is dropped by name, or with its bridge. -/
theorem gives (hu : Uses p p' move) (ho : p.Owned (some g)) :
    g ∈ p'.slot.guards ∨ move = .slot (.drop g) ∨
      ∃ b, move = .drop b ∧ p.claims[b]? = some (g, true) := by
  have hg : g ∈ p.slot.guards := by simp [ho.guards]
  cases hu with
  | nothing hslot _ => exact .inl (hslot ▸ hg)
  | new poll hp =>
    obtain rfl := hp.trans (ho.newBridge_eq poll)
    exact .inl hg
  | drop b hp =>
    by_cases hb : p.claims[b]? = some (g, true)
    · exact .inr (.inr ⟨b, rfl, hb⟩)
    · have hgone : ∀ g', p.claims[b]? ≠ some (g', true) := by
        intro g' hb'
        obtain rfl : g = g' := Option.some.inj (ho.bridge b g' hb')
        exact hb hb'
      obtain rfl := hp.trans (State.dropBridge_of_gone hgone)
      exact .inl hg
  | @slot move _ hp =>
    cases move with
    | claim =>
      obtain ⟨rfl, -⟩ := by simpa [State.slotStep?] using hp
      refine .inl ?_
      simpa [Slot.step, ho.claim_eq] using hg
    | drop g' =>
      by_cases heq : g' = g
      · exact .inr (.inl (by rw [heq]))
      · simp only [State.slotStep?] at hp
        split_ifs at hp
        obtain ⟨rfl, -⟩ := by simpa using hp
        refine .inl ?_
        simpa [Slot.step, ho.drop_ne (by simpa using Ne.symm heq)] using hg

end Uses

end Desktop

namespace Slot.Traffic

variable {σ : Type} {h : Host σ} {t k : Traffic σ} {past : List (Traffic σ × Move)} {i : Nat}
  {notices : List Notice}

/-- The guard that is alive after a step and was not before it. -/
def gained? (t k : Traffic σ) : Option Nat :=
  k.slot.guards.find? fun g => !t.slot.guards.contains g

/-- The guard that a call claims in a step. -/
def claimed? (h : Host σ) (i : Nat) (t : Traffic σ) : Move → Option Nat
  | .call j m => if j = i then (t.move? h (.call j m)).bind fun r => gained? t r.1 else none
  | _ => none

/-- The guard that a call gives back in a step. -/
def released? (h : Host σ) (i : Nat) (t : Traffic σ) : Move → Option Nat
  | .call j m => if j = i then (t.move? h (.call j m)).bind fun r => gained? r.1 t else none
  | _ => none

/-- The guards that a call has claimed. -/
def claimed (h : Host σ) (i : Nat) (past : List (Traffic σ × Move)) : List Nat :=
  recorded (claimed? h i) past

/-- The guards that a call has given back. -/
def released (h : Host σ) (i : Nat) (past : List (Traffic σ × Move)) : List Nat :=
  recorded (released? h i) past

theorem claimed_cons {m : Listening.Move} (hn : t.move? h (.call i m) = some (k, notices))
    (j : Nat) : claimed h j ((t, .call i m) :: past) =
      claimed h j past ++ if j = i then (gained? t k).toList else [] := by
  rw [claimed, recorded_cons]
  by_cases hj : j = i
  · simp [claimed?, claimed, hn, hj]
  · simp [claimed?, claimed, hj, Ne.symm hj]

theorem released_cons {m : Listening.Move} (hn : t.move? h (.call i m) = some (k, notices))
    (j : Nat) : released h j ((t, .call i m) :: past) =
      released h j past ++ if j = i then (gained? k t).toList else [] := by
  rw [released, recorded_cons]
  by_cases hj : j = i
  · simp [released?, released, hn, hj]
  · simp [released?, released, hj, Ne.symm hj]

theorem gained?_of_guards (hg : k.slot.guards = t.slot.guards) : gained? t k = none := by
  rw [gained?, hg]
  simp

/-- The bridge that a call has. -/
def owned? (t : Traffic σ) (i : Nat) : Option Nat := (t.calls[i]?).bind Listening.owned?

theorem isOwned_of_owned? {b : Nat} (hb : t.owned? i = some b) : t.isOwned b = true := by
  obtain ⟨l, hl, hb⟩ := Option.bind_eq_some_iff.mp hb
  exact List.any_eq_true.mpr ⟨l, List.mem_of_getElem? hl, by simp [hb]⟩

/-- After a step of call `i` every other call has the bridge it had. -/
theorem owned?_set {l l' : Listening} (hl : t.calls[i]? = some l)
    (hcalls : k.calls = t.calls.set i l') (j : Nat) :
    k.owned? j = if j = i then l'.owned? else t.owned? j := by
  have hi : i < t.calls.length := (List.getElem?_eq_some_iff.mp hl).1
  rw [owned?, hcalls, List.getElem?_set]
  by_cases hj : j = i
  · simp [hj, hi]
  · simp [hj, Ne.symm hj, owned?]

theorem getElem?_calls_set {l' : Listening} (hcalls : k.calls = t.calls.set i l') {j : Nat}
    (hj : j ≠ i) : k.calls[j]? = t.calls[j]? := by
  rw [hcalls, List.getElem?_set_ne (Ne.symm hj)]

/-- What others than the calls do is done in the process. -/
theorem process_of_move? {m : Desktop.Move} (hn : t.move? h (.process m) = some (k, notices)) :
    m.bridge?.any t.isOwned = false ∧ ∃ v, t.machine.move? h m = some (k.machine, v) ∧
      k.calls = t.calls := by
  simp only [move?] at hn
  split_ifs at hn with hbridge
  simp only [Option.bind_eq_bind, Option.bind_eq_some_iff] at hn
  obtain ⟨⟨n, v⟩, hmove, hk⟩ := hn
  obtain ⟨rfl, -⟩ := by simpa using hk
  exact ⟨by simpa using hbridge, v, hmove, rfl⟩

/-- A step of a call is one of the call alone, in the process as it is. -/
theorem call_of_move? {m : Listening.Move} (hn : t.move? h (.call i m) = some (k, notices)) :
    (∀ s, m ≠ .slot s) ∧ ∃ l l' more, t.calls[i]? = some l ∧
      (l.setState t.state).move? m = some (l', more) ∧ k.state = l'.state ∧
        k.calls = t.calls.set i l' := by
  cases m with
  | slot s => simp [move?] at hn
  | _ =>
    simp only [move?, call?, Option.bind_eq_bind, Option.bind_eq_some_iff,
      Option.map_eq_some_iff] at hn
    obtain ⟨_, ⟨l, hl, rfl⟩, ⟨l', more⟩, hstep, hk⟩ := hn
    obtain ⟨rfl, -⟩ := by simpa using hk
    exact ⟨by simp, l, l', more, hl, hstep, rfl, rfl⟩

/-- A call accounts for its claims: it holds what it has claimed and not given back. -/
structure Kept (h : Host σ) (past : List (Traffic σ × Move)) (t : Traffic σ) : Prop where
  owner : ∃ owner, t.state.Owned owner
  there : ∀ {i b : Nat}, t.owned? i = some b → ∃ g, t.state.claims[b]? = some (g, true)
  alone : ∀ {i j b c : Nat}, t.owned? i = some b → t.owned? j = some c → i = j
  early : ∀ i, (∀ l, t.calls[i]? = some l → l.main = .entering) → claimed h i past = []
  account : ∀ i, claimed h i past =
    released h i past ++ if (t.owned? i).isSome then t.slot.guards else []
  once : ∀ i, (claimed h i past).length ≤ 1

namespace Kept

theorem idle (scriptEnd : ScriptEnd) (s : σ) : Kept h [] (Traffic.idle scriptEnd s) :=
  ⟨⟨none, State.owned_fresh scriptEnd⟩, by simp [owned?, Traffic.idle],
    by simp [owned?, Traffic.idle], by simp [claimed],
    by simp [claimed, released, owned?, Traffic.idle], by simp [claimed]⟩

/-- A step in which no call claims or gives back. -/
theorem keep (hk : Kept h past t) {m : Move} (hclaims : ∀ i, claimed? h i t m = none)
    (hreleases : ∀ i, released? h i t m = none) (ho : ∃ owner, k.state.Owned owner)
    (howned : ∀ i, k.owned? i = t.owned? i)
    (hearly : ∀ i : Nat, (∀ l : Listening, k.calls[i]? = some l → l.main = .entering) →
      ∀ l : Listening, t.calls[i]? = some l → l.main = .entering)
    (hstate : ∀ {i b : Nat}, t.owned? i = some b →
      k.slot = t.slot ∧ k.state.claims = t.state.claims) :
    Kept h ((t, m) :: past) k := by
  have hclaimed (i : Nat) : claimed h i ((t, m) :: past) = claimed h i past := by
    simp [claimed, recorded_cons, hclaims i]
  have hreleased (i : Nat) : released h i ((t, m) :: past) = released h i past := by
    simp [released, recorded_cons, hreleases i]
  refine ⟨ho, ?_, ?_, ?_, ?_, ?_⟩
  · intro i b hb
    rw [howned] at hb
    rw [(hstate hb).2]
    exact hk.there hb
  · intro i j b c hb hc
    rw [howned] at hb hc
    exact hk.alone hb hc
  · intro i hi
    rw [hclaimed]
    exact hk.early i (hearly i hi)
  · intro i
    rw [hclaimed, hreleased, howned, hk.account i]
    cases hb : t.owned? i with
    | none => rfl
    | some b => rw [(hstate hb).1]
  · intro i
    rw [hclaimed]
    exact hk.once i

theorem process (hk : Kept h past t) {m : Desktop.Move}
    (hn : t.move? h (.process m) = some (k, notices)) : Kept h ((t, .process m) :: past) k := by
  obtain ⟨hbridge, v, hmove, hcalls⟩ := process_of_move? hn
  have huses := Machine.uses_of_move? hmove
  obtain ⟨owner, ho⟩ := hk.owner
  refine hk.keep (fun _ => rfl) (fun _ => rfl) (huses.owned ho) ?_ ?_ ?_
  · intro i
    rw [owned?, hcalls, owned?]
  · intro i hi
    rwa [hcalls] at hi
  intro i b hb
  obtain ⟨g, hg⟩ := hk.there hb
  obtain rfl := ho.bridge b g hg
  refine huses.claims_eq ho hg ?_
  rintro rfl
  simp [Desktop.Move.bridge?, isOwned_of_owned? hb] at hbridge

theorem enter (hk : Kept h past t) {s : Settings} {onMain : Bool}
    (hn : t.move? h (.enter s onMain) = some (k, notices)) :
    Kept h ((t, .enter s onMain) :: past) k := by
  obtain ⟨rfl, -⟩ := by simpa [move?] using hn
  refine hk.keep (fun _ => rfl) (fun _ => rfl) hk.owner ?_ ?_ (fun _ => ⟨rfl, rfl⟩)
  · intro i
    simp only [owned?, List.getElem?_append]
    split_ifs with hi
    · rfl
    · have hnew : ([Listening.enter t.state s onMain][i - t.calls.length]?).bind
          Listening.owned? = none := by
        cases i - t.calls.length <;> simp [Listening.owned?, Listening.enter]
      rw [hnew, List.getElem?_eq_none (Nat.not_lt.mp hi)]
      rfl
  · intro i hi l hl
    refine hi l ?_
    simp only
    rw [List.getElem?_append_left (List.getElem?_eq_some_iff.mp hl).1, hl]

/-- While the slot is free no call has a bridge. -/
theorem owned?_of_free (hk : Kept h past t) (ho : t.state.Owned none) (i : Nat) :
    t.owned? i = none := by
  rw [Option.eq_none_iff_forall_ne_some]
  intro b hb
  obtain ⟨g, hg⟩ := hk.there hb
  simpa using ho.bridge b g hg

/-- A step in which call `i` claims the free slot for its bridge. -/
theorem claim (hk : Kept h past t) {l l' : Listening} {m : Listening.Move} {b g : Nat}
    (hn : t.move? h (.call i m) = some (k, notices)) (hl : t.calls[i]? = some l)
    (hentering : l.main = .entering) (hcalls : k.calls = t.calls.set i l')
    (hcreated : l'.main ≠ .entering) (hb : l'.owned? = some b) (ho : t.state.Owned none)
    (hko : k.state.Owned (some g)) (hkb : k.state.claims[b]? = some (g, true)) :
    Kept h ((t, .call i m) :: past) k := by
  have hfree := hk.owned?_of_free ho
  have howned := owned?_set hl hcalls
  have hguards : t.slot.guards = [] := ho.guards
  have hguards' : k.slot.guards = [g] := hko.guards
  have hgained : gained? t k = some g := by simp [gained?, hguards, hguards']
  have hlost : gained? k t = none := by simp [gained?, hguards]
  -- the call has claimed nothing before
  have hnothing : claimed h i past = [] := by
    refine hk.early i fun l'' hl'' => ?_
    obtain rfl := Option.some.inj (hl.symm.trans hl'')
    exact hentering
  have hreturned : released h i past = [] := by
    have haccount := hk.account i
    rw [hnothing] at haccount
    exact (List.append_eq_nil_iff.mp haccount.symm).1
  have hclaimed (j : Nat) : claimed h j ((t, .call i m) :: past) =
      if j = i then [g] else claimed h j past := by
    rw [claimed_cons hn, hgained]
    by_cases hj : j = i
    · simp [hj, hnothing]
    · simp [hj]
  have hreleased (j : Nat) : released h j ((t, .call i m) :: past) = released h j past := by
    simp [released_cons hn, hlost]
  refine ⟨⟨_, hko⟩, ?_, ?_, ?_, ?_, ?_⟩
  · intro j c hc
    rw [howned] at hc
    split_ifs at hc with hj
    · obtain rfl : b = c := Option.some.inj (hb.symm.trans hc)
      exact ⟨g, hkb⟩
    · simp [hfree] at hc
  · intro j j' c c' hc hc'
    rw [howned] at hc hc'
    split_ifs at hc hc' with hj hj'
    · rw [hj, hj']
    all_goals simp [hfree] at hc hc'
  · intro j hj
    have hne : j ≠ i := by
      rintro rfl
      refine hcreated (hj l' ?_)
      rw [hcalls, List.getElem?_set_self (List.getElem?_eq_some_iff.mp hl).1]
    rw [hclaimed, if_neg hne]
    exact hk.early j fun l'' hl'' => hj l'' (by rw [getElem?_calls_set hcalls hne, hl''])
  · intro j
    rw [hclaimed, hreleased, howned]
    by_cases hj : j = i
    · simp [hj, hb, hreturned, hguards']
    · simp [hj, hfree, hk.account j]
  · intro j
    rw [hclaimed]
    split_ifs
    · simp
    · exact hk.once j

/-- A step in which call `i` drops its bridge, whose guard it gives back. -/
theorem release (hk : Kept h past t) {l l' : Listening} {m : Listening.Move} {b : Nat}
    (hn : t.move? h (.call i m) = some (k, notices)) (hl : t.calls[i]? = some l)
    (hb : l.owned? = some b) (hcalls : k.calls = t.calls.set i l') (hnone : l'.owned? = none)
    (hleft : l'.main ≠ .entering) (hstate : k.state = (t.state.dropBridge b).2.1) :
    Kept h ((t, .call i m) :: past) k := by
  obtain ⟨owner, ho⟩ := hk.owner
  have hib : t.owned? i = some b := by simp [owned?, hl, hb]
  obtain ⟨g, hg⟩ := hk.there hib
  obtain ⟨rfl, hslot, -⟩ := State.dropBridge_eq ho hg
  have howned := owned?_set hl hcalls
  have hguards : t.slot.guards = [g] := ho.guards
  have hguards' : k.slot.guards = [] := by
    rw [show k.slot = k.state.slot from rfl, hstate, hslot]
  have hgained : gained? t k = none := by simp [gained?, hguards']
  have hlost : gained? k t = some g := by simp [gained?, hguards, hguards']
  -- nobody else has a bridge
  have hother (j : Nat) (hj : j ≠ i) : t.owned? j = none := by
    rw [Option.eq_none_iff_forall_ne_some]
    exact fun c hc => hj (hk.alone hc hib)
  have hclaimed (j : Nat) : claimed h j ((t, .call i m) :: past) = claimed h j past := by
    simp [claimed_cons hn, hgained]
  have hreleased (j : Nat) : released h j ((t, .call i m) :: past) =
      released h j past ++ if j = i then [g] else [] := by
    rw [released_cons hn, hlost]
    rfl
  have hnone' (j : Nat) : k.owned? j = none := by
    rw [howned]
    split_ifs with hj
    · exact hnone
    · exact hother j hj
  refine ⟨?_, ?_, ?_, ?_, ?_, ?_⟩
  · rw [hstate]
    exact ho.dropBridge b
  · intro j c hc
    simp [hnone'] at hc
  · intro j j' c c' hc hc'
    simp [hnone'] at hc
  · intro j hj
    have hne : j ≠ i := by
      rintro rfl
      refine hleft (hj l' ?_)
      rw [hcalls, List.getElem?_set_self (List.getElem?_eq_some_iff.mp hl).1]
    rw [hclaimed]
    exact hk.early j fun l'' hl'' => hj l'' (by rw [getElem?_calls_set hcalls hne, hl''])
  · intro j
    rw [hclaimed, hreleased, hnone', hk.account j]
    by_cases hj : j = i
    · simp [hj, hib, hguards]
    · simp [hj, hother j hj]
  · intro j
    rw [hclaimed]
    exact hk.once j

theorem call (hk : Kept h past t) {m : Listening.Move}
    (hn : t.move? h (.call i m) = some (k, notices)) : Kept h ((t, .call i m) :: past) k := by
  obtain ⟨hm, l, l', more, hl, hstep, hstate, hcalls⟩ := call_of_move? hn
  obtain ⟨owner, ho⟩ := hk.owner
  cases (Listening.goes_of_move? hstep).uses hm with
  | nothing hslot hclaims howned hearly =>
    rw [← hstate] at hslot hclaims
    have hgained : gained? t k = none := gained?_of_guards (congrArg Slot.guards hslot)
    have hlost : gained? k t = none := gained?_of_guards (congrArg Slot.guards hslot.symm)
    refine hk.keep ?_ ?_ ⟨owner, ho.congr hslot hclaims⟩ ?_ ?_ (fun _ => ⟨hslot, hclaims⟩)
    · intro j
      simp [claimed?, hn, hgained]
    · intro j
      simp [released?, hn, hlost]
    · intro j
      rw [owned?_set hl hcalls]
      split_ifs with hj
      · rw [howned, hj]
        simp [owned?, hl]
        rfl
      · rfl
    · intro j hj l'' hl''
      by_cases heq : j = i
      · subst j
        obtain rfl := Option.some.inj (hl.symm.trans hl'')
        refine hearly (hj l' ?_)
        rw [hcalls, List.getElem?_set_self (List.getElem?_eq_some_iff.mp hl).1]
      · exact hj l'' (by rw [getElem?_calls_set hcalls heq, hl''])
  | @claim b p notices' hentering hp hp' hcreated hb =>
    obtain ⟨rfl, ho', hb'⟩ := State.newBridge_ok ho (hp : t.state.newBridge _ = _)
    rw [← hp', ← hstate] at ho' hb'
    exact hk.claim hn hl hentering hcalls (by simp [hcreated]) hb ho ho' hb'
  | @release b hb hstate' hnone hleft =>
    exact hk.release hn hl hb hcalls hnone hleft (hstate.trans hstate')

theorem of_trail {scriptEnd : ScriptEnd} {s : σ}
    (ht : Trail (Traffic.move? h) (Traffic.idle scriptEnd s) past t) : Kept h past t := by
  induction ht with
  | start => exact idle scriptEnd s
  | @step past t k m notices _ hm ih =>
    cases m with
    | process m => exact ih.process hm
    | enter s onMain => exact ih.enter hm
    | call i m => exact ih.call hm

end Kept

/-- The guard that whoever makes a move has at their hands, if the move may be its drop. -/
def gives? (t : Traffic σ) : Move → Option Nat
  | .process (.slot (.drop g)) => some g
  | .process (.drop b) => t.state.bridges[b]?.map Bridge.claim
  | .call i _ => (t.owned? i).bind fun b => t.state.bridges[b]?.map Bridge.claim
  | _ => none

/-- Whether a move belongs to the start of a bridge. -/
def isStart (t : Traffic σ) : Move → Bool
  | .process .main | .process (.start ..) => true
  | .call i .main => t.calls[i]?.any Listening.isStarting
  | _ => false

/-- What is known of the slot at any time. -/
structure Sole (h : Host σ) (past : List (Traffic σ × Move)) (t : Traffic σ) : Prop where
  alone : t.slot.guards.length ≤ 1
  claimed : t.slot.claimed = true ↔ t.slot.guards ≠ []
  grants : t.slot.guards = [] →
    t.slot.claim = (.ok t.slot.issued, ⟨true, [t.slot.issued], t.slot.issued + 1⟩,
      [.slotClaimed]) ∧
    ∀ poll, t.state.newBridge poll = (.ok t.state.bridges.length,
      { t.state with
        slot := ⟨true, [t.slot.issued], t.slot.issued + 1⟩
        bridges := t.state.bridges ++ [⟨.fresh, poll, t.slot.issued, true⟩] }, [.slotClaimed])
  refuses : t.slot.guards ≠ [] →
    t.slot.claim = (.error .alreadyClaimed, t.slot, [.slotTaken]) ∧
    ∀ poll, t.state.newBridge poll = (.error .alreadyClaimed, t.state, [.slotTaken])
  drops : ∀ g, (t.slot.drop g).2.1 =
    if g ∈ t.slot.guards then ⟨false, [], t.slot.issued⟩ else t.slot
  bridges : ∀ x ∈ t.state.bridges, x.alive = true → t.slot.guards = [x.claim]
  /-- Only its owner gives a claim back. -/
  gives : ∀ {m : Move} {k : Traffic σ} {notices : List Notice}, t.move? h m = some (k, notices) →
    ∀ g ∈ t.slot.guards, g ∈ k.slot.guards ∨ t.gives? m = some g
  /-- No start gives a claim back, be it one that fails or one that unwinds. -/
  starts : ∀ {m : Move} {k : Traffic σ} {notices : List Notice}, t.move? h m = some (k, notices) →
    t.isStart m = true → k.slot = t.slot ∧ k.state.claims = t.state.claims
  /-- A call that has ended has given back what it has claimed, which is one guard at most. -/
  ended : ∀ {i : Nat} {l : Listening} {e : Listening.Ending}, t.calls[i]? = some l →
    l.main = .ended e →
    released h i past = Traffic.claimed h i past ∧ (Traffic.claimed h i past).length ≤ 1

theorem slot_drop {owner : Option Nat} (ho : t.state.Owned owner) (g : Nat) :
    (t.slot.drop g).2.1 = if g ∈ t.slot.guards then ⟨false, [], t.slot.issued⟩ else t.slot := by
  have hguards : t.slot.guards = owner.toList := ho.guards
  by_cases hg : owner = some g
  · subst hg
    simp only [hguards, Option.toList_some, List.mem_singleton, if_true]
    exact ho.drop_owner
  · rw [if_neg (by simpa [hguards] using hg)]
    exact ho.drop_ne hg

theorem Kept.gives (hk : Kept h past t) {m : Move} (hn : t.move? h m = some (k, notices))
    {g : Nat} (hg : g ∈ t.slot.guards) : g ∈ k.slot.guards ∨ t.gives? m = some g := by
  obtain ⟨owner, ho⟩ := hk.owner
  obtain rfl : owner = some g := by
    simpa [show t.slot.guards = owner.toList from ho.guards] using hg
  have hclaim {b : Nat} (hb : t.state.claims[b]? = some (g, true)) :
      t.state.bridges[b]?.map Bridge.claim = some g := by
    simp only [State.claims, List.getElem?_map] at hb
    obtain ⟨x, hx, hxg⟩ := Option.map_eq_some_iff.mp hb
    rw [hx, Option.map_some, (Prod.mk.inj hxg).1]
  cases m with
  | enter s onMain =>
    obtain ⟨rfl, -⟩ := by simpa [move?] using hn
    exact .inl hg
  | process m =>
    obtain ⟨-, v, hmove, -⟩ := process_of_move? hn
    rcases (Machine.uses_of_move? hmove).gives ho with hkept | rfl | ⟨b, rfl, hb⟩
    · exact .inl hkept
    · exact .inr rfl
    · exact .inr (hclaim hb)
  | call i m =>
    obtain ⟨hm, l, l', more, hl, hstep, hstate, -⟩ := call_of_move? hn
    cases (Listening.goes_of_move? hstep).uses hm with
    | nothing hslot =>
      have hsame : k.slot = t.slot := (congrArg State.slot hstate).trans hslot
      exact .inl (hsame ▸ hg)
    | claim _ hp =>
      rw [show (l.setState t.state).state = t.state from rfl, State.newBridge_of_owner ho] at hp
      simp at hp
    | @release b hb =>
      have hib : t.owned? i = some b := by
        rw [owned?, hl]
        exact hb
      obtain ⟨g', hg'⟩ := hk.there hib
      obtain rfl : g = g' := Option.some.inj (ho.bridge _ g' hg')
      refine .inr ?_
      rw [gives?, hib]
      exact hclaim hg'

theorem starts_of_move? {m : Move} (hn : t.move? h m = some (k, notices))
    (hm : t.isStart m = true) : k.slot = t.slot ∧ k.state.claims = t.state.claims := by
  cases m with
  | enter s onMain => simp [isStart] at hm
  | call i m =>
    obtain ⟨-, l, l', more, hl, hstep, hstate, -⟩ := call_of_move? hn
    cases m with
    | main =>
      have hstarting : (l.setState t.state).isStarting = true := by
        rwa [isStart, hl] at hm
      have hclaims := (Listening.goes_of_move? hstep).claims_of_isStarting hstarting
      rw [← hstate] at hclaims
      exact hclaims
    | _ => simp [isStart] at hm
  | process m =>
    obtain ⟨-, v, hmove, -⟩ := process_of_move? hn
    cases Machine.uses_of_move? hmove with
    | nothing hslot hclaims => exact ⟨hslot, hclaims⟩
    | _ => simp [isStart] at hm

/-- At any time the slot has one owner at most, who is the only one to give it back; and whoever
listens gives back what they have claimed before they end. -/
theorem sole_owner {scriptEnd : ScriptEnd} {s : σ}
    (ht : Trail (Traffic.move? h) (Traffic.idle scriptEnd s) past t) : Sole h past t := by
  have hk := Kept.of_trail ht
  obtain ⟨owner, ho⟩ := hk.owner
  have hguards : t.slot.guards = owner.toList := ho.guards
  have hclaimed : t.slot.claimed = owner.isSome := ho.claimed
  refine ⟨?_, ?_, ?_, ?_, slot_drop ho, ?_, hk.gives, starts_of_move?, ?_⟩
  · cases owner <;> simp [hguards]
  · cases owner <;> simp [hguards, hclaimed]
  · intro hnone
    obtain rfl : owner = none := by simpa [hguards] using hnone
    exact ⟨by simp [Slot.claim, hclaimed, hguards], State.newBridge_of_free ho⟩
  · intro hsome
    obtain ⟨g, rfl⟩ : ∃ g, owner = some g := by
      simpa [hguards, Option.ne_none_iff_exists'] using hsome
    exact ⟨ho.claim_eq, State.newBridge_of_owner ho⟩
  · intro x hx halive
    obtain ⟨b, hb⟩ := List.mem_iff_getElem?.mp hx
    obtain rfl := ho.bridge b x.claim (by simp [State.claims, hb, halive])
    exact hguards
  · intro i l e hl he
    have hnone : t.owned? i = none := by simp [owned?, hl, Listening.owned?, he]
    have haccount := hk.account i
    rw [hnone] at haccount
    exact ⟨by simpa using haccount.symm, hk.once i⟩

/-- A call is refused while a thread has the slot; then a bridge fails to start on another thread
and keeps the slot until its drop; then a call fails in the same way, and leaves the slot free. -/
theorem sole_owner_of_failed_starts : ∃ past t,
    Trail (Traffic.move? Handoff.callback) (Traffic.idle .stops .fresh) past t ∧
      Traffic.claimed Handoff.callback 0 past = [] ∧ Traffic.claimed Handoff.callback 1 past = [2] ∧
      released Handoff.callback 1 past = [2] ∧ t.slot = ⟨false, [], 3⟩ ∧
      Sole Handoff.callback past t := by
  have ht : Trail (Traffic.move? Handoff.callback) (Traffic.idle .stops .fresh) _ _ :=
    Trail.of_isSome
      ([.process (.slot .claim), .enter .default true, .call 0 .main, .process (.slot (.drop 0)),
        .process (.new 100), .process (.start 0 false), .process .main, .process .main,
        .process (.slot .claim), .process (.drop 0), .enter .default false] ++
        List.replicate 7 (.call 1 .main))
      (by decide +kernel)
  exact ⟨_, _, ht, by decide +kernel, by decide +kernel, by decide +kernel, by decide +kernel,
    sole_owner ht⟩

end Slot.Traffic

end OpenUrl
