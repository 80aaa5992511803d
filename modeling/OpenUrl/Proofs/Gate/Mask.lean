import OpenUrl.Gate.Delivery
import OpenUrl.Proofs.Mask

/-!
# Gates with masked URLs

A gate treats masked events as it treats the events: it looks at nobody's URL, and of a URL it
logs the length in bytes, and the text at the trace level. So does a delivery to a host whose
callback does not look at URLs either.
-/
namespace OpenUrl

open OpenUrl.Log (Notice)

def Act.mask : Act → Act
  | .life m => .life m
  | .spawn e => .spawn e.mask

def Reaction.mask (r : Reaction) : Reaction :=
  ⟨r.acts.map Act.mask, r.panics, r.notices.map Notice.mask⟩

def Stage.mask : Stage → Stage
  | .inside acts panics => .inside (acts.map Act.mask) panics
  | s => s

def Call.mask (c : Call) : Call := ⟨c.event.mask, c.stage.mask⟩

namespace Gate

def mask (g : Gate) : Gate := { g with calls := g.calls.map Call.mask }

def Move.mask : Move → Move
  | .call e => .call e.mask
  | .enter i r => .enter i r.mask
  | m => m

variable (g : Gate) (i : Nat)

@[simp] theorem lifecycle_mask : g.mask.lifecycle = g.lifecycle := rfl

@[simp] theorem holder_mask : g.mask.holder = g.holder := rfl

@[simp] theorem delivered_mask : g.mask.delivered = g.delivered := rfl

theorem mask_lifecycle (l : Lifecycle) :
    mask { g with lifecycle := l } = { g.mask with lifecycle := l } := rfl

theorem mask_holder (o : Option Nat) : mask { g with holder := o } = { g.mask with holder := o } :=
  rfl

theorem mask_delivered (n : UInt64) :
    mask { g with delivered := n } = { g.mask with delivered := n } := rfl

@[simp] theorem getElem?_calls_mask : g.mask.calls[i]? = g.calls[i]?.map Call.mask :=
  List.getElem?_map

@[simp] theorem length_calls_mask : g.mask.calls.length = g.calls.length := List.length_map _

@[simp] theorem stage?_mask : g.mask.stage? i = (g.stage? i).map Stage.mask := by
  cases h : g.calls[i]? <;> simp [stage?, h, Call.mask]

@[simp] theorem mask_push (e : Event) : (g.push e).mask = g.mask.push e.mask := by
  simp [mask, push, Call.mask, Stage.mask]

@[simp] theorem mask_setStage (s : Stage) : (g.setStage i s).mask = g.mask.setStage i s.mask := by
  have hcalls := map_modify (f := Call.mask) (g := fun c => { c with stage := s })
    (k := fun c => { c with stage := s.mask }) (fun _ => rfl) g.calls i
  simp [mask, setStage, hcalls]

theorem mask_live (m : Lifecycle.Move) :
    g.mask.live m = Prod.map Gate.mask (List.map Notice.mask) (g.live m) := by
  cases m with
  | requestStop =>
    cases h : g.lifecycle.phase <;>
      simp [live, Lifecycle.step, Lifecycle.requestStop, Phase.requestStop, h, mask, Notice.mask]
  | _ => rfl

theorem mask_perform (a : Act) :
    g.mask.perform a.mask = Prod.map Gate.mask (List.map Notice.mask) (g.perform a) := by
  cases a with
  | life m => exact g.mask_live m
  | spawn e => simp [perform, Act.mask]

@[simp] theorem mask_checkNotices (e : Event) (p : Phase) :
    checkNotices e.mask p = (checkNotices e p).map Notice.mask := by
  unfold checkNotices
  split_ifs <;> simp [Notice.mask]

/-- A gate makes the same steps on masked events. -/
theorem masks_step? : Masks step? step? mask Move.mask (List.map Notice.mask) := by
  intro g m
  cases m with
  | call e => simp [step?, Move.mask]
  | life m => simp [step?, Move.mask, mask_live]
  | check i =>
    cases hc : g.calls[i]? with
    | none => simp [step?, Move.mask, hc]
    | some c =>
      obtain ⟨e, s⟩ := c
      cases s with
      | holding =>
        by_cases hp : g.lifecycle.phase = .running <;>
          simp [step?, Move.mask, hc, hp, Call.mask, Stage.mask]
      | _ => simp [step?, Move.mask, hc, Call.mask, Stage.mask]
  | act i =>
    cases hs : g.stage? i with
    | none => simp [step?, Move.mask, hs]
    | some s =>
      cases s with
      | inside acts panics =>
        cases acts with
        | nil => simp [step?, Move.mask, hs, Stage.mask]
        | cons a as =>
          have hperform := (g.setStage i (.inside as panics)).mask_perform a
          rw [mask_setStage] at hperform
          simpa [step?, Move.mask, hs, Stage.mask] using hperform
      | _ => simp [step?, Move.mask, hs, Stage.mask]
  | acquire i =>
    cases hs : g.stage? i with
    | none => simp [step?, Move.mask, hs]
    | some s =>
      cases hh : g.holder <;> cases s <;> simp [step?, Move.mask, hs, hh, Stage.mask, mask_holder]
  | enter i r | leave i | unwind i | count i | release i =>
    cases hs : g.stage? i with
    | none => simp [step?, Move.mask, hs]
    | some s =>
      cases s with
      | inside acts panics =>
        cases acts <;> cases panics <;> simp [step?, Move.mask, hs, Stage.mask]
      | _ => simp [step?, Move.mask, hs, Stage.mask, Reaction.mask, mask_holder, mask_delivered]

theorem mask_next? (r : Reaction) : g.mask.next? i r.mask = (g.next? i r).map Move.mask := by
  cases hs : g.stage? i with
  | none => simp [next?, hs]
  | some s =>
    cases s with
    | inside acts panics => cases acts <;> cases panics <;> simp [next?, hs, Stage.mask, Move.mask]
    | _ => simp [next?, hs, Stage.mask, Move.mask]

@[simp] theorem verdict?_mask : g.mask.verdict? i = g.verdict? i := by
  cases hs : g.stage? i with
  | none => simp [verdict?, hs]
  | some s => cases s <;> simp [verdict?, hs, Stage.mask]

end Gate

/-- The callback of a host does what that of another does, which gets the masked events only. -/
def Host.Masks {σ τ : Type} (h : Host σ) (k : Host τ) (view : σ → τ) : Prop :=
  ∀ s e, k.receive (view s) e.mask = Prod.map view Reaction.mask (h.receive s e)

/-- Of an event the callback sees no more than its mask, and of the state of the host no more
than a view of it. -/
def Host.Blind {σ τ : Type} (h : Host σ) (view : σ → τ) : Prop :=
  ∀ s s' e e', view s = view s' → e.mask = e'.mask →
    view (h.receive s e).1 = view (h.receive s' e').1 ∧
      (h.receive s e).2.mask = (h.receive s' e').2.mask

theorem Host.Masks.blind {σ τ : Type} {h : Host σ} {k : Host τ} {view : σ → τ}
    (hk : h.Masks k view) : h.Blind view := by
  intro s s' e e' hs he
  have heq : Prod.map view Reaction.mask (h.receive s e) =
      Prod.map view Reaction.mask (h.receive s' e') := by
    rw [← hk, ← hk, hs, he]
  exact Prod.mk.inj heq

open Classical in
/-- Behind a blind callback stands one that gets the masked events only. -/
theorem Host.Blind.exists_masks {σ τ : Type} {h : Host σ} {view : σ → τ} (hb : h.Blind view) :
    ∃ k, h.Masks k view := by
  refine ⟨⟨fun t e => if hx : ∃ x : σ × Event, view x.1 = t ∧ x.2.mask = e then
    Prod.map view Reaction.mask (h.receive hx.choose.1 hx.choose.2) else (t, .quiet)⟩, ?_⟩
  intro s e
  have hx : ∃ x : σ × Event, view x.1 = view s ∧ x.2.mask = e.mask := ⟨(s, e), rfl, rfl⟩
  obtain ⟨hview, hmask⟩ := hb _ _ _ _ hx.choose_spec.1 hx.choose_spec.2
  simp only [dif_pos hx]
  exact Prod.ext hview hmask

namespace Delivery

variable {σ τ : Type} {h : Host σ} {k : Host τ} {view : σ → τ}

def mask (view : σ → τ) (d : Delivery σ) : Delivery τ := ⟨d.gate.mask, view d.host⟩

theorem mask_advance? (hk : h.Masks k view) (d : Delivery σ) (i : Nat) :
    advance? k (d.mask view) i =
      (advance? h d i).map (Prod.map (mask view) (List.map Notice.mask)) := by
  obtain ⟨g, s⟩ := d
  cases hc : g.calls[i]? with
  | none => simp [advance?, mask, hc]
  | some c =>
    -- what the callback answers, if it is called
    have hreact : (if c.mask.stage = .admitted then k.receive (view s) c.mask.event
        else (view s, .quiet)) = Prod.map view Reaction.mask
          (if c.stage = .admitted then h.receive s c.event else (s, .quiet)) := by
      obtain ⟨e, stage⟩ := c
      cases stage with
      | admitted => simp [Call.mask, Stage.mask, hk s e]
      | _ => simp [Call.mask, Stage.mask, Reaction.mask, Reaction.quiet]
    generalize hr : (if c.stage = .admitted then h.receive s c.event else (s, .quiet)) = r
      at hreact
    cases hm : g.next? i r.2 with
    | none => simp [advance?, mask, hc, hreact, hr, Gate.mask_next?, hm]
    | some m =>
      have hstep := Gate.masks_step? g m
      cases hg : g.step? m <;>
        simp [advance?, mask, hc, hreact, hr, Gate.mask_next?, hm, hstep, hg]

end Delivery

end OpenUrl
