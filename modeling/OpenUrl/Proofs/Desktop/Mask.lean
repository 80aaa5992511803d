import OpenUrl.Desktop.Start
import OpenUrl.Proofs.Gate.Mask

/-!
# Desktop processes with masked URLs

The text of an Apple Event is what its parameters say. Neither the event loop nor a start looks
at it, so a process does on masked Apple Events what it does on the Apple Events.
-/
namespace OpenUrl.Desktop

open OpenUrl.Log (Notice)

def Descriptor.mask : Descriptor → Descriptor
  | .text s => .text (Text.mask s)
  | d => d

def AppleEvent.mask (e : AppleEvent) : AppleEvent :=
  { e with parameters := e.parameters.map fun p => (p.1, p.2.mask) }

def LaunchAction.mask : LaunchAction → LaunchAction
  | .deliver e => .deliver e.mask
  | .stop => .stop

def Action.mask : Action → Action
  | .deliver e => .deliver e.mask
  | .deferred e => .deferred e.mask
  | .batch es => .batch (es.map AppleEvent.mask)
  | a => a

def Setting.mask (t : Setting) : Setting :=
  { t with
    launchActions := t.launchActions.map LaunchAction.mask
    script := t.script.map Action.mask }

def Bridge.mask (x : Bridge) : Bridge := { x with gate := x.gate.mask }

@[simp] theorem Bridge.pollInterval_comp_mask :
    Bridge.pollInterval ∘ Bridge.mask = Bridge.pollInterval := rfl

def State.mask (p : State) : State :=
  { p with
    bridges := p.bridges.map Bridge.mask
    launchActions := p.launchActions.map LaunchAction.mask
    script := p.script.map Action.mask }

def Task.mask : Task → Task
  | .duringLaunch b a => .duringLaunch b a.mask
  | .send name e => .send name (e.map AppleEvent.mask)
  | .deliver e => .deliver e.mask
  | t => t

def Visible.mask (v : Visible) : Visible := { v with notices := v.notices.map Notice.mask }

def Move.mask : Move → Move
  | .receive e => .receive e.mask
  | .set t => .set t.mask
  | m => m

namespace AppleEvent

variable (e : AppleEvent)

@[simp] theorem eventClass_mask : e.mask.eventClass = e.eventClass := rfl

@[simp] theorem identifier_mask : e.mask.identifier = e.identifier := rfl

theorem parameter?_mask (keyword : String) :
    e.mask.parameter? keyword = (e.parameter? keyword).map Descriptor.mask := by
  simp only [parameter?, mask, List.find?_map, Option.map_map]
  rfl

@[simp] theorem decode_mask : e.mask.decode = e.decode.mask := by
  have htext : ((e.mask.parameter? directObject).bind Descriptor.text?).getD "" =
      Text.mask (((e.parameter? directObject).bind Descriptor.text?).getD "") := by
    rw [parameter?_mask]
    rcases e.parameter? directObject with _ | _ | _ | _ <;> simp [Descriptor.mask, Descriptor.text?]
  rw [decode, htext]
  rfl

end AppleEvent

/-- No URL is logged when a slot is used. -/
theorem map_mask_slotStep (s : Slot) (m : Slot.Move) :
    (s.step m).2.map Notice.mask = (s.step m).2 := by
  cases m with
  | claim =>
    simp only [Slot.step, Slot.claim]
    split_ifs <;> rfl
  | drop g =>
    simp only [Slot.step, Slot.drop]
    split_ifs <;> rfl

namespace State

variable (p : State) (b : Nat)

@[simp] theorem slot_mask : p.mask.slot = p.slot := rfl

@[simp] theorem launching_mask : p.mask.launching = p.launching := rfl

@[simp] theorem managerThere_mask : p.mask.managerThere = p.managerThere := rfl

@[simp] theorem scriptEnd_mask : p.mask.scriptEnd = p.scriptEnd := rfl

@[simp] theorem script_mask : p.mask.script = p.script.map Action.mask := rfl

theorem mask_script (script : List Action) :
    mask { p with script := script } = { p.mask with script := script.map Action.mask } := rfl

@[simp] theorem length_bridges_mask : p.mask.bridges.length = p.bridges.length :=
  List.length_map _

@[simp] theorem getElem?_bridges_mask : p.mask.bridges[b]? = p.bridges[b]?.map Bridge.mask :=
  List.getElem?_map

@[simp] theorem gate?_mask : p.mask.gate? b = (p.gate? b).map Gate.mask := by
  cases h : p.bridges[b]? <;> simp [gate?, h, Bridge.mask]

@[simp] theorem handler?_mask (e : AppleEvent) : p.mask.handler? e.mask = p.handler? e := rfl

@[simp] theorem mask_setGate (g : Gate) : (p.setGate b g).mask = p.mask.setGate b g.mask := by
  have hbridges := map_modify (f := Bridge.mask) (g := fun x => { x with gate := g })
    (k := fun x => { x with gate := g.mask }) (fun _ => rfl) p.bridges b
  simp [mask, setGate, hbridges]

@[simp] theorem mask_register : (p.register b).mask = p.mask.register b := rfl

@[simp] theorem mask_unregister : p.unregister.mask = p.mask.unregister := rfl

@[simp] theorem holds_mask (guard : Nat) : p.mask.holds guard = p.holds guard := by
  simp only [holds, mask, List.any_map]
  rfl

theorem mask_live (m : Lifecycle.Move) :
    p.mask.live b m = Prod.map mask (List.map Notice.mask) (p.live b m) := by
  cases h : p.gate? b <;> simp [live, h, Gate.mask_live]

theorem mask_stop :
    p.mask.stop b = Prod.map id (Prod.map mask (List.map Notice.mask)) (p.stop b) := by
  simp only [stop, mask_live, gate?_mask]
  cases p.gate? b <;> rfl

@[simp] theorem isRunning_mask : p.mask.isRunning b = p.isRunning b := by
  cases h : p.gate? b <;> simp [isRunning, h]

@[simp] theorem stopRequested_mask : p.mask.stopRequested b = p.stopRequested b := by
  cases h : p.gate? b <;> simp [stopRequested, h]

theorem mask_newBridge (poll : UInt64) : p.mask.newBridge poll =
    Prod.map id (Prod.map mask (List.map Notice.mask)) (p.newBridge poll) := by
  have hnotices : p.slot.claim.2.2.map Notice.mask = p.slot.claim.2.2 :=
    map_mask_slotStep p.slot .claim
  cases hc : p.slot.claim with
  | mk outcome r =>
    rw [hc] at hnotices
    cases outcome <;> simp [newBridge, hc, hnotices] <;> simp [mask]
    rfl

theorem mask_dropBridge : p.mask.dropBridge b =
    Prod.map id (Prod.map mask (List.map Notice.mask)) (p.dropBridge b) := by
  cases hb : p.bridges[b]? with
  | none => simp [dropBridge, hb]
  | some x =>
    cases ha : x.alive with
    | false => simp [dropBridge, hb, ha, Bridge.mask]
    | true =>
      have hbridges := map_modify (f := Bridge.mask) (g := fun x => { x with alive := false })
        (k := fun x => { x with alive := false }) (fun _ => rfl) p.bridges b
      have hnotices : (p.slot.drop x.claim).2.2.map Notice.mask = (p.slot.drop x.claim).2.2 :=
        map_mask_slotStep p.slot (.drop x.claim)
      simp [dropBridge, hb, ha, Bridge.mask, hnotices]
      simp [mask, hbridges]

theorem mask_slotStep? (m : Slot.Move) : p.mask.slotStep? m =
    (p.slotStep? m).map (Prod.map mask (List.map Notice.mask)) := by
  have hnotices := map_mask_slotStep p.slot m
  cases m with
  | claim =>
    simp [slotStep?, hnotices]
    rfl
  | drop g =>
    cases hg : p.holds g <;> simp [slotStep?, hg, hnotices]
    rfl

end State

theorem map_mask_unwound (agenda : List Task) :
    (unwound agenda).map Task.mask = unwound (agenda.map Task.mask) := by
  have hcleanup (t : Task) : t.cleanup.map Task.mask = t.mask.cleanup := by
    cases t <;> rfl
  simp only [unwound, List.map_append, List.map_flatMap, List.flatMap_map, hcleanup]
  rfl

theorem map_mask_tasks (a : Action) (b : Nat) :
    (a.tasks b).map Task.mask = a.mask.tasks b := by
  cases a <;> simp [Action.tasks, Action.mask, Task.mask]

namespace Machine

variable {σ τ : Type} {h : Host σ} {k : Host τ} {view : σ → τ}

def mask (view : σ → τ) (m : Machine σ) : Machine τ :=
  ⟨m.state.mask, view m.host, m.agenda.map Task.mask, m.ending⟩

@[simp] theorem state_mask (m : Machine σ) : (m.mask view).state = m.state.mask := rfl

@[simp] theorem host_mask (m : Machine σ) : (m.mask view).host = view m.host := rfl

@[simp] theorem agenda_mask (m : Machine σ) : (m.mask view).agenda = m.agenda.map Task.mask := rfl

@[simp] theorem ending_mask (m : Machine σ) : (m.mask view).ending = m.ending := rfl

theorem mask_serve? (hk : h.Masks k view) (m : Machine σ) (b call : Nat) (rest : List Task) :
    (m.mask view).serve? k b call (rest.map Task.mask) =
      (m.serve? h b call rest).map (Prod.map (mask view) Visible.mask) := by
  cases hg : m.state.gate? b with
  | none => simp [serve?, hg]
  | some g =>
    have hd := Delivery.mask_advance? hk ⟨g, m.host⟩ call
    simp only [Delivery.mask] at hd
    cases hstep : Delivery.advance? h ⟨g, m.host⟩ call with
    | none => simp [serve?, hg, hd, hstep]
    | some r =>
      cases hv : r.1.gate.verdict? call with
      | none =>
        simp [serve?, hg, hd, hstep, hv, Delivery.mask, mask, Visible.mask, Task.mask]
      | some v =>
        cases v <;>
          simp [serve?, hg, hd, hstep, hv, Delivery.mask, mask, Visible.mask, map_mask_unwound]

/-- The main thread does the same on masked Apple Events. -/
theorem mask_step? (hk : h.Masks k view) (m : Machine σ) : (m.mask view).step? k =
    (m.step? h).map (Prod.map (mask view) Visible.mask) := by
  obtain ⟨p, s, agenda, ending⟩ := m
  cases agenda with
  | nil => rfl
  | cons task rest =>
    cases task with
    | serve b call => exact mask_serve? hk _ b call rest
    | «begin» b onMain =>
      cases onMain with
      | false => rfl
      | true =>
        cases hg : p.gate? b with
        | none => simp [step?, mask, hg, Task.mask]
        | some g =>
          cases hb : g.lifecycle.beginGuarded with
          | mk outcome l =>
            cases outcome <;> simp [step?, mask, hg, hb, Gate.mask_lifecycle, Task.mask,
              Visible.nothing, Visible.mask]
    | install b guard =>
      cases hm : p.managerThere <;>
        simp [step?, mask, hm, Task.mask, Visible.mask, running, Notice.mask]
    | announce b =>
      cases hb : p.bridges[b]? <;>
        simp [step?, mask, hb, Task.mask, Visible.mask, Notice.mask, Bridge.mask]
    | launch b =>
      cases hl : p.launching with
      | notYet =>
        simp [step?, mask, hl, Task.mask, Visible.mask, State.mask]
      | _ =>
        simp [step?, mask, hl, Task.mask, Visible.mask, Visible.nothing, map_mask_unwound]
    | duringLaunch b a => cases a <;> rfl
    | check b =>
      cases hs : p.stopRequested b <;>
        simp [step?, mask, hs, Task.mask, Visible.mask, Visible.nothing]
    | next b =>
      cases hs : p.script with
      | nil =>
        cases he : p.scriptEnd <;>
          simp [step?, mask, hs, he, Task.mask, Visible.mask, Visible.nothing]
      | cons a script =>
        simp [step?, mask, hs, Task.mask, Visible.mask, map_mask_tasks, State.mask_script]
    | send name e => cases e <;> rfl
    | deliver e =>
      cases hh : p.handler? e with
      | none => simp [step?, mask, hh, Task.mask, Visible.mask]
      | some b =>
        cases hg : p.gate? b <;> simp [step?, mask, hh, hg, Task.mask, Visible.mask]
    | stop b => simp [step?, mask, Task.mask, State.mask_stop, Visible.mask]
    | finish b guard => simp [step?, mask, Task.mask, State.mask_live, Visible.mask]
    | report b =>
      cases hg : p.gate? b <;> simp [step?, mask, hg, Task.mask, Visible.mask, Notice.mask]
    | _ => rfl

/-- A process makes the same steps on masked Apple Events. -/
theorem masks_move? (hk : h.Masks k view) :
    Masks (move? h) (move? k) (mask view) Move.mask Visible.mask := by
  intro m move
  cases move with
  | main => exact mask_step? hk m
  | stop b => simp [move?, Move.mask, State.mask_stop, mask, Visible.mask]
  | new poll => simp [move?, Move.mask, State.mask_newBridge, mask, Visible.mask]
  | start b onMain =>
    have halive : (m.state.mask.bridges[b]?).any Bridge.alive =
        (m.state.bridges[b]?).any Bridge.alive := by
      cases hb : m.state.bridges[b]? <;> simp [hb, Bridge.mask]
    simp only [move?, Move.mask, state_mask, agenda_mask, List.isEmpty_map, halive]
    split_ifs <;> rfl
  | drop b =>
    cases ha : m.agenda <;>
      simp [move?, Move.mask, ha, State.mask_dropBridge, mask, Visible.mask]
  | receive e =>
    cases ha : m.agenda <;> simp [move?, Move.mask, ha, mask, Visible.mask]
    exact ⟨rfl, rfl⟩
  | set t =>
    cases ha : m.agenda <;> simp [move?, Move.mask, ha, mask, Visible.mask]
    exact ⟨rfl, rfl⟩
  | slot move =>
    have hs := m.state.mask_slotStep? move
    cases hm : m.state.slotStep? move <;> simp [move?, Move.mask, hs, hm, mask, Visible.mask]

end Machine

end OpenUrl.Desktop
