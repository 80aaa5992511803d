import Mathlib.Data.List.Forall2
import OpenUrl.Event
import OpenUrl.Log.Notice
import OpenUrl.Proofs.Trail

/-!
# Masked URL texts

Masked, a URL is a text of the same length in bytes that says nothing else. A system which makes
the steps that it makes on its data on the masked data too cannot tell two URLs of one length
apart, and neither can a reader of what it logs above the trace level.
-/
namespace OpenUrl

open OpenUrl.Log (Notice)

/-- A text of the same length in bytes. -/
def Text.mask (text : String) : String := String.ofList (List.replicate text.utf8ByteSize 'x')

@[simp] theorem Text.utf8ByteSize_mask (text : String) :
    (Text.mask text).utf8ByteSize = text.utf8ByteSize := by
  have hsize (n : Nat) : (String.ofList (List.replicate n 'x')).utf8ByteSize = n := by
    induction n with
    | zero => rfl
    | succ n ih =>
      rw [List.replicate_succ, String.ofList_cons, String.utf8ByteSize_append, ih, Nat.add_comm]
      rfl
  exact hsize _

@[simp] theorem Text.mask_empty : Text.mask "" = "" := by decide +kernel

/-- The event with its URL masked. -/
def Event.mask (e : Event) : Event := { e with url := Text.mask e.url }

@[simp] theorem Event.senderPid_mask (e : Event) : e.mask.senderPid = e.senderPid := rfl

@[simp] theorem Event.url_mask (e : Event) : e.mask.url = Text.mask e.url := rfl

/-- Masked, events are the same when they differ in nothing but URLs of the same length. -/
theorem Event.mask_eq_iff {e e' : Event} : e.mask = e'.mask ↔
    e.senderPid = e'.senderPid ∧ e.url.utf8ByteSize = e'.url.utf8ByteSize := by
  constructor
  · intro h
    have hurl := congrArg (fun e => e.url.utf8ByteSize) h
    exact ⟨congrArg (fun e => e.senderPid) h, by simpa using hurl⟩
  · rintro ⟨hpid, hsize⟩
    simp [Event.mask, Text.mask, hpid, hsize]

namespace Log

/-- The notice with its URL masked. -/
def Notice.mask : Notice → Notice
  | eventPayload url => eventPayload (Text.mask url)
  | n => n

namespace Notice

@[simp] theorem level_mask (n : Notice) : n.mask.level = n.level := by
  cases n <;> rfl

/-- No notice but those at the trace level has a URL to mask. -/
theorem mask_of_level {n : Notice} (h : n.level ≠ .trace) : n.mask = n := by
  cases n with
  | eventPayload url => exact absurd rfl h
  | _ => rfl

/-- Masked, notices are only the same if they are, or are at the trace level. -/
theorem eq_or_trace_of_mask {n n' : Notice} (h : n.mask = n'.mask) :
    n = n' ∨ n.level = .trace ∧ n'.level = .trace := by
  have hlevel : n.level = n'.level := by rw [← level_mask n, h, level_mask]
  by_cases hn : n.level = .trace
  · exact .inr ⟨hn, hlevel ▸ hn⟩
  · rw [mask_of_level hn, mask_of_level (hlevel ▸ hn)] at h
    exact .inl h

end Notice

theorem select_mask {l : Level} (hl : l.admits .trace = false) (ns : List Notice) :
    select l (ns.map Notice.mask) = select l ns := by
  induction ns with
  | nil => rfl
  | cons n ns ih =>
    by_cases hn : n.level = .trace
    · simpa [select, hn, hl] using ih
    · simp only [select] at ih
      rw [List.map_cons, Notice.mask_of_level hn, select, select, List.filter_cons, ih,
        List.filter_cons]

end Log

/-- A change to one entry of a list that has a change behind the masks. -/
theorem map_modify {α β : Type} {f : α → β} {g : α → α} {k : β → β} (h : ∀ a, f (g a) = k (f a))
    (l : List α) (i : Nat) : (l.modify i g).map f = (l.map f).modify i k := by
  refine List.ext_getElem? fun j => ?_
  simp only [List.getElem?_map, List.getElem?_modify]
  split <;> cases l[j]? <;> simp [h]

/-- What a run has logged, when `log` is what a step brings to the log. -/
def logged {α μ ν : Type} (step? : α → μ → Option (α × ν)) (log : ν → List Notice)
    (past : List (α × μ)) : List Notice :=
  (recorded (fun a m => (step? a m).map fun r => log r.2) past).flatten

/-- The steps of a system are, behind masks of its states, of its moves and of what they bring,
steps of another. -/
def Masks {α α' μ μ' ν ν' : Type} (step? : α → μ → Option (α × ν))
    (step'? : α' → μ' → Option (α' × ν')) (state : α → α') (move : μ → μ') (out : ν → ν') :
    Prop :=
  ∀ a m, step'? (state a) (move m) = (step? a m).map (Prod.map state out)

/-- Two runs of a system with the same moves from the same state, but for what is masked. -/
structure Twins {α α' μ μ' ν : Type} (step? : α → μ → Option (α × ν)) (state : α → α')
    (move : μ → μ') (start start' : α) (past past' : List (α × μ)) (a a' : α) : Prop where
  first : Trail step? start past a
  second : Trail step? start' past' a'
  start : state start = state start'
  moves : past.map (fun s => move s.2) = past'.map fun s => move s.2

/-- URLs have no effect on what a system does, nor on what it logs above the trace level. -/
structure Discreet {α α' μ μ' ν : Type} (step? : α → μ → Option (α × ν))
    (log : ν → List Notice) (state : α → α') (move : μ → μ') : Prop where
  /-- What two runs log above the trace level is the same. -/
  grave : ∀ {start start' a a' : α} {past past' : List (α × μ)},
    Twins step? state move start start' past past' a a' →
    Log.select .debug (logged step? log past) = Log.select .debug (logged step? log past')
  /-- Notices that differ are at the trace level, in both runs. -/
  trace : ∀ {start start' a a' : α} {past past' : List (α × μ)},
    Twins step? state move start start' past past' a a' →
    List.Forall₂ (fun n n' : Notice => n = n' ∨ n.level = .trace ∧ n'.level = .trace)
      (logged step? log past) (logged step? log past')
  /-- The states that two runs reach are the same but for URLs. -/
  states : ∀ {start start' a a' : α} {past past' : List (α × μ)},
    Twins step? state move start start' past past' a a' → state a = state a'
  /-- Where one run is possible, the other is. -/
  possible : ∀ {start start' a : α} {past : List (α × μ)} {moves : List μ},
    Trail step? start past a → state start = state start' →
    moves.map move = past.map (fun s => move s.2) →
    ∃ past' a', Twins step? state move start start' past past' a a' ∧ past'.map Prod.snd = moves

namespace Masks

variable {α α' μ μ' ν ν' : Type} {step? : α → μ → Option (α × ν)}
  {step'? : α' → μ' → Option (α' × ν')} {state : α → α'} {move : μ → μ'} {out : ν → ν'}
  {start start' a a' : α} {past past' : List (α × μ)}

theorem trail (hm : Masks step? step'? state move out) (ht : Trail step? start past a) :
    Trail step'? (state start) (past.map (Prod.map state move)) (state a) := by
  induction ht with
  | start => exact .start
  | @step past a b m v _ hstep ih =>
    refine ih.step (v := out v) ?_
    rw [hm, hstep]
    rfl

theorem logged_map (hm : Masks step? step'? state move out) {log : ν → List Notice}
    {log' : ν' → List Notice} (hlog : ∀ v, log' (out v) = (log v).map Notice.mask) :
    logged step'? log' (past.map (Prod.map state move)) =
      (logged step? log past).map Notice.mask := by
  induction past with
  | nil => rfl
  | cons s past ih =>
    obtain ⟨a, m⟩ := s
    simp only [logged, List.map_cons, Prod.map_apply, recorded_cons, List.flatten_append,
      List.map_append] at ih ⊢
    rw [ih, hm]
    cases step? a m <;> simp [hlog]

/-- Behind the masks two runs are one. -/
theorem twins (hm : Masks step? step'? state move out)
    (ht : Twins step? state move start start' past past' a a') :
    past.map (Prod.map state move) = past'.map (Prod.map state move) ∧ state a = state a' := by
  refine (hm.trail ht.first).eq_of_moves (ht.start ▸ hm.trail ht.second) ?_
  rw [List.map_map, List.map_map]
  exact ht.moves

theorem possible (hm : Masks step? step'? state move out) (ht : Trail step? start past a)
    (hstart : state start = state start') {moves : List μ}
    (hmoves : moves.map move = past.map fun s => move s.2) :
    ∃ past' a', Twins step? state move start start' past past' a a' ∧
      past'.map Prod.snd = moves := by
  induction ht generalizing moves with
  | start =>
    obtain rfl : moves = [] := by simpa using hmoves
    exact ⟨[], start', ⟨.start, .start, hstart, rfl⟩, rfl⟩
  | @step past a b m v hpast hstep ih =>
    cases moves with
    | nil => simp at hmoves
    | cons m' moves =>
      obtain ⟨hm', hmoves⟩ := List.cons.inj hmoves
      obtain ⟨past', a', htwins, rfl⟩ := ih hmoves
      -- behind the masks the step from `a'` is the one from `a`
      have hmasked : (step? a' m').map (Prod.map state out) = some (state b, out v) := by
        rw [← hm, hm', ← (hm.twins htwins).2, hm, hstep]
        rfl
      obtain ⟨⟨b', v'⟩, hstep', -⟩ := Option.map_eq_some_iff.mp hmasked
      refine ⟨(a', m') :: past', b', ⟨hpast.step hstep, htwins.second.step hstep', hstart, ?_⟩, rfl⟩
      rw [List.map_cons, List.map_cons, htwins.moves, hm']

/-- A system that has a step behind the masks for every step of its own is discreet. -/
theorem discreet (hm : Masks step? step'? state move out) {log : ν → List Notice}
    (log' : ν' → List Notice) (hlog : ∀ v, log' (out v) = (log v).map Notice.mask) :
    Discreet step? log state move := by
  have hmasked {start start' a a' : α} {past past' : List (α × μ)}
      (ht : Twins step? state move start start' past past' a a') :
      (logged step? log past).map Notice.mask = (logged step? log past').map Notice.mask := by
    rw [← hm.logged_map hlog, (hm.twins ht).1, hm.logged_map hlog]
  refine ⟨fun ht => ?_, fun ht => ?_, fun ht => (hm.twins ht).2,
    fun ht hstart hmoves => hm.possible ht hstart hmoves⟩
  · have hselect := congrArg (Log.select .debug) (hmasked ht)
    rwa [Log.select_mask rfl, Log.select_mask rfl] at hselect
  · have hlogs := hmasked ht
    rw [← List.forall₂_eq_eq_eq, List.forall₂_map_left_iff, List.forall₂_map_right_iff] at hlogs
    exact hlogs.imp fun _ _ => Notice.eq_or_trace_of_mask

end Masks

end OpenUrl
