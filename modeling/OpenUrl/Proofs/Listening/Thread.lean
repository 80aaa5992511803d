import OpenUrl.Proofs.Desktop.Calm
import OpenUrl.Proofs.Handoff.Queue
import OpenUrl.Proofs.Listening.Step

/-!
# The main thread of listening

While listening lasts, the main thread is away, or at a place of the start of the bridge that
listening has made (`Sits`). Few steps of listening reach the process: those of that start, and
the worker's stop (`Passes`).
-/
namespace OpenUrl

open OpenUrl.Desktop

theorem Gate.AtRest.silent {g : Gate} (hg : g.AtRest) : g.Silent := by
  obtain ⟨-, -, past, hs⟩ := hg
  intro c hc
  rw [hs.calls] at hc
  obtain ⟨v, hv⟩ := hs.ended c (by simpa using hc)
  rw [hv]
  trivial

namespace Desktop

/-- The main thread of a process has nothing to do. -/
def State.AtRest (p : State) : Prop := Place.away.Fits p

/-- Every process comes to rest whenever its main thread has nothing to do. -/
theorem Machine.atRest {σ : Type} {h : Host σ} (hh : h.OnlyStops) {scriptEnd : ScriptEnd} {s : σ}
    {past : List (Machine σ × Move)} {m : Machine σ}
    (ht : Trail (Machine.move? h) (Machine.idle scriptEnd s) past m) (ha : m.agenda = []) :
    m.state.AtRest := by
  obtain ⟨pl, hm⟩ := Machine.exists_at hh ht
  obtain rfl := Place.agenda_eq_nil (hm.agenda.symm.trans ha)
  exact hm.fits

theorem State.atRest_fresh (scriptEnd : ScriptEnd) : (State.fresh scriptEnd).AtRest :=
  (Machine.at_idle scriptEnd ()).fits

theorem State.AtRest.set {p : State} (hp : p.AtRest) (t : Setting) : (p.set t).AtRest :=
  ⟨hp.handlers, hp.gates, hp.there⟩

theorem State.alive_newBridge {p p' : State} {pollInterval : UInt64} {b : Nat}
    {notices : List OpenUrl.Log.Notice} (h : p.newBridge pollInterval = (.ok b, p', notices)) :
    (p'.bridges[b]?).any Bridge.alive = true := by
  unfold newBridge at h
  split at h
  · simp at h
  · obtain ⟨rfl, rfl, -⟩ := by simpa using h
    simp

/-- A stop does not drop a bridge. -/
theorem State.alive_stop (p : State) (b c : Nat) :
    ((p.stop b).2.1.bridges[c]?).any Bridge.alive = (p.bridges[c]?).any Bridge.alive := by
  simp only [stop, live]
  cases p.gate? b with
  | none => rfl
  | some g =>
    simp only [setGate, List.getElem?_modify]
    split <;> cases p.bridges[c]? <;> rfl

end Desktop

namespace Listening

/-- Where the main thread is, and what the process is like then. -/
structure Sits (l : Listening) (pl : Place) : Prop where
  place : l.machine.At pl
  calm : pl.Calm l.state
  own : ∀ b, pl.bridge? = some b → b = l.bridge
  busy : l.main ≠ .running → pl = .away
  bridge : l.main = .created ∨ l.main = .spawned →
    (l.state.bridges[l.bridge]?).any Bridge.alive = true
  early : l.main = .entering ∨ l.main = .created → l.worker = .absent

theorem sits_enter {p : State} (hp : p.AtRest) (hq : p.Quiet) (s : Settings) (onMain : Bool) :
    (enter p s onMain).Sits .away := by
  refine ⟨⟨rfl, hp⟩, ⟨hq, trivial, ?_⟩, ?_, fun _ => rfl, ?_, fun _ => rfl⟩
  · intro b g hg
    exact (hp.atRest rfl hg).silent
  · simp [Place.bridge?, Place.run?]
  · simp [enter]

variable {l k : Listening} {pl pl' : Place} {m : Move}

/-- What a step does to the process, and where the main thread is then. -/
inductive Passes (l : Listening) (pl : Place) : Move → Listening → Place → Prop
  | start {k : Listening} : l.main = .spawned → k.main = .running → k.state = l.state →
      Passes l pl .main k (.beginning l.bridge l.onMain)
  | task {k : Listening} {pl' : Place} : l.main = .running → k.main = .running →
      Leads Handoff.callback pl l.state l.machine.host pl' k.state k.machine.host →
      Passes l pl .main k pl'
  | stop {k : Listening} {r} : l.worker = .stopping r → k.main = l.main →
      k.state = (l.state.stop l.bridge).2.1 → Passes l pl .worker k pl
  | aside {k : Listening} {m : Move} : (k.main = .running → l.main = .running) →
      k.state = { l.state with slot := k.state.slot, bridges := k.state.bridges } →
      (∀ b g, l.state.gate? b = some g → k.state.gate? b = some g) → Passes l pl m k pl

/-- A step that leaves the process as it is. -/
theorem Passes.same (hm : k.main = .running → l.main = .running) (hs : k.state = l.state) :
    l.Passes pl m k pl := by
  refine .aside hm ?_ ?_
  · rw [hs]
  · rw [hs]
    exact fun _ _ hg => hg

/-- Only the process, the main thread and the bridge matter, once there is a worker. -/
theorem Sits.of_worker (hl : l.Sits pl) (hw : l.worker ≠ .absent)
    (ha : k.machine.agenda = l.machine.agenda) (hs : k.state = l.state) (hm : k.main = l.main)
    (hb : k.bridge = l.bridge) : k.Sits pl := by
  have hstate : k.machine.state = l.machine.state := hs
  refine ⟨⟨ha.trans hl.place.agenda, ?_⟩, ?_, ?_, ?_, ?_, ?_⟩
  · rw [hstate]
    exact hl.place.fits
  · rw [hs]
    exact hl.calm
  · rw [hb]
    exact hl.own
  · rw [hm]
    exact hl.busy
  · rw [hm, hs, hb]
    exact hl.bridge
  · rw [hm]
    exact fun h => absurd (hl.early h) hw

/-- The main thread has dropped the bridge. -/
theorem Sits.dropBridge (hl : l.Sits .away) {next : Main}
    (hn : next ≠ .entering ∧ next ≠ .created ∧ next ≠ .spawned ∧ next ≠ .running) :
    (l.dropBridge next).1.Sits .away ∧ l.Passes .away .main (l.dropBridge next).1 .away := by
  have hplace := hl.place.of_moves (h := Handoff.callback) (.drop l.bridge)
  have hgates (b : Nat) : (l.state.dropBridge l.bridge).2.1.gate? b = l.state.gate? b :=
    State.gate?_dropBridge _ _ _
  have hquiet : (l.state.dropBridge l.bridge).2.1.Quiet := by
    rw [State.dropBridge_frame]
    exact hl.calm.process
  refine ⟨⟨⟨hplace.agenda, hplace.fits⟩, hl.calm.congr hquiet trivial ?_, ?_, fun _ => rfl, ?_, ?_⟩,
    .aside (fun h => absurd h hn.2.2.2) (State.dropBridge_frame _ _) ?_⟩
  · intro b g hg
    rwa [← hgates]
  · simp [Place.bridge?, Place.run?]
  · exact fun h => (h.elim hn.2.1 hn.2.2.1).elim
  · exact fun h => (h.elim hn.1 hn.2.1).elim
  · intro b g hg
    exact (hgates b).trans hg

theorem Goes.sits (hg : l.Goes m k) (hl : l.Sits pl) : ∃ pl', k.Sits pl' ∧ l.Passes pl m k pl' := by
  cases hg with
  | @create b p _ hm hp =>
    obtain rfl := hl.busy (by simp [hm])
    obtain rfl : (l.state.newBridge l.settings.pollInterval).2.1 = p := by rw [hp]
    have hplace := hl.place.of_moves (h := Handoff.callback) (.new l.settings.pollInterval)
    refine ⟨.away, ⟨⟨hplace.agenda, hplace.fits⟩, hl.calm.new _, ?_, fun _ => rfl, ?_, ?_⟩, ?_⟩
    · simp [Place.bridge?, Place.run?]
    · exact fun _ => State.alive_newBridge hp
    · exact fun _ => hl.early (.inl hm)
    · exact .aside (by simp) (State.newBridge_frame _ _) fun b g hg =>
        State.gate?_newBridge_of_some hg _
  | @refuse f p _ hm hp =>
    obtain rfl := hl.busy (by simp [hm])
    obtain rfl : (l.state.newBridge l.settings.pollInterval).2.1 = p := by rw [hp]
    have hplace := hl.place.of_moves (h := Handoff.callback) (.new l.settings.pollInterval)
    refine ⟨.away, ⟨⟨hplace.agenda, hplace.fits⟩, hl.calm.new _, ?_, fun _ => rfl, ?_, ?_⟩, ?_⟩
    · simp [Place.bridge?, Place.run?]
    · simp
    · simp
    · exact .aside (by simp) (State.newBridge_frame _ _) fun b g hg =>
        State.gate?_newBridge_of_some hg _
  | spawn hm =>
    obtain rfl := hl.busy (by simp [hm])
    refine ⟨.away, ⟨hl.place, hl.calm, hl.own, fun _ => rfl, ?_, ?_⟩, .same (by simp) rfl⟩
    · exact fun _ => hl.bridge (.inl hm)
    · simp
  | start hm =>
    obtain rfl := hl.busy (by simp [hm])
    have hplace := hl.place.of_moves (h := Handoff.callback)
      (.start l.bridge l.onMain (hl.bridge (.inr hm)))
    refine ⟨_, ⟨hplace, ⟨hl.calm.process, trivial, hl.calm.silent⟩, ?_, ?_, ?_, ?_⟩,
      .start hm rfl rfl⟩
    · simp [Place.bridge?, eq_comm]
    · simp
    · simp
    · simp
  | @task m v hm hstep =>
    have hmove : l.machine.move? Handoff.callback .main = some (m, v) := hstep
    obtain ⟨pl', hmoves⟩ := hl.place.moves Handoff.silent_callback.onlyStops hmove
    have hplace := hl.place.of_moves hmoves
    cases hmoves with
    | main hleads =>
      refine ⟨pl', ⟨hplace, hleads.calm Handoff.silent_callback hl.calm, ?_, ?_, ?_, ?_⟩,
        .task hm hm hleads⟩
      · exact fun b hb => hl.own b (hleads.bridge?_eq hb)
      · simp [hm]
      · simp [hm]
      · simp [hm]
  | finish hm ha =>
    obtain rfl := Place.agenda_eq_nil (hl.place.agenda.symm.trans ha)
    refine ⟨.away, ⟨hl.place, hl.calm, hl.own, fun _ => rfl, ?_, ?_⟩, .same (by simp) rfl⟩
    · simp
    · simp
  | @leave e hm =>
    obtain rfl := hl.busy (by simp [hm])
    exact ⟨.away, hl.dropBridge (by cases e <;> simp [Main.after])⟩
  | retreat hm =>
    obtain rfl := hl.busy (by simp [hm])
    exact ⟨.away, hl.dropBridge (by simp)⟩
  | join hm =>
    obtain rfl := hl.busy (by simp [hm])
    refine ⟨.away, ⟨hl.place, hl.calm, hl.own, fun _ => rfl, ?_, ?_⟩, .same (by simp) rfl⟩
    · simp
    · simp
  | noThread reason hm =>
    obtain rfl := hl.busy (by simp [hm])
    refine ⟨.away, ⟨⟨hl.place.agenda, hl.place.fits⟩, hl.calm, hl.own, fun _ => rfl, ?_, ?_⟩,
      .same (by simp) rfl⟩
    · simp
    · simp
  | stop hw =>
    have hplace := hl.place.of_moves (h := Handoff.callback) (.stop l.bridge)
    refine ⟨pl, ⟨hplace, hl.calm.stop l.bridge, hl.own, hl.busy, ?_, ?_⟩, .stop hw rfl rfl⟩
    · exact fun h => (State.alive_stop _ _ _).trans (hl.bridge h)
    · exact fun h => absurd (hl.early h) (by simp [hw])
  | tick =>
    exact ⟨pl, ⟨hl.place, hl.calm, hl.own, hl.busy, hl.bridge, hl.early⟩, .same id rfl⟩
  | @slot m p _ hp =>
    rw [State.slotStep?_eq hp]
    have hplace := hl.place.of_moves (h := Handoff.callback) (.slot m p.slot)
    exact ⟨pl, ⟨hplace, ⟨hl.calm.process, hl.calm.place, hl.calm.silent⟩, hl.own, hl.busy,
      hl.bridge, hl.early⟩, .aside id rfl fun _ _ hg => hg⟩
  | noRuntime _ hw => exact ⟨pl, hl.of_worker (by simp [hw]) rfl rfl rfl rfl, .same id rfl⟩
  | _ hw => exact ⟨pl, hl.of_worker (by simp [hw]) rfl rfl rfl rfl, .same id rfl⟩

end Listening

end OpenUrl
