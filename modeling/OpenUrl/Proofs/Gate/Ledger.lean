import OpenUrl.Proofs.Gate.Turn

/-!
# The ledger of a run

What has become of the events that were handed over at a gate since the begin of a run: some were
delivered, then, after a stop, some were dropped, and at most one is on its way. The host has
received those delivered, in their order, and no other one but that on its way.
-/
namespace OpenUrl

/-- The callback has begun and has not ended its call. -/
def Stage.entered : Stage → Bool
  | inside _ _ | returned | counted | unwinding => true
  | _ => false

/-- The event of the call that is served, if the callback has begun. -/
def received (cur : Option Call) : List Event :=
  match cur with
  | some c => if c.stage.entered then [c.event] else []
  | none => []

variable {σ : Type}

/-- The host after it has received some events. -/
def Host.after (h : Host σ) (s : σ) (events : List Event) : σ :=
  events.foldl (fun s e => (h.receive s e).1) s

namespace Gate

/-- The calls since `old` with host `s₀`: `xs` were delivered and then `ys` dropped. -/
structure Ledger (h : Host σ) (old : List Call) (s₀ : σ) (g : Gate) (s : σ) (xs ys : List Event)
    (cur : Option Call) : Prop where
  serves : g.Serves
    (old ++ xs.map (⟨·, .done .delivered⟩) ++ ys.map (⟨·, .done .dropped⟩)) cur
  host : s = h.after s₀ (xs ++ received cur)
  /-- Nothing is dropped while the bridge runs. -/
  running : g.lifecycle.phase = .running → ys = [] ∧ ∀ c ∈ cur, c.stage ≠ .refused
  /-- Nothing has been dropped when a call is past its look. -/
  admitted : ∀ c ∈ cur, c.stage = .admitted ∨ c.stage.entered = true → ys = []

namespace Ledger

variable {h : Host σ} {old : List Call} {s₀ s s' : σ} {g g' : Gate} {xs ys : List Event}
  {cur : Option Call} {e : Event} {stage stage' : Stage}

/-- The begin of a ledger. -/
theorem start (hg : g.Serves old none) (h : Host σ) (s : σ) : g.Ledger h old s s [] [] none := by
  refine ⟨by simpa using hg, rfl, by simp, by simp⟩

/-- Others may change the lifecycle, but for a begin of the bridge. -/
theorem congr (hl : g.Ledger h old s₀ s xs ys cur) (hc : g'.calls = g.calls)
    (hh : g'.holder = g.holder)
    (hp : g'.lifecycle.phase = .running → g.lifecycle.phase = .running) :
    g'.Ledger h old s₀ s xs ys cur :=
  ⟨hl.serves.congr hc hh, hl.host, fun hr => hl.running (hp hr), hl.admitted⟩

theorem stop (hl : g.Ledger h old s₀ s xs ys cur) :
    (g.live .requestStop).1.Ledger h old s₀ s xs ys cur :=
  hl.congr rfl rfl fun hr => absurd hr (by simp [Lifecycle.step])

theorem push (hl : g.Ledger h old s₀ s xs ys none) (e : Event) :
    (g.push e).Ledger h old s₀ s xs ys (some ⟨e, .waiting⟩) := by
  refine ⟨hl.serves.push e, hl.host, ?_, by simp [Stage.entered]⟩
  intro hr
  exact ⟨(hl.running hr).1, by simp⟩

/-- A call goes on. -/
theorem turn (hl : g.Ledger h old s₀ s xs ys (some ⟨e, stage⟩)) {past : List Call}
    (hs : g.Serves past (some ⟨e, stage⟩)) (hs' : g'.Serves past (some ⟨e, stage'⟩))
    (ht : Turn h e stage g.lifecycle g.delivered s stage' g'.lifecycle g'.delivered s') :
    g'.Ledger h old s₀ s' xs ys (some ⟨e, stage'⟩) := by
  obtain ⟨rfl, -⟩ := hl.serves.unique hs
  have hhost := hl.host
  have hrunning := hl.running
  have hadmitted := hl.admitted
  generalize g.lifecycle = l at ht hrunning
  generalize g.delivered = n at ht
  generalize hl' : g'.lifecycle = l' at ht
  generalize g'.delivered = n' at ht
  refine ⟨hs', ?_, ?_, ?_⟩
  · cases ht with
    | enter =>
      simp [Host.after, received, Stage.entered] at hhost ⊢
      rw [hhost]
    | release _ _ _ _ => exact (hs'.tame _ rfl : Stage.Tame (.done _)).elim
    | _ => exact hhost
  · rw [hl']
    cases ht with
    | act => simp
    | accept _ _ _ hr => exact fun _ => ⟨(hrunning hr).1, by simp⟩
    | refuse _ _ _ hr => exact fun hr' => absurd hr' hr
    | release _ _ _ _ => exact (hs'.tame _ rfl : Stage.Tame (.done _)).elim
    | _ =>
      intro hr
      exact ⟨(hrunning hr).1, by simp⟩
  · cases ht with
    | accept _ _ _ hr => exact fun _ _ _ => (hrunning hr).1
    | release _ _ _ _ => exact (hs'.tame _ rfl : Stage.Tame (.done _)).elim
    | acquire | refuse => simp [Stage.entered]
    | _ => exact fun _ _ _ => hadmitted _ rfl (by simp [Stage.entered])

/-- A call ends without a panic. -/
theorem answer {v : Verdict} (hl : g.Ledger h old s₀ s xs ys (some ⟨e, stage⟩))
    {past : List Call} (hs : g.Serves past (some ⟨e, stage⟩))
    (hs' : g'.Serves (past ++ [⟨e, .done v⟩]) none)
    (ht : Turn h e stage g.lifecycle g.delivered s (.done v) g'.lifecycle g'.delivered s')
    (hv : v ≠ .panicked) :
    ∃ xs' ys', g'.Ledger h old s₀ s' xs' ys' none ∧ xs' ++ ys' = xs ++ ys ++ [e] := by
  obtain ⟨rfl, -⟩ := hl.serves.unique hs
  obtain ⟨hverdict, hlife, -, rfl⟩ := ht.of_done
  cases v with
  | delivered =>
    obtain rfl : stage = .counted := by
      cases stage <;> simp_all [Stage.verdict?]
    obtain rfl : ys = [] := hl.admitted _ rfl (by simp [Stage.entered])
    refine ⟨xs ++ [e], [], ⟨?_, ?_, by simp, by simp⟩, by simp⟩
    · simpa using hs'
    · simpa [received, Stage.entered] using hl.host
  | dropped =>
    obtain rfl : stage = .refused := by
      cases stage <;> simp_all [Stage.verdict?]
    refine ⟨xs, ys ++ [e], ⟨?_, ?_, ?_, by simp⟩, by simp⟩
    · simpa using hs'
    · simpa [received, Stage.entered] using hl.host
    · rw [hlife]
      intro hr
      exact absurd rfl ((hl.running hr).2 _ rfl)
  | panicked => exact absurd rfl hv

end Ledger

end Gate

end OpenUrl
