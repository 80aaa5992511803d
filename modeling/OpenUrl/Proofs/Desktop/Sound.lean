import OpenUrl.Proofs.Desktop.Launch

/-!
# Starts that end well

With the event manager there and a process that can be launched, a start in which no callback
panics keeps to the sound places: it leaves its event loop only when it sees that it has been asked
to stop, and then it finishes.
-/
namespace OpenUrl.Desktop

variable {σ : Type} {h : Host σ}

/-- A place of a start of bridge `b` that ends well. -/
def Place.Sound (b : Nat) : Place → Prop
  | beginning b' onMain => b' = b ∧ onMain = true
  | installing b' _ | announcing b' _ | entering b' _ | within b' _ _ _ _ | looking b' _
  | reporting b' => b' = b
  | removing b' _ e | freeing b' _ e | leaving b' _ e => b' = b ∧ e = .finished
  | concluding e => e = .finished
  | away => True
  | receiving _ | poisoning _ _ => False

theorem Place.Sound.eq_of_bridge? {pl : Place} {b : Nat} (hp : pl.Sound b) :
    ∀ c, pl.bridge? = some c → c = b := by
  cases pl <;> simp_all [Place.Sound, Place.bridge?, Place.run?]

/-- The event loop has been left, or the main thread has nothing to do. -/
def Place.isOver : Place → Bool
  | away | removing _ _ _ | freeing _ _ _ | leaving _ _ _ | reporting _ | concluding _ => true
  | _ => false

/-- Without a panic, a start goes on well, and leaves its event loop only when it sees that it
has been asked to stop. -/
theorem Leads.sound {pl pl' : Place} {p p' : State} {s s' : σ} (hl : Leads h pl p s pl' p' s')
    (hnot : ¬ pl.Unwinds pl') {b : Nat} (hp : pl.Sound b) (hmanager : p.managerThere = true)
    (hlaunch : p.launching ≠ .poisoned) :
    (pl'.Sound b ∧ p'.managerThere = true ∧ p'.launching ≠ .poisoned) ∧
      (pl'.isOver = true → pl.isOver = true ∨
        (∃ guard, pl = .within b guard none [] .loop) ∧ p.stopRequested b = true) := by
  cases hl with
  | elsewhere => simp [Place.Sound] at hp
  | unhandled | poison => exact hp.elim
  | noManager hno => simp [hmanager] at hno
  | poisoned hpoisoned => exact absurd hpoisoned hlaunch
  | unwind => exact absurd ⟨_, _, _, _, _, rfl, rfl⟩ hnot
  | begin => exact ⟨⟨hp.1, hmanager, hlaunch⟩, by simp [Place.isOver]⟩
  | launched => exact ⟨⟨hp, hmanager, by simp⟩, by simp [Place.isOver]⟩
  | stopped hstop =>
    obtain rfl : _ = b := hp
    exact ⟨⟨⟨rfl, rfl⟩, hmanager, hlaunch⟩, fun _ => .inr ⟨⟨_, rfl⟩, hstop⟩⟩
  | leave =>
    obtain ⟨rfl, rfl⟩ := hp
    exact ⟨⟨rfl, hmanager, hlaunch⟩, fun _ => .inl rfl⟩
  | remove | free => exact ⟨⟨hp, hmanager, hlaunch⟩, fun _ => .inl rfl⟩
  | report => exact ⟨⟨rfl, hmanager, hlaunch⟩, fun _ => .inl rfl⟩
  | conclude => exact ⟨⟨trivial, hmanager, hlaunch⟩, fun _ => .inl rfl⟩
  | _ => exact ⟨⟨hp, hmanager, hlaunch⟩, by simp [Place.isOver]⟩

/-- The main thread has nothing more to do only after a start has concluded, or after an event
that came outside any run. -/
theorem Leads.of_away {pl pl' : Place} {p p' : State} {s s' : σ} (hl : Leads h pl p s pl' p' s')
    (haway : pl' = .away) : (∃ e, pl = .receiving e) ∨ ∃ e, pl = .concluding e := by
  cases hl with
  | unhandled => exact .inl ⟨_, rfl⟩
  | conclude => exact .inr ⟨_, rfl⟩
  | @unwind _ _ _ _ _ t => cases t <;> simp [Place.unwinding] at haway
  | @leave _ _ _ _ e => cases e <;> simp [Place.left] at haway
  | _ => simp at haway

theorem Leads.ne_beginning {pl pl' : Place} {p p' : State} {s s' : σ}
    (hl : Leads h pl p s pl' p' s') (b : Nat) (onMain : Bool) : pl' ≠ .beginning b onMain := by
  cases hl with
  | @unwind _ _ _ _ _ t => cases t <;> simp [Place.unwinding]
  | @leave _ _ _ _ e => cases e <;> simp [Place.left]
  | _ => simp

end OpenUrl.Desktop
