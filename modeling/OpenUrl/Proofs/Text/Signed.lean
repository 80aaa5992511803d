import OpenUrl.Proofs.Text.Integer

/-!
# Numbers with a sign

A sign stands in front of the digits or none does. A text that spells no number of the range is
refused for the first character that does not fit: one that is no digit, or a digit that takes the
number past the bound on its side of zero. A number that was written is read back.
-/
namespace OpenUrl.Text

variable {cs front rest : List Char} {n m : Nat}

/-! ## Refusals -/

/-- Digits within the bound are passed. -/
theorem magnitude_append {bound : Nat} {excess : IntegerFault}
    (hdigits : ∀ c ∈ front, c.isDigit = true) (hfits : Nat.ofDigitChars 10 front n ≤ bound) :
    magnitude bound excess n (front ++ rest) =
      magnitude bound excess (Nat.ofDigitChars 10 front n) rest := by
  induction front generalizing n with
  | nil => rfl
  | cons c front ih =>
    obtain ⟨hc, hdigits⟩ := List.forall_mem_cons.mp hdigits
    rw [Nat.ofDigitChars_cons] at hfits ⊢
    have hle := Json.le_ofDigitChars front (10 * n + (c.toNat - '0'.toNat))
    rw [List.cons_append, magnitude, digit?_of_isDigit hc]
    dsimp only
    rw [if_pos (Nat.le_trans hle hfits)]
    exact ih hdigits hfits

/-- Going on from `n`, the first character that is no digit, or whose digit takes the number past
the bound, decides. -/
inductive Stops (bound : Nat) (excess : IntegerFault) (n : Nat) : List Char → IntegerFault → Prop
  | stray (front : List Char) {c : Char} (back : List Char)
      (digits : ∀ d ∈ front, d.isDigit = true) (fits : Nat.ofDigitChars 10 front n ≤ bound)
      (hc : c.isDigit = false) : Stops bound excess n (front ++ c :: back) .invalidDigit
  | beyond (front : List Char) {c : Char} (back : List Char)
      (digits : ∀ d ∈ front, d.isDigit = true) (fits : Nat.ofDigitChars 10 front n ≤ bound)
      (hc : c.isDigit = true) (exceeds : bound < Nat.ofDigitChars 10 (front ++ [c]) n) :
      Stops bound excess n (front ++ c :: back) excess

theorem Stops.cons {bound : Nat} {excess f : IntegerFault} {c : Char} (hc : c.isDigit = true)
    (h : Stops bound excess (10 * n + (c.toNat - '0'.toNat)) cs f) :
    Stops bound excess n (c :: cs) f := by
  cases h with
  | stray front back digits fits hstray =>
    exact .stray (c :: front) back (List.forall_mem_cons.mpr ⟨hc, digits⟩) fits hstray
  | beyond front back digits fits hd exceeds =>
    exact .beyond (c :: front) back (List.forall_mem_cons.mpr ⟨hc, digits⟩) fits hd exceeds

theorem magnitude_eq_error {bound : Nat} {excess f : IntegerFault} (hn : n ≤ bound) :
    magnitude bound excess n cs = .error f ↔ Stops bound excess n cs f := by
  constructor
  · intro h
    induction cs generalizing n with
    | nil => cases h
    | cons c cs ih =>
      rw [magnitude] at h
      cases hc : c.isDigit with
      | false =>
        rw [digit?_of_not_isDigit hc] at h
        cases h
        exact .stray [] cs (by simp) hn hc
      | true =>
        simp only [digit?_of_isDigit hc] at h
        by_cases hfits : 10 * n + (c.toNat - '0'.toNat) ≤ bound
        · rw [if_pos hfits] at h
          exact (ih hfits h).cons hc
        · rw [if_neg hfits] at h
          cases h
          exact .beyond [] cs (by simp) hn hc (Nat.not_le.mp hfits)
  · intro h
    cases h with
    | stray front back digits fits hc =>
      rw [magnitude_append digits fits, magnitude, digit?_of_not_isDigit hc]
    | beyond front back digits fits hc exceeds =>
      rw [Nat.ofDigitChars_append] at exceeds
      rw [magnitude_append digits fits, magnitude, digit?_of_isDigit hc]
      exact if_neg (Nat.not_le.mpr exceeds)

/-- Why characters behind a sign are no digits of a number within the bound. -/
inductive Refused (bound : Nat) (excess : IntegerFault) : List Char → IntegerFault → Prop
  | nothing : Refused bound excess [] .invalidDigit
  | stops {ds : List Char} {f : IntegerFault} (h : Stops bound excess 0 ds f) :
      Refused bound excess ds f

theorem digits_eq_error {bound : Nat} {excess f : IntegerFault} :
    digits bound excess cs = .error f ↔ Refused bound excess cs f := by
  cases cs with
  | nil =>
    constructor
    · intro h
      cases h
      exact .nothing
    · intro h
      cases h with
      | nothing => rfl
      | stops h => cases (magnitude_eq_error (Nat.zero_le bound)).mpr h
  | cons c cs =>
    change magnitude bound excess 0 (c :: cs) = .error f ↔ _
    rw [magnitude_eq_error (Nat.zero_le bound)]
    constructor
    · exact .stops
    · intro h
      cases h with
      | stops h => exact h

theorem map_digits_eq_error {α : Type} {bound : Nat} {excess f : IntegerFault} {g : Nat → α} :
    (digits bound excess cs).map g = .error f ↔ Refused bound excess cs f := by
  rw [← digits_eq_error]
  cases digits bound excess cs <;> simp [Except.map]

/-! ## Numbers with a sign -/

/-- Digits of the number, with a plus sign in front or none. -/
def SpellsNatural (s : String) (n : Nat) : Prop :=
  ∃ ds, (s.toList = ds ∨ s.toList = '+' :: ds) ∧ Spells ds n

/-- Digits of the number, with a sign in front or none. -/
inductive SpellsInteger (s : String) : Int → Prop
  | positive {n : Nat} (h : SpellsNatural s n) : SpellsInteger s n
  | negative {ds : List Char} {n : Nat} (hs : s.toList = '-' :: ds) (h : Spells ds n) :
      SpellsInteger s (-n)

/-- Why a text is no natural number of 64 bits. -/
inductive MisspellsNatural (s : String) : IntegerFault → Prop
  | empty (h : s.toList = []) : MisspellsNatural s .empty
  | plus {ds : List Char} {f : IntegerFault} (hs : s.toList = '+' :: ds)
      (h : Refused (UInt64.size - 1) .tooLarge ds f) : MisspellsNatural s f
  | unsigned {c : Char} {cs : List Char} {f : IntegerFault} (hs : s.toList = c :: cs)
      (hc : c ≠ '+') (h : Refused (UInt64.size - 1) .tooLarge (c :: cs) f) : MisspellsNatural s f

/-- Why a text is no integer of 32 bits. -/
inductive MisspellsInteger (s : String) : IntegerFault → Prop
  | empty (h : s.toList = []) : MisspellsInteger s .empty
  | plus {ds : List Char} {f : IntegerFault} (hs : s.toList = '+' :: ds)
      (h : Refused (2 ^ 31 - 1) .tooLarge ds f) : MisspellsInteger s f
  | minus {ds : List Char} {f : IntegerFault} (hs : s.toList = '-' :: ds)
      (h : Refused (2 ^ 31) .tooSmall ds f) : MisspellsInteger s f
  | unsigned {c : Char} {cs : List Char} {f : IntegerFault} (hs : s.toList = c :: cs)
      (hc : c ≠ '+' ∧ c ≠ '-') (h : Refused (2 ^ 31 - 1) .tooLarge (c :: cs) f) :
      MisspellsInteger s f

theorem readUInt64_plus {s : String} (hs : s.toList = '+' :: cs) :
    readUInt64 s = (digits (UInt64.size - 1) .tooLarge cs).map UInt64.ofNat := by
  rw [readUInt64, hs]
  rfl

theorem readUInt64_unsigned {s : String} {c : Char} (hs : s.toList = c :: cs) (hc : c ≠ '+') :
    readUInt64 s = (digits (UInt64.size - 1) .tooLarge (c :: cs)).map UInt64.ofNat := by
  unfold readUInt64
  rw [hs]
  split <;> simp_all

/-- A number is taken for an integer before its sign counts. -/
theorem map_cast {ε β : Type} (x : Except ε Nat) (g : Int → β) :
    (do let m ← x; pure (m : Int)).map g = x.map fun m : Nat => g m := by
  cases x <;> rfl

theorem readInt32_plus {s : String} (hs : s.toList = '+' :: cs) :
    readInt32 s = (digits (2 ^ 31 - 1) .tooLarge cs).map fun m : Nat => Int32.ofInt m := by
  unfold readInt32
  rw [hs]
  exact map_cast _ _

theorem readInt32_minus {s : String} (hs : s.toList = '-' :: cs) :
    readInt32 s = (digits (2 ^ 31) .tooSmall cs).map fun m : Nat => Int32.ofInt (-m) := by
  unfold readInt32
  rw [hs]
  exact map_cast _ _

theorem readInt32_unsigned {s : String} {c : Char} (hs : s.toList = c :: cs)
    (hc : c ≠ '+' ∧ c ≠ '-') :
    readInt32 s = (digits (2 ^ 31 - 1) .tooLarge (c :: cs)).map fun m : Nat => Int32.ofInt m := by
  unfold readInt32
  rw [hs]
  split
  · simp_all
  · simp_all
  · simp_all
  · exact map_cast _ _

theorem readUInt64_eq_error {s : String} {f : IntegerFault} :
    readUInt64 s = .error f ↔ MisspellsNatural s f := by
  constructor
  · intro h
    cases hs : s.toList with
    | nil =>
      rw [readUInt64, hs] at h
      cases h
      exact .empty hs
    | cons c cs =>
      by_cases hplus : c = '+'
      · subst hplus
        rw [readUInt64_plus hs] at h
        exact .plus hs (map_digits_eq_error.mp h)
      · rw [readUInt64_unsigned hs hplus] at h
        exact .unsigned hs hplus (map_digits_eq_error.mp h)
  · intro h
    cases h with
    | empty hs => rw [readUInt64, hs]
    | plus hs h =>
      rw [readUInt64_plus hs]
      exact map_digits_eq_error.mpr h
    | unsigned hs hc h =>
      rw [readUInt64_unsigned hs hc]
      exact map_digits_eq_error.mpr h

theorem readInt32_eq_error {s : String} {f : IntegerFault} :
    readInt32 s = .error f ↔ MisspellsInteger s f := by
  constructor
  · intro h
    cases hs : s.toList with
    | nil =>
      rw [readInt32, hs] at h
      cases h
      exact .empty hs
    | cons c cs =>
      by_cases hplus : c = '+'
      · subst hplus
        rw [readInt32_plus hs] at h
        exact .plus hs (map_digits_eq_error.mp h)
      by_cases hminus : c = '-'
      · subst hminus
        rw [readInt32_minus hs] at h
        exact .minus hs (map_digits_eq_error.mp h)
      · rw [readInt32_unsigned hs ⟨hplus, hminus⟩] at h
        exact .unsigned hs ⟨hplus, hminus⟩ (map_digits_eq_error.mp h)
  · intro h
    cases h with
    | empty hs => rw [readInt32, hs]
    | plus hs h =>
      rw [readInt32_plus hs]
      exact map_digits_eq_error.mpr h
    | minus hs h =>
      rw [readInt32_minus hs]
      exact map_digits_eq_error.mpr h
    | unsigned hs hc h =>
      rw [readInt32_unsigned hs hc]
      exact map_digits_eq_error.mpr h

/-- The digits of an integer from its sign on. -/
theorem digits_map_ofInt {bound : Nat} {excess : IntegerFault} {z : Nat → Int} {n : Int32}
    (hz : ∀ m ≤ bound, -2 ^ 31 ≤ z m ∧ z m < 2 ^ 31)
    (h : (digits bound excess cs).map (fun m => Int32.ofInt (z m)) = .ok n) :
    ∃ m, Spells cs m ∧ n.toInt = z m := by
  cases hd : digits bound excess cs with
  | error f =>
    rw [hd] at h
    cases h
  | ok m =>
    obtain ⟨hspells, hbound⟩ := digits_eq_ok.mp hd
    rw [hd] at h
    obtain rfl : Int32.ofInt (z m) = n := Except.ok.inj h
    exact ⟨m, hspells, Int32.toInt_ofInt_of_le (hz m hbound).1 (hz m hbound).2⟩

theorem Spells.head_isDigit {c : Char} (h : Spells (c :: cs) n) : c.isDigit = true :=
  h.digits c List.mem_cons_self

theorem SpellsNatural.readInt32 {s : String} {n : Int32} {m : Nat} (h : SpellsNatural s m)
    (hn : n.toInt = m) : readInt32 s = .ok n := by
  have hlt := n.toInt_lt
  obtain ⟨ds, hs, hds⟩ := h
  have hd : ((digits (2 ^ 31 - 1) .tooLarge ds).map fun m : Nat => Int32.ofInt m) = .ok n := by
    rw [digits_eq_ok.mpr ⟨hds, by omega⟩]
    change Except.ok (Int32.ofInt m) = _
    rw [← hn, Int32.ofInt_toInt]
  obtain ⟨c, cs, rfl⟩ := List.exists_cons_of_ne_nil hds.ne_nil
  rcases hs with hs | hs
  · have hc : c ≠ '+' ∧ c ≠ '-' := by
      have hdigit := hds.head_isDigit
      constructor <;> rintro rfl <;> exact absurd hdigit (by decide)
    rw [readInt32_unsigned hs hc, hd]
  · rw [readInt32_plus hs, hd]

theorem readInt32_eq_ok {s : String} {n : Int32} :
    readInt32 s = .ok n ↔ SpellsInteger s n.toInt := by
  constructor
  · intro h
    cases hs : s.toList with
    | nil =>
      rw [readInt32, hs] at h
      cases h
    | cons c cs =>
      by_cases hplus : c = '+'
      · subst hplus
        rw [readInt32_plus hs] at h
        obtain ⟨m, hds, hn⟩ := digits_map_ofInt (by omega) h
        exact hn ▸ .positive ⟨_, .inr hs, hds⟩
      by_cases hminus : c = '-'
      · subst hminus
        rw [readInt32_minus hs] at h
        obtain ⟨m, hds, hn⟩ := digits_map_ofInt (by omega) h
        exact hn ▸ .negative hs hds
      · rw [readInt32_unsigned hs ⟨hplus, hminus⟩] at h
        obtain ⟨m, hds, hn⟩ := digits_map_ofInt (by omega) h
        exact hn ▸ .positive ⟨_, .inl hs, hds⟩
  · intro h
    generalize hz : n.toInt = z at h
    cases h with
    | positive h => exact h.readInt32 hz
    | @negative ds m hs h =>
      have hle := n.le_toInt
      rw [readInt32_minus hs, digits_eq_ok.mpr ⟨h, by omega⟩]
      change Except.ok (Int32.ofInt (-(m : Int))) = _
      rw [← hz, Int32.ofInt_toInt]

/-! ## Written numbers -/

theorem spells_toDigits (n : Nat) : Spells (Nat.toDigits 10 n) n where
  ne_nil := Nat.toDigits_ne_nil
  digits _ h := Nat.isDigit_of_mem_toDigits (by decide) (by decide) h
  value := Nat.ofDigitChars_toDigits (by decide) (by decide)

theorem spellsNatural_toString (n : UInt64) : SpellsNatural (toString n) n.toNat :=
  ⟨Nat.toDigits 10 n.toNat, .inl String.toList_ofList, spells_toDigits n.toNat⟩

theorem spellsInteger_toString (n : Int32) : SpellsInteger (toString n) n.toInt := by
  change SpellsInteger (toString n.toInt) n.toInt
  cases n.toInt with
  | ofNat m =>
    exact .positive ⟨_, .inl (Json.toList_toString_ofNat m), spells_toDigits m⟩
  | negSucc m =>
    exact .negative (Json.toList_toString_negSucc m) (spells_toDigits (m + 1))

end OpenUrl.Text
