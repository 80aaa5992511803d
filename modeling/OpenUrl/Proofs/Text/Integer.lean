import OpenUrl.Proofs.Json.Numeral
import OpenUrl.Text.Blank
import OpenUrl.Text.Integer

/-!
# The numbers that texts spell

Digits are judged from left to right and refused as soon as their number passes the bound. As a
number only grows with its digits, a text is read exactly if it consists of digits and the number
they spell in the end is within the bound, however many zeros stand in front.
-/
namespace OpenUrl.Text

variable {cs : List Char} {n m : Nat}

/-- ASCII digits, one at least, that spell a number. -/
structure Spells (cs : List Char) (n : Nat) : Prop where
  ne_nil : cs ≠ []
  digits : ∀ c ∈ cs, c.isDigit = true
  value : Nat.ofDigitChars 10 cs 0 = n

theorem isBlank_of_isDigit {c : Char} (h : c.isDigit = true) : isBlank c = false := by
  simp only [Char.isDigit, Bool.and_eq_true, decide_eq_true_eq] at h
  have hlow : 48 ≤ c.toNat := h.1
  have hhigh : c.toNat ≤ 57 := h.2
  by_contra hblank
  simp only [Bool.not_eq_false, isBlank, Bool.or_eq_true, Bool.and_eq_true, decide_eq_true_eq,
    beq_iff_eq] at hblank
  omega

theorem digit?_of_isDigit {c : Char} (h : c.isDigit = true) :
    digit? c = some (c.toNat - '0'.toNat) := by
  simp only [Char.isDigit, Bool.and_eq_true, decide_eq_true_eq] at h
  exact if_pos h

theorem digit?_of_not_isDigit {c : Char} (h : c.isDigit = false) : digit? c = none := by
  refine if_neg fun hc => ?_
  have hdigit : c.isDigit = true := by
    simp only [Char.isDigit, Bool.and_eq_true, decide_eq_true_eq]
    exact hc
  exact Bool.noConfusion (h.symm.trans hdigit)

/-- Reading goes on to the end exactly if it meets digits only and ends within the bound. -/
theorem magnitude_eq_ok {bound : Nat} {excess : IntegerFault} (hn : n ≤ bound) :
    magnitude bound excess n cs = .ok m ↔
      (∀ c ∈ cs, c.isDigit = true) ∧ Nat.ofDigitChars 10 cs n = m ∧ m ≤ bound := by
  induction cs generalizing n with
  | nil =>
    simp only [magnitude, Except.ok.injEq, Nat.ofDigitChars_nil, List.not_mem_nil,
      false_imp_iff, implies_true, true_and]
    exact ⟨fun h => ⟨h, h ▸ hn⟩, fun h => h.1⟩
  | cons c cs ih =>
    rw [magnitude, Nat.ofDigitChars_cons, List.forall_mem_cons]
    cases hc : c.isDigit with
    | false => simp [digit?_of_not_isDigit hc]
    | true =>
      simp only [digit?_of_isDigit hc, true_and]
      by_cases hfits : 10 * n + (c.toNat - '0'.toNat) ≤ bound
      · rw [if_pos hfits]
        exact ih hfits
      · have hle := Json.le_ofDigitChars cs (10 * n + (c.toNat - '0'.toNat))
        rw [if_neg hfits]
        constructor
        · intro h
          cases h
        · rintro ⟨-, rfl, hbound⟩
          omega

theorem digits_eq_ok {bound : Nat} {excess : IntegerFault} :
    digits bound excess cs = .ok n ↔ Spells cs n ∧ n ≤ bound := by
  cases cs with
  | nil =>
    constructor
    · intro h
      cases h
    · exact fun h => absurd rfl h.1.ne_nil
  | cons c cs =>
    change magnitude bound excess 0 (c :: cs) = .ok n ↔ _
    rw [magnitude_eq_ok (Nat.zero_le _)]
    constructor
    · rintro ⟨hdigits, hvalue, hbound⟩
      exact ⟨⟨List.cons_ne_nil _ _, hdigits, hvalue⟩, hbound⟩
    · rintro ⟨h, hbound⟩
      exact ⟨h.digits, h.value, hbound⟩

theorem digits_map_eq_ok {excess : IntegerFault} {n : UInt64} :
    (digits (UInt64.size - 1) excess cs).map UInt64.ofNat = .ok n ↔ Spells cs n.toNat := by
  have hlt : n.toNat < UInt64.size := n.toNat_lt_size
  constructor
  · intro h
    cases hd : digits (UInt64.size - 1) excess cs with
    | error f =>
      rw [hd] at h
      cases h
    | ok m =>
      obtain ⟨hspells, hbound⟩ := digits_eq_ok.mp hd
      rw [hd] at h
      obtain rfl : UInt64.ofNat m = n := Except.ok.inj h
      have hm : m < UInt64.size := by omega
      rwa [UInt64.toNat_ofNat_of_lt' hm]
  · intro h
    have hd : digits (UInt64.size - 1) excess cs = .ok n.toNat :=
      digits_eq_ok.mpr ⟨h, by omega⟩
    rw [hd]
    exact congrArg Except.ok UInt64.ofNat_toNat

/-- A plus sign or none, and digits. -/
theorem readUInt64_eq_ok {s : String} {n : UInt64} :
    readUInt64 s = .ok n ↔ ∃ ds, (s.toList = ds ∨ s.toList = '+' :: ds) ∧ Spells ds n.toNat := by
  unfold readUInt64
  split
  · rename_i hs
    rw [hs]
    constructor
    · intro h
      cases h
    · rintro ⟨ds, rfl | hplus, h⟩
      · exact absurd rfl h.ne_nil
      · cases hplus
  · rename_i ds hs
    rw [hs, digits_map_eq_ok]
    constructor
    · exact fun h => ⟨ds, .inr rfl, h⟩
    · rintro ⟨ds', rfl | hplus, h⟩
      · exact absurd (h.digits '+' List.mem_cons_self) (by decide)
      · obtain ⟨-, rfl⟩ := List.cons.inj hplus
        exact h
  · rename_i hnil hplus
    rw [digits_map_eq_ok]
    constructor
    · exact fun h => ⟨_, .inl rfl, h⟩
    · rintro ⟨ds, rfl | hs, h⟩
      · exact h
      · exact absurd hs (hplus ds)

end OpenUrl.Text
