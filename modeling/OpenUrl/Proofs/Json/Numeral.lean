import Mathlib.Data.Nat.Digits.Defs
import OpenUrl.Proofs.Json.Reads

/-!
# Whole numbers are read as they were written

The digits of a number that fits 64 bits are all gathered, so it is read back exactly, with its
sign. Only zero is written with a zero in front, and zero has no sign.
-/
namespace OpenUrl.Json

variable {ds rest : List Char} {n : Nat}

theorem isDigit_eq (c : Char) : isDigit c = c.isDigit := by
  simp only [isDigit, Char.isDigit, ge_iff_le, Char.le_def]

theorem le_ofDigitChars (ds : List Char) (n : Nat) : n ≤ Nat.ofDigitChars 10 ds n := by
  induction ds generalizing n with
  | nil => exact Nat.le_refl n
  | cons d ds ih =>
    have hle := ih (10 * n + (d.toNat - '0'.toNat))
    rw [Nat.ofDigitChars_cons]
    omega

/-- Digits whose number fits the significand are all taken. -/
theorem gather_eq {taken : Nat} (h : Nat.ofDigitChars 10 ds n ≤ maxSignificand) :
    gather n taken ds = (Nat.ofDigitChars 10 ds n, taken + ds.length, []) := by
  induction ds generalizing n taken with
  | nil => rfl
  | cons d ds ih =>
    rw [Nat.ofDigitChars_cons] at h
    have hle := le_ofDigitChars ds (10 * n + (d.toNat - '0'.toNat))
    have hfits : 10 * n + digitValue d ≤ maxSignificand := Nat.le_trans hle h
    rw [gather, if_pos hfits, Nat.ofDigitChars_cons, List.length_cons]
    refine (ih h).trans ?_
    rw [Nat.add_assoc, Nat.add_comm 1]

/-- The digits of a number other than zero do not start with a zero. -/
theorem exists_toDigits (h : 0 < n) : ∃ c cs, Nat.toDigits 10 n = c :: cs ∧ c ≠ '0' := by
  induction n using Nat.strongRecOn with
  | ind n ih =>
    by_cases hlt : n < 10
    · refine ⟨Nat.digitChar n, [], Nat.toDigits_of_lt_base hlt, fun heq => ?_⟩
      have hnat := congrArg Char.toNat heq
      rw [Nat.toNat_digitChar_of_lt_ten hlt] at hnat
      have hzero : '0'.toNat = 48 := rfl
      omega
    · obtain ⟨c, cs, heq, hc⟩ := ih (n / 10) (by omega) (by omega)
      refine ⟨c, cs ++ [Nat.digitChar (n % 10)], ?_, hc⟩
      rw [Nat.toDigits_of_base_le (by decide) (by omega), heq]
      rfl

theorem isDigit_of_mem_toDigits {c : Char} (h : c ∈ Nat.toDigits 10 n) : isDigit c = true := by
  rw [isDigit_eq]
  exact Nat.isDigit_of_mem_toDigits (by decide) (by decide) h

/-- The digits of a number, and no more, stand ahead. -/
theorem takeWhile_toDigits (hrest : Ends rest) (n : Nat) :
    (Nat.toDigits 10 n ++ rest).takeWhile isDigit = Nat.toDigits 10 n ∧
      (Nat.toDigits 10 n ++ rest).dropWhile isDigit = rest := by
  have hdigits : ∀ c ∈ Nat.toDigits 10 n, isDigit c = true := fun c => isDigit_of_mem_toDigits
  have htake : rest.takeWhile isDigit = [] := by
    cases rest with
    | nil => rfl
    | cons c cs => rw [List.takeWhile_cons_of_neg (by simp [(hrest c rfl).1])]
  have hdrop : rest.dropWhile isDigit = rest := by
    cases rest with
    | nil => rfl
    | cons c cs => rw [List.dropWhile_cons_of_neg (by simp [(hrest c rfl).1])]
  rw [List.takeWhile_append_of_pos hdigits, List.dropWhile_append_of_pos hdigits, htake, hdrop,
    List.append_nil]
  exact ⟨rfl, rfl⟩

theorem afterDigits_eq (hrest : Ends rest) (negative : Bool) (n o : Nat) :
    afterDigits negative n 0 ⟨rest, o⟩ = .done (whole negative n) ⟨rest, o⟩ := by
  cases rest with
  | nil => rfl
  | cons c cs =>
    obtain ⟨-, hpoint, hlower, hupper⟩ := hrest c rfl
    unfold afterDigits
    split
    · simp_all
    · simp_all
    · simp_all
    · rfl

theorem reads_unsigned (h : n ≤ maxSignificand) (negative : Bool) :
    Reads Ends (unsigned negative) (Nat.toDigits 10 n) (whole negative n) := by
  intro rest hrest o
  rcases Nat.eq_zero_or_pos n with rfl | hpos
  · refine ⟨o + 1, ?_⟩
    change unsigned negative ⟨'0' :: rest, o⟩ = _
    have hafter := afterDigits_eq hrest negative 0 (o + 1)
    cases rest with
    | nil => exact hafter
    | cons c cs =>
      simp only [unsigned, if_true, Text.Cursor.advance_mk_cons, (hrest c rfl).1,
        Bool.false_eq_true, if_false]
      exact hafter
  · obtain ⟨c, cs, heq, hc⟩ := exists_toDigits hpos
    obtain ⟨htake, hdrop⟩ := takeWhile_toDigits hrest n
    have hdigit : isDigit c = true := isDigit_of_mem_toDigits (n := n) (by simp [heq])
    have hvalue : Nat.ofDigitChars 10 (Nat.toDigits 10 n) 0 = n :=
      Nat.ofDigitChars_toDigits (by decide) (by decide)
    have hgather : gather 0 0 (Nat.toDigits 10 n) = (n, (Nat.toDigits 10 n).length, []) := by
      rw [gather_eq (by rwa [hvalue]), hvalue, Nat.zero_add]
    -- the cursor behind the digits
    generalize hnext : Text.Cursor.skip isDigit ⟨Nat.toDigits 10 n ++ rest, o⟩ = next
    obtain rfl : next.rest = rest := by rw [← hnext, Text.Cursor.rest_skip, hdrop]
    refine ⟨next.offset, ?_⟩
    rw [← afterDigits_eq hrest]
    rw [heq] at hnext htake ⊢
    simp only [unsigned, List.cons_append, if_neg hc, hdigit, if_true, Text.Cursor.ahead] at *
    rw [htake, hnext, ← heq, hgather]
    rfl

theorem toList_toString_ofNat (m : Nat) : (toString (Int.ofNat m)).toList = Nat.toDigits 10 m :=
  String.toList_ofList

theorem toList_toString_negSucc (m : Nat) :
    (toString (Int.negSucc m)).toList = '-' :: Nat.toDigits 10 (m + 1) := by
  change ("-" ++ (m + 1).repr).toList = _
  rw [String.toList_append, Nat.repr_eq_ofList_toDigits, String.toList_ofList,
    String.toList_ofList]
  rfl

/-- A whole number is written with digits and perhaps a minus sign. -/
theorem isDigit_of_mem_toString {n : Int} {c : Char} (h : c ∈ (toString n).toList) :
    c = '-' ∨ isDigit c = true := by
  cases n with
  | ofNat m =>
    rw [toList_toString_ofNat] at h
    exact .inr (isDigit_of_mem_toDigits h)
  | negSucc m =>
    rw [toList_toString_negSucc] at h
    exact (List.mem_cons.mp h).imp_right isDigit_of_mem_toDigits

theorem exists_toString (n : Int) :
    ∃ c cs, (toString n).toList = c :: cs ∧ (c = '-' ∨ isDigit c = true) := by
  have hne : (toString n).toList ≠ [] := by
    cases n with
    | ofNat m =>
      rw [toList_toString_ofNat]
      exact Nat.toDigits_ne_nil
    | negSucc m =>
      rw [toList_toString_negSucc]
      exact List.cons_ne_nil _ _
  obtain ⟨c, cs, heq⟩ := List.exists_cons_of_ne_nil hne
  exact ⟨c, cs, heq, isDigit_of_mem_toString (n := n) (heq ▸ List.mem_cons_self)⟩

/-- A whole number of 64 bits, with or without a sign, is read back. -/
theorem reads_numeral {n : Int} (hlow : -2 ^ 63 ≤ n) (hhigh : n < 2 ^ 64) :
    Reads Ends numeral (toString n).toList (.whole n) := by
  have hmax : maxSignificand = 2 ^ 64 - 1 := rfl
  intro rest hrest o
  cases n with
  | ofNat m =>
    rw [Int.ofNat_eq_natCast] at hhigh
    obtain ⟨o', h⟩ := reads_unsigned (n := m) (by omega) false rest hrest o
    refine ⟨o', Eq.trans ?_ h⟩
    rw [toList_toString_ofNat]
    obtain ⟨c, cs, heq⟩ := List.exists_cons_of_ne_nil (Nat.toDigits_ne_nil (n := m) (b := 10))
    have hc : isDigit c = true := isDigit_of_mem_toDigits (n := m) (by simp [heq])
    rw [heq]
    unfold numeral
    split
    · rename_i hminus
      obtain ⟨rfl, -⟩ := List.cons.inj hminus
      exact absurd hc (by decide)
    · rfl
  | negSucc m =>
    rw [Int.negSucc_eq] at hlow
    obtain ⟨o', h⟩ := reads_unsigned (n := m + 1) (by omega) true rest hrest (o + 1)
    have hwhole : whole true (m + 1) = .whole (Int.negSucc m) := by
      have hpos : 0 < m + 1 ∧ m + 1 ≤ Nat.pow 2 63 := ⟨by omega, by
        change m + 1 ≤ 2 ^ 63
        omega⟩
      rw [whole, if_pos rfl, if_pos hpos]
      rfl
    rw [hwhole] at h
    rw [toList_toString_negSucc]
    exact ⟨o', h⟩

end OpenUrl.Json
