import Mathlib.Data.Nat.Digits.Defs
import OpenUrl.Json.Text
import OpenUrl.Toml.Scalar

/-!
# Digits of a base

The formats write code points and numbers in bases up to sixteen, with letters in either case. Both
read such a digit as its value.
-/
namespace OpenUrl

namespace Text

/-- The character writes `d` in a base up to sixteen, in either case. -/
def IsDigit (base d : Nat) (c : Char) : Prop :=
  d < base ∧ (c = Nat.digitChar d ∨ c = (Nat.digitChar d).toUpper)

instance (base d : Nat) (c : Char) : Decidable (IsDigit base d c) :=
  inferInstanceAs (Decidable (_ ∧ _))

/-- Digits of a base, the highest first, write a number. -/
def Digits (base : Nat) (cs : List Char) (n : Nat) : Prop :=
  ∃ ds, List.Forall₂ (IsDigit base) ds cs ∧ Nat.ofDigits base ds.reverse = n

theorem ofDigits_reverse (base : Nat) (ds : List Nat) :
    Nat.ofDigits base ds.reverse = ds.foldl (fun n d => base * n + d) 0 := by
  rw [Nat.ofDigits_eq_foldr, List.foldr_reverse]
  simp only [Nat.cast_id, Nat.add_comm]

end Text

open Text (IsDigit)

theorem Json.hexDigit?_of_isDigit {d : Nat} {c : Char} (h : IsDigit 16 d c) :
    Json.hexDigit? c = some d := by
  have hread : ∀ d < 16, Json.hexDigit? (Nat.digitChar d) = some d ∧
      Json.hexDigit? (Nat.digitChar d).toUpper = some d := by decide
  obtain ⟨hd, rfl | rfl⟩ := h
  · exact (hread d hd).1
  · exact (hread d hd).2

theorem Toml.digitOf?_of_isDigit {base d : Nat} {c : Char} (hbase : base ≤ 16)
    (h : IsDigit base d c) : Toml.digitOf? base c = some d := by
  have hread : ∀ d < 16, Toml.digitOf? 16 (Nat.digitChar d) = some d ∧
      Toml.digitOf? 16 (Nat.digitChar d).toUpper = some d := by decide
  obtain ⟨hd, hc⟩ := h
  have hvalue : Toml.digitOf? 16 c = some d := by
    rcases hc with rfl | rfl
    · exact (hread d (by omega)).1
    · exact (hread d (by omega)).2
  -- the base only decides which values are too large
  simp only [Toml.digitOf?, Option.filter_eq_some_iff] at hvalue ⊢
  exact ⟨hvalue.1, by simpa using hd⟩

end OpenUrl
