import OpenUrl.Proofs.Text.Digits
import OpenUrl.Proofs.Toml.Takes
import OpenUrl.Toml.Document

/-!
# Integers and flags of TOML

An integer has a sign or a base other than ten, but not both, and underscores may stand between its
digits. However it is written, it is read as its number; it is never taken for a flag, a date or a
time of day.
-/
namespace OpenUrl.Toml

open OpenUrl.Text (IsDigit)

/-! ## Spellings -/

/-- Digits of a base, the highest first, with underscores between them. -/
inductive Run (base : Nat) : List Nat → List Char → Prop
  | one {d : Nat} {c : Char} : IsDigit base d c → Run base [d] [c]
  | cons {d : Nat} {c : Char} {ds : List Nat} {cs : List Char} : IsDigit base d c →
      Run base ds cs → Run base (d :: ds) (c :: cs)
  | apart {d : Nat} {c : Char} {ds : List Nat} {cs : List Char} : IsDigit base d c →
      Run base ds cs → Run base (d :: ds) (c :: '_' :: cs)

/-- A decimal number without a zero in front. -/
def Decimal (n : Nat) (cs : List Char) : Prop :=
  ∃ ds, Run 10 ds cs ∧ (ds.head? = some 0 → ds = [0]) ∧ Nat.ofDigits 10 ds.reverse = n

/-- What stands for an integer. -/
inductive SpellsInteger : Int → List Char → Prop
  | unsigned {n : Nat} {cs : List Char} : Decimal n cs → SpellsInteger n cs
  | plus {n : Nat} {cs : List Char} : Decimal n cs → SpellsInteger n ('+' :: cs)
  | minus {n : Nat} {cs : List Char} : Decimal n cs → SpellsInteger (-n) ('-' :: cs)
  | based {mark : Char} {base n : Nat} {ds : List Nat} {cs : List Char} :
      (mark, base) ∈ [('x', 16), ('o', 8), ('b', 2)] → Run base ds cs →
        Nat.ofDigits base ds.reverse = n → SpellsInteger n ('0' :: mark :: cs)

/-! ## Digits -/

variable {base d n : Nat} {ds : List Nat} {c : Char} {cs text : List Char} {i : Int}

/-- A character that may stand in an integer behind its sign. -/
def isFigure (c : Char) : Bool := c.isAlphanum || c == '_'

theorem isFigure_of_isDigit (hbase : base ≤ 16) (h : IsDigit base d c) : isFigure c = true := by
  have hall : ∀ d < 16, isFigure (Nat.digitChar d) = true ∧
      isFigure (Nat.digitChar d).toUpper = true := by decide
  obtain ⟨hd, rfl | rfl⟩ := h
  · exact (hall d (by omega)).1
  · exact (hall d (by omega)).2

theorem isDigit_of_isDigit (h : IsDigit 10 d c) : c.isDigit = true := by
  have hall : ∀ d < 10, (Nat.digitChar d).isDigit = true ∧
      (Nat.digitChar d).toUpper.isDigit = true := by decide
  obtain ⟨hd, rfl | rfl⟩ := h
  · exact (hall d hd).1
  · exact (hall d hd).2

theorem endsScalar_of_isFigure (h : isFigure c = true) : endsScalar c = false := by
  rw [← Bool.not_eq_true]
  intro hends
  simp only [endsScalar, isSpace, Bool.or_eq_true, beq_iff_eq] at hends
  rcases hends with ((((((((((rfl | rfl) | rfl) | rfl) | rfl) | rfl) | (rfl | rfl)) | rfl) | rfl) |
    rfl)) <;> exact absurd h (by decide)

theorem ne_of_isFigure (h : isFigure c = true) : c ≠ '-' ∧ c ≠ ':' ∧ c ≠ '+' := by
  refine ⟨?_, ?_, ?_⟩ <;> rintro rfl <;> exact absurd h (by decide)

theorem Run.exists_cons (h : Run base ds cs) : ∃ d ds' c cs', ds = d :: ds' ∧ cs = c :: cs' ∧
    IsDigit base d c := by
  cases h with
  | one hd | cons hd | apart hd => exact ⟨_, _, _, _, rfl, rfl, hd⟩

theorem Run.isFigure (hbase : base ≤ 16) (h : Run base ds cs) : ∀ c ∈ cs, isFigure c = true := by
  induction h with
  | one hd => simpa using isFigure_of_isDigit hbase hd
  | cons hd _ ih => exact List.forall_mem_cons.mpr ⟨isFigure_of_isDigit hbase hd, ih⟩
  | apart hd _ ih =>
    exact List.forall_mem_cons.mpr ⟨isFigure_of_isDigit hbase hd,
      List.forall_mem_cons.mpr ⟨by decide, ih⟩⟩

theorem Run.decimal (h : Run 10 ds cs) : ∀ c ∈ cs, c = '_' ∨ c.isDigit = true := by
  induction h with
  | one hd => simpa using .inr (isDigit_of_isDigit hd)
  | cons hd _ ih => exact List.forall_mem_cons.mpr ⟨.inr (isDigit_of_isDigit hd), ih⟩
  | apart hd _ ih =>
    exact List.forall_mem_cons.mpr ⟨.inr (isDigit_of_isDigit hd),
      List.forall_mem_cons.mpr ⟨.inl rfl, ih⟩⟩

theorem digitRun_eq (hbase : base ≤ 16) (h : Run base ds cs) : digitRun base cs = some ds := by
  induction h with
  | one hd => simp [digitRun, digitOf?_of_isDigit hbase hd]
  | @cons d c ds cs hd hrun ih =>
    obtain ⟨_, _, c', cs', -, rfl, hd'⟩ := hrun.exists_cons
    have hne : c' ≠ '_' := by
      rintro rfl
      have hread := digitOf?_of_isDigit hbase hd'
      have hnone : digitOf? base '_' = none := rfl
      rw [hnone] at hread
      cases hread
    rw [digitRun]
    · simp [digitOf?_of_isDigit hbase hd, ih]
    · simp
    · rintro cs'' heq
      exact hne (List.cons.inj heq).1
  | @apart d c ds cs hd _ ih => simp [digitRun, digitOf?_of_isDigit hbase hd, ih]

theorem ofDigits_eq (base : Nat) (ds : List Nat) :
    ofDigits base ds = Nat.ofDigits base ds.reverse :=
  (Text.ofDigits_reverse base ds).symm

theorem decimalRun_eq (h : Decimal n cs) : ∃ ds, decimalRun cs = some ds ∧ ofDigits 10 ds = n := by
  obtain ⟨ds, hrun, hzero, hvalue⟩ := h
  refine ⟨ds, ?_, (ofDigits_eq 10 ds).trans hvalue⟩
  rw [decimalRun, digitRun_eq (by decide) hrun, Option.bind_eq_bind, Option.bind_some]
  split
  · cases hzero rfl
  · rfl

/-! ## Integers -/

theorem bounded_eq (hlow : -2 ^ 127 ≤ i) (hhigh : i < 2 ^ 128) : bounded i = .integer i :=
  if_pos ⟨hlow, hhigh⟩

/-- An integer starts with a sign or a digit, and figures follow. -/
theorem SpellsInteger.exists_cons (h : SpellsInteger i text) : ∃ c cs, text = c :: cs ∧
    (c = '+' ∨ c = '-' ∨ c.isDigit = true) ∧ ∀ c ∈ cs, isFigure c = true := by
  cases h with
  | unsigned h =>
    obtain ⟨ds, hrun, -⟩ := h
    obtain ⟨d, _, c, cs, -, rfl, hd⟩ := hrun.exists_cons
    exact ⟨c, cs, rfl, .inr (.inr (isDigit_of_isDigit hd)),
      fun c hc => hrun.isFigure (by decide) c (List.mem_cons_of_mem _ hc)⟩
  | plus h =>
    obtain ⟨ds, hrun, -⟩ := h
    exact ⟨_, _, rfl, .inl rfl, hrun.isFigure (by decide)⟩
  | minus h =>
    obtain ⟨ds, hrun, -⟩ := h
    exact ⟨_, _, rfl, .inr (.inl rfl), hrun.isFigure (by decide)⟩
  | based hmark hrun _ =>
    simp only [List.mem_cons, Prod.mk.injEq, List.not_mem_nil, or_false] at hmark
    refine ⟨_, _, rfl, .inr (.inr (by decide)), List.forall_mem_cons.mpr ?_⟩
    rcases hmark with ⟨rfl, rfl⟩ | ⟨rfl, rfl⟩ | ⟨rfl, rfl⟩ <;>
      exact ⟨by decide, hrun.isFigure (by decide)⟩

theorem integer_eq (h : SpellsInteger i text) (hlow : -2 ^ 127 ≤ i) (hhigh : i < 2 ^ 128) :
    integer text = some (.integer i) := by
  cases h with
  | @unsigned n _ h =>
    obtain ⟨ds, hread, hvalue⟩ := decimalRun_eq h
    obtain ⟨_, hrun, -⟩ := h
    have hten : ∀ c ∈ text, c = '_' ∨ c.isDigit = true := hrun.decimal
    unfold integer
    split
    · exact absurd (hten 'x' (by simp)) (by decide)
    · exact absurd (hten 'o' (by simp)) (by decide)
    · exact absurd (hten 'b' (by simp)) (by decide)
    · have hsign : sign text = (false, text) := by
        unfold sign
        split
        · exact absurd (hten '-' (by simp)) (by decide)
        · exact absurd (hten '+' (by simp)) (by decide)
        · rfl
      simp [hsign, hread, hvalue, bounded_eq hlow hhigh]
  | @plus n cs h =>
    obtain ⟨ds, hread, hvalue⟩ := decimalRun_eq h
    simp [integer, sign, hread, hvalue, bounded_eq hlow hhigh]
  | @minus n cs h =>
    obtain ⟨ds, hread, hvalue⟩ := decimalRun_eq h
    simp [integer, sign, hread, hvalue, bounded_eq hlow hhigh]
  | @based mark base n ds cs hmark hrun hvalue =>
    simp only [List.mem_cons, Prod.mk.injEq, List.not_mem_nil, or_false] at hmark
    rcases hmark with ⟨rfl, rfl⟩ | ⟨rfl, rfl⟩ | ⟨rfl, rfl⟩ <;>
      simp [integer, digitRun_eq (by decide) hrun, ofDigits_eq, hvalue, bounded_eq hlow hhigh]

/-! ## Scalars -/

theorem Moment.two_eq_some {cs' : List Char} (h : Moment.two cs = some (n, cs')) :
    ∃ a b, cs = a :: b :: cs' := by
  match cs with
  | a :: b :: cs =>
    simp only [Moment.two, Option.bind_eq_bind, Option.bind_eq_some_iff, Option.some.injEq,
      Prod.mk.injEq] at h
    obtain ⟨_, -, _, -, -, rfl⟩ := h
    exact ⟨a, b, rfl⟩

/-- The parts of a date are held together by dashes. -/
theorem Moment.date_eq_none (h : '-' ∉ cs.tail) : Moment.date cs = none := by
  cases hdate : Moment.date cs with
  | none => rfl
  | some more =>
    simp only [Moment.date, Option.bind_eq_bind, Option.bind_eq_some_iff] at hdate
    obtain ⟨⟨century, cs₁⟩, h₁, ⟨short, cs₂⟩, h₂, hdash⟩ := hdate
    obtain ⟨a, b, rfl⟩ := Moment.two_eq_some h₁
    obtain ⟨a', b', rfl⟩ := Moment.two_eq_some h₂
    split at hdash
    · rename_i heq
      have hmem : '-' ∈ cs₂ := by simp [show cs₂ = _ from heq]
      exact absurd (by simp [hmem]) h
    · cases hdash

/-- The parts of a time of day are held together by colons. -/
theorem Moment.time_eq_none (h : ':' ∉ cs) : Moment.time cs = none := by
  cases htime : Moment.time cs with
  | none => rfl
  | some more =>
    simp only [Moment.time, Option.bind_eq_bind, Option.bind_eq_some_iff] at htime
    obtain ⟨⟨hour, cs₁⟩, h₁, hcolon⟩ := htime
    obtain ⟨a, b, rfl⟩ := Moment.two_eq_some h₁
    split at hcolon
    · rename_i heq
      have hmem : ':' ∈ cs₁ := by simp [show cs₁ = _ from heq]
      exact absurd (by simp [hmem]) h
    · cases hcolon

theorem SpellsInteger.date_eq_none (h : SpellsInteger i text) : Moment.date text = none := by
  obtain ⟨c, cs, rfl, -, hfigures⟩ := h.exists_cons
  exact Moment.date_eq_none fun hdash => (ne_of_isFigure (hfigures _ hdash)).1 rfl

theorem SpellsInteger.accepts_eq_false (h : SpellsInteger i text) :
    Moment.accepts text = false := by
  have htime : Moment.time text = none := by
    obtain ⟨c, cs, rfl, hc, hfigures⟩ := h.exists_cons
    refine Moment.time_eq_none fun hcolon => ?_
    rcases List.mem_cons.mp hcolon with rfl | htail
    · exact absurd hc (by decide)
    · exact (ne_of_isFigure (hfigures _ htail)).2.1 rfl
  simp only [Moment.accepts, h.date_eq_none, htime]

theorem bare_eq (h : SpellsInteger i text) (hlow : -2 ^ 127 ≤ i) (hhigh : i < 2 ^ 128) :
    bare text = some (.integer i) := by
  obtain ⟨c, cs, heq, hc, -⟩ := h.exists_cons
  have htrue : text ≠ "true".toList := by
    rintro htext
    obtain ⟨rfl, -⟩ := List.cons.inj (heq.symm.trans htext)
    exact absurd hc (by decide)
  have hfalse : text ≠ "false".toList := by
    rintro htext
    obtain ⟨rfl, -⟩ := List.cons.inj (heq.symm.trans htext)
    exact absurd hc (by decide)
  simp only [bare, if_neg htrue, if_neg hfalse, h.accepts_eq_false, Bool.false_eq_true, if_false,
    integer_eq h hlow hhigh, Option.some_or]

/-- A scalar without quotes is taken up to the character that ends it, unless it is a date. -/
theorem takes_bareScalar {s : Scalar} (hchars : ∀ c ∈ text, endsScalar c = false)
    (hdate : Moment.date text = none) (hbare : bare text = some s) :
    Takes (Stops (!endsScalar ·)) bareScalar text (· = s) := by
  refine (Takes.takeWhile (by simpa using hchars)).last ?_ fun _ hrest => hrest
  intro rest _ o
  refine ⟨s, o, ?_, rfl⟩
  change StateT.bind _ _ _ = _
  have hnone : ((none : Option (List Char)) == some []) = false := rfl
  simp only [StateT.bind, hdate, hnone, List.nil_append, Bool.and_false, Bool.false_eq_true,
    if_false]
  -- whatever comes next, the scalar ends here
  split <;> simp only [Option.bind_eq_bind, Option.bind_some, hbare] <;> rfl

theorem takes_integer (h : SpellsInteger i text) (hlow : -2 ^ 127 ≤ i) (hhigh : i < 2 ^ 128) :
    Takes (Stops (!endsScalar ·)) bareScalar text (· = .integer i) := by
  refine takes_bareScalar ?_ h.date_eq_none (bare_eq h hlow hhigh)
  obtain ⟨c, cs, rfl, hc, hfigures⟩ := h.exists_cons
  refine List.forall_mem_cons.mpr ⟨?_, fun c hc => endsScalar_of_isFigure (hfigures c hc)⟩
  rcases hc with rfl | rfl | hdigit
  · decide
  · decide
  · exact endsScalar_of_isFigure (by simp [isFigure, Char.isAlphanum, hdigit])

theorem takes_flag (b : Bool) :
    Takes (Stops (!endsScalar ·)) bareScalar (toString b).toList (· = .flag b) := by
  have hchars : (toString b).toList.all (!endsScalar ·) = true := by cases b <;> decide
  refine takes_bareScalar (by simpa using hchars) ?_ ?_ <;> cases b <;> decide

/-! ## Every integer has a spelling -/

theorem Run.concat (h : Run base ds cs) (hd : IsDigit base d c) :
    Run base (ds ++ [d]) (cs ++ [c]) := by
  induction h with
  | one hd' => exact .cons hd' (.one hd)
  | cons hd' _ ih => exact .cons hd' ih
  | apart hd' _ ih => exact .apart hd' ih

theorem exists_decimal (n : Nat) : ∃ cs, Decimal n cs := by
  induction n using Nat.strongRecOn with
  | ind n ih =>
    by_cases hlt : n < 10
    · exact ⟨[Nat.digitChar n], [n], .one ⟨hlt, .inl rfl⟩, by simp, by simp⟩
    · obtain ⟨cs, ds, hrun, hzero, hvalue⟩ := ih (n / 10) (by omega)
      refine ⟨cs ++ [Nat.digitChar (n % 10)], ds ++ [n % 10],
        hrun.concat ⟨by omega, .inl rfl⟩, fun hhead => ?_, ?_⟩
      · obtain ⟨d, ds', _, _, rfl, -, -⟩ := hrun.exists_cons
        rw [hzero hhead] at hvalue
        simp only [List.reverse_singleton, Nat.ofDigits_singleton] at hvalue
        omega
      · rw [List.reverse_append, List.reverse_singleton, List.singleton_append, Nat.ofDigits_cons,
          hvalue]
        exact Nat.mod_add_div n 10

theorem exists_spellsInteger (i : Int) : ∃ text, SpellsInteger i text := by
  cases i with
  | ofNat n =>
    obtain ⟨cs, h⟩ := exists_decimal n
    exact ⟨cs, .unsigned h⟩
  | negSucc n =>
    obtain ⟨cs, h⟩ := exists_decimal (n + 1)
    exact ⟨_, .minus h⟩

end OpenUrl.Toml
