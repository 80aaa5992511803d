import Mathlib.Tactic.Common
import OpenUrl.Toml.Text

/-!
# What scans take

A scan takes a text when it takes exactly this text, whatever comes behind it, and ends with a value
of the wanted kind. Values carry the bytes they cover, so the value itself is not named but
described. Scans of longer texts are put together of scans of their parts.
-/
namespace OpenUrl.Toml

open OpenUrl.Text (Cursor byteLength)

variable {α β : Type} {after next : List Char → Prop} {m : Scan α} {f : α → Scan β}
  {P : α → Prop} {Q : β → Prop} {text more : List Char} {a : α} {c : Char} {p : Char → Bool}

/-- Before whatever satisfies `after`, the scan takes the text and ends with a value that
satisfies `P`. -/
def Takes (after : List Char → Prop) (m : Scan α) (text : List Char) (P : α → Prop) : Prop :=
  ∀ rest, after rest → ∀ o, ∃ a o', m ⟨text ++ rest, o⟩ = some (a, ⟨rest, o'⟩) ∧ P a

/-- The next character, if there is one, does not satisfy `p`. -/
def Stops (p : Char → Bool) (rest : List Char) : Prop := ∀ c ∈ rest.head?, p c = false

theorem stops_nil (p : Char → Bool) : Stops p [] := by simp [Stops]

theorem stops_cons (h : p c = false) (rest : List Char) :
    Stops p (c :: rest) := by
  simpa [Stops] using h

theorem Stops.imp {p q : Char → Bool} {rest : List Char} (h : Stops p rest)
    (hpq : ∀ c, p c = false → q c = false) : Stops q rest :=
  fun c hc => hpq c (h c hc)

/-- The text does not start with such a character, and what stands behind it does not either. -/
theorem Stops.append {rest : List Char} (h : Stops p text) (hrest : Stops p rest) :
    Stops p (text ++ rest) := by
  cases text with
  | nil => exact hrest
  | cons c cs => exact stops_cons (h c rfl) _

namespace Takes

protected theorem pure (h : P a) : Takes after (pure a) [] P := fun _ _ o => ⟨a, o, rfl, h⟩

/-- One scan, and then another on what the first leaves. -/
protected theorem bind (h : Takes after m text P) (hf : ∀ a, P a → Takes next (f a) more Q)
    (hn : ∀ rest, next rest → after (more ++ rest)) : Takes next (m >>= f) (text ++ more) Q := by
  intro rest hrest o
  obtain ⟨a, o₁, h₁, ha⟩ := h (more ++ rest) (hn rest hrest) o
  obtain ⟨b, o₂, h₂, hb⟩ := hf a ha rest hrest o₁
  refine ⟨b, o₂, ?_, hb⟩
  change StateT.bind m f _ = _
  rw [List.append_assoc, StateT.bind, h₁]
  exact h₂

/-- The next scan, where the first has only one outcome. -/
theorem andThen (h : Takes after m text (· = a)) (hf : Takes next (f a) more Q)
    (hn : ∀ rest, next rest → after (more ++ rest)) : Takes next (m >>= f) (text ++ more) Q :=
  h.bind (fun _ ha => ha ▸ hf) hn

/-- The next scan, where it takes nothing. -/
theorem last (h : Takes after m text (· = a)) (hf : Takes next (f a) [] Q)
    (hn : ∀ rest, next rest → after rest) : Takes next (m >>= f) text Q := by
  have hboth := h.andThen hf hn
  rwa [List.append_nil] at hboth

theorem before (h : Takes after m text P) (hn : ∀ rest, next rest → after rest) :
    Takes next m text P :=
  fun rest hrest => h rest (hn rest hrest)

/-- A scan that only makes the result of the value takes nothing. -/
theorem map (h : Takes after m text P) {g : α → β} (hg : ∀ a, P a → Q (g a)) :
    Takes after (m >>= fun a => pure (g a)) text Q := by
  have hboth : Takes after (m >>= fun a => pure (g a)) (text ++ []) Q :=
    h.bind (fun a ha => .pure (hg a ha)) fun _ hrest => hrest
  rwa [List.append_nil] at hboth

/-- The next character is looked at, whether it belongs to the text or stands behind it. -/
theorem look {f : Option Char → Scan β}
    (h : ∀ c?, Takes (fun rest => next rest ∧ (text ++ rest).head? = c?) (f c?) text Q) :
    Takes next (Scan.peek >>= f) text Q :=
  fun rest hrest o => h _ rest ⟨hrest, rfl⟩ o

theorem peek {f : Option Char → Scan β} (h : Takes next (f (some c)) (c :: text) Q) :
    Takes next (Scan.peek >>= f) (c :: text) Q := h

theorem peek_head {f : Option Char → Scan β} (hc : text.head? = some c)
    (h : Takes next (f (some c)) text Q) : Takes next (Scan.peek >>= f) text Q := by
  obtain ⟨cs, rfl⟩ := List.head?_eq_some_iff.mp hc
  exact peek h

theorem advance {f : Unit → Scan β} (h : Takes next (f ()) text Q) :
    Takes next (Scan.advance >>= f) (c :: text) Q :=
  fun rest hrest o => h rest hrest (o + c.utf8Size)

theorem offset {f : Nat → Scan β} (h : ∀ n, Takes next (f n) text Q) :
    Takes next (Scan.offset >>= f) text Q :=
  fun rest hrest o => h o rest hrest o

/-- There is room for more characters than the text has. -/
theorem room {f : Nat → Scan β} (h : ∀ n, text.length < n → Takes next (f n) text Q) :
    Takes next (room >>= f) text Q := by
  intro rest hrest o
  have hlt : text.length < (text ++ rest).length + 1 := by
    rw [List.length_append]
    omega
  exact h _ hlt rest hrest o

/-- All that satisfies `p` is taken, as nothing behind it does. -/
theorem takeWhile (h : ∀ c ∈ text, p c = true) :
    Takes (Stops p) (Scan.takeWhile p) text (· = text) := by
  intro rest hrest o
  have htake : rest.takeWhile p = [] := by
    cases rest with
    | nil => rfl
    | cons c cs => rw [List.takeWhile_cons_of_neg (by simp [hrest c rfl])]
  have hdrop : rest.dropWhile p = rest := by
    cases rest with
    | nil => rfl
    | cons c cs => rw [List.dropWhile_cons_of_neg (by simp [hrest c rfl])]
  refine ⟨text, o + byteLength text, ?_, rfl⟩
  simp only [Scan.takeWhile, Cursor.ahead, Cursor.skip, List.takeWhile_append_of_pos h,
    List.dropWhile_append_of_pos h, htake, hdrop, List.append_nil]

theorem attempt (cs : List Char) : Takes after (Scan.attempt cs) cs (· = true) := by
  intro rest _ o
  have hskip (o : Nat) : ∃ o', cs.foldl (fun c _ => c.advance) (⟨cs ++ rest, o⟩ : Cursor) =
      ⟨rest, o'⟩ := by
    induction cs generalizing o with
    | nil => exact ⟨o, rfl⟩
    | cons c cs ih => exact ih (o + c.utf8Size)
  obtain ⟨o', ho'⟩ := hskip o
  have hprefix : cs.isPrefixOf (cs ++ rest) = true :=
    List.isPrefixOf_iff_prefix.mpr (List.prefix_append cs rest)
  exact ⟨true, o', by simp only [Scan.attempt, hprefix, if_true, ho'], rfl⟩

/-- An attempt takes nothing where something else is ahead. -/
theorem attempt_not {cs : List Char} :
    Takes (fun rest => cs.isPrefixOf rest = false) (Scan.attempt cs) [] (· = false) := by
  intro rest hrest o
  refine ⟨false, o, ?_, rfl⟩
  simp only [Scan.attempt, List.nil_append, hrest, Bool.false_eq_true, if_false]

theorem expect (c : Char) : Takes after (Scan.expect c) [c] fun _ => True := by
  intro rest _ o
  refine ⟨(), o + c.utf8Size, ?_, trivial⟩
  change (if some c = some c then Scan.advance else Scan.refuse) _ = _
  rw [if_pos rfl]
  rfl

end Takes

/-- No character of `c :: cs` is ahead where its first is not. -/
theorem isPrefixOf_of_stops {cs rest : List Char} (h : Stops (· == c) rest) :
    (c :: cs).isPrefixOf rest = false := by
  cases rest with
  | nil => rfl
  | cons d ds =>
    have hne : (d == c) = false := h d rfl
    have hne' : (c == d) = false := by
      rw [Bool.beq_comm]
      exact hne
    simp [List.isPrefixOf, hne']

end OpenUrl.Toml
