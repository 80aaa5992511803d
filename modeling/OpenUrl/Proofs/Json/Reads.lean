import Mathlib.Tactic.Common
import OpenUrl.Json.Typed

/-!
# What readers take

A reader reads a text when it takes exactly this text, whatever comes behind it, and ends with a
value. Readers of longer texts are put together of readers of their parts.
-/
namespace OpenUrl.Json

variable {α β : Type} {after next : List Char → Prop} {r : Reader α} {f : α → Reader β}
  {text more : List Char} {a : α} {b : β} {c : Char}

/-- Before whatever satisfies `after`, the reader takes the text and ends with the value. -/
def Reads (after : List Char → Prop) (r : Reader α) (text : List Char) (a : α) : Prop :=
  ∀ rest, after rest → ∀ o, ∃ o', r ⟨text ++ rest, o⟩ = .done a ⟨rest, o'⟩

/-- Behind a value nothing may come that would make a number longer. -/
def Ends (rest : List Char) : Prop :=
  ∀ c ∈ rest.head?, isDigit c = false ∧ c ≠ '.' ∧ c ≠ 'e' ∧ c ≠ 'E'

theorem ends_nil : Ends [] := by simp [Ends]

theorem ends_cons (h : isDigit c = false ∧ c ≠ '.' ∧ c ≠ 'e' ∧ c ≠ 'E') (rest : List Char) :
    Ends (c :: rest) := by
  simpa [Ends] using h

/-- A reader that looks at the next character goes on with it, and takes nothing. -/
theorem look_eq {f : Option Char → Reader α} (hc : isBlank c = false) (rest : List Char) (o : Nat) :
    (Reader.blanks >>= fun _ => Reader.peek >>= f) ⟨c :: rest, o⟩ = f (some c) ⟨c :: rest, o⟩ := by
  change Reader.bind Reader.blanks (fun _ => Reader.bind Reader.peek f) _ = _
  simp only [Reader.bind, Reader.blanks, Text.Cursor.skip_of_not hc]
  rfl

theorem advance_eq (r : Unit → Reader α) (rest : List Char) (o : Nat) :
    (Reader.advance >>= r) ⟨c :: rest, o⟩ = r () ⟨rest, o + c.utf8Size⟩ := rfl

namespace Reads

protected theorem pure (a : α) : Reads after (pure a) [] a := fun _ _ o => ⟨o, rfl⟩

/-- One reader, and then another on what the first leaves. -/
protected theorem bind (h : Reads after r text a) (hf : Reads next (f a) more b)
    (hn : ∀ rest, next rest → after (more ++ rest)) : Reads next (r >>= f) (text ++ more) b := by
  intro rest hrest o
  obtain ⟨o₁, h₁⟩ := h (more ++ rest) (hn rest hrest) o
  obtain ⟨o₂, h₂⟩ := hf rest hrest o₁
  refine ⟨o₂, ?_⟩
  change Reader.bind r f _ = _
  rw [List.append_assoc, Reader.bind, h₁]
  exact h₂

/-- A reader that only makes the result of the value takes nothing. -/
theorem result (h : Reads after r text a) (hf : f a = pure b) : Reads after (r >>= f) text b := by
  have hpure : Reads after (f a) [] b := by
    rw [hf]
    exact .pure b
  have hbind := h.bind hpure fun _ hrest => hrest
  rwa [List.append_nil] at hbind

protected theorem map (h : Reads after r text a) (f : α → β) :
    Reads after (r >>= fun a => pure (f a)) text (f a) :=
  h.result rfl

/-- The next character is looked at before anything is done. -/
theorem look {f : Option Char → Reader α} (hc : isBlank c = false)
    (h : Reads after (f (some c)) (c :: text) a) :
    Reads after (Reader.blanks >>= fun _ => Reader.peek >>= f) (c :: text) a := by
  intro rest hrest o
  obtain ⟨o', h'⟩ := h rest hrest o
  exact ⟨o', (look_eq hc (text ++ rest) o).trans h'⟩

theorem advance {r : Unit → Reader α} (h : Reads after (r ()) text a) :
    Reads after (Reader.advance >>= r) (c :: text) a := by
  intro rest hrest o
  exact h rest hrest (o + c.utf8Size)

theorem word (w : List Char) : Reads after (Reader.word w) w () := by
  induction w with
  | nil => exact Reads.pure ()
  | cons c w ih =>
    intro rest hrest o
    obtain ⟨o', h⟩ := ih rest hrest (o + c.utf8Size)
    refine ⟨o', ?_⟩
    simp only [Reader.word, List.cons_append, if_true]
    exact h

theorem enclosed {close : Text.Cursor → Text.Cursor × Option Fault} (h : Reads after r text a)
    (hclose : ∀ rest o, ∃ o', close ⟨c :: rest, o⟩ = (⟨rest, o'⟩, none))
    (hafter : ∀ rest, after (c :: rest)) :
    Reads next (Reader.enclosed close r) (text ++ [c]) a := by
  intro rest _ o
  obtain ⟨o₁, h₁⟩ := h (c :: rest) (hafter rest) o
  obtain ⟨o₂, h₂⟩ := hclose rest o₁
  refine ⟨o₂, ?_⟩
  simp only [Reader.enclosed, List.append_assoc, List.singleton_append, h₁, h₂]

end Reads

theorem closeList_eq (rest : List Char) (o : Nat) :
    closeList ⟨']' :: rest, o⟩ = (⟨rest, o + 1⟩, none) := by
  rw [closeList, Text.Cursor.skip_of_not (by decide)]
  rfl

theorem closeObject_eq (rest : List Char) (o : Nat) :
    closeObject ⟨'\x7d' :: rest, o⟩ = (⟨rest, o + 1⟩, none) := by
  rw [closeObject, Text.Cursor.skip_of_not (by decide)]
  rfl

theorem reads_colon (after : List Char → Prop) : Reads after colon [':'] () :=
  .look (by decide) (.advance (.pure ()))

theorem ends_of_blank {blank : List Char} (h : ∀ c ∈ blank, isBlank c = true) : Ends blank := by
  cases blank with
  | nil => exact ends_nil
  | cons c cs =>
    have hc := h c List.mem_cons_self
    simp only [isBlank, Bool.or_eq_true, beq_iff_eq] at hc
    refine ends_cons ?_ cs
    rcases hc with ((rfl | rfl) | rfl) | rfl <;> decide

/-- A whole text is read when nothing but blanks comes behind it. -/
theorem readAll_eq (h : Reads Ends r text a) (blank : List Char)
    (hblank : ∀ c ∈ blank, isBlank c = true) :
    readAll r (String.ofList (text ++ blank)) = .ok a := by
  obtain ⟨o, hr⟩ := h blank (ends_of_blank hblank) 0
  have hstart : Text.Cursor.start (String.ofList (text ++ blank)) = ⟨text ++ blank, 0⟩ := by
    simp [Text.Cursor.start]
  have hskip : (Text.Cursor.skip isBlank ⟨blank, o⟩).rest = [] := by
    rw [Text.Cursor.rest_skip, ← List.append_nil blank, List.dropWhile_append_of_pos hblank]
    rfl
  simp only [readAll, hstart, hr, hskip]

end OpenUrl.Json
