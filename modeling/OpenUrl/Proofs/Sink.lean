import OpenUrl.Proofs.Bytes

/-!
# What a sink takes

A sink takes the bytes that there is room for, however they are cut into pieces: two texts written
one after the other leave what their bytes in a row leave. So all there is to a writer is the text
that it writes.
-/
namespace OpenUrl

theorem textBytes_join_cons (p : String) (ps : List String) :
    textBytes (String.join (p :: ps)) = textBytes p ++ textBytes (String.join ps) := by
  rw [String.join_cons, textBytes_append]

namespace Sink

variable {s : Sink} {b c : List UInt8}

/-- There is room for all of the bytes. -/
def Fits (s : Sink) (b : List UInt8) : Prop := ∀ n ∈ s.room, b.length ≤ n

instance (s : Sink) (b : List UInt8) : Decidable (s.Fits b) :=
  inferInstanceAs (Decidable (∀ n ∈ s.room, b.length ≤ n))

/-- The sink behind the bytes, of which it takes those that there is room for. -/
def after (s : Sink) (b : List UInt8) : Sink :=
  match s.room with
  | none => ⟨none, s.bytes ++ b⟩
  | some n => ⟨some (n - b.length), s.bytes ++ b.take n⟩

@[simp] theorem after_nil (s : Sink) : s.after [] = s := by
  obtain ⟨room, bytes⟩ := s
  cases room <;> simp [after]

@[simp] theorem fits_nil (s : Sink) : s.Fits [] := fun n _ => Nat.zero_le n

theorem room_after (s : Sink) (b : List UInt8) : (s.after b).room = s.room.map (· - b.length) := by
  obtain ⟨room, bytes⟩ := s
  cases room <;> rfl

theorem fits_append : s.Fits (b ++ c) ↔ s.Fits b ∧ (s.after b).Fits c := by
  unfold Fits
  rw [room_after]
  cases s.room with
  | none => simp
  | some n =>
    simp only [Option.mem_def, Option.some.injEq, forall_eq', Option.map_some, List.length_append]
    omega

theorem after_append (s : Sink) (b c : List UInt8) :
    s.after (b ++ c) = (s.after b).after c := by
  obtain ⟨room, bytes⟩ := s
  cases room with
  | none => simp [after]
  | some n => simp [after, List.take_append, Nat.sub_sub]

theorem bytes_after_of_fits (h : s.Fits b) : (s.after b).bytes = s.bytes ++ b := by
  obtain ⟨room, bytes⟩ := s
  cases room with
  | none => rfl
  | some n =>
    have hn : b.length ≤ n := h n rfl
    simp [after, List.take_of_length_le hn]

/-- Behind bytes that do not fit nothing more is taken. -/
theorem after_after_of_not_fits (h : ¬ s.Fits b) : (s.after b).after c = s.after b := by
  obtain ⟨room, bytes⟩ := s
  cases room with
  | none => exact absurd (by simp [Fits]) h
  | some n =>
    have hn : ¬ b.length ≤ n := by simpa [Fits] using h
    have hroom : n - b.length = 0 := by omega
    simp [after, hroom]

theorem put_eq (s : Sink) (b : List UInt8) : s.put b = (decide (s.Fits b), s.after b) := by
  obtain ⟨room, bytes⟩ := s
  cases room with
  | none => simp [put, after, Fits]
  | some n =>
    by_cases hn : b.length ≤ n
    · simp [put, after, Fits, hn, List.take_of_length_le hn]
    · have hroom : n - b.length = 0 := by omega
      simp [put, after, Fits, hn, hroom]

end Sink

namespace Writer

variable {w v : Writer} {t u : String} {s : Sink}

/-- The writer writes the text, as far as there is room, and tells whether there was. -/
def Writes (w : Writer) (t : String) : Prop :=
  ∀ s, w s = (decide (s.Fits (textBytes t)), s.after (textBytes t))

theorem writes_text (t : String) : (text t).Writes t := fun s => s.put_eq (textBytes t)

theorem writes_line (t : String) : (line t).Writes (t ++ "\n") := writes_text (t ++ "\n")

theorem writes_nothing : nothing.Writes "" := by
  intro s
  have hempty : textBytes "" = [] := by
    rw [textBytes_eq]
    rfl
  rw [hempty, s.after_nil, decide_eq_true s.fits_nil]
  rfl

theorem Writes.andThen (hw : w.Writes t) (hv : v.Writes u) : (w.andThen v).Writes (t ++ u) := by
  intro s
  have hfits := Sink.fits_append (s := s) (b := textBytes t) (c := textBytes u)
  unfold Writer.andThen
  rw [hw s, textBytes_append, Sink.after_append]
  by_cases ht : s.Fits (textBytes t)
  · simp only [ht, decide_true, hfits, true_and]
    exact hv (s.after (textBytes t))
  · -- The first writer was cut, so neither writes any more.
    have hno : ¬ s.Fits (textBytes t ++ textBytes u) := fun h => ht (hfits.mp h).1
    simp only [ht, hno, decide_false, Sink.after_after_of_not_fits ht]

end Writer

namespace Sink

/-- Write the pieces of a text until one does not fit. The answer tells whether all did. -/
def putAll (s : Sink) : List String → Bool × Sink
  | [] => (true, s)
  | p :: ps =>
    match s.put (textBytes p) with
    | (true, s) => s.putAll ps
    | (false, s) => (false, s)

/-- Pieces are written as their text in a row is. -/
theorem writes_putAll (ps : List String) : Writer.Writes (·.putAll ps) (String.join ps) := by
  induction ps with
  | nil => exact Writer.writes_nothing
  | cons p ps ih =>
    rw [String.join_cons]
    exact (Writer.writes_text p).andThen ih

theorem putAll_eq (s : Sink) (ps : List String) :
    s.putAll ps = (decide (s.Fits (textBytes (String.join ps))),
      s.after (textBytes (String.join ps))) :=
  writes_putAll ps s

end Sink

end OpenUrl
