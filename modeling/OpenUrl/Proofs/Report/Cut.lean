import OpenUrl.Proofs.Report.Text

/-!
# Writing where room is short

Descriptions and reports are written line by line, and lines piece by piece. Writing ends at the
first piece that does not fit. What a sink with room for some bytes holds then is the beginning of
what a sink without end takes, at every moment and however the text is cut into pieces, empty ones
among them; and the writer is told of it just if something is missing.
-/
namespace OpenUrl.Sink

variable {n : Nat} {s : Sink} {ps qs : List String} {write : Writer} {t : String}

/-- A writer leaves what the pieces of its text leave, wherever they are cut. -/
theorem putAll_of_writes (h : write.Writes t) (hps : String.join ps = t) (s : Sink) :
    s.putAll ps = write s := by
  rw [putAll_eq, hps, h]

/-- Pieces behind one that did not fit are not written. -/
theorem putAll_append_of_failed (h : (s.putAll ps).1 = false) (qs : List String) :
    s.putAll (ps ++ qs) = s.putAll ps := by
  rw [putAll_eq] at h
  have hno : ¬ s.Fits (textBytes (String.join ps)) := of_decide_eq_false h
  have hnone : ¬ s.Fits (textBytes (String.join ps) ++ textBytes (String.join qs)) :=
    fun hfits => hno (fits_append.mp hfits).1
  rw [putAll_eq, putAll_eq, String.join_append, textBytes_append, after_append,
    after_after_of_not_fits hno, decide_eq_false hno, decide_eq_false hnone]

theorem endless_of_writes (h : write.Writes t) : write endless = (true, ⟨none, textBytes t⟩) := by
  rw [h]
  simp [Fits, after, endless]

theorem bytes_ofCapacity (h : write.Writes t) (n : Nat) :
    (write (ofCapacity n)).2.bytes = (textBytes t).take n := by
  rw [h]
  exact List.nil_append _

theorem failed_ofCapacity (h : write.Writes t) :
    (write (ofCapacity n)).1 = false ↔ n < (textBytes t).length := by
  rw [h, decide_eq_false_iff_not]
  simp [Fits, ofCapacity]

/-- What becomes of what a writer writes, line by line and piece by piece, in a sink for `n`
bytes. -/
structure Truncates (n : Nat) (write : Writer) (pieces : List String) : Prop where
  /-- Without end all of it is taken. -/
  complete : (write endless).1 = true
  /-- Other pieces of the same text leave the same as the writer. -/
  recut : ∀ s ps, String.join ps = String.join pieces → putAll s ps = write s
  /-- The first `n` bytes are taken, or all if there are fewer. -/
  bytes : (write (ofCapacity n)).2.bytes = (write endless).2.bytes.take n
  /-- The writer is told just if there are more. -/
  failed : (write (ofCapacity n)).1 = false ↔ n < (write endless).2.bytes.length
  /-- Before the last piece a beginning of that has been taken. -/
  underway : ∀ before after, String.join (before ++ after) = String.join pieces →
    ((ofCapacity n).putAll before).2.bytes =
      (write endless).2.bytes.take (min n (endless.putAll before).2.bytes.length)
  /-- After the first piece that does not fit nothing changes. -/
  ended : ∀ before after, ((ofCapacity n).putAll before).1 = false →
    (ofCapacity n).putAll (before ++ after) = (ofCapacity n).putAll before

theorem truncates (n : Nat) {pieces : List String} (h : write.Writes (String.join pieces)) :
    Truncates n write pieces where
  complete := congrArg Prod.fst (endless_of_writes h)
  recut s _ hps := putAll_of_writes h hps s
  bytes := by rw [bytes_ofCapacity h, endless_of_writes h]
  failed := by rw [failed_ofCapacity h, endless_of_writes h]
  underway before after hcut := by
    rw [bytes_ofCapacity (writes_putAll before), endless_of_writes (writes_putAll before),
      endless_of_writes h, ← hcut, String.join_append, textBytes_append]
    rw [List.take_append_of_le_length (Nat.min_le_right _ _), ← List.take_eq_take_min]
  ended _ after hfailed := putAll_append_of_failed hfailed after

/-- Of descriptions and reports, in either format, a sink for `n` bytes holds the first `n` bytes of
the whole, and writing fails just if the whole is longer. -/
theorem cut_at_capacity (n : Nat) :
    (∀ (a : Application) (pid : Int32) (json : Bool),
      Truncates n (a.write pid json) (a.pieces pid json)) ∧
    ∀ (r : Report) (json : Bool), Truncates n (r.write json) (r.pieces json) :=
  ⟨fun a pid json => truncates n (a.writes pid json), fun r json => truncates n (r.writes json)⟩

end OpenUrl.Sink
