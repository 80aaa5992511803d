/-!
# Sinks and writers

A sink takes bytes up to its capacity. A writer writes to it piece by piece; the first piece
that does not fit is cut where the room ends, and nothing is written after it.
-/
namespace OpenUrl

/-- What has been written, and how many bytes there is room for. -/
structure Sink where
  /-- No number means room without end. -/
  room : Option Nat
  bytes : List UInt8
  deriving DecidableEq, Repr

/-- The bytes of a text. -/
def textBytes (s : String) : List UInt8 := s.toUTF8.toList

namespace Sink

/-- An empty sink without end. -/
def endless : Sink := ⟨none, []⟩

/-- An empty sink for `n` bytes. -/
def ofCapacity (n : Nat) : Sink := ⟨some n, []⟩

/-- What a writer is told when a piece does not fit. -/
def fullMessage : String := "failed to write whole buffer"

/-- Write one piece. The answer tells whether it fitted. -/
def put (s : Sink) (piece : List UInt8) : Bool × Sink :=
  match s.room with
  | none => (true, { s with bytes := s.bytes ++ piece })
  | some n =>
    if piece.length ≤ n then (true, ⟨some (n - piece.length), s.bytes ++ piece⟩)
    else (false, ⟨some 0, s.bytes ++ piece.take n⟩)

end Sink

/-- What writes to a sink. The answer tells whether all of it fitted. -/
abbrev Writer := Sink → Bool × Sink

namespace Writer

/-- Write nothing. -/
def nothing : Writer := fun s => (true, s)

def text (t : String) : Writer := fun s => s.put (textBytes t)

/-- Write a text and a line feed behind it. -/
def line (t : String) : Writer := text (t ++ "\n")

/-- Write with one writer and then with another, unless something did not fit. -/
def andThen (first next : Writer) : Writer := fun s =>
  match first s with
  | (true, s) => next s
  | (false, s) => (false, s)

end Writer

end OpenUrl
