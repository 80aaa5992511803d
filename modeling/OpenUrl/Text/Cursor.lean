import OpenUrl.Text.Bytes

/-!
# Cursors

What is left of a text, together with the number of bytes before it.
-/
namespace OpenUrl.Text

structure Cursor where
  rest : List Char
  offset : Nat
  deriving DecidableEq, Repr

namespace Cursor

def start (text : String) : Cursor := ⟨text.toList, 0⟩

/-- The next character, or none at the end. -/
def peek (c : Cursor) : Option Char := c.rest.head?

/-- Behind the next character. -/
def advance (c : Cursor) : Cursor :=
  match c.rest with
  | [] => c
  | a :: cs => ⟨cs, c.offset + a.utf8Size⟩

/-- Behind the end of the text. -/
def finish (c : Cursor) : Cursor :=
  ⟨[], c.offset + byteLength c.rest⟩

/-- The characters ahead that satisfy `p`. -/
def ahead (p : Char → Bool) (c : Cursor) : List Char := c.rest.takeWhile p

/-- Behind the characters ahead that satisfy `p`. -/
def skip (p : Char → Bool) (c : Cursor) : Cursor :=
  ⟨c.rest.dropWhile p, c.offset + byteLength (c.ahead p)⟩

@[simp] theorem peek_mk_nil (n : Nat) : peek ⟨[], n⟩ = none := rfl

@[simp] theorem peek_mk_cons (a : Char) (cs : List Char) (n : Nat) :
    peek ⟨a :: cs, n⟩ = some a := rfl

@[simp] theorem advance_mk_cons (a : Char) (cs : List Char) (n : Nat) :
    advance ⟨a :: cs, n⟩ = ⟨cs, n + a.utf8Size⟩ := rfl

@[simp] theorem rest_skip (p : Char → Bool) (c : Cursor) :
    (c.skip p).rest = c.rest.dropWhile p := rfl

theorem skip_of_not {p : Char → Bool} {a : Char} (h : p a = false) (cs : List Char) (n : Nat) :
    skip p ⟨a :: cs, n⟩ = ⟨a :: cs, n⟩ := by
  simp [skip, ahead, h]

end Cursor

end OpenUrl.Text
