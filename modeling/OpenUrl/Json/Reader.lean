import OpenUrl.Json.Value
import OpenUrl.Misfit
import OpenUrl.Text.Cursor

/-!
# Reading JSON

A reader takes characters off a cursor. It ends with a value, with a fault at a place of
the text, or with a misfit: the text is sound so far but does not have the wanted shape.
A misfit is placed by the bracket around it, after an attempt to close that bracket.
Places count bytes.
-/
namespace OpenUrl.Json

open OpenUrl.Text (Cursor)

inductive Cause
  | endInList
  | endInObject
  | endInString
  | endInValue
  | wantedColon
  | wantedListEnd
  | wantedObjectEnd
  | wantedWord
  | wantedValue
  | badEscape
  | badNumber
  | numberOutOfRange
  | loneSurrogate
  | halfSurrogate
  | controlCharacter
  | keyNotString
  | trailingComma
  | trailingCharacters
  | tooDeep
  | misfit (m : Misfit)
  deriving DecidableEq, Repr

/-- A cause and the byte before which it was noticed. -/
structure Fault where
  cause : Cause
  offset : Nat
  deriving DecidableEq, Repr

inductive Reading (α : Type)
  | done (value : α) (next : Cursor)
  | fault (f : Fault)
  | misfit (m : Misfit) (next : Cursor)

abbrev Reader (α : Type) := Cursor → Reading α

def Cause.message : Cause → String
  | endInList => "EOF while parsing a list"
  | endInObject => "EOF while parsing an object"
  | endInString => "EOF while parsing a string"
  | endInValue => "EOF while parsing a value"
  | wantedColon => "expected " ++ accented ":"
  | wantedListEnd => "expected " ++ accented "," ++ " or " ++ accented "]"
  | wantedObjectEnd => "expected " ++ accented "," ++ " or " ++ accented "\x7d"
  | wantedWord => "expected ident"
  | wantedValue => "expected value"
  | badEscape => "invalid escape"
  | badNumber => "invalid number"
  | numberOutOfRange => "number out of range"
  | loneSurrogate => "lone leading surrogate in hex escape"
  | halfSurrogate => "unexpected end of hex escape"
  | controlCharacter => "control character (\\u0000-\\u001F) found while parsing a string"
  | keyNotString => "key must be a string"
  | trailingComma => "trailing comma"
  | trailingCharacters => "trailing characters"
  | tooDeep => "recursion limit exceeded"
  | misfit m => m.message

/-- Blanks between the parts of a value. -/
def isBlank (a : Char) : Bool := a == ' ' || a == '\n' || a == '\t' || a == '\r'

/-- A fault noticed on looking at the next character of `c`. -/
def faultAhead (c : Cursor) (cause : Cause) : Fault :=
  ⟨cause, match c.rest with
    | [] => c.offset
    | _ :: _ => c.offset + 1⟩

/-- A fault noticed right behind what was read. -/
def faultHere (c : Cursor) (cause : Cause) : Fault := ⟨cause, c.offset⟩

namespace Reader

def pure {α : Type} (a : α) : Reader α := fun c => .done a c

def bind {α β : Type} (r : Reader α) (f : α → Reader β) : Reader β := fun c =>
  match r c with
  | .done a next => f a next
  | .fault e => .fault e
  | .misfit m next => .misfit m next

instance : Monad Reader where
  pure := pure
  bind := bind

variable {α : Type}

/-- Fail on looking at the next character. -/
def ahead (cause : Cause) : Reader α := fun c => .fault (faultAhead c cause)

/-- Fail right behind what was read. -/
def here (cause : Cause) : Reader α := fun c => .fault (faultHere c cause)

/-- Report a misfit, to be placed by the bracket around. -/
def unfit (m : Misfit) : Reader α := fun c => .misfit m c

/-- Report a misfit right behind what was read. -/
def unfitHere (m : Misfit) : Reader α := here (.misfit m)

def blanks : Reader Unit := fun c => .done () (c.skip isBlank)

def peek : Reader (Option Char) := fun c => .done c.peek c

def advance : Reader Unit := fun c => .done () c.advance

/-- Take exactly the characters of `word`. -/
def word : List Char → Reader Unit
  | [] => pure ()
  | w :: ws => fun c =>
    match c.rest with
    | [] => .fault (faultHere c .endInValue)
    | a :: _ => if a = w then word ws c.advance else .fault ⟨.wantedWord, c.offset + 1⟩

/-- Run the reader of what stands between brackets, then close. A misfit inside is placed
where the attempt to close ends; a fault inside comes before one of the close. -/
def enclosed (close : Cursor → Cursor × Option Fault) (body : Reader α) : Reader α := fun c =>
  match body c with
  | .fault f => .fault f
  | .misfit m next => .fault ⟨.misfit m, (close next).1.offset⟩
  | .done a next =>
    match close next with
    | (next, none) => .done a next
    | (_, some f) => .fault f

/-- Place a misfit right behind what was read. -/
def placed (r : Reader α) : Reader α := fun c =>
  match r c with
  | .misfit m next => .fault ⟨.misfit m, next.offset⟩
  | reading => reading

end Reader

/-- Close a list. -/
def closeList (c : Cursor) : Cursor × Option Fault :=
  let c := c.skip isBlank
  match c.peek with
  | some ']' => (c.advance, none)
  | some ',' =>
    let c := c.advance.skip isBlank
    (c, some (faultAhead c
      (if c.peek = some ']' then .trailingComma else .trailingCharacters)))
  | some _ => (c, some (faultAhead c .trailingCharacters))
  | none => (c, some (faultAhead c .endInList))

/-- Close an object. -/
def closeObject (c : Cursor) : Cursor × Option Fault :=
  let c := c.skip isBlank
  match c.peek with
  | some '\x7d' => (c.advance, none)
  | some ',' => (c, some (faultAhead c .trailingComma))
  | some _ => (c, some (faultAhead c .trailingCharacters))
  | none => (c, some (faultAhead c .endInObject))

/-- Line and column, from one and zero, of the byte `offset`: the lines begun and the bytes
since the last line feed before it. -/
def position (text : List Char) (offset : Nat) : Nat × Nat :=
  go text 0 1 0
where
  /-- At byte `here`, in `line`, which began at byte `start`. -/
  go : List Char → Nat → Nat → Nat → Nat × Nat
    | [], _, line, start => (line, offset - start)
    | c :: cs, here, line, start =>
      if offset ≤ here then (line, offset - start)
      else if c = '\n' then go cs (here + 1) (line + 1) (here + 1)
      else go cs (here + c.utf8Size) line start

def Fault.message (text : String) (f : Fault) : String :=
  let (line, column) := position text.toList f.offset
  f.cause.message ++ " at line " ++ toString line ++ " column " ++ toString column

/-- Read a whole text: a value, then nothing but blanks. -/
def readAll {α : Type} (r : Reader α) (text : String) : Except String α :=
  match r (Cursor.start text) with
  | .fault f => .error (f.message text)
  | .misfit m next => .error (Fault.message text ⟨.misfit m, next.offset⟩)
  | .done a next =>
    let next := next.skip isBlank
    match next.rest with
    | [] => .ok a
    | _ => .error ((faultAhead next .trailingCharacters).message text)

end OpenUrl.Json
