import OpenUrl.Text.Cursor
import OpenUrl.Toml.Scalar

/-!
# TOML strings

Four kinds of strings: with escapes or without, on one line or over several. Controls
other than tab are refused, and a carriage return stands only before a line feed.
-/
namespace OpenUrl.Toml

open OpenUrl.Text (Cursor)

/-- A step over a document: it takes characters off a cursor or refuses. -/
abbrev Scan (α : Type) := StateT Cursor Option α

namespace Scan

def refuse {α : Type} : Scan α := fun _ => none

def peek : Scan (Option Char) := fun c => some (c.peek, c)

def advance : Scan Unit := fun c => some ((), c.advance)

/-- Where the next character stands. -/
def offset : Scan Nat := fun c => some (c.offset, c)

/-- The characters ahead that satisfy `p`, taken. -/
def takeWhile (p : Char → Bool) : Scan (List Char) := fun c => some (c.ahead p, c.skip p)

/-- Take `a`, or refuse. -/
def expect (a : Char) : Scan Unit := do
  if (← peek) = some a then advance else refuse

/-- Take the characters of `cs` if they are ahead. -/
def attempt (cs : List Char) : Scan Bool := fun c =>
  if cs.isPrefixOf c.rest then some (true, cs.foldl (fun c _ => c.advance) c)
  else some (false, c)

end Scan

/-- Controls that no string and no comment holds as they are. -/
def isForbidden (c : Char) : Bool := (c.toNat < 0x20 && c != '\t') || c.toNat == 0x7F

/-- The character with a code point, if there is one. -/
def charOf? (n : Nat) : Option Char :=
  if h : n.isValidChar then some (Char.ofNatAux n h) else none

/-- Exactly `count` hexadecimal digits behind the number `n`. -/
def hexDigits : Nat → Nat → Scan Nat
  | 0, n => pure n
  | count + 1, n => do
    match (← Scan.peek).bind (digitOf? 16) with
    | some d =>
      Scan.advance
      hexDigits count (16 * n + d)
    | none => Scan.refuse

/-- The character of a code point of `count` digits. -/
def codePoint (count : Nat) : Scan Char := do
  match charOf? (← hexDigits count 0) with
  | some c => pure c
  | none => Scan.refuse

/-- What stands behind a backslash. -/
def escape : Scan Char := do
  let c ← Scan.peek
  Scan.advance
  match c with
  | some 'b' => pure '\x08'
  | some 't' => pure '\t'
  | some 'n' => pure '\n'
  | some 'f' => pure '\x0c'
  | some 'r' => pure '\r'
  | some 'e' => pure '\x1b'
  | some '"' => pure '"'
  | some '\\' => pure '\\'
  | some 'x' => codePoint 2
  | some 'u' => codePoint 4
  | some 'U' => codePoint 8
  | _ => Scan.refuse

/-- The rest of a string of one line, up to the quote that opened it. -/
def lineText (quote : Char) (escapes : Bool) : Nat → Scan (List Char)
  | 0 => Scan.refuse
  | fuel + 1 => do
    match ← Scan.peek with
    | none => Scan.refuse
    | some c =>
      Scan.advance
      if c = quote then pure []
      else if escapes && c = '\\' then
        let e ← escape
        let cs ← lineText quote escapes fuel
        pure (e :: cs)
      else if isForbidden c then Scan.refuse
      else
        let cs ← lineText quote escapes fuel
        pure (c :: cs)

def isSpace (c : Char) : Bool := c == ' ' || c == '\t'

/-- A line end, if one is ahead. -/
def newline : Scan Bool := do
  if ← Scan.attempt ['\n'] then pure true else Scan.attempt ['\r', '\n']

/-- Behind a backslash at the end of a line: all blanks and line ends. -/
def blankLines : Nat → Scan Unit
  | 0 => pure ()
  | fuel + 1 => do
    let _ ← Scan.takeWhile isSpace
    if ← newline then blankLines fuel

/-- How many of the character are ahead, taken. -/
def runOf (a : Char) : Scan Nat := do
  return (← Scan.takeWhile (· == a)).length

/-- The rest of a string of several lines, up to three quotes. One or two quotes more
belong to the string. -/
def linesText (quote : Char) (escapes : Bool) : Nat → Scan (List Char)
  | 0 => Scan.refuse
  | fuel + 1 => do
    match ← Scan.peek with
    | none => Scan.refuse
    | some c =>
      if c = quote then
        let n ← runOf quote
        if n < 3 then
          let cs ← linesText quote escapes fuel
          pure (List.replicate n quote ++ cs)
        else if n ≤ 5 then pure (List.replicate (n - 3) quote)
        else Scan.refuse
      else if escapes && c = '\\' then
        Scan.advance
        let spaces ← Scan.takeWhile isSpace
        if ← newline then
          blankLines fuel
          linesText quote escapes fuel
        else if spaces.isEmpty then
          let e ← escape
          let cs ← linesText quote escapes fuel
          pure (e :: cs)
        else Scan.refuse
      else if ← Scan.attempt ['\r', '\n'] then
        let cs ← linesText quote escapes fuel
        pure ('\r' :: '\n' :: cs)
      else if isForbidden c && c != '\n' then Scan.refuse
      else
        Scan.advance
        let cs ← linesText quote escapes fuel
        pure (c :: cs)

/-- Characters left, as a bound for what is read next. -/
def room : Scan Nat := fun c => some (c.rest.length + 1, c)

/-- A string on one line, at its quote. -/
def quotedLine (quote : Char) : Scan String := do
  Scan.advance
  let cs ← lineText quote (quote == '"') (← room)
  pure (String.ofList cs)

/-- A string of any kind, at its quote. A line end right behind three quotes does not count. -/
def quoted (quote : Char) : Scan String := do
  if ← Scan.attempt [quote, quote, quote] then
    let _ ← newline
    let cs ← linesText quote (quote == '"') (← room)
    pure (String.ofList cs)
  else quotedLine quote

end OpenUrl.Toml
