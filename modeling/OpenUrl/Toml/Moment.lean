import OpenUrl.Text.Integer

/-!
# Dates and times of day

The forms of a point in time: a date, a time of day, or both with an optional offset. Days
exist in the calendar, seconds may be left out, and the sixtieth second is accepted.
-/
namespace OpenUrl.Toml.Moment

open OpenUrl.Text (digit?)

/-- Exactly two digits. -/
def two : List Char → Option (Nat × List Char)
  | a :: b :: cs => do
    let x ← digit? a
    let y ← digit? b
    some (10 * x + y, cs)
  | _ => none

def isLeap (year : Nat) : Bool := (year % 4 == 0 && year % 100 != 0) || year % 400 == 0

def daysIn (year month : Nat) : Nat :=
  match month with
  | 2 => if isLeap year then 29 else 28
  | 4 | 6 | 9 | 11 => 30
  | _ => 31

/-- A date, and what follows it. -/
def date (cs : List Char) : Option (List Char) := do
  let (century, cs) ← two cs
  let (short, cs) ← two cs
  match cs with
  | '-' :: cs =>
    let (month, cs) ← two cs
    match cs with
    | '-' :: cs =>
      let (day, cs) ← two cs
      if 1 ≤ month ∧ month ≤ 12 ∧ 1 ≤ day ∧ day ≤ daysIn (100 * century + short) month then some cs
      else none
    | _ => none
  | _ => none

/-- The fraction of a second, if there is one. -/
def fraction : List Char → Option (List Char)
  | '.' :: c :: cs => do
    let _ ← digit? c
    some (cs.dropWhile fun a => (digit? a).isSome)
  | '.' :: [] => none
  | cs => some cs

/-- A time of day, and what follows it. -/
def time (cs : List Char) : Option (List Char) := do
  let (hour, cs) ← two cs
  match cs with
  | ':' :: cs =>
    let (minute, cs) ← two cs
    if 23 < hour ∨ 59 < minute then none
    else match cs with
      | ':' :: cs =>
        let (second, cs) ← two cs
        if 60 < second then none else fraction cs
      | cs => some cs
  | _ => none

/-- An offset, and nothing after it. -/
def isOffset : List Char → Bool
  | ['Z'] | ['z'] => true
  | c :: cs =>
    (c == '+' || c == '-') &&
      match two cs with
      | some (hour, ':' :: cs) =>
        match two cs with
        | some (minute, []) => hour ≤ 23 && minute ≤ 59
        | _ => false
      | _ => false
  | [] => false

/-- What may stand between a date and a time. -/
def isDelimiter (c : Char) : Bool := c == 'T' || c == 't' || c == ' '

/-- A whole point in time. -/
def accepts (cs : List Char) : Bool :=
  match date cs with
  | some [] => true
  | some (d :: cs) =>
    isDelimiter d &&
      match time cs with
      | some [] => true
      | some cs => isOffset cs
      | none => false
  | none =>
    match time cs with
    | some [] => true
    | _ => false

end OpenUrl.Toml.Moment
