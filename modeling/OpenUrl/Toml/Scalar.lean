import OpenUrl.Toml.Moment
import OpenUrl.Toml.Value

/-!
# Numbers, flags and points in time

The scalars that are written without quotes. Underscores may stand between digits only; a
decimal number has no leading zero; numbers of another base have no sign.
-/
namespace OpenUrl.Toml

open OpenUrl.Number (Binary64)
open OpenUrl.Text (digit?)

/-- The value of a digit of a base up to sixteen. -/
def digitOf? (base : Nat) (c : Char) : Option Nat :=
  let value :=
    if '0' ≤ c ∧ c ≤ '9' then some (c.toNat - 48)
    else if 'a' ≤ c ∧ c ≤ 'f' then some (c.toNat - 87)
    else if 'A' ≤ c ∧ c ≤ 'F' then some (c.toNat - 55)
    else none
  value.filter (· < base)

/-- The digits of a number with underscores between them: all of `cs`, at least one. -/
def digitRun (base : Nat) : List Char → Option (List Nat)
  | [] => none
  | [c] => (digitOf? base c).map fun d => [d]
  | c :: '_' :: cs => do
    let d ← digitOf? base c
    let ds ← digitRun base cs
    some (d :: ds)
  | c :: cs => do
    let d ← digitOf? base c
    let ds ← digitRun base cs
    some (d :: ds)

/-- The number that digits of a base write. -/
def ofDigits (base : Nat) (ds : List Nat) : Nat := ds.foldl (fun n d => base * n + d) 0

/-- Decimal digits of which only a lone one may be zero at the front. -/
def decimalRun (cs : List Char) : Option (List Nat) := do
  let ds ← digitRun 10 cs
  match ds with
  | 0 :: _ :: _ => none
  | ds => some ds

/-- Cut off a sign; true for minus. -/
def sign : List Char → Bool × List Char
  | '-' :: cs => (true, cs)
  | '+' :: cs => (false, cs)
  | cs => (false, cs)

/-- A whole number, if a type holds it. -/
def bounded (n : Int) : Scalar :=
  if -(Nat.pow 2 127 : Int) ≤ n ∧ n < Nat.pow 2 128 then .integer n else .unbounded

/-- A whole number. -/
def integer (cs : List Char) : Option Scalar :=
  match cs with
  | '0' :: 'x' :: ds => (digitRun 16 ds).map fun ds => bounded (ofDigits 16 ds)
  | '0' :: 'o' :: ds => (digitRun 8 ds).map fun ds => bounded (ofDigits 8 ds)
  | '0' :: 'b' :: ds => (digitRun 2 ds).map fun ds => bounded (ofDigits 2 ds)
  | cs =>
    let (negative, ds) := sign cs
    (decimalRun ds).map fun ds =>
      let n : Int := ofDigits 10 ds
      bounded (if negative then -n else n)

def isExponentMark (c : Char) : Bool := c == 'e' || c == 'E'

/-- A floating number: digits, then a fraction, an exponent, or both. -/
def real (cs : List Char) : Option Scalar := do
  let (negative, cs) := sign cs
  match cs with
  | ['i', 'n', 'f'] => some (.real (.infinite negative))
  | ['n', 'a', 'n'] => some (.real .notNumber)
  | cs =>
    let front := cs.takeWhile fun c => c != '.' && !isExponentMark c
    let rest := cs.dropWhile fun c => c != '.' && !isExponentMark c
    let whole ← decimalRun front
    let (fraction, rest) ← match rest with
      | '.' :: rest => do
        let ds ← digitRun 10 (rest.takeWhile fun c => !isExponentMark c)
        some (ds, rest.dropWhile fun c => !isExponentMark c)
      | rest => some ([], rest)
    let power ← match rest with
      | [] => if fraction.isEmpty then none else some (0 : Int)
      | _ :: rest => do
        let (down, ds) := sign rest
        let ds ← digitRun 10 ds
        let e : Int := ofDigits 10 ds
        some (if down then -e else e)
    let digits := whole ++ fraction
    let n := ofDigits 10 digits
    let x := Binary64.ofDecimal negative n (Nat.toDigits 10 n).length (power - fraction.length)
    some (if x.isInfinite then .unbounded else .real x)

/-- A scalar without quotes. -/
def bare (cs : List Char) : Option Scalar :=
  if cs = "true".toList then some (.flag true)
  else if cs = "false".toList then some (.flag false)
  else if Moment.accepts cs then some .moment
  else (integer cs).or (real cs)

end OpenUrl.Toml
