import OpenUrl.Json.Reader

/-!
# JSON numbers

Whole numbers are exact as long as they fit 64 bits; minus zero and all others are
floating. The digits of a floating number are gathered into a 64-bit significand and a
power of ten, and the significand is multiplied or divided by that power with one rounding
for each step.
-/
namespace OpenUrl.Json

open OpenUrl.Number (Binary64)

def isDigit (c : Char) : Bool := '0' ≤ c && c ≤ '9'

def digitValue (c : Char) : Nat := c.toNat - 48

/-- The largest significand. -/
def maxSignificand : Nat := UInt64.size - 1

/-- The largest power of ten that is written out. -/
def maxPower : Nat := Nat.pow 2 31 - 1

/-- Take digits as long as the significand fits: the significand, how many were taken and
how many of those ahead are left. -/
def gather : Nat → Nat → List Char → Nat × Nat × List Char
  | n, taken, [] => (n, taken, [])
  | n, taken, d :: ds =>
    if 10 * n + digitValue d ≤ maxSignificand then gather (10 * n + digitValue d) (taken + 1) ds
    else (n, taken, d :: ds)

/-- Divide by the power `10 ^ 308` until the rest of the exponent is within it. -/
def scaleDown : Nat → Binary64 → Nat → Binary64
  | 0, x, _ => x
  | fuel + 1, x, k =>
    if k ≤ 308 then x.dividedBy (Binary64.tenTo k)
    else if x.isZero then x
    else scaleDown fuel (x.dividedBy (Binary64.tenTo 308)) (k - 308)

/-- The significand times a power of ten; none when it is out of range. Three steps down
reach zero from any significand. -/
def scale (significand : Nat) (power : Int) : Option Binary64 :=
  let x := Binary64.ofNat significand
  match power with
  | .ofNat k =>
    if 308 < k then if x.isZero then some x else none
    else
      let y := x.times (Binary64.tenTo k)
      if y.isInfinite then none else some y
  | .negSucc k => some (scaleDown 4 x (k + 1))

/-- A floating number by its parts. -/
def real (negative : Bool) (significand : Nat) (power : Int) : Reader Numeral :=
  match scale significand power with
  | none => Reader.here .numberOutOfRange
  | some x => Reader.pure (.real (if negative then x.negate else x))

/-- A written exponent, behind its letter. -/
def exponent (negative : Bool) (significand : Nat) (power : Int) : Reader Numeral := fun c =>
  let (down, c) := match c.rest with
    | '+' :: _ => (false, c.advance)
    | '-' :: _ => (true, c.advance)
    | _ => (false, c)
  match c.rest with
  | [] => .fault (faultHere c .endInValue)
  | a :: _ =>
    if isDigit a then
      let ds := c.ahead isDigit
      let (e, taken, left) := gatherPower 0 0 ds
      match left with
      | [] =>
        real negative significand (if down then power - e else power + e) (c.skip isDigit)
      | _ :: _ =>
        if significand ≠ 0 && !down then
          .fault ⟨.numberOutOfRange, c.offset + taken + 1⟩
        else .done (.real (Binary64.zero negative)) (c.skip isDigit)
    else .fault ⟨.badNumber, c.offset + 1⟩
where
  /-- As `gather`, for a power of ten. -/
  gatherPower : Nat → Nat → List Char → Nat × Nat × List Char
    | n, taken, [] => (n, taken, [])
    | n, taken, d :: ds =>
      if 10 * n + digitValue d ≤ maxPower then gatherPower (10 * n + digitValue d) (taken + 1) ds
      else (n, taken, d :: ds)

/-- An exponent if one follows, else the number as it is. -/
def exponentOrEnd (negative : Bool) (significand : Nat) (power : Int) : Reader Numeral := fun c =>
  match c.rest with
  | 'e' :: _ | 'E' :: _ => exponent negative significand power c.advance
  | _ => real negative significand power c

/-- The digits behind the point. Those that do not fit the significand do not count. -/
def fraction (negative : Bool) (significand : Nat) (power : Int) : Reader Numeral := fun c =>
  match c.ahead isDigit with
  | [] =>
    match c.rest with
    | [] => .fault (faultAhead c .endInValue)
    | _ => .fault (faultAhead c .badNumber)
  | ds =>
    let (n, taken, _) := gather significand 0 ds
    exponentOrEnd negative n (power - taken) (c.skip isDigit)

/-- The whole number of a significand, if it fits. -/
def whole (negative : Bool) (n : Nat) : Numeral :=
  if negative then
    if 0 < n ∧ n ≤ Nat.pow 2 63 then .whole (-n) else .real (Binary64.ofNat n).negate
  else .whole n

/-- What follows the digits before the point. `extra` digits did not fit the significand. -/
def afterDigits (negative : Bool) (n extra : Nat) : Reader Numeral := fun c =>
  match c.rest with
  | '.' :: _ => fraction negative n extra c.advance
  | 'e' :: _ | 'E' :: _ => exponent negative n extra c.advance
  | _ => if extra = 0 then .done (whole negative n) c else real negative n extra c

/-- A number without its sign. -/
def unsigned (negative : Bool) : Reader Numeral := fun c =>
  match c.rest with
  | [] => .fault (faultHere c .endInValue)
  | a :: _ =>
    if a = '0' then
      let c := c.advance
      match c.rest with
      | b :: _ =>
        if isDigit b then .fault (faultAhead c .badNumber) else afterDigits negative 0 0 c
      | [] => afterDigits negative 0 0 c
    else if isDigit a then
      let (n, _, left) := gather 0 0 (c.ahead isDigit)
      afterDigits negative n left.length (c.skip isDigit)
    else .fault ⟨.badNumber, c.offset + 1⟩

/-- A number, at its sign or first digit. -/
def numeral : Reader Numeral := fun c =>
  match c.rest with
  | '-' :: _ => unsigned true c.advance
  | _ => unsigned false c

end OpenUrl.Json
