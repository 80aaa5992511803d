import OpenUrl.Number.Binary64

/-!
# Shortest decimal digits

The decimal text of a finite value has the fewest digits that still round to it and,
among those, the digits nearest to it. For each count of digits the two decimals around
the value are tried in exact arithmetic.
-/
namespace OpenUrl.Number

/-- `0.d₁d₂… * 10 ^ point` for the decimal digits `d` of `digits`. -/
structure Decimal where
  digits : Nat
  point : Int
  deriving DecidableEq, Repr

/-- A positive quotient of natural numbers. -/
structure Ratio where
  num : Nat
  den : Nat
  deriving DecidableEq, Repr

namespace Ratio

/-- `n * 2 ^ e`. -/
def binary (n : Nat) : Int → Ratio
  | .ofNat k => ⟨n * Nat.pow 2 k, 1⟩
  | .negSucc k => ⟨n, Nat.pow 2 (k + 1)⟩

/-- `n * 10 ^ e`. -/
def decimal (n : Nat) : Int → Ratio
  | .ofNat k => ⟨n * Nat.pow 10 k, 1⟩
  | .negSucc k => ⟨n, Nat.pow 10 (k + 1)⟩

def lt (a b : Ratio) : Bool := a.num * b.den < b.num * a.den

def le (a b : Ratio) : Bool := a.num * b.den ≤ b.num * a.den

/-- `⌊a / b⌋`. -/
def floorDiv (a b : Ratio) : Nat := (a.num * b.den) / (a.den * b.num)

/-- The `p` with `10 ^ (p - 1) ≤ a < 10 ^ p`. -/
def point (a : Ratio) : Int :=
  if a.den ≤ a.num then (Nat.toDigits 10 (a.num / a.den)).length
  else 1 - ((Nat.toDigits 10 ((a.den + a.num - 1) / a.num - 1)).length : Int)

/-- How `a` compares with the middle between `x` and `y`. -/
def compareMiddle (a x y : Ratio) : Ordering :=
  compare (2 * a.num * (x.den * y.den)) ((x.num * y.den + y.num * x.den) * a.den)

end Ratio

/-- The values that round to a significand, as quarters of its last place. -/
structure Interval where
  low : Ratio
  high : Ratio
  /-- Whether the ends themselves round to it. -/
  closed : Bool
  deriving DecidableEq, Repr

def Interval.holds (i : Interval) (x : Ratio) : Bool :=
  if i.closed then i.low.le x && x.le i.high else i.low.lt x && x.lt i.high

/-- What rounds to `m * 2 ^ e`. Below a power of two the values lie twice as close. -/
def Interval.ofValue (m : Nat) (e : Int) : Interval :=
  let below := if m = Nat.pow 2 52 ∧ Binary64.minExponent < e then 1 else 2
  ⟨Ratio.binary (4 * m - below) (e - 2), Ratio.binary (4 * m + 2) (e - 2), m % 2 == 0⟩

/-- The best decimal of `count` digits, if one rounds to the value. -/
def shortestOf (value : Ratio) (i : Interval) (point : Int) (count : Nat) : Option Nat :=
  let step := point - count
  let lower := value.floorDiv (Ratio.decimal 1 step)
  let x := Ratio.decimal lower step
  let y := Ratio.decimal (lower + 1) step
  match 0 < lower && i.holds x, i.holds y with
  | false, false => none
  | true, false => some lower
  | false, true => some (lower + 1)
  | true, true =>
    match value.compareMiddle x y with
    | .lt => some lower
    | .gt => some (lower + 1)
    | .eq => some (lower + lower % 2)

/-- The shortest decimal of the positive value `m * 2 ^ e`; seventeen digits always do. -/
def shortest (m : Nat) (e : Int) : Decimal :=
  let value := Ratio.binary m e
  let point := value.point
  let i := Interval.ofValue m e
  match (List.range 17).findSome? fun k =>
      (shortestOf value i point (k + 1)).map fun d => (d, k + 1) with
  | some (d, count) => if d = Nat.pow 10 count then ⟨1, point + 1⟩ else ⟨d, point⟩
  | none => ⟨value.floorDiv (Ratio.decimal 1 (point - 17)), point⟩

namespace Decimal

/-- The digits without zeros at the end. -/
def figures (d : Decimal) : List Char :=
  match (Nat.toDigits 10 d.digits).reverse.dropWhile (· == '0') with
  | [] => ['0']
  | cs => cs.reverse

/-- Digits around a point, at least one on either side. -/
def positional (d : Decimal) : List Char :=
  let ds := d.figures
  match d.point with
  | .ofNat 0 => '0' :: '.' :: ds
  | .negSucc k => '0' :: '.' :: (List.replicate (k + 1) '0' ++ ds)
  | .ofNat p =>
    if ds.length ≤ p then ds ++ List.replicate (p - ds.length) '0' ++ ['.', '0']
    else ds.take p ++ '.' :: ds.drop p

/-- One digit, a point if more follow, and the signed power of ten. -/
def scientific (d : Decimal) : List Char :=
  let power := d.point - 1
  let front :=
    match d.figures with
    | [] => []
    | [c] => [c]
    | c :: cs => c :: '.' :: cs
  front ++ 'e' :: (if power < 0 then '-' else '+') :: Nat.toDigits 10 power.natAbs

end Decimal

namespace Binary64

/-- How values of one format are written. -/
structure Style where
  /-- Powers of ten from here on … -/
  positionalFrom : Option Int
  /-- … and below this are written without an exponent. -/
  positionalBelow : Option Int

/-- Text by a style. -/
def text (style : Style) : Binary64 → String
  | notNumber => "NaN"
  | infinite false => "inf"
  | infinite true => "-inf"
  | finite s m e =>
    let sign := if s then "-" else ""
    if m = 0 then sign ++ "0.0"
    else
      let d := shortest m e
      let power := d.point - 1
      let small := match style.positionalFrom with
        | some p => power < p
        | none => false
      let large := match style.positionalBelow with
        | some p => p ≤ power
        | none => false
      sign ++ String.ofList (if small || large then d.scientific else d.positional)

end Binary64

end OpenUrl.Number
