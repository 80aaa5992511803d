/-!
# Binary floating point of 64 bits

Values of the format with 53 significant bits, decoded: a sign, a significand below
`2 ^ 53` and an exponent of two, or an infinity, or no number. A quotient of natural
numbers is rounded to the nearest value and, halfway between two, to the one with the
even significand; products and quotients of values are rounded the same way.
-/
namespace OpenUrl.Number

/-- `finite s m e` is `m * 2 ^ e`, negated when `s` holds. -/
inductive Binary64
  | finite (negative : Bool) (significand : Nat) (exponent : Int)
  | infinite (negative : Bool)
  | notNumber
  deriving DecidableEq, Repr

namespace Binary64

/-- The exponent of the smallest values. -/
def minExponent : Int := -1074

/-- The exponent of the largest values. -/
def maxExponent : Int := 971

def zero (negative : Bool) : Binary64 := finite negative 0 minExponent

/-- Numerator and denominator of `n / (d * 2 ^ e)`. -/
def scaled (n d : Nat) (e : Int) : Nat × Nat :=
  match e with
  | .ofNat k => (n, d * Nat.pow 2 k)
  | .negSucc k => (n * Nat.pow 2 (k + 1), d)

/-- The nearest natural number, the even one of two. -/
def nearest (n d : Nat) : Nat :=
  let q := n / d
  let r := n % d
  if 2 * r < d then q else if d < 2 * r then q + 1 else q + q % 2

/-- The exponent at which the significand of `n / d` has 53 bits, or the smallest. -/
def exponentOf (n d : Nat) : Int :=
  let e : Int := (n.log2 : Int) - d.log2 - 52
  let (a, b) := scaled n d e
  max minExponent (if a < b * Nat.pow 2 52 then e - 1 else e)

/-- The value nearest to `n / d`, for a positive `d`. -/
def ofRatio (negative : Bool) (n d : Nat) : Binary64 :=
  if n = 0 then zero negative
  else
    let e := exponentOf n d
    let (a, b) := scaled n d e
    let m := nearest a b
    let (m, e) := if m = Nat.pow 2 53 then (Nat.pow 2 52, e + 1) else (m, e)
    if maxExponent < e then infinite negative else finite negative m e

def ofNat (n : Nat) : Binary64 := ofRatio false n 1

/-- The value nearest to `digits * 10 ^ exponent`, where `digits` has `count` digits. An
exponent far outside the range is settled without computing the power. -/
def ofDecimal (negative : Bool) (digits count : Nat) (exponent : Int) : Binary64 :=
  if digits = 0 then zero negative
  else if 400 < (count : Int) + exponent then infinite negative
  else if (count : Int) + exponent < -400 then zero negative
  else
    match exponent with
    | .ofNat k => ofRatio negative (digits * Nat.pow 10 k) 1
    | .negSucc k => ofRatio negative digits (Nat.pow 10 (k + 1))

/-- The value nearest to ten to the `k`. -/
def tenTo (k : Nat) : Binary64 := ofNat (Nat.pow 10 k)

/-- The rounded product of two magnitudes, for finite ones; the sign is the left one's. -/
def times : Binary64 → Binary64 → Binary64
  | finite s m e, finite _ n f =>
    match e + f with
    | .ofNat k => ofRatio s (m * n * Nat.pow 2 k) 1
    | .negSucc k => ofRatio s (m * n) (Nat.pow 2 (k + 1))
  | x, _ => x

/-- The rounded quotient of two magnitudes, for finite ones and a divisor other than zero;
the sign is the left one's. -/
def dividedBy : Binary64 → Binary64 → Binary64
  | finite s m e, finite _ n f =>
    match e - f with
    | .ofNat k => ofRatio s (m * Nat.pow 2 k) n
    | .negSucc k => ofRatio s m (n * Nat.pow 2 (k + 1))
  | x, _ => x

def negate : Binary64 → Binary64
  | finite s m e => finite (!s) m e
  | infinite s => infinite (!s)
  | notNumber => notNumber

def isZero : Binary64 → Bool
  | finite _ m _ => m == 0
  | _ => false

def isInfinite : Binary64 → Bool
  | infinite _ => true
  | _ => false

end Binary64

end OpenUrl.Number
