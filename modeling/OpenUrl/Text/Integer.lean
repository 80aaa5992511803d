/-!
# Decimal integers

Reading an integer of a fixed range from a text: an optional sign, then ASCII digits.
The text is judged from left to right, so the first character that is no digit, or that
takes the value out of range, decides which fault is reported.
-/
namespace OpenUrl.Text

/-- Why a text is no integer of the range. -/
inductive IntegerFault
  | empty
  | invalidDigit
  | tooLarge
  | tooSmall
  deriving DecidableEq, Repr

def IntegerFault.message : IntegerFault → String
  | .empty => "cannot parse integer from empty string"
  | .invalidDigit => "invalid digit found in string"
  | .tooLarge => "number too large to fit in target type"
  | .tooSmall => "number too small to fit in target type"

/-- The value of an ASCII digit. -/
def digit? (c : Char) : Option Nat :=
  if '0' ≤ c ∧ c ≤ '9' then some (c.toNat - '0'.toNat) else none

/-- Continue the magnitude `n` with the digits of `cs`; `excess` is the fault of passing
`bound`. -/
def magnitude (bound : Nat) (excess : IntegerFault) : Nat → List Char → Except IntegerFault Nat
  | n, [] => .ok n
  | n, c :: cs =>
    match digit? c with
    | none => .error .invalidDigit
    | some d =>
      if 10 * n + d ≤ bound then magnitude bound excess (10 * n + d) cs else .error excess

/-- At least one digit. -/
def digits (bound : Nat) (excess : IntegerFault) : List Char → Except IntegerFault Nat
  | [] => .error .invalidDigit
  | cs => magnitude bound excess 0 cs

/-- A 64-bit natural number, with an optional plus sign. -/
def readUInt64 (s : String) : Except IntegerFault UInt64 :=
  match s.toList with
  | [] => .error .empty
  | '+' :: cs => (digits (UInt64.size - 1) .tooLarge cs).map UInt64.ofNat
  | cs => (digits (UInt64.size - 1) .tooLarge cs).map UInt64.ofNat

/-- A 32-bit integer, with an optional sign. -/
def readInt32 (s : String) : Except IntegerFault Int32 :=
  match s.toList with
  | [] => .error .empty
  | '+' :: cs => (digits (Nat.pow 2 31 - 1) .tooLarge cs).map (Int32.ofInt ·)
  | '-' :: cs => (digits (Nat.pow 2 31) .tooSmall cs).map fun n => Int32.ofInt (-n)
  | cs => (digits (Nat.pow 2 31 - 1) .tooLarge cs).map (Int32.ofInt ·)

end OpenUrl.Text
