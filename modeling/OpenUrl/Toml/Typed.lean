import OpenUrl.Misfit
import OpenUrl.Record
import OpenUrl.Text.Bytes
import OpenUrl.Toml.Document

/-!
# Records from TOML

A record is read from the entries of a document in the order of their names, so of two
misfits the one under the smaller name is reported. A misfit is shown under the line that
it is on.
-/
namespace OpenUrl.Toml

open OpenUrl.Number (Binary64)

/-- Why a text gives no value. -/
inductive Fault
  /-- The text is no document, or a value in it is of no use to anyone. -/
  | unreadable
  | misfit (m : Misfit) (span : Span)
  deriving DecidableEq, Repr

/-- What belongs to no value is shown at the start of the text. -/
def nowhere : Span := ⟨0, 0⟩

/-- Real numbers are written without an exponent. -/
def realStyle : Binary64.Style := ⟨none, none⟩

/-- Whether 64 bits hold an integer, with or without a sign. -/
def fits (n : Int) : Bool := Int64.minValue.toInt ≤ n && n < UInt64.size

/-- What a value is called where something else is wanted; none for a number of no type. -/
def Value.found? : Value → Option Found
  | .scalar (.text s) _ => some (.text s)
  | .scalar (.integer n) _ =>
    some (if fits n then .integer n
      else .wideInteger n (if n < Nat.pow 2 127 then "i128" else "u128"))
  | .scalar (.real x) _ => some (.real (x.text realStyle))
  | .scalar (.flag b) _ => some (.boolean b)
  | .scalar .unbounded _ => none
  | .scalar .moment _ | .table .. => some .map
  | .array .. => some .sequence

/-- A value of another type than the wanted one. -/
def Value.unfit {α : Type} (v : Value) (wanted : String) : Except Fault α :=
  match v.found? with
  | some f => .error (.misfit (.wrongType f wanted) v.span)
  | none => .error .unreadable

mutual

/-- Whether every number in a value is of some type. -/
def Value.isBounded : Value → Bool
  | .scalar .unbounded _ => false
  | .scalar _ _ => true
  | .array items _ _ => allBounded items
  | .table entries _ _ => entriesBounded entries

def allBounded : List Value → Bool
  | [] => true
  | v :: vs => v.isBounded && allBounded vs

def entriesBounded : List (Key × Value) → Bool
  | [] => true
  | (_, v) :: es => v.isBounded && entriesBounded es

end

/-- A whole number within bounds, given the name of its type. -/
def readWhole (wanted : String) (low high : Int) (v : Value) : Except Fault Int :=
  match v with
  | .scalar (.integer n) span =>
    if low ≤ n ∧ n ≤ high then .ok n
    else if fits n then .error (.misfit (.wrongValue (.integer n) wanted) span)
    else v.unfit wanted
  | v => v.unfit wanted

def readText : Value → Except Fault String
  | .scalar (.text s) _ => .ok s
  | v => v.unfit "a string"

/-- A value of a kind. -/
def readKind : (k : Kind) → Value → Except Fault k.Value
  | .natural, v => (readWhole "u64" 0 (UInt64.size - 1) v).map fun n => UInt64.ofNat n.toNat
  | .integer, v => (readWhole "i32" Int32.minValue.toInt Int32.maxValue.toInt v).map Int32.ofInt
  | .text, v => readText v
  | .flag, .scalar (.flag b) _ => .ok b
  | .flag, v => v.unfit "a boolean"
  | .optionalText, v => (readText v).map some

/-- Entries in the order of their names. -/
def sorted (es : List (Key × Value)) : List (Key × Value) :=
  es.mergeSort fun a b => decide (a.1.name ≤ b.1.name)

variable {σ : Type}

/-- Store the entries one after the other. -/
def readEntries (r : Record σ) : List (Key × Value) → σ → Except Fault σ
  | [], s => .ok s
  | (k, v) :: es, s =>
    match r.field? k.name with
    | some f =>
      match readKind f.kind v with
      | .error e => .error e
      | .ok x => readEntries r es (f.put x s)
    | none =>
      if r.closed then .error (.misfit (.unknownField k.name r.names) k.span)
      else if v.isBounded then readEntries r es s
      else .error .unreadable

/-- A record from the entries of a document. -/
def readRecord (r : Record σ) (es : List (Key × Value)) : Except Fault σ :=
  match readEntries r (sorted es) r.blank with
  | .error e => .error e
  | .ok s =>
    match r.absent? (es.map fun e => e.1.name) with
    | some name => .error (.misfit (.missingField name) nowhere)
    | none => .ok s

/-! ## Messages -/

/-- The lines of a text, cut at the line feeds. -/
def linesOf : List Char → List (List Char)
  | [] => [[]]
  | '\n' :: cs => [] :: linesOf cs
  | c :: cs =>
    match linesOf cs with
    | [] => [[c]]
    | l :: ls => (c :: l) :: ls

/-- Line and column of a byte, both from zero; the column counts characters. -/
def place (offset : Nat) : List Char → Nat → Nat → Nat → Nat × Nat
  | [], _, line, column => (line, column)
  | c :: cs, here, line, column =>
    if offset ≤ here then (line, column)
    else if c = '\n' then place offset cs (here + 1) (line + 1) 0
    else place offset cs (here + c.utf8Size) line (column + 1)

/-- A misfit under the line it is on. The marks cover the bytes of the span up to the end
of the line, and at least one. -/
def picture (text : String) (span : Span) (message : String) : String :=
  let (line, column) := place span.start text.toList 0 0 0
  let content := ((linesOf text.toList)[line]?).getD []
  let bytes := Text.byteLength content
  let marks := max 1 (min (span.stop - span.start) (bytes - column))
  let number := toString (line + 1)
  let margin := String.ofList (List.replicate (number.length + 1) ' ') ++ "|"
  "TOML parse error at line " ++ number ++ ", column " ++ toString (column + 1) ++ "\n" ++
    margin ++ "\n" ++
    number ++ " | " ++ String.ofList content ++ "\n" ++
    margin ++ String.ofList (List.replicate (column + 1) ' ' ++ List.replicate marks '^') ++ "\n" ++
    message ++ "\n"

def Fault.message (text : String) : Fault → String
  | .unreadable => "TOML parse error"
  | .misfit m span => picture text span m.message

/-- Read a whole document by its entries. -/
def readAll {α : Type} (f : List (Key × Value) → Except Fault α) (text : String) :
    Except String α :=
  match read text with
  | none => .error (Fault.unreadable.message text)
  | some es =>
    match f es with
    | .error e => .error (e.message text)
    | .ok a => .ok a

end OpenUrl.Toml

namespace OpenUrl.Record

variable {σ : Type}

/-- The record that a TOML text describes. -/
def ofToml (r : Record σ) (text : String) : Except String σ :=
  Toml.readAll (Toml.readRecord r) text

end OpenUrl.Record
