import OpenUrl.Number.Shortest
import OpenUrl.Record

/-!
# JSON values and how they are written

A value is written without blanks, its fields in their order. Inside a string only the
quote, the backslash and the controls below space are escaped.
-/
namespace OpenUrl.Json

open OpenUrl.Number (Binary64)

/-- Whole numbers within 64 bits are exact; all others are floating. -/
inductive Numeral
  | whole (n : Int)
  | real (x : Binary64)
  deriving DecidableEq, Repr

inductive Value
  | null
  | boolean (b : Bool)
  | number (n : Numeral)
  | text (s : String)
  | array (items : List Value)
  | object (fields : List (String × Value))

/-- Real numbers are written in full from `1e-5` up to `1e16`, else with a power of ten. -/
def realStyle : Binary64.Style := ⟨some (-5), some 16⟩

def Numeral.text : Numeral → String
  | whole n => toString n
  | real x => x.text realStyle

/-- The two hexadecimal digits of a number below 256. -/
def hexPair (n : Nat) : List Char := [Nat.digitChar (n / 16), Nat.digitChar (n % 16)]

/-- One character inside a string. -/
def escapeChar (c : Char) : List Char :=
  match c with
  | '"' => ['\\', '"']
  | '\\' => ['\\', '\\']
  | '\x08' => ['\\', 'b']
  | '\t' => ['\\', 't']
  | '\n' => ['\\', 'n']
  | '\x0c' => ['\\', 'f']
  | '\r' => ['\\', 'r']
  | c => if c.toNat < 0x20 then ['\\', 'u', '0', '0'] ++ hexPair c.toNat else [c]

/-- The inside of a string. -/
def escape (cs : List Char) : List Char := cs.flatMap escapeChar

@[simp] theorem escape_nil : escape [] = [] := rfl

@[simp] theorem escape_cons (c : Char) (cs : List Char) :
    escape (c :: cs) = escapeChar c ++ escape cs := rfl

/-- A string with its quotes. -/
def renderText (s : String) : List Char := '"' :: (escape s.toList ++ ['"'])

mutual

def render : Value → List Char
  | .null => "null".toList
  | .boolean b => (toString b).toList
  | .number n => n.text.toList
  | .text s => renderText s
  | .array items => '[' :: renderItems items
  | .object fields => '\x7b' :: renderFields fields

/-- The items and the closing bracket. -/
def renderItems : List Value → List Char
  | [] => [']']
  | [v] => render v ++ [']']
  | v :: vs => render v ++ ',' :: renderItems vs

/-- The fields and the closing brace. -/
def renderFields : List (String × Value) → List Char
  | [] => ['\x7d']
  | [(k, v)] => renderText k ++ ':' :: (render v ++ ['\x7d'])
  | (k, v) :: fs => renderText k ++ ':' :: (render v ++ ',' :: renderFields fs)

end

def Value.compact (v : Value) : String := String.ofList (render v)

end OpenUrl.Json

namespace OpenUrl

/-- The JSON value of a field. -/
def Kind.toJson : (k : Kind) → k.Value → Json.Value
  | natural, n => .number (.whole n.toNat)
  | integer, n => .number (.whole n.toInt)
  | text, s => .text s
  | flag, b => .boolean b
  | optionalText, none => .null
  | optionalText, some s => .text s

namespace Record

variable {σ : Type}

/-- The fields of a record with their JSON values. -/
def jsonFields (r : Record σ) (s : σ) : List (String × Json.Value) :=
  r.fields.map fun f => (f.name, f.kind.toJson (f.get s))

def toJson (r : Record σ) (s : σ) : Json.Value := .object (r.jsonFields s)

end Record

end OpenUrl
