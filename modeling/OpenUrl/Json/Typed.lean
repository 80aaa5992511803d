import OpenUrl.Json.Skip

/-!
# JSON values of a wanted type

Readers for the kinds of fields and for records. A record is an object, in which names
that no field has are skipped or refused and no name may come twice, or a list of the
fields in order.
-/
namespace OpenUrl.Json

variable {α σ : Type}

/-- What a number is called where something else is wanted. -/
def Numeral.found : Numeral → Found
  | .whole n => .integer n
  | .real x => .real (x.text realStyle)

/-- What stands here instead of the wanted value. Scalars are read first, brackets are not. -/
def unfitValue (wanted : String) : Reader α := do
  match ← Reader.peek with
  | some 'n' =>
    Reader.word "null".toList
    Reader.unfitHere (.wrongType .null wanted)
  | some 't' =>
    Reader.word "true".toList
    Reader.unfitHere (.wrongType (.boolean true) wanted)
  | some 'f' =>
    Reader.word "false".toList
    Reader.unfitHere (.wrongType (.boolean false) wanted)
  | some '"' =>
    Reader.advance
    let s ← textBody
    Reader.unfitHere (.wrongType (.text s) wanted)
  | some '[' => Reader.unfitHere (.wrongType .sequence wanted)
  | some '\x7b' => Reader.unfitHere (.wrongType .map wanted)
  | some a =>
    if a = '-' || isDigit a then
      let n ← numeral
      Reader.unfitHere (.wrongType n.found wanted)
    else Reader.ahead .wantedValue
  | none => Reader.ahead .endInValue

/-- A whole number within bounds, given the name of its type. -/
def readWhole (wanted : String) (low high : Int) : Reader Int := do
  Reader.blanks
  match ← Reader.peek with
  | none => Reader.ahead .endInValue
  | some a =>
    if a = '-' || isDigit a then
      match ← numeral with
      | .whole n =>
        if low ≤ n ∧ n ≤ high then pure n
        else Reader.unfitHere (.wrongValue (.integer n) wanted)
      | .real x => Reader.unfitHere (.wrongType (Numeral.real x).found wanted)
    else unfitValue wanted

def readText : Reader String := do
  Reader.blanks
  match ← Reader.peek with
  | none => Reader.ahead .endInValue
  | some '"' =>
    Reader.advance
    textBody
  | some _ => unfitValue "a string"

def readFlag : Reader Bool := do
  Reader.blanks
  match ← Reader.peek with
  | none => Reader.ahead .endInValue
  | some 't' =>
    Reader.word "true".toList
    pure true
  | some 'f' =>
    Reader.word "false".toList
    pure false
  | some _ => unfitValue "a boolean"

def readOptionalText : Reader (Option String) := do
  Reader.blanks
  match ← Reader.peek with
  | some 'n' =>
    Reader.word "null".toList
    pure none
  | _ =>
    let s ← readText
    pure (some s)

/-- A value of a kind. -/
def readKind : (k : Kind) → Reader k.Value
  | .natural => do
    let n ← readWhole "u64" 0 (UInt64.size - 1)
    pure (UInt64.ofNat n.toNat)
  | .integer => do
    let n ← readWhole "i32" Int32.minValue.toInt Int32.maxValue.toInt
    pure (Int32.ofInt n)
  | .text => readText
  | .flag => readFlag
  | .optionalText => readOptionalText

/-- Whether another item follows in a list; its comma is taken. -/
def nextItem (first : Bool) : Reader Bool := do
  Reader.blanks
  match ← Reader.peek with
  | none => Reader.ahead .endInList
  | some ']' => pure false
  | some a =>
    if first then pure true
    else if a = ',' then
      Reader.advance
      Reader.blanks
      match ← Reader.peek with
      | some ']' => Reader.ahead .trailingComma
      | some _ => pure true
      | none => Reader.ahead .endInValue
    else Reader.ahead .wantedListEnd

/-- The name of the next field of an object, if one follows; its comma is taken. -/
def nextName (first : Bool) : Reader (Option String) := do
  Reader.blanks
  match ← Reader.peek with
  | none => Reader.ahead .endInObject
  | some '\x7d' => pure none
  | some a =>
    if first then
      if a = '"' then name else Reader.ahead .keyNotString
    else if a = ',' then
      Reader.advance
      Reader.blanks
      match ← Reader.peek with
      | some '"' => name
      | some '\x7d' => Reader.ahead .trailingComma
      | some _ => Reader.ahead .keyNotString
      | none => Reader.ahead .endInValue
    else Reader.ahead .wantedObjectEnd
where
  name : Reader (Option String) := do
    Reader.advance
    let s ← textBody
    pure (some s)

/-- The colon between a name and its value. -/
def colon : Reader Unit := do
  Reader.blanks
  match ← Reader.peek with
  | some ':' => Reader.advance
  | some _ => Reader.ahead .wantedColon
  | none => Reader.ahead .endInObject

/-- The fields of an object up to its closing brace; `given` are the names so far. -/
def readFields (r : Record σ) : Nat → Bool → List String → σ → Reader (σ × List String)
  | 0, _, _, _ => Reader.here .tooDeep
  | fuel + 1, first, given, s => do
    match ← nextName first with
    | none => pure (s, given)
    | some name =>
      match r.field? name with
      | some f =>
        if given.contains name then Reader.unfit (.duplicateField name)
        else
          colon
          let v ← readKind f.kind
          readFields r fuel false (name :: given) (f.put v s)
      | none =>
        if r.closed then Reader.unfit (.unknownField name r.names)
        else
          colon
          skipValue
          readFields r fuel false given s

/-- The inside of an object. -/
def readObject (r : Record σ) : Reader σ := fun c =>
  (do
    let (s, given) ← readFields r (c.rest.length + 1) true [] r.blank
    match r.absent? given with
    | some name => Reader.unfit (.missingField name)
    | none => pure s) c

/-- The inside of a list: the fields in order, and `index` of them before. -/
def readItems (r : Record σ) : List (Field σ) → Nat → σ → Reader σ
  | [], _, s => pure s
  | f :: fs, index, s => do
    match ← nextItem (index == 0) with
    | true =>
      let v ← readKind f.kind
      readItems r fs (index + 1) (f.put v s)
    | false =>
      if r.complete then
        Reader.unfit (.wrongLength index ("struct " ++ r.name ++ " with " ++
          toString r.fields.length ++ " elements"))
      else pure s

/-- A record as an object or a list. -/
def readRecord (r : Record σ) : Reader σ := do
  Reader.blanks
  match ← Reader.peek with
  | none => Reader.ahead .endInValue
  | some '[' =>
    Reader.advance
    Reader.enclosed closeList (readItems r r.fields 0 r.blank)
  | some '\x7b' =>
    Reader.advance
    Reader.enclosed closeObject (readObject r)
  | some _ => unfitValue ("struct " ++ r.name)

end OpenUrl.Json

namespace OpenUrl.Record

variable {σ : Type}

/-- The record that a JSON text describes. -/
def ofJson (r : Record σ) (text : String) : Except String σ :=
  Json.readAll (Json.readRecord r) text

end OpenUrl.Record
