import OpenUrl.Json.Typed

/-!
# JSON values of any type

Reading a value before it is known what it should be. Unlike a skipped value it is kept,
and the brackets open around and in it are limited.
-/
namespace OpenUrl.Json

/-- At this many open brackets reading stops. -/
def depthLimit : Nat := 128

/-- What a kept value is called where something else is wanted. -/
def Value.found : Value → Found
  | .null => .null
  | .boolean b => .boolean b
  | .number n => n.found
  | .text s => .text s
  | .array _ => .sequence
  | .object _ => .map

mutual

/-- A value inside `depth` open brackets. -/
def readValue : Nat → Nat → Reader Value
  | 0, _ => Reader.here .tooDeep
  | fuel + 1, depth => do
    Reader.blanks
    match ← Reader.peek with
    | none => Reader.ahead .endInValue
    | some 'n' => Reader.word "null".toList; pure .null
    | some 't' => Reader.word "true".toList; pure (.boolean true)
    | some 'f' => Reader.word "false".toList; pure (.boolean false)
    | some '"' =>
      Reader.advance
      let s ← textBody
      pure (.text s)
    | some '[' =>
      if depth + 1 = depthLimit then Reader.ahead .tooDeep
      else
        Reader.advance
        let items ← Reader.enclosed closeList (readArray fuel (depth + 1) true)
        pure (.array items)
    | some '\x7b' =>
      if depth + 1 = depthLimit then Reader.ahead .tooDeep
      else
        Reader.advance
        let fields ← Reader.enclosed closeObject (readMembers fuel (depth + 1) true)
        pure (.object fields)
    | some a =>
      if a = '-' || isDigit a then
        let n ← numeral
        pure (.number n)
      else Reader.ahead .wantedValue

/-- The items of a list up to its closing bracket. -/
def readArray : Nat → Nat → Bool → Reader (List Value)
  | 0, _, _ => Reader.here .tooDeep
  | fuel + 1, depth, first => do
    match ← nextItem first with
    | false => pure []
    | true =>
      let v ← readValue fuel depth
      let vs ← readArray fuel depth false
      pure (v :: vs)

/-- The fields of an object up to its closing brace. -/
def readMembers : Nat → Nat → Bool → Reader (List (String × Value))
  | 0, _, _ => Reader.here .tooDeep
  | fuel + 1, depth, first => do
    match ← nextName first with
    | none => pure []
    | some name =>
      colon
      let v ← readValue fuel depth
      let fs ← readMembers fuel depth false
      pure ((name, v) :: fs)

end

/-- A value inside `depth` open brackets; every step that does not end takes a character. -/
def readContent (depth : Nat) : Reader Value := fun c =>
  readValue (2 * c.rest.length + 2) depth c

end OpenUrl.Json
