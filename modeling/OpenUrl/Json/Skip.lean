import OpenUrl.Json.Numeral
import OpenUrl.Json.Text

/-!
# Values that do not count

A value under a name that nobody asked for is read for its form only: brackets may nest
to any depth, numbers may have any size and surrogates may stand alone.
-/
namespace OpenUrl.Json

/-- The inside of a string with its closing quote. -/
def skipInside : Nat → Reader Unit
  | 0 => Reader.here .endInString
  | fuel + 1 => fun c =>
    match c.rest with
    | [] => .fault (faultHere c .endInString)
    | a :: _ =>
      if a = '"' then .done () c.advance
      else if a = '\\' then
        let c := c.advance
        match c.rest with
        | [] => .fault (faultHere c .endInString)
        | b :: _ =>
          if b = 'u' then
            (do
              let _ ← unit
              skipInside fuel) c.advance
          else if b ∈ ['"', '\\', '/', 'b', 'f', 'n', 'r', 't'] then skipInside fuel c.advance
          else .fault ⟨.badEscape, c.offset + 1⟩
      else if a.toNat < 0x20 then .fault (faultHere c .controlCharacter)
      else skipInside fuel c.advance

/-- A string whose opening quote has been read. -/
def skipText : Reader Unit := fun c => skipInside (c.rest.length + 1) c

/-- An exponent, behind its letter. -/
def skipExponent : Reader Unit := fun c =>
  let c := match c.rest with
    | '+' :: _ | '-' :: _ => c.advance
    | _ => c
  match c.rest with
  | [] => .fault (faultHere c .badNumber)
  | a :: _ => if isDigit a then .done () (c.skip isDigit) else .fault ⟨.badNumber, c.offset + 1⟩

/-- A number without its sign. -/
def skipNumeral : Reader Unit := fun c =>
  match c.rest with
  | [] => .fault (faultHere c .badNumber)
  | a :: _ =>
    if !isDigit a then .fault ⟨.badNumber, c.offset + 1⟩
    else
      let c := if a = '0' then c.advance else c.skip isDigit
      match c.rest with
      | '.' :: _ =>
        let c := c.advance
        match c.ahead isDigit with
        | [] => .fault (faultAhead c .badNumber)
        | _ =>
          let c := c.skip isDigit
          match c.rest with
          | 'e' :: _ | 'E' :: _ => skipExponent c.advance
          | _ => .done () c
      | 'e' :: _ | 'E' :: _ => skipExponent c.advance
      | b :: _ => if a = '0' && isDigit b then .fault (faultAhead c .badNumber) else .done () c
      | [] => .done () c

inductive Bracket
  | list
  | object
  deriving DecidableEq, Repr

/-- What closes a bracket. -/
def Bracket.close : Bracket → Char
  | list => ']'
  | object => '\x7d'

/-- The name of an item, where items have names. -/
def skipName : Bracket → Reader Unit
  | .list => Reader.pure ()
  | .object => do
    Reader.blanks
    match ← Reader.peek with
    | some '"' =>
      Reader.advance
      skipText
      Reader.blanks
      match ← Reader.peek with
      | some ':' => Reader.advance
      | some _ => Reader.ahead .wantedColon
      | none => Reader.ahead .endInObject
    | some _ => Reader.ahead .keyNotString
    | none => Reader.ahead .endInObject

/-- A scalar, or the opening of a bracket. -/
def skipScalar : Reader (Option Bracket) := do
  Reader.blanks
  match ← Reader.peek with
  | some 'n' => Reader.word "null".toList; pure none
  | some 't' => Reader.word "true".toList; pure none
  | some 'f' => Reader.word "false".toList; pure none
  | some '-' => Reader.advance; skipNumeral; pure none
  | some '"' => Reader.advance; skipText; pure none
  | some '[' => Reader.advance; pure (some .list)
  | some '\x7b' => Reader.advance; pure (some .object)
  | some a =>
    if isDigit a then
      skipNumeral
      pure none
    else Reader.ahead .wantedValue
  | none => Reader.ahead .endInValue

mutual

/-- A value inside the open brackets, innermost first, and all that closes them. -/
def skipItem : Nat → List Bracket → Reader Unit
  | 0, _ => Reader.here .tooDeep
  | fuel + 1, open_ => do
    match ← skipScalar with
    | some b => skipOn fuel b open_ false
    | none =>
      match open_ with
      | [] => pure ()
      | b :: bs => skipOn fuel b bs true

/-- What follows the opening of a bracket, or an item in it. -/
def skipOn : Nat → Bracket → List Bracket → Bool → Reader Unit
  | 0, _, _, _ => Reader.here .tooDeep
  | fuel + 1, b, bs, hasItem => do
    Reader.blanks
    match ← Reader.peek with
    | none => Reader.ahead (match b with
        | .list => .endInList
        | .object => .endInObject)
    | some a =>
      if a = b.close then
        Reader.advance
        match bs with
        | [] => pure ()
        | b' :: bs' => skipOn fuel b' bs' true
      else if !hasItem then
        skipName b
        skipItem fuel (b :: bs)
      else if a = ',' then
        Reader.advance
        skipName b
        skipItem fuel (b :: bs)
      else Reader.ahead (match b with
        | .list => .wantedListEnd
        | .object => .wantedObjectEnd)

end

/-- A value of any form. Each step takes a character or is followed by one that does. -/
def skipValue : Reader Unit := fun c => skipItem (2 * c.rest.length + 2) [] c

end OpenUrl.Json
