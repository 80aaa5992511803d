import OpenUrl.Json.Reader

/-!
# JSON strings

Reading the inside of a string. Controls have to be escaped, and the escape of a code
point beyond 16 bits is a pair of surrogates; a surrogate that stands alone is a fault.
-/
namespace OpenUrl.Json

/-- The value of a hexadecimal digit. -/
def hexDigit? (c : Char) : Option Nat :=
  if '0' ≤ c ∧ c ≤ '9' then some (c.toNat - 48)
  else if 'a' ≤ c ∧ c ≤ 'f' then some (c.toNat - 87)
  else if 'A' ≤ c ∧ c ≤ 'F' then some (c.toNat - 55)
  else none

/-- The value of four hexadecimal digits. -/
def hexQuad? (a b c d : Char) : Option Nat := do
  let a ← hexDigit? a
  let b ← hexDigit? b
  let c ← hexDigit? c
  let d ← hexDigit? d
  some (((16 * a + b) * 16 + c) * 16 + d)

/-- Four hexadecimal digits. Less than four bytes are an unfinished string. -/
def unit : Reader Nat := fun c =>
  match c.rest with
  | w :: x :: y :: z :: cs =>
    match hexQuad? w x y z with
    | some n => .done n ⟨cs, c.offset + 4⟩
    | none => .fault ⟨.badEscape, c.offset + 4⟩
  | cs =>
    if 4 ≤ Text.byteLength cs then .fault ⟨.badEscape, c.offset + 4⟩
    else .fault (faultHere c.finish .endInString)

/-- The code point of a pair of surrogates. -/
def combine (lead trail : Nat) : Char :=
  Char.ofNat ((lead - 0xD800) * 0x400 + (trail - 0xDC00) + 0x10000)

/-- The character `a` that has to follow a leading surrogate. -/
def demand (a : Char) : Reader Unit := fun c =>
  match c.rest with
  | [] => .fault (faultHere c .endInString)
  | b :: _ => if b = a then .done () c.advance else .fault ⟨.halfSurrogate, c.offset + 1⟩

/-- The character of a code point escape. -/
def codePoint : Reader Char := do
  let n ← unit
  if 0xDC00 ≤ n ∧ n ≤ 0xDFFF then Reader.here .loneSurrogate
  else if n < 0xD800 ∨ 0xDBFF < n then pure (Char.ofNat n)
  else
    demand '\\'
    demand 'u'
    let m ← unit
    if 0xDC00 ≤ m ∧ m ≤ 0xDFFF then pure (combine n m) else Reader.here .loneSurrogate

/-- What a character behind a backslash stands for. -/
def escaped : Reader Char := fun c =>
  match c.rest with
  | [] => .fault (faultHere c .endInString)
  | a :: _ =>
    match a with
    | '"' | '\\' | '/' => .done a c.advance
    | 'b' => .done '\x08' c.advance
    | 'f' => .done '\x0c' c.advance
    | 'n' => .done '\n' c.advance
    | 'r' => .done '\r' c.advance
    | 't' => .done '\t' c.advance
    | 'u' => codePoint c.advance
    | _ => .fault ⟨.badEscape, c.offset + 1⟩

/-- The inside of a string with its closing quote; `fuel` bounds the characters. -/
def inside : Nat → Reader (List Char)
  | 0 => Reader.here .endInString
  | fuel + 1 => fun c =>
    match c.rest with
    | [] => .fault (faultHere c .endInString)
    | a :: _ =>
      if a = '"' then .done [] c.advance
      else if a = '\\' then
        (do
          let b ← escaped
          let bs ← inside fuel
          pure (b :: bs)) c.advance
      else if a.toNat < 0x20 then .fault ⟨.controlCharacter, c.offset + 1⟩
      else
        (do
          let bs ← inside fuel
          pure (a :: bs)) c.advance

/-- The text of a string whose opening quote has been read. -/
def textBody : Reader String := fun c =>
  (do
    let cs ← inside (c.rest.length + 1)
    pure (String.ofList cs)) c

end OpenUrl.Json
