import OpenUrl.Failure
import OpenUrl.Json.Content

/-!
# Failures as JSON

A failure is written as an object with its tag and, if its cause has one, its text. It is
read from an object with both in either order, or from a list of tag and text. A cause
without text accepts none or null in an object. A text that comes before the tag is kept
until the tag tells what it should be.
-/
namespace OpenUrl

def Failure.toJson (f : Failure) : Json.Value :=
  .object (("type", .text f.tag) ::
    match f.reason? with
    | some r => [("message", .text r)]
    | none => [])

/-- What messages want for a failure. -/
def Failure.wanted : String := "adjacently tagged enum BridgeError"

/-- What messages want for a cause without text. -/
def Failure.wantedNothing (f : Failure) : String := "unit variant BridgeError::" ++ f.tag

end OpenUrl

namespace OpenUrl.Json

open OpenUrl.Failure (Form)

/-- A name of a cause, as a string. -/
def readTagText (wanted : String) : Reader Form := do
  Reader.blanks
  match ← Reader.peek with
  | none => Reader.ahead .endInValue
  | some '"' =>
    Reader.advance
    let s ← textBody
    match Failure.ofTag? s with
    | some c => pure c
    | none => Reader.unfitHere (.unknownVariant s Failure.tags)
  | some _ => unfitValue wanted

/-- Null. -/
def readNothing : Reader Unit := do
  Reader.blanks
  match ← Reader.peek with
  | none => Reader.ahead .endInValue
  | some 'n' => Reader.word "null".toList
  | some _ => unfitValue "unit"

/-- A tag: a string, or an object that maps the name to null. -/
def readTag : Reader Form := do
  Reader.blanks
  match ← Reader.peek with
  | none => Reader.ahead .endInValue
  | some '"' => readTagText "variant identifier"
  | some '\x7b' =>
    Reader.advance
    let c ← readTagText "variant identifier"
    colon
    readNothing
    Reader.blanks
    match ← Reader.peek with
    | some '\x7d' =>
      Reader.advance
      pure c
    | some _ => Reader.here .wantedValue
    | none => Reader.here .endInObject
  | some _ => Reader.ahead .wantedValue

/-- The text of a cause that has been read, or nothing where the cause has none. -/
def readReason : Form → Reader Failure
  | .worded build => do
    let s ← readText
    pure (build s)
  | .plain f => do
    Reader.blanks
    match ← Reader.peek with
    | none => Reader.ahead .endInValue
    | some 'n' =>
      Reader.word "null".toList
      pure f
    | some '[' =>
      Reader.advance
      Reader.enclosed closeList (Reader.unfit (.wrongType .sequence f.wantedNothing))
    | some '\x7b' =>
      Reader.advance
      Reader.enclosed closeObject (Reader.unfit (.wrongType .map f.wantedNothing))
    | some _ => unfitValue f.wantedNothing

/-- The failure of a cause and a kept text. -/
def ofContent : Form → Value → Reader Failure
  | .worded build, .text s => pure (build s)
  | .worded _, v => Reader.unfit (.wrongType v.found "a string")
  | .plain f, .null => pure f
  | .plain f, v => Reader.unfit (.wrongType v.found f.wantedNothing)

/-- The next name that is the tag's or the text's; true for the tag. Others are skipped. -/
def nextRelevant : Nat → Bool → Reader (Option Bool)
  | 0, _ => Reader.here .tooDeep
  | fuel + 1, first => do
    match ← nextName first with
    | none => pure none
    | some "type" => pure (some true)
    | some "message" => pure (some false)
    | some _ =>
      colon
      skipValue
      nextRelevant fuel false

/-- No further tag or text may come. -/
def noneRelevant (fuel : Nat) (f : Failure) : Reader Failure := do
  match ← nextRelevant fuel false with
  | none => pure f
  | some true => Reader.unfit (.duplicateField "type")
  | some false => Reader.unfit (.duplicateField "message")

/-- The inside of an object. -/
def readTagged (fuel : Nat) : Reader Failure := do
  match ← nextRelevant fuel true with
  | none => Reader.unfit (.missingField "type")
  | some true =>
    colon
    let cause ← readTag
    match ← nextRelevant fuel false with
    | some true => Reader.unfit (.duplicateField "type")
    | some false =>
      colon
      let f ← readReason cause
      noneRelevant fuel f
    | none =>
      match cause with
      | .plain f => pure f
      | .worded _ => Reader.unfit (.missingField "message")
  | some false =>
    colon
    let content ← readContent 1
    match ← nextRelevant fuel false with
    | some true =>
      colon
      let cause ← readTag
      let f ← ofContent cause content
      noneRelevant fuel f
    | some false => Reader.unfit (.duplicateField "message")
    | none => Reader.unfit (.missingField "type")

/-- The inside of a list. -/
def readPair : Reader Failure := do
  match ← nextItem true with
  | false => Reader.unfit (.wrongLength 0 Failure.wanted)
  | true =>
    let cause ← readTag
    match ← nextItem false with
    | false => Reader.unfit (.wrongLength 1 Failure.wanted)
    | true => readReason cause

def readFailure : Reader Failure := do
  Reader.blanks
  match ← Reader.peek with
  | none => Reader.ahead .endInValue
  | some '[' =>
    Reader.advance
    Reader.enclosed closeList readPair
  | some '\x7b' =>
    Reader.advance
    Reader.enclosed closeObject fun c => readTagged (c.rest.length + 1) c
  | some _ => unfitValue Failure.wanted

end OpenUrl.Json

namespace OpenUrl.Failure

/-- The failure that a JSON text describes. -/
def ofJson (text : String) : Except String Failure := Json.readAll Json.readFailure text

end OpenUrl.Failure
