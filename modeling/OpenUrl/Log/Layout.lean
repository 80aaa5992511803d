import OpenUrl.Json.Value
import OpenUrl.Log.Notice
import OpenUrl.Text.Quoted

/-!
# Log lines

A notice is written as one line of text or as one JSON object. In text, characters that
could steer a terminal are spelled out.
-/
namespace OpenUrl.Log

/-- One character of a text in a line of text. -/
def tamedChar (c : Char) : List Char :=
  match c with
  | '\x1b' => "\\x1b".toList
  | '\x07' => "\\x07".toList
  | '\x08' => "\\x08".toList
  | '\x0c' => "\\x0c".toList
  | '\x7f' => "\\x7f".toList
  | c =>
    if 0x80 ≤ c.toNat ∧ c.toNat ≤ 0x9F then ['\\', 'u', '\x7b'] ++ Text.hex c.toNat ++ ['\x7d']
    else [c]

/-- A text without the characters that could steer a terminal. -/
def tamed (s : String) : String := String.ofList (s.toList.flatMap tamedChar)

/-- A level in five columns, at the right. -/
def Level.column (l : Level) : String :=
  String.ofList (List.replicate (5 - l.name.length) ' ') ++ l.name

namespace Shown

/-- A field's value in a line of text. -/
def inText : Shown → String
  | plain t => tamed t
  | word t => Text.quoted t
  | v => v.text

/-- A field's value in JSON. -/
def inJson : Shown → String
  | plain t | word t => (Json.Value.text t).compact
  | address => (Json.Value.text address.text).compact
  | v => v.text

end Shown

namespace Notice

/-- The line of text, with its line end. -/
def textLine (stamp : String) (n : Notice) : String :=
  stamp ++ " " ++ n.level.column ++ " " ++ tamed n.message ++
    String.join (n.fields.map fun f => " " ++ f.1 ++ "=" ++ f.2.inText) ++ "\n"

/-- The JSON object, with a line end. -/
def jsonLine (stamp : String) (n : Notice) : String :=
  let quoted (s : String) := (Json.Value.text s).compact
  let fields := ("message", quoted n.message) :: n.fields.map fun f => (f.1, f.2.inJson)
  "\x7b\"timestamp\":" ++ quoted stamp ++ ",\"level\":" ++ quoted n.level.name ++
    ",\"fields\":\x7b" ++ ",".intercalate (fields.map fun f => quoted f.1 ++ ":" ++ f.2) ++
    "\x7d\x7d\n"

/-- The line in the wanted form. -/
def line (json : Bool) (stamp : String) (n : Notice) : String :=
  if json then n.jsonLine stamp else n.textLine stamp

end Notice

end OpenUrl.Log
