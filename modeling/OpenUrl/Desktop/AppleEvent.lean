import OpenUrl.Event

/-!
# Apple Events

An Apple Event has a class and an identifier, and descriptors under four-character
keywords. An open-URL event carries its text as the direct object and the sender's process
as an attribute; what is absent is read as the empty text and as process 0.
-/
namespace OpenUrl.Desktop

inductive Descriptor
  | text (s : String)
  | number (n : Int32)
  /-- Neither text nor number. -/
  | other
  deriving DecidableEq, Repr

namespace Descriptor

/-- The text of a descriptor of text. -/
def text? : Descriptor → Option String
  | text s => some s
  | _ => none

/-- The number of a descriptor; 0 if it holds none. -/
def toInt32 : Descriptor → Int32
  | number n => n
  | _ => 0

end Descriptor

structure AppleEvent where
  eventClass : String
  identifier : String
  parameters : List (String × Descriptor)
  attributes : List (String × Descriptor)
  deriving DecidableEq, Repr

/-- The class and the identifier of open-URL events. -/
def openUrlCode : String := "GURL"

/-- The keyword of the direct object. -/
def directObject : String := "----"

/-- The keyword of the sender's process. -/
def senderPidKey : String := "spid"

namespace AppleEvent

def parameter? (e : AppleEvent) (keyword : String) : Option Descriptor :=
  (e.parameters.find? fun p => p.1 == keyword).map Prod.snd

def attribute? (e : AppleEvent) (keyword : String) : Option Descriptor :=
  (e.attributes.find? fun p => p.1 == keyword).map Prod.snd

/-- The event that an Apple Event stands for. Nothing is checked. -/
def decode (e : AppleEvent) : Event where
  url := ((e.parameter? directObject).bind Descriptor.text?).getD ""
  senderPid := ((e.attribute? senderPidKey).map Descriptor.toInt32).getD 0

/-- The Apple Event of a URL and its sender. -/
def ofEvent (e : Event) : AppleEvent :=
  ⟨openUrlCode, openUrlCode, [(directObject, .text e.url)], [(senderPidKey, .number e.senderPid)]⟩

@[simp] theorem decode_ofEvent (e : Event) : (ofEvent e).decode = e := by
  simp [ofEvent, decode, parameter?, attribute?, Descriptor.text?, Descriptor.toInt32]

end AppleEvent

end OpenUrl.Desktop
