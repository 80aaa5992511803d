/-!
# Records

One description of a flat record serves every format it is written in or read from: the
fields by name, kind and access, and what a reader does about unknown and absent ones.
-/
namespace OpenUrl

/-- What a field holds. -/
inductive Kind
  | natural
  | integer
  | text
  | flag
  | optionalText
  deriving DecidableEq, Repr

/-- The values of a kind. -/
abbrev Kind.Value : Kind → Type
  | natural => UInt64
  | integer => Int32
  | text => String
  | flag => Bool
  | optionalText => Option String

/-- A field of the record type `σ`. -/
structure Field (σ : Type) where
  name : String
  kind : Kind
  get : σ → kind.Value
  put : kind.Value → σ → σ

/-- A record type as formats see it. -/
structure Record (σ : Type) where
  /-- The name of the type in messages. -/
  name : String
  /-- The value a reader starts from; it supplies the fields that may be absent. -/
  blank : σ
  /-- The fields in the order in which they are written. -/
  fields : List (Field σ)
  /-- Whether every field has to be given. -/
  complete : Bool
  /-- Whether a name that no field has is refused. -/
  closed : Bool

namespace Record

variable {σ : Type}

def names (r : Record σ) : List String := r.fields.map Field.name

def field? (r : Record σ) (name : String) : Option (Field σ) :=
  r.fields.find? fun f => f.name == name

/-- The first field that has to be given and is not among `given`. -/
def absent? (r : Record σ) (given : List String) : Option String :=
  if r.complete then r.names.find? fun n => !given.contains n else none

end Record

end OpenUrl
