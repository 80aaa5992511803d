import OpenUrl.Text.Quoted

/-!
# Misfits

A sound text may still not have the shape of the wanted type. What is reported then is the
same for every format.
-/
namespace OpenUrl

/-- What was found where something else was wanted. -/
inductive Found
  | null
  | boolean (b : Bool)
  | integer (n : Int)
  /-- An integer that takes a type of 128 bits, with the name of the type. -/
  | wideInteger (n : Int) (type : String)
  /-- A floating number, as its format writes it. -/
  | real (written : String)
  | text (s : String)
  | sequence
  | map
  deriving DecidableEq, Repr

/-- How a sound text differs from the wanted shape. -/
inductive Misfit
  | wrongType (found : Found) (wanted : String)
  | wrongValue (found : Found) (wanted : String)
  | wrongLength (length : Nat) (wanted : String)
  | unknownField (name : String) (known : List String)
  | unknownVariant (name : String) (known : List String)
  | duplicateField (name : String)
  | missingField (name : String)
  deriving DecidableEq, Repr

/-- A name between grave accents. -/
def accented (s : String) : String := "\x60" ++ s ++ "\x60"

/-- The value as messages show it. -/
def Found.describe : Found → String
  | null => "null"
  | boolean b => "boolean " ++ accented (toString b)
  | integer n => "integer " ++ accented (toString n)
  | wideInteger n type => "integer " ++ accented (toString n) ++ " as " ++ type
  | real written => "floating point " ++ accented written
  | text s => "string " ++ Text.quoted s
  | sequence => "sequence"
  | map => "map"

/-- Three or more names as messages list them. -/
def oneOf (names : List String) : String := "one of " ++ ", ".intercalate (names.map accented)

def Misfit.message : Misfit → String
  | wrongType f w => "invalid type: " ++ f.describe ++ ", expected " ++ w
  | wrongValue f w => "invalid value: " ++ f.describe ++ ", expected " ++ w
  | wrongLength n w => "invalid length " ++ toString n ++ ", expected " ++ w
  | unknownField n k => "unknown field " ++ accented n ++ ", expected " ++ oneOf k
  | unknownVariant n k => "unknown variant " ++ accented n ++ ", expected " ++ oneOf k
  | duplicateField n => "duplicate field " ++ accented n
  | missingField n => "missing field " ++ accented n

end OpenUrl
