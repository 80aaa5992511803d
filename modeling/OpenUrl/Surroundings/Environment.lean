/-!
# Environment variables

Variables by name. A value need not be Unicode; such a value has no text, although the
variable is set.
-/
namespace OpenUrl.Surroundings

inductive Variable
  | text (s : String)
  | undecodable
  deriving DecidableEq, Repr

structure Environment where
  entries : List (String × Variable)
  deriving DecidableEq, Repr

namespace Environment

def empty : Environment := ⟨[]⟩

def find? (e : Environment) (name : String) : Option Variable :=
  (e.entries.find? fun v => v.1 == name).map Prod.snd

/-- The text of a variable that is set to one. -/
def text? (e : Environment) (name : String) : Option String :=
  match e.find? name with
  | some (.text s) => some s
  | _ => none

def set (e : Environment) (name : String) (v : Variable) : Environment :=
  ⟨(name, v) :: e.entries.filter fun w => w.1 != name⟩

/-- Set a variable that has no text yet. -/
def setDefault (e : Environment) (name value : String) : Environment :=
  match e.text? name with
  | some _ => e
  | none => e.set name (.text value)

@[simp] theorem find?_set_self (e : Environment) (name : String) (v : Variable) :
    (e.set name v).find? name = some v := by
  simp [set, find?]

@[simp] theorem find?_empty (name : String) : empty.find? name = none := rfl

end Environment

end OpenUrl.Surroundings
