/-!
# Paths

Path texts with `/` between the parts. A path that starts with it is absolute.
-/
namespace OpenUrl.Surroundings.Path

def isAbsolute (p : String) : Bool := p.toList.head? == some '/'

/-- `q` seen from `p`; an absolute `q` stands for itself. -/
def join (p q : String) : String :=
  if isAbsolute q || p.isEmpty then q
  else if p.toList.getLast? == some '/' then p ++ q
  else p ++ "/" ++ q

/-- The parts between the slashes, empty ones included. -/
def split : List Char → List (List Char)
  | [] => [[]]
  | '/' :: cs => [] :: split cs
  | c :: cs =>
    match split cs with
    | [] => [[c]]
    | p :: ps => (c :: p) :: ps

def parts (p : String) : List String := (split p.toList).map String.ofList

/-- An absolute path by its parts. -/
def absolute (parts : List String) : String := "/" ++ "/".intercalate parts

/-- The last part that names something; none for the folder above. -/
def fileName? (p : String) : Option String :=
  match ((parts p).filter fun s => s != "" && s != ".").getLast? with
  | some ".." | none => none
  | some s => some s

/-- What follows the last dot of the file name; a dot in front does not count. -/
def extension? (p : String) : Option String := do
  let name ← fileName? p
  let back := name.toList.reverse
  let ext := back.takeWhile (· != '.')
  match back.dropWhile (· != '.') with
  | [] | [_] => none
  | _ => some (String.ofList ext.reverse)

/-- The path of the folder that holds `p`. -/
def parent (p : String) : String :=
  match parts p with
  | [] => p
  | "" :: ps => absolute (ps.dropLast)
  | ps => "/".intercalate ps.dropLast

end OpenUrl.Surroundings.Path
