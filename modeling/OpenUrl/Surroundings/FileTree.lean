import OpenUrl.Surroundings.Path

/-!
# File trees

Files, folders and symbolic links by their absolute places, and the working folder. A path
is followed part by part through links; after forty links it is given up.
-/
namespace OpenUrl.Surroundings

/-- The names from the root down. -/
abbrev Place := List String

inductive Node
  | file (content : ByteArray)
  | folder
  | link (target : String)

structure FileTree where
  nodes : List (Place × Node)
  /-- The working folder. -/
  here : Place
  /-- Whether the working folder has been deleted. It has no name then. -/
  hereGone : Bool

/-- Why a path leads nowhere. -/
inductive PathFault
  | notFound
  | notFolder
  | tooManyLinks
  deriving DecidableEq, Repr

/-- Why a path gives no text. -/
inductive TextFault
  | path (f : PathFault)
  | isFolder
  | notUnicode
  deriving DecidableEq, Repr

def PathFault.message : PathFault → String
  | notFound => "No such file or directory (os error 2)"
  | notFolder => "Not a directory (os error 20)"
  | tooManyLinks => "Too many levels of symbolic links (os error 40)"

def TextFault.message : TextFault → String
  | path f => f.message
  | isFolder => "Is a directory (os error 21)"
  | notUnicode => "stream did not contain valid UTF-8"

namespace FileTree

/-- Nothing but the root. -/
def empty : FileTree := ⟨[], [], false⟩

def find? (t : FileTree) (p : Place) : Option Node :=
  (t.nodes.find? fun n => n.1 == p).map Prod.snd

/-- The folders above a place. -/
def above (p : Place) : List Place := (List.range p.length).map fun n => p.take n

/-- Put a node at a place, and folders above it. -/
def add (t : FileTree) (p : Place) (n : Node) : FileTree :=
  let missing := (above p).filter fun q => !q.isEmpty && (t.find? q).isNone
  { t with nodes := (p, n) :: missing.map (·, Node.folder) ++ t.nodes.filter fun m => m.1 != p }

/-- Delete the working folder with all that is in it. -/
def deleteHere (t : FileTree) : FileTree :=
  { t with nodes := t.nodes.filter (fun n => !t.here.isPrefixOf n.1), hereGone := true }

/-- How many links are followed. -/
def linkLimit : Nat := 40

/-- The folder and the parts that a path starts with, seen from a folder. -/
def origin (from_ : Place) (path : String) : Place × List String :=
  if Path.isAbsolute path then ([], (Path.parts path).drop 1) else (from_, Path.parts path)

/-- Follow the parts from a place, which can be entered if `isFolder`. Every part takes
fuel, and every link is counted off `links`. -/
def walk (t : FileTree) : Nat → Nat → Place → Bool → List String → Except PathFault Place
  | 0, _, _, _, _ => .error .tooManyLinks
  | _ + 1, _, p, _, [] => .ok p
  | fuel + 1, links, p, isFolder, part :: parts =>
    if !isFolder then .error .notFolder
    else if part == "" || part == "." then walk t fuel links p true parts
    else if part == ".." then walk t fuel links p.dropLast true parts
    else
      let q := p ++ [part]
      match t.find? q with
      | none => .error .notFound
      | some .folder => walk t fuel links q true parts
      | some (.file _) => walk t fuel links q false parts
      | some (.link target) =>
        match links with
        | 0 => .error .tooManyLinks
        | links + 1 =>
          let (start, front) := origin p target
          walk t fuel links start true (front ++ parts)

/-- Fuel for any path: its parts and those of forty links. -/
def patience (t : FileTree) (path : String) : Nat :=
  let longest := t.nodes.foldl (fun n m =>
    match m.2 with
    | .link target => max n (Path.parts target).length
    | _ => n) 0
  (Path.parts path).length + (linkLimit + 1) * (longest + 1) + 1

/-- Where a path leads. -/
def resolve (t : FileTree) (path : String) : Except PathFault Place :=
  if path.isEmpty || path.toList.contains '\x00' then .error .notFound
  else
    let (start, parts) := origin t.here path
    walk t (t.patience path) linkLimit start true parts

/-- Whether a path leads anywhere. -/
def present (t : FileTree) (path : String) : Bool := (t.resolve path).isOk

/-- What a path leads to. -/
def node? (t : FileTree) (path : String) : Except PathFault Node :=
  (t.resolve path).map fun p => (t.find? p).getD .folder

/-- Whether a path leads to a file. -/
def isFile (t : FileTree) (path : String) : Bool :=
  match t.node? path with
  | .ok (.file _) => true
  | _ => false

/-- The content of the file that a path leads to. -/
def readBytes (t : FileTree) (path : String) : Except TextFault ByteArray :=
  match t.node? path with
  | .error f => .error (.path f)
  | .ok (.file content) => .ok content
  | .ok _ => .error .isFolder

/-- The text of the file that a path leads to. -/
def readText (t : FileTree) (path : String) : Except TextFault String :=
  match t.readBytes path with
  | .error f => .error f
  | .ok content =>
    match String.fromUTF8? content with
    | some s => .ok s
    | none => .error .notUnicode

/-- The name of the working folder, if it still has one. -/
def workingFolder? (t : FileTree) : Option String :=
  if t.hereGone then none else some (Path.absolute t.here)

end FileTree

end OpenUrl.Surroundings
