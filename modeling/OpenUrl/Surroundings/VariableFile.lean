import OpenUrl.Surroundings.Environment
import OpenUrl.Surroundings.FileTree
import OpenUrl.Text.Blank
import OpenUrl.Text.Bytes
import OpenUrl.Text.Word

/-!
# Variable files

A file `.env` in the working folder, or in the nearest folder above it that has one, sets
variables that have no text yet. Lines are read one after the other; quotes and escapes
carry a line over its end. The first line that cannot be read ends the reading, and what was
set before it stays.
-/
namespace OpenUrl.Surroundings.VariableFile

/-- Why no file, or not all of it, was read. -/
inductive Fault
  | absent
  | system (f : PathFault)
  | notUnicode
  | badLine (line : List Char) (index : Nat)
  deriving DecidableEq, Repr

def Fault.message : Fault → String
  | absent => "path not found"
  | system f => f.message
  | notUnicode => TextFault.notUnicode.message
  | badLine line index =>
    "Error parsing line: '" ++ String.ofList line ++ "', error at line index: " ++ toString index

/-! ## Logical lines -/

/-- What a line is in the middle of. -/
inductive Inside
  | plain
  | blank
  | escape
  | single
  | singleEscape
  | double
  | doubleEscape
  deriving DecidableEq, Repr

/-- One character further. -/
def Inside.step (s : Inside) (c : Char) : Inside :=
  let opening : Inside :=
    if c = '\\' then .escape else if c = '"' then .double else if c = '\'' then .single
    else .plain
  match s with
  | blank => opening
  | escape => plain
  | plain => if Text.isBlank c && c != '\n' && c != '\r' then blank else opening
  | double => if c = '\\' then doubleEscape else if c = '"' then plain else double
  | doubleEscape => double
  | single => if c = '\\' then singleEscape else if c = '\'' then plain else single
  | singleEscape => single

/-- Where a line of the file leaves off: at a comment behind the characters taken, or
inside something. -/
def scan : Inside → List Char → List Char × Option Inside
  | s, [] => ([], some s)
  | s, c :: cs =>
    if s = .blank ∧ c = '#' then ([], none)
    else
      let (taken, e) := scan (s.step c) cs
      (c :: taken, e)

/-- Without the line end. -/
def chomp (cs : List Char) : List Char :=
  match cs.reverse with
  | '\n' :: '\r' :: back => back.reverse
  | '\n' :: back => back.reverse
  | _ => cs

/-- Join the lines of the file to logical lines; a line that is not Unicode is `none`. Each
logical line is a result; after a fault nothing follows. -/
def logical : Inside → List Char → List (Option (List Char)) → List (Except Fault (List Char))
  | .plain, _, [] => []
  | _, before, [] => [.error (.badLine before (Text.byteLength before))]
  | _, _, none :: _ => [.error .notUnicode]
  | s, before, some l :: ls =>
    if (Text.trimStart (before ++ l)).head? = some '#' then .ok [] :: logical .plain [] ls
    else
      match scan s l with
      | (taken, none) => .ok (before ++ taken) :: logical .plain [] ls
      | (_, some .plain) => .ok (chomp (before ++ l)) :: logical .plain [] ls
      | (_, some s) => logical s (before ++ l) ls

/-! ## Assignments -/

/-- Values of the lines before, by name. -/
abbrev Known := List (String × String)

/-- The text of a name: the environment's, else that of a line before. -/
def lookup (env : Environment) (known : Known) (name : List Char) : List Char :=
  match env.text? (String.ofList name) with
  | some s => s.toList
  | none =>
    match known.find? fun k => k.1 == String.ofList name with
    | some (_, s) => s.toList
    | none => []

/-- What a value is in the middle of. A name to be replaced carries its characters. -/
inductive Mode
  | plain
  | escape (double : Bool)
  | single
  | double
  | name (double : Bool) (chars : List Char)
  | braced (double : Bool) (chars : List Char)
  | ended
  deriving DecidableEq, Repr

/-- Back to what a name or an escape was in. -/
def Mode.outer (double : Bool) : Mode := if double then .double else .plain

/-- One character of a value: the text it adds and what follows; none at a fault, `true`
when a comment begins. -/
def Mode.step (env : Environment) (known : Known) (m : Mode) (c : Char) :
    Option (List Char × Mode × Bool) :=
  match m with
  | ended =>
    if c = ' ' ∨ c = '\t' then some ([], ended, false)
    else if c = '#' then some ([], ended, true)
    else none
  | escape d =>
    if c ∈ ['\\', '\'', '"', '$', ' '] then some ([c], outer d, false)
    else if c = 'n' then some (['\n'], outer d, false)
    else none
  | single => if c = '\'' then some ([], plain, false) else some ([c], single, false)
  | name d chars =>
    if Text.isWordChar c then some ([], name d (chars ++ [c]), false)
    else if c = '\x7b' ∧ chars = [] then some ([], braced d [], false)
    else
      let value := lookup env known chars
      if c = '$' then some (value, name d [], false) else some (value ++ [c], outer d, false)
  | braced d chars =>
    if c = '\x7d' then some (lookup env known chars, outer d, false)
    else some ([], braced d (chars ++ [c]), false)
  | double =>
    if c = '$' then some ([], name true [], false)
    else if c = '"' then some ([], plain, false)
    else if c = '\\' then some ([], escape true, false)
    else some ([c], double, false)
  | plain =>
    if c = '$' then some ([], name false [], false)
    else if c = '\'' then some ([], single, false)
    else if c = '"' then some ([], double, false)
    else if c = '\\' then some ([], escape false, false)
    else if c = ' ' ∨ c = '\t' then some ([], ended, false)
    else some ([c], plain, false)

/-- A value from the character with the number `index` on. -/
def valueFrom (env : Environment) (known : Known) (input : List Char) :
    Nat → Mode → List Char → Except Fault (List Char)
  | _, m, [] =>
    match m with
    | .single | .double | .braced .. | .name true _ | .escape true =>
      .error (.badLine input (Text.byteLength input - 1))
    | .name false chars => .ok (lookup env known chars)
    | .plain | .escape false | .ended => .ok []
  | index, m, c :: cs =>
    match m.step env known c with
    | none => .error (.badLine input index)
    | some (added, _, true) => .ok added
    | some (added, m, false) => (valueFrom env known input (index + 1) m cs).map (added ++ ·)

/-- What is left of a line, and the bytes before it. -/
structure Spot where
  rest : List Char
  index : Nat

namespace Spot

def skip (p : Char → Bool) (s : Spot) : Spot :=
  ⟨s.rest.dropWhile p, s.index + Text.byteLength (s.rest.takeWhile p)⟩

def blanks (s : Spot) : Spot := s.skip Text.isBlank

end Spot

def isKeyStart (c : Char) : Bool := c.isAlpha || c == '_'

def isKeyChar (c : Char) : Bool := c.isAlphanum || c == '_' || c == '.'

/-- A name, and what follows it and blanks. -/
def key (line : List Char) (s : Spot) : Except Fault (String × Spot) :=
  match s.rest with
  | c :: _ =>
    if isKeyStart c then
      .ok (String.ofList (s.rest.takeWhile isKeyChar), (s.skip isKeyChar).blanks)
    else .error (.badLine line s.index)
  | [] => .error (.badLine line s.index)

/-- The equals sign. -/
def equals (line : List Char) (s : Spot) : Except Fault Spot :=
  match s.rest with
  | '=' :: cs => .ok ⟨cs, s.index + 1⟩
  | _ => .error (.badLine line s.index)

/-- The assignment of a logical line, if it holds one. The word `export` in front of a name
does not count. -/
def assignment (env : Environment) (known : Known) (line : List Char) :
    Except Fault (Option (String × String)) := do
  let s : Spot := Spot.blanks ⟨Text.trimEnd line, 0⟩
  match s.rest with
  | [] | '#' :: _ => .ok none
  | _ =>
    let (name, s) ← key line s
    let (name, s) ←
      if name == "export" then
        match equals line s with
        | .ok s => .ok (name, s)
        | .error _ => do
          let (name, s) ← key line s
          .ok (name, ← equals line s)
      else do .ok (name, ← equals line s)
    let s := s.blanks
    match s.rest with
    | [] | '#' :: _ => .ok (some (name, ""))
    | input =>
      let value ← valueFrom env known input 0 .plain input
      .ok (some (name, String.ofList value))

/-- Set the variables of the lines, up to the first fault. -/
def load : Known → List (Except Fault (List Char)) → Environment → Option Fault × Environment
  | _, [], env => (none, env)
  | _, .error f :: _, env => (some f, env)
  | known, .ok line :: ls, env =>
    match assignment env known line with
    | .error f => (some f, env)
    | .ok none => load known ls env
    | .ok (some (name, value)) =>
      load ((name, value) :: known) ls (env.setDefault name value)

/-! ## Files -/

/-- The lines of a file with their line ends; `none` is a line that is not Unicode. -/
def linesOf (bytes : List UInt8) : List (Option (List Char)) :=
  (go bytes).map fun l => (String.fromUTF8? (ByteArray.mk l.toArray)).map String.toList
where
  go : List UInt8 → List (List UInt8)
    | [] => []
    | b :: bs =>
      if b = 10 then [b] :: go bs
      else
        match go bs with
        | [] => [[b]]
        | l :: ls => if l = [] then [b] :: ls else (b :: l) :: ls

/-- A byte order mark in front does not count. -/
def withoutMark : List UInt8 → List UInt8
  | 0xEF :: 0xBB :: 0xBF :: bs => bs
  | bs => bs

/-- The nearest file, from a place upwards. -/
def locate (files : FileTree) : List Place → Except Fault String
  | [] => .error .absent
  | p :: ps =>
    let path := Path.absolute (p ++ [".env"])
    match files.node? path with
    | .ok (.file _) => .ok path
    | .ok _ | .error .notFound => locate files ps
    | .error f => .error (.system f)

/-- Set the variables of the nearest file: its path or the fault, and the environment. -/
def apply (files : FileTree) (env : Environment) : Except Fault String × Environment :=
  match locate files (files.here :: (FileTree.above files.here).reverse) with
  | .error f => (.error f, env)
  | .ok path =>
    match files.readBytes path with
    | .error (.path f) => (.error (.system f), env)
    | .error _ => (.error .notUnicode, env)
    | .ok bytes =>
      match load [] (logical .plain [] (linesOf (withoutMark bytes.toList))) env with
      | (none, env) => (.ok path, env)
      | (some f, env) => (.error f, env)

end OpenUrl.Surroundings.VariableFile
