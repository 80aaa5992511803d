import OpenUrl.Toml.Text

/-!
# TOML documents

Reading a document into its tables. A document is accepted or refused as a whole; which
mistake it holds is not told.
-/
namespace OpenUrl.Toml

open OpenUrl.Text (Cursor)

/-- At this many open brackets no further one may open; a key has fewer parts before its last. -/
def depthLimit : Nat := 80

def isBare (c : Char) : Bool := c.isAlphanum || c == '-' || c == '_'

def spaces : Scan Unit := do
  let _ ← Scan.takeWhile isSpace

/-- One part of a key. -/
def simpleKey : Scan Key := do
  let start ← Scan.offset
  let name ← match ← Scan.peek with
    | some '"' => do
      if ← Scan.attempt ['"', '"', '"'] then Scan.refuse else quotedLine '"'
    | some '\'' => do
      if ← Scan.attempt ['\'', '\'', '\''] then Scan.refuse else quotedLine '\''
    | _ => do
      match ← Scan.takeWhile isBare with
      | [] => Scan.refuse
      | cs => pure (String.ofList cs)
  return ⟨name, start, ← Scan.offset⟩

/-- The parts of a key behind `k`: those on the way, and the last one. -/
def keyParts : Nat → Key → Scan (List Key × Key)
  | 0, _ => Scan.refuse
  | fuel + 1, k => do
    spaces
    if ← Scan.attempt ['.'] then
      spaces
      let next ← simpleKey
      let (path, last) ← keyParts fuel next
      pure (k :: path, last)
    else pure ([], k)

/-- A key with its dots, and the blanks behind it. -/
def key : Scan (List Key × Key) := do
  let k ← simpleKey
  let (path, k) ← keyParts (← room) k
  if depthLimit ≤ path.length then Scan.refuse else pure (path, k)

/-- A comment, if one is ahead. -/
def comment : Scan Unit := do
  if (← Scan.peek) = some '#' then
    let cs ← Scan.takeWhile fun c => c != '\n' && c != '\r'
    if cs.any isForbidden then Scan.refuse

/-- Blanks, comments and line ends. -/
def gap : Nat → Scan Unit
  | 0 => pure ()
  | fuel + 1 => do
    spaces
    comment
    if ← newline then gap fuel

/-- What ends a scalar without quotes. -/
def endsScalar (c : Char) : Bool :=
  c == '=' || c == ',' || c == '[' || c == ']' || c == '\x7b' || c == '\x7d' || isSpace c ||
    c == '#' || c == '\r' || c == '\n'

/-- A scalar without quotes. A blank may stand between a date and a time. -/
def bareScalar : Scan Scalar := do
  let cs ← Scan.takeWhile (!endsScalar ·)
  let cs ← fun c =>
    match c.rest with
    | ' ' :: d :: _ =>
      if (Text.digit? d).isSome && Moment.date cs == some [] then
        let c := c.advance
        some (cs ++ ' ' :: c.ahead (!endsScalar ·), c.skip (!endsScalar ·))
      else some (cs, c)
    | _ => some (cs, c)
  match bare cs with
  | some s => pure s
  | none => Scan.refuse

mutual

/-- A value inside `depth` open brackets. -/
def value : Nat → Nat → Scan Value
  | 0, _ => Scan.refuse
  | fuel + 1, depth => do
    let start ← Scan.offset
    match ← Scan.peek with
    | some '"' =>
      let s ← quoted '"'
      return .scalar (.text s) ⟨start, ← Scan.offset⟩
    | some '\'' =>
      let s ← quoted '\''
      return .scalar (.text s) ⟨start, ← Scan.offset⟩
    | some '[' =>
      if depth = depthLimit then Scan.refuse
      else
        Scan.advance
        let vs ← items fuel (depth + 1)
        return .array vs false ⟨start, ← Scan.offset⟩
    | some '\x7b' =>
      if depth = depthLimit then Scan.refuse
      else
        Scan.advance
        let t ← pairs fuel (depth + 1) ⟨[], .inline⟩
        return t.value ⟨start, ← Scan.offset⟩
    | _ =>
      let s ← bareScalar
      return .scalar s ⟨start, ← Scan.offset⟩

/-- The items of a list up to its closing bracket. -/
def items : Nat → Nat → Scan (List Value)
  | 0, _ => Scan.refuse
  | fuel + 1, depth => do
    gap (← room)
    if ← Scan.attempt [']'] then pure []
    else
      let v ← value fuel depth
      gap (← room)
      if ← Scan.attempt [','] then
        let vs ← items fuel depth
        pure (v :: vs)
      else
        Scan.expect ']'
        pure [v]

/-- The entries of a table between braces, behind those of `t`. -/
def pairs : Nat → Nat → Table → Scan Table
  | 0, _, _ => Scan.refuse
  | fuel + 1, depth, t => do
    gap (← room)
    if ← Scan.attempt ['\x7d'] then pure t
    else
      let (path, k) ← key
      Scan.expect '='
      spaces
      let v ← value fuel depth
      match t.set path k v with
      | none => Scan.refuse
      | some t =>
        gap (← room)
        if ← Scan.attempt [','] then pairs fuel depth t
        else
          Scan.expect '\x7d'
          pure t

end

/-- The header of the table whose lines are read. -/
structure Header where
  path : List Key
  key : Key
  /-- Whether the table is one of a list. -/
  ofList : Bool
  span : Span

/-- A document so far: what is stored, the table being read, and its header. -/
structure Draft where
  stored : Table
  current : Table
  header : Option Header

namespace Draft

def start : Draft := ⟨.root, .root, none⟩

/-- Store the table being read. The lines before the first header are the root's. -/
def finish (d : Draft) : Option Table :=
  match d.header with
  | none => some d.current
  | some h =>
    if h.ofList then d.stored.append h.path h.key h.span d.current
    else d.stored.close h.path h.key h.span d.current

/-- Go on with the table of a header. -/
def enter (d : Draft) (h : Header) : Option Draft := do
  let stored ← d.finish
  let current ← if h.ofList then some ⟨[], .header⟩ else stored.opened h.path h.key
  some ⟨stored, current, some h⟩

/-- Add a line to the table being read. -/
def set (d : Draft) (path : List Key) (k : Key) (v : Value) : Option Draft :=
  (d.current.set path k v).map fun t => { d with current := t }

end Draft

/-- A header, at its bracket. -/
def header : Scan Header := do
  let start ← Scan.offset
  let ofList ← Scan.attempt ['[', '[']
  unless ofList do Scan.advance
  spaces
  let (path, k) ← key
  Scan.expect ']'
  if ofList then Scan.expect ']'
  return ⟨path, k, ofList, start, ← Scan.offset⟩

/-- A refusal of the tables as a refusal of the document. -/
def lift {α : Type} : Option α → Scan α
  | some a => pure a
  | none => Scan.refuse

/-- The end of a line; true if another line follows. -/
def lineEnd : Scan Bool := do
  spaces
  comment
  if ← newline then pure true
  else match ← Scan.peek with
    | none => pure false
    | some _ => Scan.refuse

/-- The lines of a document. -/
def lines : Nat → Draft → Scan Draft
  | 0, _ => Scan.refuse
  | fuel + 1, d => do
    spaces
    let d ← match ← Scan.peek with
      | none | some '\n' | some '\r' | some '#' => pure d
      | some '[' => do lift (d.enter (← header))
      | some _ => do
        let (path, k) ← key
        Scan.expect '='
        spaces
        let v ← value (← room) 0
        lift (d.set path k v)
    if ← lineEnd then lines fuel d else pure d

/-- A byte order mark in front does not count. -/
def mark : Scan Unit := do
  let _ ← Scan.attempt ['\uFEFF']

/-- The entries of a document. -/
def read (text : String) : Option (List (Key × Value)) := do
  let (d, _) ← (do
    mark
    lines (← room) .start : Scan Draft) (Cursor.start text)
  let t ← d.finish
  some t.entries

end OpenUrl.Toml
