import OpenUrl.Number.Shortest

/-!
# TOML values

The values of a document with the bytes they cover, and the rules by which a document
builds its tables. A table remembers how it came into being, since that decides what may
still be added to it.
-/
namespace OpenUrl.Toml

open OpenUrl.Number (Binary64)

/-- The bytes from `start` up to `stop`. -/
structure Span where
  start : Nat
  stop : Nat
  deriving DecidableEq, Repr

inductive Scalar
  | text (s : String)
  | integer (n : Int)
  | real (x : Binary64)
  | flag (b : Bool)
  /-- A date, a time of day, or both. -/
  | moment
  /-- A number that fits no type. -/
  | unbounded
  deriving DecidableEq, Repr

/-- How a table came into being. -/
inductive Origin
  /-- Under a header of its own; so is the whole document. -/
  | header
  /-- On the way to a header below it. -/
  | implied
  /-- On the way to a key with dots. -/
  | dotted
  /-- Between braces. -/
  | inline
  deriving DecidableEq, Repr

structure Key where
  name : String
  span : Span
  deriving DecidableEq, Repr

inductive Value
  | scalar (s : Scalar) (span : Span)
  /-- `ofTables` tells a list made by headers from one between brackets. -/
  | array (items : List Value) (ofTables : Bool) (span : Span)
  | table (entries : List (Key × Value)) (origin : Origin) (span : Span)

def Value.span : Value → Span
  | .scalar _ s | .array _ _ s | .table _ _ s => s

/-- A table while it is built. -/
structure Table where
  entries : List (Key × Value)
  origin : Origin

namespace Table

/-- The whole document before its first line. -/
def root : Table := ⟨[], .header⟩

def value (t : Table) (span : Span) : Value := .table t.entries t.origin span

def find? (t : Table) (name : String) : Option Value :=
  (t.entries.find? fun e => e.1.name == name).map Prod.snd

/-- Add an entry behind the others. -/
def add (t : Table) (k : Key) (v : Value) : Table := ⟨t.entries ++ [(k, v)], t.origin⟩

/-- Put `v` in the place of the entry of that name. -/
def replace (t : Table) (name : String) (v : Value) : Table :=
  ⟨t.entries.map fun e => if e.1.name == name then (e.1, v) else e, t.origin⟩

/-- Change the table that a path leads to. Tables on the way that do not exist are made; a
list of tables stands for its last one. A key with dots does not enter what has a header. -/
def update (dotted : Bool) (f : Table → Option Table) : List Key → Table → Option Table
  | [], t => f t
  | k :: ks, t =>
    match t.find? k.name with
    | none => do
      let u ← update dotted f ks ⟨[], if dotted then .dotted else .implied⟩
      some (t.add k (u.value k.span))
    | some (.table es o span) =>
      if o = .inline ∨ (dotted ∧ o = .header) then none
      else do
        let u ← update dotted f ks ⟨es, o⟩
        some (t.replace k.name (u.value span))
    | some (.array items true span) =>
      match items.reverse with
      | .table es o s :: before => do
        let u ← update dotted f ks ⟨es, o⟩
        some (t.replace k.name (.array ((u.value s) :: before).reverse true span))
      | _ => none
    | some _ => none

/-- Set a key with its path. No name is set twice, and only what keys with dots made is
reached by them. -/
def set (t : Table) (path : List Key) (k : Key) (v : Value) : Option Table :=
  update (!path.isEmpty) (fun u =>
    if (u.origin == .dotted) == path.isEmpty then none
    else match u.find? k.name with
      | none => some (u.add k v)
      | some _ => none) path t

/-- The table that a header opens: a new one, or one that was only implied so far. -/
def opened (t : Table) (path : List Key) (k : Key) : Option Table :=
  let parent? : List Key → Table → Option Table := fun path t =>
    path.foldlM (fun (u : Table) (p : Key) =>
      match u.find? p.name with
      | none => some ⟨[], .implied⟩
      | some (.table es o _) => if o = .inline then none else some ⟨es, o⟩
      | some (.array items true _) =>
        match items.getLast? with
        | some (.table es o _) => some ⟨es, o⟩
        | _ => none
      | some _ => none) t
  do
    let parent ← parent? path t
    match parent.find? k.name with
    | none => some ⟨[], .header⟩
    | some (.table es .implied _) => some ⟨es, .header⟩
    | some _ => none

/-- Store the table of a header. -/
def close (t : Table) (path : List Key) (k : Key) (span : Span) (body : Table) : Option Table :=
  update false (fun u =>
    match u.find? k.name with
    | none => some (u.add k (body.value span))
    | some _ => some (u.replace k.name (body.value span))) path t

/-- Store the table of a header of a list. -/
def append (t : Table) (path : List Key) (k : Key) (span : Span) (body : Table) : Option Table :=
  update false (fun u =>
    match u.find? k.name with
    | none => some (u.add k (.array [body.value span] true span))
    | some (.array items true s) =>
      some (u.replace k.name (.array (items ++ [body.value span]) true s))
    | some _ => none) path t

@[simp] theorem find?_root (name : String) : root.find? name = none := rfl

end Table

end OpenUrl.Toml
