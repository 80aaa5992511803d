import OpenUrl.Failure
import OpenUrl.Toml.Typed

/-!
# Failures from TOML

The text of a failure comes before its tag, since names are read in order; it is kept until
the tag tells what it should be. A tag is a string or a table with one empty entry.
-/
namespace OpenUrl.Toml

open OpenUrl.Failure (Form)

mutual

/-- The number of values in a value, itself included. -/
def Value.count : Value → Nat
  | .scalar .. => 1
  | .array items _ _ => countAll items + 1
  | .table entries _ _ => countEntries entries + 1

def countAll : List Value → Nat
  | [] => 1
  | v :: vs => v.count + countAll vs + 1

def countEntries : List (Key × Value) → Nat
  | [] => 1
  | (_, v) :: es => v.count + countEntries es + 1

end

mutual

/-- Keep a value of any type; its integers have to fit 64 bits. Tables are gone through in
the order of their names. -/
def keepWithin : Nat → Value → Except Fault Unit
  | 0, _ => .ok ()
  | _ + 1, .scalar s span =>
    match s with
    | .integer n => if fits n then .ok () else (Value.scalar s span).unfit "any value"
    | .unbounded => .error .unreadable
    | _ => .ok ()
  | fuel + 1, .array items _ _ => keepAllWithin fuel items
  | fuel + 1, .table entries _ _ => keepAllWithin fuel ((sorted entries).map Prod.snd)

def keepAllWithin : Nat → List Value → Except Fault Unit
  | 0, _ => .ok ()
  | _ + 1, [] => .ok ()
  | fuel + 1, v :: vs =>
    match keepWithin fuel v with
    | .error e => .error e
    | .ok () => keepAllWithin fuel vs

end

/-- Keep a value of any type. Every step goes to a value or past one. -/
def keep (v : Value) : Except Fault Unit := keepWithin (2 * v.count) v

/-- The form of a cause by its name. -/
def formOf (name : String) (span : Span) : Except Fault Form :=
  match Failure.ofTag? name with
  | some f => .ok f
  | none => .error (.misfit (.unknownVariant name Failure.tags) span)

def readTag : Value → Except Fault Form
  | .scalar (.text s) span => formOf s span
  | .table [(k, v)] _ _ =>
    match formOf k.name k.span with
    | .error e => .error e
    | .ok f =>
      match v with
      | .array [] _ _ | .table [] _ _ => .ok f
      | _ => .error .unreadable
  | _ => .error .unreadable

/-- The failure of a cause and a kept text; what does not fit is shown nowhere. -/
def ofContent : Form → Value → Except Fault Failure
  | .worded build, .scalar (.text s) _ => .ok (build s)
  | .worded _, v => misfit v "a string"
  | .plain f, v => misfit v ("unit variant BridgeError::" ++ f.tag)
where
  misfit (v : Value) (wanted : String) : Except Fault Failure :=
    match v.found? with
    | some f => .error (.misfit (.wrongType f wanted) nowhere)
    | none => .error .unreadable

/-- Entries that do not count. -/
def skipAll (es : List (Key × Value)) : Except Fault Unit :=
  if entriesBounded es then .ok () else .error .unreadable

def readFailure (es : List (Key × Value)) : Except Fault Failure := do
  let es := sorted es
  let before := es.takeWhile fun e => e.1.name != "type"
  let behind := (es.dropWhile fun e => e.1.name != "type").drop 1
  let type? := es.find? fun e => e.1.name == "type"
  let message? := es.find? fun e => e.1.name == "message"
  for e in before do
    if e.1.name == "message" then keep e.2 else skipAll [e]
  match type?, message? with
  | none, _ => .error (.misfit (.missingField "type") nowhere)
  | some (_, t), none =>
    let form ← readTag t
    skipAll behind
    match form with
    | .plain f => .ok f
    | .worded _ => .error (.misfit (.missingField "message") nowhere)
  | some (_, t), some (_, m) =>
    let form ← readTag t
    let f ← ofContent form m
    skipAll behind
    .ok f

end OpenUrl.Toml

namespace OpenUrl.Failure

/-- The failure that a TOML text describes. -/
def ofToml (text : String) : Except String Failure := Toml.readAll Toml.readFailure text

end OpenUrl.Failure
