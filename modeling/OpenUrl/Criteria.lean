import OpenUrl.Application
import OpenUrl.Failure
import OpenUrl.Text.Blank
import OpenUrl.Text.Quoted

/-!
# Criteria on the sender

A criterion names one part of an application's description and the text it must have,
to the letter. Criteria hold of an application when every one given does; with none
given they hold of any, also of no application.
-/
namespace OpenUrl

/-- The parts of a description that can be asked for. -/
inductive Criterion
  | displayName
  | bundleId
  | bundlePath
  | executablePath
  deriving DecidableEq, Repr

namespace Criterion

/-- The key under which a criterion is given. -/
def key : Criterion → String
  | displayName => "display_name"
  | bundleId => "bundle_id"
  | bundlePath => "bundle_path"
  | executablePath => "executable_path"

def ofKey? : String → Option Criterion
  | "display_name" => some displayName
  | "bundle_id" => some bundleId
  | "bundle_path" => some bundlePath
  | "executable_path" => some executablePath
  | _ => none

/-- The part of the description that a criterion is compared with. -/
def part : Criterion → Application → String
  | displayName => Application.localizedName
  | bundleId => Application.bundleIdentifier
  | bundlePath => Application.bundleUrl
  | executablePath => Application.executableUrl

/-- All criteria, in the order of the record. -/
def all : List Criterion := [displayName, bundleId, bundlePath, executablePath]

@[simp] theorem mem_all (c : Criterion) : c ∈ all := by cases c <;> simp [all]

@[simp] theorem ofKey?_key (c : Criterion) : ofKey? c.key = some c := by cases c <;> rfl

theorem ofKey?_eq_some {k : String} {c : Criterion} (h : ofKey? k = some c) : k = c.key := by
  unfold ofKey? at h
  split at h <;> simp_all [key] <;> subst h <;> rfl

end Criterion

/-- The wanted text for each criterion that is given. -/
structure Criteria where
  displayName : Option String
  bundleId : Option String
  bundlePath : Option String
  executablePath : Option String
  deriving DecidableEq, Repr

namespace Criteria

/-- No criterion at all. -/
def none : Criteria := ⟨.none, .none, .none, .none⟩

def get (c : Criteria) : Criterion → Option String
  | .displayName => c.displayName
  | .bundleId => c.bundleId
  | .bundlePath => c.bundlePath
  | .executablePath => c.executablePath

/-- Give a criterion; a text given before is replaced. -/
def set (c : Criteria) (part : Criterion) (wanted : String) : Criteria :=
  match part with
  | .displayName => { c with displayName := some wanted }
  | .bundleId => { c with bundleId := some wanted }
  | .bundlePath => { c with bundlePath := some wanted }
  | .executablePath => { c with executablePath := some wanted }

@[simp] theorem get_none (p : Criterion) : none.get p = .none := by cases p <;> rfl

@[simp] theorem get_set (c : Criteria) (p q : Criterion) (w : String) :
    (c.set p w).get q = if q = p then some w else c.get q := by
  cases p <;> cases q <;> rfl

theorem ext_get {c d : Criteria} (h : ∀ p, c.get p = d.get p) : c = d := by
  cases c; cases d
  have h1 := h .displayName
  have h2 := h .bundleId
  have h3 := h .bundlePath
  have h4 := h .executablePath
  simp only [get] at h1 h2 h3 h4
  subst h1 h2 h3 h4
  rfl

/-- No criterion is given. -/
def isEmpty (c : Criteria) : Bool :=
  c.displayName.isNone && c.bundleId.isNone && c.bundlePath.isNone && c.executablePath.isNone

/-- Every criterion given has exactly the wanted text. -/
def holds (c : Criteria) (a : Application) : Bool :=
  Criterion.all.all fun p =>
    match c.get p with
    | .none => true
    | some wanted => wanted == p.part a

/-- The text before the first equals sign and the text after it. -/
def splitPair : List Char → Option (List Char × List Char)
  | [] => .none
  | '=' :: cs => some ([], cs)
  | c :: cs => (splitPair cs).map fun p => (c :: p.1, p.2)

/-- Read one pair; blanks around the key do not count, those of the text do. -/
def readPair (pair : String) : Outcome (Criterion × String) :=
  match splitPair pair.toList with
  | .none => .error (.invalidInput ("expected key=value, got '" ++ pair ++ "'"))
  | some (k, v) =>
    let key := Text.trim (String.ofList k)
    match Criterion.ofKey? key with
    | .none => .error (.invalidInput ("unknown app criterion '" ++ key ++ "'"))
    | some p => .ok (p, String.ofList v)

/-- Add the pairs to `c` one after the other; the first that cannot be read decides. -/
def addPairs (c : Criteria) : List String → Outcome Criteria
  | [] => .ok c
  | pair :: pairs =>
    match readPair pair with
    | .error f => .error f
    | .ok (p, wanted) => addPairs (c.set p wanted) pairs

/-- Criteria from pairs of key and text. -/
def ofPairs (pairs : List String) : Outcome Criteria := none.addPairs pairs

/-- The written form; a criterion that is not given is null or absent, and no other name
is accepted. -/
def record : Record Criteria where
  name := "AppCriteria"
  blank := none
  fields := [
    { name := "display_name", kind := .optionalText, get := displayName,
      put := fun v c => { c with displayName := v } },
    { name := "bundle_id", kind := .optionalText, get := bundleId,
      put := fun v c => { c with bundleId := v } },
    { name := "bundle_path", kind := .optionalText, get := bundlePath,
      put := fun v c => { c with bundlePath := v } },
    { name := "executable_path", kind := .optionalText, get := executablePath,
      put := fun v c => { c with executablePath := v } }]
  complete := false
  closed := true

/-- A diagnostic picture of the criteria. -/
def picture (c : Criteria) : String :=
  let show? : Option String → String
    | .none => "None"
    | some s => "Some(" ++ Text.quoted s ++ ")"
  "AppCriteria \x7b display_name: " ++ show? c.displayName ++
    ", bundle_id: " ++ show? c.bundleId ++
    ", bundle_path: " ++ show? c.bundlePath ++
    ", executable_path: " ++ show? c.executablePath ++ " \x7d"

end Criteria

end OpenUrl
