import OpenUrl.Log.Filter
import OpenUrl.Log.Layout
import OpenUrl.Probe.Run
import OpenUrl.Surroundings.VariableFile

/-!
# The probe as a program

From the words of the command line and the surroundings to what is printed. Variables from
a file are set before anything else is looked at, and arguments are read before settings.
-/
namespace OpenUrl.Probe

open OpenUrl.Log (Filter Notice)

/-- A line for the diagnostics: a notice, in JSON or not, or a text with its line end. -/
inductive Line
  | notice (json : Bool) (n : Notice)
  | text (s : String)
  deriving DecidableEq, Repr

/-- The line as it is printed. -/
def Line.render (stamp : String) : Line → String
  | notice json n => n.line json stamp
  | text s => s

/-- All that a run of the program shows. -/
structure Transcript where
  success : Bool
  out : List UInt8
  diagnostics : List Line
  deriving DecidableEq, Repr

namespace Transcript

/-- The program gives up before it listens. -/
def refusal (diagnostics : List Line) (message : String) : Transcript :=
  ⟨false, [], diagnostics ++ [.text ("error: " ++ message ++ "\n")]⟩

end Transcript

/-- What is logged about the file of variables. -/
def variablesNotice : Except Surroundings.VariableFile.Fault String → Notice
  | .ok path => .variablesLoaded path
  | .error f => .variablesAbsent f.message

variable {σ : Type}

/-- The run for settings that have been found. -/
def runWith (p : Platform σ) (system : σ) (a : Arguments) (described : Option String)
    (loaded : Notice) (s : Settings) : Transcript :=
  let filter := Filter.ofEnvironment described s.logLevel
  let shown (ns : List Notice) := (filter.select ns).map (Line.notice s.jsonLogs)
  let ready := shown [.loggingReady s.logLevel s.jsonLogs]
  match Criteria.ofPairs a.criteria with
  | .error f => Transcript.refusal ready ("invalid --match criterion: " ++ f.message)
  | .ok c =>
    let r := run p ⟨s, c⟩ a system .endless
    let lines := ready ++ shown (loaded :: r.notices)
    match r.outcome with
    | .ok _ => ⟨true, r.out.bytes, lines⟩
    | .error f =>
      ⟨false, r.out.bytes,
        lines ++ shown [.probeFailed f.message] ++ [.text ("error: " ++ f.message ++ "\n")]⟩

/-- The whole program. -/
def program (p : Platform σ) (system : σ) (words : List String) (s : Surroundings) : Transcript :=
  let (loaded, environment) := Surroundings.VariableFile.apply s.files s.environment
  let s := { s with environment := environment }
  match Arguments.read words with
  | .error f => Transcript.refusal [] (f.message ++ "\n\n" ++ Arguments.usage)
  | .ok a =>
    if a.help then ⟨true, textBytes (Arguments.usage ++ "\n"), []⟩
    else
      match settings s a with
      | .error f => Transcript.refusal [] f.failure.message
      | .ok c => runWith p system a (environment.text? "RUST_LOG") (variablesNotice loaded) c

end OpenUrl.Probe
