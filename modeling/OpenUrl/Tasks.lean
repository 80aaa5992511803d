/-!
# Development tasks

The checks of the workspace, each a call of the build tool. A task is a list of steps;
the first step that fails ends it.
-/
namespace OpenUrl.Tasks

/-- The build tool as tasks see it. -/
structure Tool where
  /-- The exit code of a call; none if the tool cannot be started, with the reason. -/
  exit : List String → Except String UInt8
  /-- What a call prints. -/
  printed : List String → String

/-- One call of the build tool. -/
structure Step where
  /-- Printed first. -/
  heading : String
  /-- An extension of the build tool that has to be installed. -/
  extension : Option String
  arguments : List String
  /-- The complaint when the call fails. -/
  complaint : String
  deriving DecidableEq, Repr

inductive Task
  | ci
  | fmt
  | clippy
  | test
  | deny
  | audit
  | probe (arguments : List String)
  | help
  deriving DecidableEq, Repr

def fmtStep : Step where
  heading := ""
  extension := none
  arguments := ["fmt", "--all", "--", "--check"]
  complaint := "Format check failed. Run 'cargo fmt --all' to fix."

def clippyStep : Step where
  heading := ""
  extension := none
  arguments := ["clippy", "--workspace", "--all-targets", "--", "-D", "warnings", "-A",
    "clippy::multiple_crate_versions"]
  complaint := "Clippy run failed. See output above."

def testStep : Step where
  heading := ""
  extension := none
  arguments := ["test", "--workspace"]
  complaint := "Tests failed"

def denyStep : Step where
  heading := ""
  extension := some "deny"
  arguments := ["deny", "check"]
  complaint := "cargo-deny found issues"

def auditStep : Step where
  heading := ""
  extension := some "audit"
  arguments := ["audit"]
  complaint := "cargo-audit found vulnerabilities"

/-- Run the probe with arguments of its own. -/
def probeStep (arguments : List String) : Step where
  heading := ""
  extension := none
  arguments := ["run", "-p", "urlbridge-api", "--bin", "urlbridge-probe", "--"] ++ arguments
  complaint := "urlbridge-probe exited with an error"

/-- All checks, with their headings. -/
def ciSteps : List Step := [
  { fmtStep with heading := "==> Step 1/5: Checking Rust format...\n" },
  { clippyStep with heading := "\n==> Step 2/5: Running Clippy...\n" },
  { testStep with heading := "\n==> Step 3/5: Running tests...\n" },
  { denyStep with heading := "\n==> Step 4/5: Checking dependencies...\n" },
  { auditStep with heading := "\n==> Step 5/5: Auditing dependencies...\n" }]

/-- What the program shows. -/
structure Transcript where
  success : Bool
  out : String
  err : String
  deriving DecidableEq, Repr

def overview : String :=
  "URLBridge Development Tasks\n\nUSAGE:\n    cargo xtask <TASK> [ARGS]\n\nTASKS:\n" ++
  "    ci        Run all CI checks (fmt, clippy, test, deny, audit)\n" ++
  "    fmt       Check Rust code formatting\n" ++
  "    clippy    Run Clippy lints\n" ++
  "    test      Run all tests\n" ++
  "    probe     Build and run urlbridge-probe, passing ARGS through\n" ++
  "    deny      Check dependencies with cargo-deny\n" ++
  "    audit     Audit dependencies for security vulnerabilities\n" ++
  "    help      Show this help message\n"

/-- The task that the words ask for; without words it is `help`. -/
def Task.ofWords : List String → Except String Task
  | [] => .ok help
  | "ci" :: _ => .ok ci
  | "fmt" :: _ => .ok fmt
  | "clippy" :: _ => .ok clippy
  | "test" :: _ => .ok test
  | "deny" :: _ => .ok deny
  | "audit" :: _ => .ok audit
  | "probe" :: arguments => .ok (probe arguments)
  | "help" :: _ => .ok help
  | word :: _ => .error word

/-- The end of a failed task. -/
def failed (out err complaint : String) : Transcript :=
  ⟨false, out, err ++ "Task failed: " ++ complaint ++ "\n"⟩

/-- Whether a call of the tool succeeds. -/
def Tool.succeeds (t : Tool) (arguments : List String) : Bool :=
  match t.exit arguments with
  | .ok code => code = 0
  | .error _ => false

/-- Run the steps after `out` has been printed; `closing` is printed after the last. What the
tool prints when it is asked for an extension is not shown. -/
def runSteps (t : Tool) (out closing : String) : List Step → Transcript
  | [] => ⟨true, out ++ closing, ""⟩
  | s :: ss =>
    let out := out ++ s.heading
    let call := "failed to run cargo " ++ " ".intercalate s.arguments ++ ": "
    let go : Transcript :=
      match t.exit s.arguments with
      | .error reason => failed out "" (call ++ reason)
      | .ok code =>
        let out := out ++ t.printed s.arguments
        if code = 0 then runSteps t out closing ss else failed out "" s.complaint
    match s.extension with
    | none => go
    | some name =>
      if t.succeeds [name, "--version"] then go
      else
        failed out ("cargo-" ++ name ++ " is not installed.\nInstall it with: cargo install cargo-" ++
          name ++ "\n") ("cargo-" ++ name ++ " not found")

def Task.run (t : Tool) : Task → Transcript
  | ci => runSteps t "==> Running CI checks...\n\n" "\n✓ All CI checks passed!\n" ciSteps
  | fmt => runSteps t "" "" [fmtStep]
  | clippy => runSteps t "" "" [clippyStep]
  | test => runSteps t "" "" [testStep]
  | deny => runSteps t "" "" [denyStep]
  | audit => runSteps t "" "" [auditStep]
  | probe arguments => runSteps t "" "" [probeStep arguments]
  | help => ⟨true, overview, ""⟩

/-- The whole program. -/
def program (t : Tool) (words : List String) : Transcript :=
  match Task.ofWords words with
  | .ok task => task.run t
  | .error word => failed overview ("Unknown task: " ++ word ++ "\n\n") "Unknown task"

end OpenUrl.Tasks
