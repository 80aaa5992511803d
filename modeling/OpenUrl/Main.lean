import OpenUrl.Probe.Program
import OpenUrl.Unsupported
import Std.Time.Format

/-!
# The executable

Collects from the system what the program looks at, runs it, and prints its transcript.
-/
namespace OpenUrl.Executable

open OpenUrl.Surroundings (Environment FileTree Node)

/-- What stands at a path. -/
def nodeAt (path : String) : IO (Option Node) := do
  try
    let place ← IO.FS.realPath path
    if ← place.isDir then return some .folder
    else return some (.file (← IO.FS.readBinFile place))
  catch _ => return none

/-- The names from the root down to a path, seen from a folder. -/
def placeOf (here : List String) (path : String) : List String :=
  let start := if Surroundings.Path.isAbsolute path then [] else here
  (Surroundings.Path.parts path).foldl (fun place part =>
    if part == "" || part == "." then place
    else if part == ".." then place.dropLast
    else place ++ [part]) start

/-- Put what stands at the paths into a tree. -/
def addAll (t : FileTree) (paths : List String) : IO FileTree :=
  paths.foldlM (fun t path => do
    match ← nodeAt path with
    | some n => return t.add (placeOf t.here path) n
    | none => return t) t

/-- The words of a text that may name variables. -/
def namesIn (text : String) : List String :=
  (text.toList.splitBy fun c d => (c.isAlphanum || c == '_') == (d.isAlphanum || d == '_')).map
    String.ofList

/-- The variables that matter to the program and to the files of variables. -/
def variableNames (t : FileTree) : List String :=
  let known := ["HOME", "RUST_LOG"] ++
    ["POLL_INTERVAL_MS", "WAIT_TIMEOUT_MS", "LOG_LEVEL", "JSON_LOGS"].map
      (Settings.variableStem ++ ·)
  t.nodes.foldl (fun names n =>
    match n.2 with
    | .file content => ((String.fromUTF8? content).map namesIn).getD [] ++ names
    | _ => names) known

/-- Everything that the program looks at. -/
def surroundings (words : List String) : IO Surroundings := do
  let here? ← try pure (some (← IO.currentDir).toString) catch _ => pure none
  let here := (here?.map (placeOf [])).getD []
  let bare : FileTree := { FileTree.empty with here := here, hereGone := here?.isNone }
  let above := here :: (FileTree.above here).reverse
  let tree ← addAll bare (above.map fun p => Surroundings.Path.absolute (p ++ [".env"]))
  let environment ← (variableNames tree).foldlM (fun (e : Environment) name => do
    match ← IO.getEnv name with
    | some v => return e.set name (.text v)
    | none => return e) Environment.empty
  let executable ← try pure (some (← IO.appPath).toString) catch _ => pure none
  let s : Surroundings := ⟨tree, environment, executable⟩
  let loaded := { s with
    environment := (Surroundings.VariableFile.apply s.files s.environment).2 }
  let named := match Arguments.read words with
    | .ok a => a.configPath.toList
    | .error _ => []
  return { s with files := ← addAll tree (named ++ Settings.candidates loaded) }

/-- The moment, as log lines show it. -/
def stamp : IO String := do
  let now ← Std.Time.Timestamp.now
  let moment := (Std.Time.DateTime.ofTimestampWithZone now .GMT).toPlainDateTime
  return moment.format "uuuu-MM-dd'T'HH:mm:ss.SSSSSS'Z'"

end OpenUrl.Executable

def main (words : List String) : IO UInt32 := do
  let s ← OpenUrl.Executable.surroundings words
  let t := OpenUrl.Probe.program OpenUrl.Unsupported.platform () words s
  (← IO.getStdout).write (ByteArray.mk t.out.toArray)
  for line in t.diagnostics do
    (← IO.getStderr).putStr (line.render (← OpenUrl.Executable.stamp))
  return if t.success then 0 else 1
