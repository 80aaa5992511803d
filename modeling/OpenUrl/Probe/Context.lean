import OpenUrl.Arguments
import OpenUrl.Criteria
import OpenUrl.Settings.Source

/-!
# The context of a probe

The settings of a run after files, variables and arguments, and the criteria on the
sender.
-/
namespace OpenUrl.Probe

structure Context where
  settings : Settings
  criteria : Criteria
  deriving DecidableEq, Repr

/-- The settings of the file that the arguments name, or of one in a standard place, under
the variables. -/
def fileSettings (s : Surroundings) (a : Arguments) : Except Settings.Fault Settings :=
  match a.configPath with
  | some path => (Settings.loadFile s (some path)).1.bind (Settings.applyVariables s.environment)
  | none => (Settings.load s).1

/-- The settings of a run: a wait among the arguments replaces the one found elsewhere. -/
def settings (s : Surroundings) (a : Arguments) : Except Settings.Fault Settings :=
  (fileSettings s a).map fun c => { c with waitTimeout := a.timeout.getD c.waitTimeout }

/-- A diagnostic picture of the context. -/
def Context.picture (c : Context) : String :=
  "ProbeContext \x7b config: " ++ c.settings.picture ++ ", criteria: " ++ c.criteria.picture ++
    ", .. \x7d"

end OpenUrl.Probe
