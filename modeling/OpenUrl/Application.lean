import OpenUrl.Record

/-!
# Running applications

What is known about the application that owns a process. A process that no application
owns has the empty description.
-/
namespace OpenUrl

/-- The description of a running application; unknown parts are empty. -/
structure Application where
  localizedName : String
  bundleIdentifier : String
  bundleUrl : String
  executableUrl : String
  deriving DecidableEq, Repr

namespace Application

/-- The description of no application. -/
def none : Application := ⟨"", "", "", ""⟩

/-- Nothing at all is known. -/
def isEmpty (a : Application) : Bool :=
  a.localizedName.isEmpty && a.bundleIdentifier.isEmpty && a.bundleUrl.isEmpty &&
    a.executableUrl.isEmpty

@[simp] theorem isEmpty_none : none.isEmpty = true := by decide

/-- The written form; all four parts are needed. -/
def record : Record Application where
  name := "ApplicationInfo"
  blank := none
  fields := [
    { name := "localized_name", kind := .text, get := localizedName,
      put := fun v a => { a with localizedName := v } },
    { name := "bundle_identifier", kind := .text, get := bundleIdentifier,
      put := fun v a => { a with bundleIdentifier := v } },
    { name := "bundle_url", kind := .text, get := bundleUrl,
      put := fun v a => { a with bundleUrl := v } },
    { name := "executable_url", kind := .text, get := executableUrl,
      put := fun v a => { a with executableUrl := v } }]
  complete := true
  closed := false

end Application

end OpenUrl
