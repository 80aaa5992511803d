import OpenUrl.Surroundings.Environment
import OpenUrl.Surroundings.FileTree

/-!
# Surroundings

What a program finds around itself: files, variables and the path of its own executable.
-/
namespace OpenUrl

structure Surroundings where
  files : Surroundings.FileTree
  environment : Surroundings.Environment
  /-- The path of the executable, if the system tells it. -/
  executable : Option String

end OpenUrl
