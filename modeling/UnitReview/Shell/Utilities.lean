import UnitReview.Shell.Utility.Files
import UnitReview.Shell.Utility.Lines
import UnitReview.Shell.Utility.Tests

/-!
# All utilities

Utilities by their names. Some are part of the shell, because they change what it keeps; the
others are also programs of their own.
-/

set_option autoImplicit false

namespace UnitReview.Shell

namespace Utility

/-- Utilities that are part of the shell. -/
def builtIn : List (String × Utility) :=
  [ ("cd", cd), ("read", read), ("shift", shift), ("export", export_), ("unset", unset)
  , ("local", assignAll), ("readonly", assignAll), ("set", set_), (":", fun _ => pure 0)
  , ("wait", fun _ => pure 0), ("umask", fun _ => pure 0) ]

/-- Utilities that are part of the shell and also programs of their own. -/
def shared : List (String × Utility) :=
  [ ("echo", echo), ("printf", printf), ("pwd", pwd), ("test", test), ("[", bracketTest)
  , ("true", fun _ => pure 0), ("false", fun _ => pure 1) ]

/-- Utilities that are programs of their own. -/
def separate : List (String × Utility) :=
  [ ("cat", cat), ("rm", rm), ("rmdir", rmdir), ("chmod", chmod), ("mkdir", mkdir)
  , ("touch", touch), ("cp", copy "cp" false), ("mv", copy "mv" true), ("ls", ls)
  , ("basename", basename), ("dirname", dirname), ("cut", cut), ("head", head), ("tail", tail)
  , ("wc", wc), ("sort", sort), ("tee", tee), ("tr", tr), ("grep", grep)
  , ("seq", seq), ("sleep", fun _ => pure 0) ]

/-- All utilities. -/
def named : List (String × Utility) := builtIn ++ shared ++ separate

end Utility

end UnitReview.Shell
