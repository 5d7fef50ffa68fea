import UnitReview.Host.OsText
import UnitReview.Host.SystemError
import UnitReview.Text.Blank

/-!
# Failures of a request

Every way in which a request for a review can fail, the words for it and a hint on what to do.
None of them ends the program that asked.
-/

set_option autoImplicit false

namespace UnitReview

open Host (OsText)

/-- Why a request got no result. -/
inductive Failure where
  | notBuilt (artifact : OsText)
  | spawn (artifact : OsText) (error : SystemError)
  | processExit (code : Option Int) (stderr : String)
  | resultParse (rawOutput : String) (problem : String)
  | validation (problem : String)
  | staging (dir : OsText) (error : SystemError)
  deriving Repr, DecidableEq, Inhabited

namespace Failure

/-- How the end of a process is called. -/
def exitLabel : Option Int → String
  | some code => "code " ++ toString code
  | none => "no exit code (terminated by signal)"

/-- The words for a failure. -/
def message : Failure → String
  | .notBuilt artifact => "analyzer is not built (expected at " ++ artifact.display ++ ")"
  | .spawn artifact e => "failed to start analyzer " ++ artifact.display ++ ": " ++ e.message
  | .processExit code stderr =>
      "analyzer exited with " ++ exitLabel code ++ ": " ++ String.ofList (Text.trim stderr.toList)
  | .resultParse _ problem => "analyzer output is not a valid result: " ++ problem
  | .validation problem => "invalid request: " ++ problem
  | .staging dir e => "failed to stage source in " ++ dir.display ++ ": " ++ e.message

/-- What the user can do about a failure. -/
def hint : Failure → String
  | .notBuilt _ => "Run `sharpcheck build` first."
  | .spawn _ _ =>
      "Check that the analyzer artifact exists and is executable, or rebuild it with `sharpcheck build`."
  | .processExit _ _ => "Check the analyzer's error output above; the input may be unreadable."
  | .resultParse _ _ => "The analyzer may be out of date. Rebuild it with `sharpcheck build`."
  | .validation _ => "Provide either source text or the path of an existing file, not both."
  | .staging _ _ =>
      "Check that the staging directory is writable (see `staging_dir` in sharpcheck.yaml)."

end Failure

end UnitReview
