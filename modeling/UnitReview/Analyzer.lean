import UnitReview.CommandLine.Reader
import UnitReview.Host.Process
import UnitReview.Report
import UnitReview.Review
import UnitReview.Settings

/-!
# The analyzer

The program that reviews one unit and writes the result as its document. Its input is a path if
it leads to anything, and source text otherwise. Nothing but the document goes to the output.
-/

set_option autoImplicit false

namespace UnitReview

open CommandLine Host

namespace Analyzer

/-- What the analyzer is told. -/
structure Arguments where
  input : String
  displayName : Option String
  verbose : Nat
  deriving Repr, DecidableEq, Inhabited

/-- What the program is about. -/
def about : String :=
  "Static analysis for C# source units - compiler diagnostics, code metrics and improvement suggestions"

/-- The argument that says what is reviewed. -/
def inputArgument : ArgumentSpec :=
  ⟨"input", .text, true, "Path to a C# file, or literal source text"⟩

/-- The option that names the unit. -/
def displayNameOption (order : Nat) : OptionSpec :=
  ⟨"display-name", none, .text, order, "Name used for the unit in diagnostic locations", none⟩

/-- The option that makes the log say more. -/
def verboseOption (order : Nat) : OptionSpec :=
  ⟨"verbose", some 'v', .count, order, "Increase log verbosity (-v, -vv)", none⟩

/-- The command line of the analyzer. -/
def spec : ProgramSpec where
  main :=
    { name := analyzerName
      aliases := []
      about := about
      options := [displayNameOption 0, verboseOption 1, helpOption, versionOption]
      argument := some inputArgument }
  commands := []
  version := version

/-- Reads the command line. -/
def parse (args : List OsText) : Except UsageError Arguments := do
  let p ← read spec args
  pure ⟨(p.main.text? "input").getD "", p.main.text? "display-name",
    (p.main.count? "verbose").getD 0⟩

/-- Text as bytes. -/
def bytes (s : String) : Text.Bytes := Text.encode s.toList

/-- A program that only says how it is used. -/
def explain (p : ProgramSpec) (e : UsageError) : Finished :=
  if e.isRequest then ⟨some 0, bytes (e.message p), []⟩ else ⟨some 2, [], bytes (e.message p)⟩

/-- Writes a result, or why there is none. -/
def report : Except ReviewError ReviewResult → Finished
  | .ok r => ⟨some 0, Text.encode (r.toJson ++ ['\n']), []⟩
  | .error e => ⟨some 2, [], bytes ("Error: " ++ e.message ++ "\n")⟩

/-- A reviewer as a program. -/
def programOf (reviewer : Reviewer) : Program := fun call fs =>
  match parse call.args with
  | .error e => (explain spec e, fs)
  | .ok a => (report (reviewer.reviewInput fs call.cwd a.input a.displayName), fs)

/-- The analyzer as a program. -/
def program : Program := programOf Reviewer.standard

end Analyzer

end UnitReview
