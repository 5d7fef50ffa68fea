import UnitReview.Failure
import UnitReview.Result
import UnitReview.Terminal.Styled
import UnitReview.Text.Lines
import UnitReview.Wire.Writer

/-!
# Reports

How results, the state of the analyzer, builds and failures are shown to a person. Each report
is styled text; whether styles are printed is decided when it is rendered.
-/

set_option autoImplicit false

namespace UnitReview

/-- The version shown in reports. -/
def version : String := "0.1.0"

/-- The name of the program. -/
def programName : String := "sharpcheck"

/-- The forms in which a result can be shown. -/
inductive OutputFormat where
  | pretty
  | json
  deriving Repr, DecidableEq, Inhabited

namespace OutputFormat

/-- The name of a form. -/
def name : OutputFormat → String
  | .pretty => "Pretty"
  | .json => "Json"

/-- Reads a form without regard to letter case; the error is the message for the user. -/
def parse (s : String) : Except String OutputFormat :=
  let word := Text.lower s.toList
  if word = "pretty".toList || word = "text".toList then .ok .pretty
  else if word = "json".toList then .ok .json
  else .error ("unknown format '" ++ s ++ "' (expected pretty or json)")

end OutputFormat

/-- Whether the analyzer is there. -/
inductive Availability where
  | notBuilt
  | built
  deriving Repr, DecidableEq, Inhabited

/-- The words for the state of the analyzer. -/
def Availability.describe : Availability → String
  | .notBuilt => "not built"
  | .built => "built"

/-- What a build came to. A build that fails is an outcome like any other. -/
structure BuildOutcome where
  success : Bool
  output : String
  deriving Repr, DecidableEq, Inhabited

namespace Report

open Styled

/-- The head of a report. -/
def header : Styled :=
  plain "\n  " ++ styled ⟨true, false, some .cyan⟩ programName.toList ++
    plain (" v" ++ version ++ "\n\n")

/-- The colour of a complexity: green up to 10, yellow up to 20, red above. -/
def complexityStyle (c : Nat) : Style :=
  if c ≤ 10 then .of .green else if c ≤ 20 then .of .yellow else .of .red

/-- A count in a style. -/
def count (style : Style) (n : Nat) : Styled := styled style (toString n).toList

/-- The line of metrics. -/
def metricsLine (m : Metrics) : Styled :=
  plain "  Classes: " ++ count .heavy m.classes ++ plain "  Methods: " ++ count .heavy m.methods
    ++ plain "  Lines: " ++ count .heavy m.lines
    ++ plain "  Complexity: " ++ count (complexityStyle m.complexity) m.complexity ++ newLine

/-- The tag of a severity. -/
def severityTag (s : Severity) : Styled :=
  plain "    " ++
    (match s with
      | .error => styled (.of .red) "ERROR".toList
      | .warning => styled (.of .yellow) "WARN ".toList
      | .info | .hidden => styled (.of .blue) "INFO ".toList) ++ plain " "

/-- Where a diagnostic points to. -/
def place (l : Location) : Styled :=
  styled (.of .blue) l.file.toList
    ++ styled .faint (":" ++ toString l.line ++ ":" ++ toString l.column).toList

/-- One diagnostic. -/
def diagnostic (d : Diagnostic) : Styled :=
  severityTag d.severity ++ plain "   " ++ [⟨.faint, 10, d.id.toList⟩]
    ++ (match d.location with
      | some l => place l
      | none => [])
    ++ newLine ++ plain "            " ++ plain d.message ++ plain "\n\n"

/-- A heading with a number of entries. -/
def heading (title : String) (n : Nat) : Styled :=
  plain "  " ++ styled .heavy title.toList ++ plain (" (" ++ toString n ++ "):\n\n")

/-- The style of a category's tag. -/
def categoryStyle : Category → Style
  | .basic => .plain
  | .security => .of .red
  | .performance => .of .yellow
  | .linq => .of .blue

/-- A suggestion without the mark of its category; the tag tells it already. -/
def withoutMark (s : String) (c : Category) : Text :=
  match c.mark? with
  | some m =>
      if m.toList.isPrefixOf s.toList then Text.trimStart (s.toList.drop m.toList.length)
      else s.toList
  | none => s.toList

/-- One suggestion. -/
def suggestion (s : String) : Styled :=
  let c := Category.ofSuggestion s
  plain "    " ++ styled (categoryStyle c) (Piece.fill 12 c.name.toList) ++ plain " "
    ++ styled .plain (withoutMark s c) ++ newLine

/-- The diagnostics of a result, if there are any. -/
def diagnostics (ds : List Diagnostic) : Styled :=
  if ds.isEmpty then [] else heading "Diagnostics" ds.length ++ ds.flatMap diagnostic ++ newLine

/-- The suggestions of a result, if there are any. -/
def suggestions (ss : List String) : Styled :=
  if ss.isEmpty then [] else heading "Suggestions" ss.length ++ ss.flatMap suggestion ++ newLine

/-- The line for a result that finds nothing. -/
def noFindings (r : ReviewResult) : Styled :=
  if r.diagnostics.isEmpty && r.suggestions.isEmpty then
    plain "  " ++ styled (.of .green) "✓ No findings".toList ++ plain "\n\n"
  else []

/-- A result for a person to read. -/
def pretty (target : String) (r : ReviewResult) : Styled :=
  header ++ plain "  " ++ styled .faint "Analyzed: ".toList ++ plain target ++ plain "\n\n"
    ++ metricsLine r.metrics ++ newLine
    ++ diagnostics r.diagnostics ++ suggestions r.suggestions ++ noFindings r

/-- A result as its document. -/
def json (r : ReviewResult) : Styled := styled .plain r.toJson ++ newLine

/-- The state of the analyzer. -/
def status (a : Availability) (artifact : String) : Styled :=
  (match a with
    | .built => plain "  " ++ styled (.of .green) "✓".toList ++ plain " analyzer is built\n"
    | .notBuilt =>
        plain "  " ++ styled (.of .red) "✗".toList ++ plain " analyzer is not built\n    "
          ++ styled .faint "run `sharpcheck build` to build it".toList ++ newLine)
    ++ plain "    " ++ styled .faint ("artifact: " ++ artifact).toList ++ newLine

/-- Lines of foreign output, faint and moved in. -/
def quotedLines (t : Text) : Styled :=
  t.lines.flatMap fun l => plain "    " ++ styled .faint l ++ newLine

/-- The outcome of a build. -/
def build (o : BuildOutcome) : Styled :=
  (if Text.isBlankText o.output.toList then [] else quotedLines o.output.toList ++ newLine)
    ++ plain "  "
    ++ (if o.success then styled (.of .green) "✓ Build succeeded".toList
      else styled (.of .red) "✗ Build failed".toList) ++ newLine

/-- What a failing process or an unreadable document said. -/
def failureDetail : Failure → Styled
  | .processExit _ stderr =>
      if Text.isBlankText stderr.toList then [] else newLine ++ quotedLines stderr.toList
  | .resultParse raw _ =>
      newLine ++ plain "  " ++ styled .faint "Raw analyzer output:".toList ++ newLine
        ++ quotedLines raw.toList
  | _ => []

/-- A failure with its hint. -/
def failure (f : Failure) : Styled :=
  styled ⟨true, false, some .red⟩ "Error:".toList ++ plain (" " ++ f.message ++ "\n")
    ++ failureDetail f
    ++ styled (.of .yellow) "Hint:".toList ++ plain (" " ++ f.hint ++ "\n")

end Report

end UnitReview
