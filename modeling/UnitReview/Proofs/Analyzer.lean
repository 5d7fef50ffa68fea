import UnitReview.Analyzer
import UnitReview.Orchestrator
import UnitReview.Proofs.CommandLine.Reader

/-!
# What the analyzer makes of its arguments

The orchestrator gives the analyzer a path and, for some requests, a name. Where the path is a text
and neither can be taken for an option, the analyzer reads exactly these two. A path that is no text
is refused.
-/

set_option autoImplicit false

namespace UnitReview.Analyzer

open CommandLine Host

/-- The state after the first word: it is kept back as the argument. -/
def afterInput (path : OsText) : Reading :=
  ⟨Matches.empty, some ⟨"input", inputArgument.display, .text, some path⟩, false, false, true⟩

/-- The state after the name: the argument has been taken, and the name is kept back. -/
def afterName (path name : OsText) : Reading :=
  ⟨⟨[("input", path)], []⟩,
    some ⟨"display-name", (displayNameOption 0).display, .text, some name⟩, false, false, true⟩

theorem readArguments_input {path : OsText} (hpath : Shape.of path = .word) (rest : List OsText) :
    readArguments spec spec.main true Reading.start (path :: rest) =
      readArguments spec spec.main true (afterInput path) rest := by
  have hsettle : Reading.start.settle spec.main = .ok Reading.start := rfl
  rw [readArguments_argument (a := inputArgument) rfl rfl hpath rfl rfl rfl hsettle]
  rfl

theorem readArguments_displayName {path name : OsText} (hpath : path.isText = true)
    (hname : Shape.of name = .word) :
    readArguments spec spec.main true (afterInput path) ["--display-name", name] =
      readArguments spec spec.main true (afterName path name) [] := by
  rw [readArguments_option (o := displayNameOption 0) rfl rfl rfl rfl rfl
    (settle_text rfl rfl hpath), readArguments_value hname rfl rfl rfl]
  rfl

/-- What is kept back at the end is taken, and then the command line has been read. -/
theorem parse_of_readArguments {args : List OsText} {r r' : Reading}
    (hread : readArguments spec spec.main true Reading.start args = .ok (r, none))
    (hsettle : r.settle spec.main = .ok r')
    (hinput : requireArgument spec.main r'.found = .ok ()) :
    parse args = .ok ⟨(r'.found.text? "input").getD "", r'.found.text? "display-name",
      (r'.found.count? "verbose").getD 0⟩ := by
  unfold parse CommandLine.read
  simp only [hread, bind, Except.bind, hsettle, hinput, pure, Except.pure]
  rfl

/-- **The analyzer reads back what it is started with**, if that holds no option. -/
theorem parse_arguments {path : String} {name : Option String} (hpath : Shape.of path = .word)
    (hname : ∀ n, name = some n → Shape.of (OsText.ofString n) = .word) :
    parse (Orchestrator.arguments path name) = .ok ⟨path, name, 0⟩ := by
  have htext : ∀ s : String, (OsText.ofString s).isText = true :=
    fun s => OsText.isText_iff.2 ⟨s, rfl⟩
  cases name with
  | none =>
      rw [Orchestrator.arguments, parse_of_readArguments (readArguments_input hpath [])
        (settle_text rfl rfl (htext path)) rfl]
      simp [Matches.text?, Matches.value?, Matches.count?, Matches.empty, List.lookup_cons,
        afterInput]
  | some n =>
      have hread := (readArguments_input hpath ["--display-name", n]).trans
        (readArguments_displayName (htext path) (hname n rfl))
      rw [Orchestrator.arguments, parse_of_readArguments hread
        (settle_text rfl rfl (htext n)) rfl]
      simp [Matches.text?, Matches.value?, Matches.count?, List.lookup_cons, afterName]

/-- **An input that is no text is refused**, with or without a name. -/
theorem parse_arguments_invalid {path : OsText} (hpath : Shape.of path = .word)
    (htext : path.isText = false) (name : Option String) :
    parse (Orchestrator.arguments path name) = .error (.invalidText spec.main) := by
  have hsettle : (afterInput path).settle spec.main = .error (.invalidText spec.main) :=
    settle_invalid rfl rfl htext
  unfold parse CommandLine.read
  cases name with
  | none =>
      have hread : readArguments spec spec.main true Reading.start [path] =
          .ok (afterInput path, none) := readArguments_input hpath []
      rw [Orchestrator.arguments, hread]
      simp only [bind, Except.bind, pure, Except.pure, hsettle]
  | some n =>
      have hread : readArguments spec spec.main true Reading.start
          [path, "--display-name", n] = .error (.invalidText spec.main) :=
        (readArguments_input hpath _).trans
          (readArguments_option_refused (o := displayNameOption 0) rfl rfl rfl rfl rfl hsettle)
      rw [Orchestrator.arguments, hread]
      rfl

end UnitReview.Analyzer
