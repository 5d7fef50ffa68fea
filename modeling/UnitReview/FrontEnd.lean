import UnitReview.Analyzer
import UnitReview.Orchestrator

/-!
# The front end

The program that the user calls. It reads the command line, loads the settings, has the
orchestrator do the work and reports what came of it. It ends with 0 if all is well, with 1 if
the unit has errors, the analyzer is not built or a build fails, and with 2 if the command could
not be carried out.
-/

set_option autoImplicit false

namespace UnitReview

open CommandLine Host

namespace FrontEnd

/-! ## The command line -/

/-- What every command may be told. -/
structure GlobalArguments where
  config : Option OsText
  verbose : Nat
  deriving Repr, DecidableEq, Inhabited

/-- What the analysis is told. -/
structure AnalyzeArguments where
  path : Option OsText
  source : Option String
  displayName : Option String
  format : String
  deriving Repr, DecidableEq, Inhabited

/-- What the user wants. -/
inductive Task where
  | analyze (args : AnalyzeArguments)
  | status
  | build
  deriving Repr, DecidableEq, Inhabited

/-- A command line that has been understood. -/
structure Invocation where
  global : GlobalArguments
  task : Task
  deriving Repr, DecidableEq, Inhabited

/-- Options that may stand before and after a command. -/
def globalOptions : List OptionSpec :=
  [ ⟨"config", some 'c', .path, 0, "Path to config YAML file (default: auto-discover)", none⟩
  , Analyzer.verboseOption 1 ]

/-- The form that a result is shown in unless another one is asked for. -/
def standardFormat : String := "pretty"

/-- The command that analyzes. -/
def analyzeSpec : CommandSpec where
  name := "analyze"
  aliases := ["check"]
  about := "Analyze a C# file or inline source"
  options :=
    [ ⟨"source", some 's', .text, 0, "Inline source text to analyze instead of a file", none⟩
    , Analyzer.displayNameOption 1
    , ⟨"format", some 'f', .text, 2, "Output format: pretty or json", some standardFormat⟩ ] ++
    globalOptions ++ [helpOption]
  argument := some ⟨"path", .path, false, "C# file to analyze"⟩

/-- A command without arguments of its own. -/
def plainSpec (name about : String) : CommandSpec :=
  ⟨name, [], about, globalOptions ++ [helpOption], none⟩

/-- The command that says whether the analyzer is built. -/
def statusSpec : CommandSpec := plainSpec "status" "Report whether the analyzer is built"

/-- The command that builds the analyzer. -/
def buildSpec : CommandSpec := plainSpec "build" "Build the analyzer"

/-- The command line of the front end. -/
def spec : ProgramSpec where
  main := ⟨programName, [], Analyzer.about, globalOptions ++ [helpOption, versionOption], none⟩
  commands := [analyzeSpec, statusSpec, buildSpec]
  version := version

/-- What was given after the command wins over what was given before it. -/
def globalArguments (before after : Matches) : GlobalArguments :=
  ⟨after.value? "config" <|> before.value? "config",
    ((after.count? "verbose" <|> before.count? "verbose").getD 0)⟩

/-- Reads the command line. -/
def parse (args : List OsText) : Except UsageError Invocation := do
  let p ← read spec args
  match p.command with
  | none => throw (.missingCommand spec.main)
  | some (c, m) =>
      let global := globalArguments p.main m
      if c.name == analyzeSpec.name then
        pure ⟨global, .analyze ⟨m.value? "path", m.text? "source", m.text? "display-name",
          (m.text? "format").getD standardFormat⟩⟩
      else if c.name == statusSpec.name then pure ⟨global, .status⟩
      else pure ⟨global, .build⟩

/-! ## Commands -/

/-- What a command has shown and how it ended: with a code, or without settings. -/
structure Outcome where
  stdout : Styled
  stderr : Styled
  ending : Except SettingsError Nat

/-- All is well. -/
def exitSuccess : Nat := 0

/-- The work was done and its result is bad. -/
def exitFailed : Nat := 1

/-- The work could not be done. -/
def exitError : Nat := 2

/-- Output and an exit code. -/
def shown (out : Styled) (code : Nat) : Outcome := ⟨out, [], .ok code⟩

/-- A failure in words. -/
def refused (err : Styled) : Outcome := ⟨[], err, .ok exitError⟩

/-- The settings of a command. -/
def settings (m : Machine) (fs : FileSystem) (g : GlobalArguments) :
    Except SettingsError Settings :=
  Settings.load fs m.environment.cwd m.environment.configDir g.config

/-- What a report says it is about: the name, else the path. -/
def target (a : AnalyzeArguments) : String :=
  (a.displayName <|> a.path.map OsText.display).getD "<inline source>"

/-- Shows a result. -/
def present (a : AnalyzeArguments) (format : OutputFormat) (r : ReviewResult) : Outcome :=
  let out := match format with
    | .json => Report.json r
    | .pretty => Report.pretty (target a) r
  shown out (if r.errorCount > 0 then exitFailed else exitSuccess)

/-- Analyzes. The form is looked at first, then the request, then the settings. -/
def analyze (m : Machine) (fs : FileSystem) (g : GlobalArguments) (a : AnalyzeArguments) :
    Outcome × FileSystem :=
  match OutputFormat.parse a.format with
  | .error e => (refused (Styled.plain ("Error: " ++ e ++ "\n")), fs)
  | .ok format =>
      match Request.ofParts a.source a.path a.displayName with
      | .error f => (refused (Report.failure f), fs)
      | .ok request =>
          match settings m fs g with
          | .error e => (⟨[], [], .error e⟩, fs)
          | .ok s =>
              match (Orchestrator.mk s m).analyze fs request with
              | (.error f, fs) => (refused (Report.failure f), fs)
              | (.ok r, fs) => (present a format r, fs)

/-- Says whether the analyzer is built. -/
def status (m : Machine) (fs : FileSystem) (g : GlobalArguments) : Outcome :=
  match settings m fs g with
  | .error e => ⟨[], [], .error e⟩
  | .ok s =>
      let a := (Orchestrator.mk s m).status fs
      shown (Report.status a s.artifactPath.display)
        (if a = .built then exitSuccess else exitFailed)

/-- Builds the analyzer. -/
def build (m : Machine) (fs : FileSystem) (g : GlobalArguments) : Outcome × FileSystem :=
  match settings m fs g with
  | .error e => (⟨[], [], .error e⟩, fs)
  | .ok s =>
      let (o, fs) := (Orchestrator.mk s m).build fs
      (shown (Report.build o) (if o.success then exitSuccess else exitFailed), fs)

/-- Does what the user wants. -/
def run (m : Machine) (fs : FileSystem) (i : Invocation) : Outcome × FileSystem :=
  match i.task with
  | .analyze a => analyze m fs i.global a
  | .status => (status m fs i.global, fs)
  | .build => build m fs i.global

/-! ## The program -/

/-- How a process ends after a command. Missing settings are told last. -/
def finish (colored : Bool) (o : Outcome) : Finished :=
  let out := Text.encode (o.stdout.render colored)
  let err := Text.encode (o.stderr.render colored)
  match o.ending with
  | .ok code => ⟨some code, out, err⟩
  | .error e => ⟨some exitError, out, err ++ Analyzer.bytes ("Error: " ++ e.message ++ "\n")⟩

/-- The front end as a program. -/
def program (m : Machine) (colored : Bool) (args : List OsText) (fs : FileSystem) :
    Finished × FileSystem :=
  match parse args with
  | .error e => (Analyzer.explain spec e, fs)
  | .ok i =>
      let (o, fs) := run m fs i
      (finish colored o, fs)

end FrontEnd

end UnitReview
