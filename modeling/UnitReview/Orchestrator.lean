import UnitReview.Host.Process
import UnitReview.Report
import UnitReview.Request
import UnitReview.Review
import UnitReview.Settings
import UnitReview.Staging
import UnitReview.Wire.Reader

/-!
# Serving requests

The analyzer is a program of its own. The orchestrator says whether it is there, builds it, and
serves each request with one run of it: the input is staged, the analyzer is started on it, the
staged file is removed, and what the analyzer has written is read as a result.
-/

set_option autoImplicit false

namespace UnitReview

open Host

/-- Settings and the machine they are used on. -/
structure Orchestrator where
  settings : Settings
  machine : Machine

namespace Orchestrator

/-- The working directory. -/
def cwd (o : Orchestrator) : Host.Location := o.machine.environment.cwd

/-- Whether the analyzer is there: asked anew every time. -/
def status (o : Orchestrator) (fs : FileSystem) : Availability :=
  if fs.isFile o.cwd o.settings.artifactPath then .built else .notBuilt

/-! ## Building -/

/-- The command that builds the analyzer in its project. -/
def buildCommand (o : Orchestrator) : Command :=
  ⟨o.settings.buildCommand.program, o.settings.buildCommand.args.map OsText.ofString,
    some o.settings.projectPath⟩

/-- Bytes as text. -/
def lossy (bs : Text.Bytes) : String := String.ofList (Text.decodeLossy bs)

/-- What a build came to; a failure to start is an outcome too. -/
def buildOutcome (program : String) : Except SystemError Finished → BuildOutcome
  | .ok f => ⟨f.success, lossy f.stdout ++ lossy f.stderr⟩
  | .error e => ⟨false, "failed to start `" ++ program ++ "`: " ++ e.message⟩

/-- Builds the analyzer. -/
def build (o : Orchestrator) (fs : FileSystem) : BuildOutcome × FileSystem :=
  let (r, fs) := Process.run o.machine fs o.buildCommand
  (buildOutcome o.settings.buildCommand.program r, fs)

/-! ## Serving a request -/

/-- What the analyzer is started with: the input and, if there is one, the name for it. -/
def arguments (path : OsText) (name : Option String) : List OsText :=
  path :: (match name with
    | some n => ["--display-name", n]
    | none => [])

/-- The command for an input. -/
def analyzeCommand (o : Orchestrator) (path : OsText) (name : Option String) : Command :=
  ⟨o.settings.artifactPath, arguments path name, none⟩

/-- The name that the analyzer is given: a source text always has one. -/
def nameFor (r : Request) : Option String :=
  match r.input with
  | .source _ => some (r.displayName.getD Reviewer.defaultName)
  | .file _ => r.displayName

/-- Stages the input of a request. A file has to be there. -/
def stage (o : Orchestrator) (fs : FileSystem) (r : Request) :
    Except Failure StagedInput × FileSystem :=
  match r.input with
  | .source s => StagedInput.ofSource o.machine.storage fs o.cwd o.settings.stagingPath s
  | .file p =>
      if fs.isFile o.cwd p then (.ok (.persistent p), fs)
      else (.error (.validation (p.display ++ " is not an existing file")), fs)

/-- The result in what the analyzer has written. Only a process that ends well is read. -/
def readResult (artifact : OsText) : Except SystemError Finished → Except Failure ReviewResult
  | .error e => .error (.spawn artifact e)
  | .ok f =>
      if f.success then
        let raw := lossy f.stdout
        match ReviewResult.parse raw.toList with
        | .ok r => .ok r
        | .error m => .error (.resultParse raw m)
      else .error (.processExit f.code (lossy f.stderr))

/-- Serves a request. -/
def analyze (o : Orchestrator) (fs : FileSystem) (r : Request) :
    Except Failure ReviewResult × FileSystem :=
  match o.status fs with
  | .notBuilt => (.error (.notBuilt o.settings.artifactPath), fs)
  | .built =>
      match o.stage fs r with
      | (.error f, fs) => (.error f, fs)
      | (.ok staged, fs) =>
          let (out, fs) := Process.run o.machine fs (o.analyzeCommand staged.path (nameFor r))
          (readResult o.settings.artifactPath out, staged.release fs o.cwd)

end Orchestrator

end UnitReview
