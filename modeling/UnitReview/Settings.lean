import UnitReview.Host.FileSystem
import UnitReview.Yaml.Decoder

/-!
# Settings

Settings say where the analyzer's project is, where its artifact is expected, where source text
is staged, and how the analyzer is built. All of them may be left out. They come from a file that
the user names, or from one of the usual places.
-/

set_option autoImplicit false

namespace UnitReview

open Host (OsText)

/-- A command that builds the analyzer. -/
structure BuildCommand where
  program : String
  args : List String
  deriving Repr, DecidableEq, Inhabited

/-- Settings; what is left out has a default. -/
structure Settings where
  projectDir : Option OsText
  artifact : Option OsText
  stagingDir : Option OsText
  build : Option BuildCommand
  deriving Repr, DecidableEq, Inhabited

/-- Why there are no settings. -/
inductive SettingsError where
  | unreadable (path : OsText) (cause : SystemError)
  | invalid (path : OsText) (fault : Yaml.Fault)
  deriving Repr, DecidableEq

/-- The failure in words, outermost context first. -/
def SettingsError.message : SettingsError → String
  | .unreadable path e => "Failed to read config " ++ path.display ++ ": " ++ e.message
  | .invalid path f => "Invalid config " ++ path.display ++ ": " ++ f.message

/-- The name of the analyzer's program. -/
def analyzerName : String := "sharpcheck-analyzer"

/-- The command that builds the analyzer unless another one is set. -/
def BuildCommand.standard : BuildCommand :=
  ⟨"cargo", ["build", "--release", "--bin", analyzerName]⟩

namespace Settings

/-- Settings that leave everything out. -/
def empty : Settings := ⟨none, none, none, none⟩

/-! ## What is set -/

/-- Where the analyzer's project is. -/
def projectPath (s : Settings) : OsText := s.projectDir.getD "."

/-- A path is relative to the project's. -/
def inProject (s : Settings) (path : OsText) : OsText := Host.Path.join s.projectPath path

/-- Where the analyzer is expected. -/
def artifactPath (s : Settings) : OsText :=
  s.inProject (s.artifact.getD ("target/release/" ++ analyzerName : String))

/-- Where source text is staged. -/
def stagingPath (s : Settings) : OsText := s.inProject (s.stagingDir.getD ".sharpcheck/staging")

/-- How the analyzer is built. -/
def buildCommand (s : Settings) : BuildCommand := s.build.getD .standard

/-! ## Reading -/

open Yaml

/-- Fields of a build command as they are read. -/
structure BuildFields where
  program : Option String
  args : Option (List String)

/-- One field of a build command. -/
def buildField (s : BuildFields) (key : String) : Decoder BuildFields := fun d path p => do
  match key with
  | "program" => do
      let (v, p) ← Decoder.once s.program key (Decoder.text "a string") d path p
      pure ({ s with program := v }, p)
  | "args" => do
      let (v, p) ← Decoder.once s.args key (Decoder.sequence (Decoder.text "a string")) d path p
      pure ({ s with args := v }, p)
  | _ => do
      let (_, p) ← Decoder.ignored d path p
      pure (s, p)

/-- A build command. -/
def decodeBuild : Decoder BuildCommand :=
  Decoder.record "struct BuildConfig" ⟨none, none⟩ buildField fun s => do
    pure ⟨← Decoder.required "program" s.program, s.args.getD []⟩

/-- Fields of settings as they are read. -/
structure Fields where
  projectDir : Option (Option String)
  artifact : Option (Option String)
  stagingDir : Option (Option String)
  build : Option (Option BuildCommand)

/-- A path that may be missing. -/
def decodePath : Decoder (Option String) := Decoder.optional (Decoder.text "path string")

/-- One field of settings. -/
def field (s : Fields) (key : String) : Decoder Fields := fun d path p => do
  match key with
  | "project_dir" => do
      let (v, p) ← Decoder.once s.projectDir key decodePath d path p
      pure ({ s with projectDir := v }, p)
  | "artifact" => do
      let (v, p) ← Decoder.once s.artifact key decodePath d path p
      pure ({ s with artifact := v }, p)
  | "staging_dir" => do
      let (v, p) ← Decoder.once s.stagingDir key decodePath d path p
      pure ({ s with stagingDir := v }, p)
  | "build" => do
      let (v, p) ← Decoder.once s.build key (Decoder.optional decodeBuild) d path p
      pure ({ s with build := v }, p)
  | _ => do
      let (_, p) ← Decoder.ignored d path p
      pure (s, p)

/-- Settings from a document. -/
def decode : Decoder Settings :=
  Decoder.record "struct AnalyzerConfig" ⟨none, none, none, none⟩ field fun s =>
    .ok ⟨s.projectDir.join.map OsText.ofString, s.artifact.join.map OsText.ofString,
      s.stagingDir.join.map OsText.ofString, s.build.join⟩

/-- Settings from the text of a file. -/
def ofText (cs : Text) : Except Fault Settings := decode.run cs

/-- Settings from the file that a path leads to. -/
def ofFile (fs : Host.FileSystem) (cwd : Host.Location) (path : OsText) :
    Except SettingsError Settings :=
  match fs.readText cwd path with
  | .error e => .error (.unreadable path e)
  | .ok cs => (ofText cs).mapError (.invalid path)

/-! ## Finding -/

/-- The names that a settings file may have. -/
def fileNames : List OsText := ["sharpcheck.yaml", ".sharpcheck.yaml"]

/-- The settings file of a user, by the directory of the user's settings. -/
def userFile (configDir : OsText) : OsText :=
  Host.Path.join (Host.Path.join configDir "sharpcheck") "sharpcheck.yaml"

/-- The settings file to use if the user names none: one in the working directory, else the
user's own. -/
def discover (fs : Host.FileSystem) (cwd : Host.Location) (configDir : Option OsText) :
    Option OsText :=
  (fileNames ++ (configDir.map userFile).toList).find? (fs.pathExists cwd)

/-- Settings from the named file, or from the one that is found, or none at all. -/
def load (fs : Host.FileSystem) (cwd : Host.Location) (configDir : Option OsText)
    (named : Option OsText) : Except SettingsError Settings :=
  match named <|> discover fs cwd configDir with
  | some path => ofFile fs cwd path
  | none => .ok empty

end Settings

end UnitReview
