import UnitReview.FrontEnd
import UnitReview.Workstation

/-!
# The program

Reads the files that a command line speaks of, runs the front end on them and writes what it
says. The analyzer is not started as another process: where its artifact is found, the analyzer
in this library takes its place. Other programs are not started at all.
-/

set_option autoImplicit false

namespace UnitReview.Snapshot

open Host

/-- Puts an entry where a path leads to, with the directories above it. -/
def place (fs : FileSystem) (cwd : Host.Location) (path : OsText) (e : Entry) : FileSystem :=
  let origin := FileSystem.origin cwd path
  let names := Path.parts path
  let fs := (fs.makeDirectories origin names.dropLast.reverse).2
  match fs.follow origin names with
  | .ok l => fs.put l e
  | .error _ => fs

/-- Reads what a path leads to, if the path is a text. What cannot be read counts as missing. -/
def read (cwd : Host.Location) (mode : Mode) (fs : FileSystem) (path : OsText) :
    IO FileSystem := do
  try
    let bytes ← IO.FS.readBinFile path.display
    pure (place fs cwd path (.file bytes.toList mode))
  catch
    | .inappropriateType _ _ _ => pure (place fs cwd path .directory)
    | _ => pure fs

/-- What the program is told by its surroundings, as far as it matters. -/
def told : IO (List (String × String)) := do
  ["XDG_CONFIG_HOME", "HOME"].filterMapM fun name => do
    pure ((← IO.getEnv name).map fun value => (name, value))

/-- The files that a command line speaks of: settings first, then what they lead to. -/
def take (m : Machine) (fs : FileSystem) (i : FrontEnd.Invocation) : IO FileSystem := do
  let cwd := m.environment.cwd
  let places := match i.global.config with
    | some path => [path]
    | none => Settings.fileNames ++ (m.environment.configDir.map Settings.userFile).toList
  let fs ← places.foldlM (read cwd .plain) fs
  let input := match i.task with
    | .analyze a => a.path.toList
    | _ => []
  let fs ← input.foldlM (read cwd .plain) fs
  match FrontEnd.settings m fs i.global with
  | .ok s => read cwd (.provided analyzerName) fs s.artifactPath
  | .error _ => pure fs

end UnitReview.Snapshot

open UnitReview in
/-- The program. -/
def main (args : List String) : IO UInt32 := do
  let args := args.map Host.OsText.ofString
  let cwd := (Host.Path.parts (← IO.currentDir).toString).filter (fun n => !n.isEmpty)
  let m := Workstation.machine cwd (← Snapshot.told)
  let empty := Snapshot.place ⟨[]⟩ [] (Host.Location.path cwd) .directory
  let fs ← match FrontEnd.parse args with
    | .ok i => Snapshot.take m empty i
    | .error _ => pure empty
  let out ← IO.getStdout
  let colored := (← out.isTty) && (← IO.getEnv "NO_COLOR").isNone
  let (f, _) := FrontEnd.program m colored args fs
  out.write ⟨f.stdout.toArray⟩
  (← IO.getStderr).write ⟨f.stderr.toArray⟩
  pure (match f.code with
    | some n => UInt32.ofNat n.toNat
    | none => 1)
