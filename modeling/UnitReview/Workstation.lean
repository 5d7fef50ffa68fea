import UnitReview.Analyzer
import UnitReview.Shell.Interpreter

/-!
# A machine with a shell

The machine that requests are served on when no other is given: it has a shell, the usual
utilities and the analyzer. Scripts may start each other, up to a depth.
-/

set_option autoImplicit false

namespace UnitReview

open Host

namespace Workstation

/-! ## The shell as a program -/

/-- How the shell is called: its options, and what follows them. -/
def shellOptions : List String → List Char × List String
  | [] => ([], [])
  | a :: rest =>
      match a.toList with
      | '-' :: c :: cs =>
          let (os, ws) := shellOptions rest
          (c :: cs ++ os, ws)
      | _ => ([], a :: rest)

/-- The shell: a script comes from an argument, from a file or from the input. -/
def shell (around : Shell.Surroundings) : Program := fun call fs =>
  let (os, words) := shellOptions (call.args.map OsText.display)
  let begin_ (name : String) (args : List String) : Shell.Session :=
    { Shell.Session.start fs call.cwd call.stdin name.toList (args.map String.toList)
        (call.bindings.map fun b => (b.1.toList, b.2.toList)) with
      strict := os.contains 'e' }
  match os.contains 'c', words with
  | true, [] => (⟨some 2, [], Analyzer.bytes "sh: 0: -c requires an argument\n"⟩, fs)
  | true, script :: rest =>
      Shell.Interpreter.runScript around script.toList
        (begin_ (rest.head?.getD (Path.fileName call.name).display) (rest.drop 1))
  | false, [] =>
      Shell.Interpreter.runScript around (Text.decodeLossy call.stdin)
        { begin_ (Path.fileName call.name).display [] with inputs := #[[]] }
  | false, file :: args =>
      match fs.readFile call.cwd file with
      | .ok bs => Shell.Interpreter.runScript around (Text.decodeLossy bs) (begin_ file args)
      | .error _ =>
          (⟨some 2, [], Analyzer.bytes ("sh: 0: cannot open " ++ file ++ ": No such file\n")⟩, fs)

/-- A utility as a program. -/
def utility (u : Shell.Utility) : Program := fun call fs =>
  let s := Shell.Session.start fs call.cwd call.stdin call.name.display.toList
    (call.args.map (·.display.toList)) []
  let (status, s) := (u s.args).run s
  (⟨some status, s.written Shell.Session.outStream, s.written Shell.Session.errStream⟩, s.fs)

/-- Writes its arguments as they are. -/
def plainEcho : Shell.Utility := fun args => do
  let quiet := args.head? == some ['-', 'n']
  let t := [' '].intercalate (if quiet then args.drop 1 else args)
  Shell.Work.put (if quiet then t else t ++ ['\n'])
  pure 0

/-- Utilities that are programs of their own. -/
def separate : List (String × Shell.Utility) :=
  ("echo", plainEcho) :: (Shell.Utility.shared ++ Shell.Utility.separate)

/-- The utility of a name. -/
def utility? (name : String) : Option Program := (separate.lookup name).map utility

/-- Splits assignments from what follows them. -/
def assignments : List String → List (String × String) × List String
  | [] => ([], [])
  | a :: rest =>
      match Shell.Utility.assignment? a.toList with
      | some (name, v) =>
          let (bs, ws) := assignments rest
          ((String.ofList name, String.ofList v) :: bs, ws)
      | none => ([], a :: rest)

/-- Starts the program that its first operand names, with what the assignments before it say.
Without one, everything that programs are told is written. -/
def envProgram (m : Machine) : Program := fun call fs =>
  let (assigned, words) := assignments (call.args.map OsText.display)
  let kept := call.bindings.filter fun b => (assigned.lookup b.1).isNone
  match words with
  | [] =>
      let lines := (kept ++ assigned).map fun b => b.1 ++ "=" ++ b.2 ++ "\n"
      (⟨some 0, Analyzer.bytes (String.join lines), []⟩, fs)
  | name :: args =>
      let env : Environment := { m.environment with cwd := call.cwd, bindings := kept ++ assigned }
      match Process.runWith { m with environment := env } fs
        ⟨name, args.map OsText.ofString, none⟩ call.stdin with
      | (.ok f, fs) => (f, fs)
      | (.error e, fs) =>
          let reason := String.ofList (Shell.Utility.told e)
          (⟨some 127, [], Analyzer.bytes ("env: '" ++ name ++ "': " ++ reason ++ "\n")⟩, fs)

/-! ## The machine -/

/-- How a shell on a machine starts programs. -/
def around (m : Machine) : Shell.Surroundings where
  environment := m.environment
  start fs cwd told c stdin :=
    Process.runWith { m with environment := { m.environment with cwd := cwd, bindings := told } } fs
      c stdin

/-- The programs of the machine, where scripts may start each other up to a depth. -/
def programs (env : Environment) : Nat → String → Option Program
  | 0, name => if name = analyzerName then some Analyzer.program else utility? name
  | depth + 1, name =>
      let m : Machine := ⟨env, programs env depth, Storage.unlimited⟩
      if name = "sh" then some (shell (around m))
      else if name = "env" then some (envProgram m)
      else programs env depth name

/-- How deep scripts may start each other. -/
def depth : Nat := 8

/-- Where programs are looked up. -/
def searchPath : List OsText :=
  ["/usr/local/sbin", "/usr/local/bin", "/usr/sbin", "/usr/bin", "/sbin", "/bin"]

/-- The directory of a user's settings: named by a path from the root, or in the user's own
directory. -/
def configDir (told : List (String × String)) : Option OsText :=
  let dir (name : String) : Option OsText := (told.lookup name).map OsText.ofString
  (dir "XDG_CONFIG_HOME").filter Path.isAbsolute <|>
    ((dir "HOME").filter (!·.isEmpty)).map (Path.join · ".config")

/-- The machine for a working directory and what programs are told. -/
def machine (cwd : Host.Location) (told : List (String × String)) : Machine :=
  let env : Environment := ⟨cwd, configDir told, searchPath, told⟩
  ⟨env, programs env depth, Storage.unlimited⟩

/-- Puts the programs and the null device into a file system. -/
def install (fs : FileSystem) : FileSystem :=
  let dirs : List Host.Location := [["bin"], ["usr"], ["usr", "bin"], ["dev"]]
  let fs := dirs.foldl (fun fs d => fs.put d .directory) fs
  let names := ["sh", "env"] ++ Shell.Utility.shared.map (·.1) ++ Shell.Utility.separate.map (·.1)
  let fs := names.foldl (fun fs n =>
    (fs.put ["bin", n] (.file [] (.provided n))).put ["usr", "bin", n] (.file [] (.provided n))) fs
  fs.put ["dev", "null"] .sink

end Workstation

end UnitReview
