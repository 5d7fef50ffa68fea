import UnitReview.Host.FileSystem

/-!
# Programs and processes

A machine has an environment and a number of programs. A command is started in three steps: its
directory is entered, its program is looked up, and the file that was found is run. A name with a
slash is used as a path; one without is looked up in the directories of the search path, never in
the working directory. A file that holds a script names the program that runs it in its first
line.
-/

set_option autoImplicit false

namespace UnitReview.Host

/-- The surroundings of a process. -/
structure Environment where
  /-- The working directory. -/
  cwd : Location
  /-- The directory of the user's settings. -/
  configDir : Option OsText
  /-- The directories in which programs are looked up. -/
  searchPath : List OsText
  /-- Names and values that programs are told. -/
  bindings : List (String × String)
  deriving Repr, DecidableEq, Inhabited

/-- What is to be started. -/
structure Command where
  program : OsText
  args : List OsText
  /-- Where it runs, if not in the working directory. -/
  directory : Option OsText
  deriving Repr, DecidableEq, Inhabited

/-- What a process came to. -/
structure Finished where
  /-- The exit code; none if the process was killed. -/
  code : Option Int
  stdout : Text.Bytes
  stderr : Text.Bytes
  deriving Repr, DecidableEq, Inhabited

/-- Whether a process ended well. -/
def Finished.success (f : Finished) : Bool := f.code == some 0

/-- How a program is called. -/
structure Call where
  /-- The name that it is called by. -/
  name : OsText
  args : List OsText
  cwd : Location
  stdin : Text.Bytes
  bindings : List (String × String)
  deriving Repr, DecidableEq, Inhabited

/-- A program turns a call into an outcome and may change files. -/
abbrev Program := Call → FileSystem → Finished × FileSystem

/-- What tells the names of new files apart: six letters and digits. -/
structure Draw where
  text : String
  isDraw : text.length = 6 ∧ text.toList.all Char.isAlphanum = true

/-- The last six digits of a number. -/
def Draw.ofNumber (n : Nat) : Draw where
  text := String.ofList ([100000, 10000, 1000, 100, 10, 1].map fun k => (n / k % 10).digitChar)
  isDraw := by simp [Char.isAlphanum, Nat.mod_lt]

/-- Where new files are kept. -/
structure Storage where
  /-- What is said to bytes that are to be written to a new file. -/
  accept : Text.Bytes → Except SystemError Unit
  /-- What is said to bytes that were written and are to be on disk. -/
  flush : Text.Bytes → Except SystemError Unit
  /-- What is drawn for the name of a new file, one draw after the other. -/
  draw : Nat → Draw

/-- Storage that takes everything and draws numbers from 0 on. -/
def Storage.unlimited : Storage := ⟨fun _ => .ok (), fun _ => .ok (), Draw.ofNumber⟩

/-- A machine: an environment, the programs that files of its file system may stand for, and its
storage. -/
structure Machine where
  environment : Environment
  programs : String → Option Program
  storage : Storage

namespace Process

/-! ## Looking programs up -/

/-- A file is no program that the system knows how to run. -/
def wrongFormat : SystemError := .os 8

/-- A script's program is itself a script, and so on. -/
def tooDeep : SystemError := .os 40

/-- A command holds the byte that ends texts for the system. -/
def holdsNul : SystemError := .other "nul byte found in provided data"

/-- Whether a path leads to a file that may be run. -/
def check (fs : FileSystem) (cwd : Location) (path : OsText) : Except SystemError Unit := do
  match ← fs.find cwd path with
  | (_, .file _ .plain) => .error .denied
  | (_, .file _ _) => .ok ()
  | _ => .error .denied

/-- Looks a name up in directories. A file that may not be run is passed over, but remembered. -/
def search (fs : FileSystem) (cwd : Location) (name : OsText) :
    List OsText → SystemError → Except SystemError OsText
  | [], e => .error e
  | dir :: dirs, e =>
      let path := Path.join dir name
      match check fs cwd path with
      | .ok () => .ok path
      | .error e' => search fs cwd name dirs (if e' == .denied then .denied else e)

/-- The path of a program. -/
def lookUp (env : Environment) (fs : FileSystem) (cwd : Location) (name : OsText) :
    Except SystemError OsText :=
  if name.isEmpty then .error .notFound
  else if name.bytes.contains Path.slash then .ok name
  else search fs cwd name env.searchPath .notFound

/-! ## Running files -/

/-- The byte that ends a line. -/
def lineFeed : UInt8 := 0x0A

/-- Whether a byte is a space or a tab. -/
def isSpace (b : UInt8) : Bool := b == 0x20 || b == 0x09

/-- The program that a script names after `#!` in its first line, with at most one argument. -/
def interpreter? (content : Text.Bytes) : Option (OsText × Option OsText) :=
  match content.takeWhile (· != lineFeed) with
  | 0x23 :: 0x21 :: line =>
      let line := line.dropWhile isSpace
      let rest := (line.dropWhile (!isSpace ·)).dropWhile isSpace
      let arg := (rest.reverse.dropWhile isSpace).reverse
      if line.isEmpty then none
      else some (⟨line.takeWhile (!isSpace ·)⟩, if arg.isEmpty then none else some ⟨arg⟩)
  | _ => none

/-- The program that runs the file at a path, and what it is called with. -/
def program (m : Machine) (fs : FileSystem) (cwd : Location) :
    Nat → OsText → List OsText → Except SystemError (Program × OsText × List OsText)
  | 0, _, _ => .error tooDeep
  | fuel + 1, path, args => do
      check fs cwd path
      match ← fs.find cwd path with
      | (_, .file _ (.provided name)) =>
          match m.programs name with
          | some p => .ok (p, path, args)
          | none => .error wrongFormat
      | (_, .file content _) =>
          match interpreter? content with
          | some (interpreter, arg) =>
              program m fs cwd fuel interpreter (arg.toList ++ path :: args)
          | none => .error wrongFormat
      | _ => .error .denied

/-- Number of scripts that may run each other. -/
def scriptDepth : Nat := 5

/-- The directory that a command runs in. -/
def enter (fs : FileSystem) (cwd : Location) : Option OsText → Except SystemError Location
  | none => .ok cwd
  | some dir => do
      match ← fs.find cwd dir with
      | (l, .directory) => .ok l
      | _ => .error .notDirectory

/-- The program of a command and its call. -/
def prepare (m : Machine) (fs : FileSystem) (c : Command) (stdin : Text.Bytes) :
    Except SystemError (Program × Call) := do
  if (c.program :: c.args ++ c.directory.toList).any OsText.hasNul then throw holdsNul
  let cwd ← enter fs m.environment.cwd c.directory
  let path ← lookUp m.environment fs cwd c.program
  let (p, name, args) ← program m fs cwd scriptDepth path c.args
  pure (p, ⟨name, args, cwd, stdin, m.environment.bindings⟩)

/-- Starts a command with input and waits for its end. -/
def runWith (m : Machine) (fs : FileSystem) (c : Command) (stdin : Text.Bytes) :
    Except SystemError Finished × FileSystem :=
  match prepare m fs c stdin with
  | .error e => (.error e, fs)
  | .ok (p, call) =>
      let (f, fs) := p call fs
      (.ok f, fs)

/-- Starts a command without input and waits for its end. -/
def run (m : Machine) (fs : FileSystem) (c : Command) :
    Except SystemError Finished × FileSystem :=
  runWith m fs c []

end Process

end UnitReview.Host
