import UnitReview.Host.Process
import UnitReview.Shell.Syntax

/-!
# A shell at work

What a shell keeps while it carries out a script: files, the working directory, parameters, and
where its three descriptors lead. Output goes to numbered streams, so that what a command writes
can be caught and given to another one. Names and arguments that are no texts are taken for what is
shown of them.
-/

set_option autoImplicit false

namespace UnitReview.Shell

open Host

/-- Where output goes. -/
inductive Target where
  | stream (number : Nat)
  | file (location : Host.Location)
  | nowhere
  deriving Repr, DecidableEq, Inhabited

/-- State of a shell. -/
structure Session where
  fs : FileSystem
  cwd : Host.Location
  /-- The name of the script. -/
  name : Text
  args : List Text
  bindings : List (Text × Text)
  /-- The names that other programs are told. -/
  exported : List Text
  /-- Functions with the documents of the scripts that define them. -/
  functions : List (Text × Command × Array Word)
  /-- What is carried out when the shell ends. -/
  farewell : Option Text
  /-- The status of the last command. -/
  status : Nat
  /-- The line of the last command. -/
  line : Nat
  /-- Number of loops that are open. -/
  loops : Nat
  /-- Whether the first failure ends the script. -/
  strict : Bool
  /-- Whether a parameter has to be set. -/
  needsValues : Bool
  /-- Whether a word could not be expanded, which ends the script. -/
  aborted : Bool
  outputs : Array Text.Bytes
  inputs : Array Text.Bytes
  /-- The number of the input that is read. -/
  stdin : Nat
  stdout : Target
  stderr : Target
  deriving Repr, Inhabited

/-- A part of the shell's work. -/
abbrev Work (α : Type) := StateM Session α

namespace Session

/-- The stream that a process writes its output to. -/
def outStream : Nat := 0

/-- The stream that a process writes its errors to. -/
def errStream : Nat := 1

/-- The number of the process. -/
def processNumber : Text := "4711".toList

/-- The variable that holds the working directory. -/
def cwdName : Text := "PWD".toList

/-- A shell that is about to carry out a script. -/
def start (fs : FileSystem) (cwd : Host.Location) (stdin : Text.Bytes) (name : Text)
    (args : List Text) (told : List (Text × Text)) : Session :=
  { fs := fs
    cwd := cwd
    name := name
    args := args
    bindings := (cwdName, (Host.Location.path cwd).display.toList) :: told
    exported := told.map (·.1)
    functions := []
    farewell := none
    status := 0
    line := 1
    loops := 0
    strict := false
    needsValues := false
    aborted := false
    outputs := #[[], []]
    inputs := #[stdin]
    stdin := 0
    stdout := .stream outStream
    stderr := .stream errStream }

/-- What has been written to a stream. -/
def written (s : Session) (n : Nat) : Text.Bytes := (s.outputs[n]?).getD []

/-- Writes bytes to a target. -/
def write (s : Session) (t : Target) (bs : Text.Bytes) : Session :=
  match t with
  | .stream n => { s with outputs := s.outputs.modify n (· ++ bs) }
  | .nowhere => s
  | .file l =>
      match s.fs.get? l with
      | some (.file old mode) => { s with fs := s.fs.put l (.file (old ++ bs) mode) }
      | _ => s

/-- The value of a variable. -/
def assigned? (s : Session) (name : Text) : Option Text := s.bindings.lookup name

/-- Sets a variable. -/
def assign (s : Session) (name value : Text) : Session :=
  { s with bindings := (name, value) :: s.bindings.filter (·.1 != name) }

/-- A number as text. -/
def number (n : Nat) : Text := (toString n).toList

/-- What is told to other programs. -/
def told (s : Session) : List (String × String) :=
  (s.exported.eraseDups.reverse).filterMap fun n =>
    (s.assigned? n).map fun v => (String.ofList n, String.ofList v)

/-- Takes a variable away. -/
def unset (s : Session) (name : Text) : Session :=
  { s with bindings := s.bindings.filter (·.1 != name) }

/-- Tells a variable to other programs. -/
def tell (s : Session) (name : Text) : Session := { s with exported := name :: s.exported }

/-- The value of a parameter; `none` if it is not set. -/
def parameter? (s : Session) (name : Text) : Option Text :=
  match name with
  | ['#'] => some (number s.args.length)
  | ['?'] => some (number s.status)
  | ['$'] => some processNumber
  | ['0'] => some s.name
  | ['-'] => some (if s.strict then ['e'] else [])
  | ['!'] => none
  | ['@'] | ['*'] => if s.args.isEmpty then none else some ([' '].intercalate s.args)
  | _ =>
      if name.all Char.isDigit then s.args[((String.ofList name).toNat?.getD 0) - 1]?
      else s.assigned? name

/-- A message of the shell about the line it is at. -/
def message (s : Session) (t : Text) : Text :=
  s.name ++ ": ".toList ++ number s.line ++ ": ".toList ++ t

end Session

namespace Work

/-- Writes bytes to the output. -/
def putBytes (bs : Text.Bytes) : Work Unit := modify fun s => s.write s.stdout bs

/-- Writes text to the output. -/
def put (t : Text) : Work Unit := putBytes (Text.encode t)

/-- Writes a line to the output. -/
def putLine (t : Text) : Work Unit := put (t ++ ['\n'])

/-- Writes a line to the errors. -/
def complain (t : Text) : Work Unit :=
  modify fun s => s.write s.stderr (Text.encode (t ++ ['\n']))

/-- Writes a message of the shell to the errors. -/
def report (t : Text) : Work Unit := do complain ((← get).message t)

/-- Takes all of the input. -/
def takeInput : Work Text.Bytes := do
  let s ← get
  set { s with inputs := s.inputs.modify s.stdin (fun _ => []) }
  pure ((s.inputs[s.stdin]?).getD [])

/-- Takes a line of the input, and whether it had an end. -/
def takeLine : Work (Text × Bool) := do
  let s ← get
  let all := (s.inputs[s.stdin]?).getD []
  let line := all.takeWhile (· != 10)
  set { s with inputs := s.inputs.modify s.stdin (fun _ => all.drop (line.length + 1)) }
  pure (Text.decodeLossy line, line.length < all.length)

/-- Does something with another output and gives back what was written to it. -/
def catching {α : Type} (work : Work α) : Work (α × Text.Bytes) := do
  let before ← get
  let n := before.outputs.size
  set { before with outputs := before.outputs.push [], stdout := .stream n }
  let a ← work
  let after ← get
  set { after with outputs := after.outputs.extract 0 n, stdout := before.stdout }
  pure (a, after.written n)

/-- Does something with other input. -/
def feeding {α : Type} (bs : Text.Bytes) (work : Work α) : Work α := do
  let before ← get
  set { before with inputs := before.inputs.push bs, stdin := before.inputs.size }
  let a ← work
  modify fun s => { s with stdin := before.stdin, inputs := s.inputs.extract 0 before.inputs.size }
  pure a

end Work

end UnitReview.Shell
