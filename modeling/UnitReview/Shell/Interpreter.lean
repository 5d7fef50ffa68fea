import UnitReview.Shell.Expansion
import UnitReview.Shell.Utilities

/-!
# Carrying out scripts

A command ends with a status, leaves a function, a loop or the script, or kills the process.
Stages of a pipeline and commands in parentheses work on a copy of the shell: what they change is
lost, except for files and output.
-/

set_option autoImplicit false

namespace UnitReview.Shell

open Host

/-- How a command ends. -/
inductive Ending where
  | status (n : Nat)
  /-- The script ends. -/
  | exit (n : Nat)
  /-- The function ends. -/
  | leave (n : Nat)
  /-- So many loops end; with `again`, the last of them goes on. -/
  | break_ (loops : Nat) (again : Bool)
  /-- The process is killed. -/
  | killed
  deriving Repr, DecidableEq, Inhabited

/-- What the interpreter uses from outside: how other programs are started. -/
structure Surroundings where
  environment : Environment
  /-- Starts a command in a directory, with what it is told and its input. -/
  start : FileSystem → Host.Location → List (String × String) → Host.Command → Text.Bytes →
    Except SystemError Finished × FileSystem

namespace Interpreter

open Expansion

/-! ## Redirections -/

/-- The message for what cannot be opened. -/
def cannotOpen (create : Bool) (t : Text) (e : SystemError) : Text :=
  let reason := match e, create with
    | .os 2, true => "Directory nonexistent".toList
    | .os 2, false => "No such file".toList
    | e, _ => Utility.told e
  (if create then "cannot create ".toList else "cannot open ".toList) ++ t ++ ": ".toList ++ reason

/-- Opens a file for output. -/
def openOutput (t : Text) (append : Bool) : Work (Except SystemError Target) := do
  let s ← get
  match s.fs.resolve s.cwd (String.ofList t) with
  | .error e => pure (.error e)
  | .ok l =>
      match s.fs.get? l, s.fs.get? l.dropLast with
      | some .directory, _ => pure (.error .isDirectory)
      | some .sink, _ => pure (.ok .nowhere)
      | some (.file old mode), _ => do
          set { s with fs := s.fs.put l (.file (if append then old else []) mode) }
          pure (.ok (.file l))
      | none, some .directory => do
          set { s with fs := s.fs.put l (.file [] .plain) }
          pure (.ok (.file l))
      | none, _ => pure (.error .notFound)

/-- The target of an output descriptor. -/
def setTarget (s : Session) (descriptor : Nat) (t : Target) : Session :=
  if descriptor = 2 then { s with stderr := t }
  else if descriptor = 1 then { s with stdout := t }
  else s

/-- Applies a redirection; a failure is told. -/
def redirect (catch_ : Catch) (documents : Array Word) (r : Redirection) :
    Work Bool := do
  match r with
  | .write d file append => do
      let t ← textOf catch_ file
      match ← openOutput t append with
      | .ok target => do
          modify fun s => setTarget s d target
          pure true
      | .error e => do
          Work.report (cannotOpen true t e)
          pure false
  | .duplicate d source => do
      modify fun s => setTarget s d (if source = 2 then s.stderr else s.stdout)
      pure true
  | .read file => do
      let t ← textOf catch_ file
      let s ← get
      match s.fs.readFile s.cwd (String.ofList t) with
      | .ok bs => do
          set { s with inputs := s.inputs.push bs, stdin := s.inputs.size }
          pure true
      | .error e => do
          Work.report (cannotOpen false t e)
          pure false
  | .document n => do
      let t ← textOf catch_ ((documents[n]?).getD [])
      modify fun s =>
        { s with inputs := s.inputs.push (Text.encode t), stdin := s.inputs.size }
      pure true

/-- Applies redirections up to the first that fails. -/
def redirectAll (catch_ : Catch) (documents : Array Word) : List Redirection → Work Bool
  | [] => pure true
  | r :: rs => do
      if ← redirect catch_ documents r then redirectAll catch_ documents rs
      else pure false

/-- Does something with redirections, which are taken back afterwards. -/
def redirected (catch_ : Catch) (documents : Array Word) (rs : List Redirection)
    (work : Work Ending) : Work Ending := do
  let before ← get
  let ok ← redirectAll catch_ documents rs
  let e ← if ok then work else pure (.status 2)
  modify fun s =>
    { s with stdin := before.stdin, stdout := before.stdout, stderr := before.stderr }
  pure e

/-! ## Signals and programs -/

/-- Names of signals that do not end a process. -/
def harmlessSignals : List String := ["0", "CHLD", "17", "CONT", "18", "URG", "23", "WINCH", "28"]

/-- Sends a signal to a process; the only one that is there is the shell itself. -/
def kill (args : List Text) : Work Ending := do
  let (signal, rest) := match args with
    | ['-', 's'] :: name :: rest => (name, rest)
    | ('-' :: name) :: rest => (name, rest)
    | rest => ("TERM".toList, rest)
  if rest.contains Session.processNumber then
    pure (if harmlessSignals.contains (String.ofList signal) then .status 0 else .killed)
  else do
    Work.report "kill: No such process".toList
    pure (.status 1)

/-- The status that the shell shows for a process. -/
def shellStatus (f : Finished) : Nat :=
  match f.code with
  | some n => n.toNat
  | none => 137

/-- Starts another program. What fails is told after the words of its kind. -/
def startProgram (around : Surroundings) (kind name : Text) (args : List Text) : Work Ending := do
  let s ← get
  let command : Host.Command := ⟨Utility.pathOf name, args.map Utility.pathOf, none⟩
  let input := (s.inputs[s.stdin]?).getD []
  match around.start s.fs s.cwd s.told command input with
  | (.ok f, fs) => do
      set { s with fs := fs }
      modify fun s => (s.write s.stdout f.stdout).write s.stderr f.stderr
      pure (.status (shellStatus f))
  | (.error e, fs) => do
      set { s with fs := fs }
      let reason := match e with
        | .os 2 => "not found".toList
        | e => Utility.told e
      Work.report (kind ++ name ++ ": ".toList ++ reason)
      pure (.status (if e == .notFound then 127 else 126))

/-! ## Commands of the shell -/

/-- Commands that are carried out by the interpreter itself. -/
def ownCommands : List String :=
  ["exit", "return", "break", "continue", "kill", "eval", "exec", ".", "command", "trap"]

/-- What a name without a slash leads to: a command of the shell, or the path of a program. -/
def resolve? (around : Surroundings) (s : Session) (name : Text) : Option Text :=
  let n := String.ofList name
  let isOwn := ownCommands.contains n || (s.functions.lookup name).isSome ||
    ((Utility.builtIn ++ Utility.shared).lookup n).isSome
  if isOwn then some name
  else ((Process.lookUp around.environment s.fs s.cwd n).toOption.filter
    (s.fs.isFile s.cwd)).map (·.display.toList)

/-- The number that an argument spells, else that of the last status. A malformed one ends the
script. -/
def numberArgument (command : String) (args : List Text) (standard : Nat) : Work (Option Nat) := do
  match args.head? with
  | none => pure (some standard)
  | some t =>
      match (String.ofList t).toNat? with
      | some n => pure (some n)
      | none => do
          Work.report (command.toList ++ ": Illegal number: ".toList ++ t)
          pure none

/-- Goes on with a number, or ends the script. -/
def withNumber (command : String) (args : List Text) (standard : Nat) (next : Nat → Ending) :
    Work Ending := do
  match ← numberArgument command args standard with
  | some n => pure (next n)
  | none => pure (.exit 2)

/-- Leaves loops, if any are open. -/
def leaveLoops (command : String) (args : List Text) (again : Bool) : Work Ending := do
  let count := (← get).loops
  withNumber command args 1 fun n => if count = 0 then .status 0 else .break_ (min n count) again

/-- Carries out a script that is in a file. -/
def source (script : Text → Work Ending) (file : Text) : Work Ending := do
  let s ← get
  match s.fs.readText s.cwd (String.ofList file) with
  | .ok t => script t
  | .error e => do
      Work.report (".: ".toList ++ cannotOpen false file e)
      pure (.exit 2)

/-- Carries out a function: it has parameters of its own. -/
def callFunction (work : Work Ending) (args : List Text) : Work Ending := do
  let before ← get
  set { before with args := args, loops := 0 }
  let e ← work
  modify fun s => { s with args := before.args, loops := before.loops }
  pure (match e with
    | .leave n => .status n
    | e => e)

/-- Carries out a command that is no function. -/
def invokePlain (around : Surroundings) (script : Text → Work Ending) (name : Text)
    (args : List Text) : Work Ending := do
  match String.ofList name with
  | "exit" => do withNumber "exit" args (← get).status fun n => .exit (n % 256)
  | "return" => do withNumber "return" args (← get).status fun n => .leave (n % 256)
  | "break" => leaveLoops "break" args false
  | "continue" => leaveLoops "continue" args true
  | "kill" => kill args
  | "eval" => script ([' '].intercalate args)
  | "." =>
      match args with
      | file :: _ => source script file
      | [] => pure (.status 2)
  | "trap" => do
      if args.any (fun t => t == "EXIT".toList || t == ['0']) then
        modify fun s => { s with farewell := args.head?.filter (· != ['-']) }
      pure (.status 0)
  | "exec" =>
      match args with
      | [] => pure (.status 0)
      | program :: rest => do
          match ← startProgram around "exec: ".toList program rest with
          | .status n => pure (.exit n)
          | e => pure e
  | other =>
      match Utility.named.lookup other with
      | some utility => do
          let n ← utility args
          pure (if (← get).aborted then .exit 2 else .status n)
      | none => startProgram around [] name args

/-- Carries out a command whose words are known. -/
def invoke (around : Surroundings) (script : Text → Work Ending)
    (body : Command → Array Word → Work Ending) (name : Text) (args : List Text) :
    Work Ending := do
  let s ← get
  match s.functions.lookup name with
  | some (c, documents) => callFunction (body c documents) args
  | none =>
      match String.ofList name, args with
      | "command", ['-', 'v'] :: other :: _ =>
          match resolve? around s other with
          | some path => do
              Work.putLine path
              pure (.status 0)
          | none => pure (.status 127)
      | "command", other :: rest => invokePlain around script other rest
      | "command", [] => pure (.status 0)
      | _, _ => invokePlain around script name args

/-! ## Compound commands -/

/-- Works on a copy of the shell: only files and output stay. -/
def inCopy (work : Work Ending) : Work Ending := do
  let before ← get
  let e ← work
  let after ← get
  set { before with fs := after.fs, outputs := after.outputs, inputs := after.inputs }
  pure (match e with
    | .exit n | .leave n => .status n
    | .break_ _ _ => .status 0
    | e => e)

/-- Carries out stages of a pipeline one after the other. -/
def stages (run : Command → Work Ending) : List Command → Work Ending
  | [] => pure (.status 0)
  | [c] => inCopy (run c)
  | c :: cs => do
      let (e, bs) ← Work.catching (inCopy (run c))
      match e with
      | .killed => pure .killed
      | _ => Work.feeding bs (stages run cs)

/-- Carries out commands one after the other. -/
def inTurn (run : Command → Work Ending) : List Command → Work Ending
  | [] => do pure (.status (← get).status)
  | [c] => run c
  | c :: cs => do
      match ← run c with
      | .status _ => inTurn run cs
      | e => pure e

/-- Goes on with a status. -/
def andThen (work : Work Ending) (next : Nat → Work Ending) : Work Ending := do
  match ← work with
  | .status n => next n
  | e => pure e

/-- Remembers the status. -/
def remember (e : Ending) : Work Ending := do
  match e with
  | .status n => modify fun s => { s with status := n }
  | _ => pure ()
  pure e

/-- Carries out the body of a loop once, and then the rest of the loop. -/
def inLoop (body : Work Ending) (next : Work Ending) : Work Ending := do
  modify fun s => { s with loops := s.loops + 1 }
  let e ← body
  modify fun s => { s with loops := s.loops - 1 }
  match e with
  | .status _ | .break_ 1 true => next
  | .break_ n again => if n ≤ 1 then remember (.status 0) else pure (.break_ (n - 1) again)
  | e => pure e

/-- Does something for each value of a variable. -/
def forEach (name : Text) (body : Work Ending) : List Text → Work Ending
  | [] => do pure (.status (← get).status)
  | v :: vs => do
      modify fun s => s.assign name v
      inLoop body (forEach name body vs)

/-- The first case whose pattern fits. -/
def chosen? (catch_ : Catch) (t : Text) : List (List Word × Command) → Work (Option Command)
  | [] => pure none
  | (ps, c) :: rest => do
      let patterns ← ps.mapM (patternOf catch_)
      if patterns.any (Pattern.fits · t) then pure (some c) else chosen? catch_ t rest

/-- Sets variables to the values of words. -/
def assignWords (catch_ : Catch) (assigned : List (Text × Word)) : Work Unit :=
  assigned.forM fun a => do
    let v ← textOf catch_ a.2
    modify fun s => s.assign a.1 v

/-- Does something while variables are set and told to other programs. -/
def telling (catch_ : Catch) (assigned : List (Text × Word)) (work : Work Ending) :
    Work Ending := do
  if assigned.isEmpty then work
  else
    let before ← get
    assignWords catch_ assigned
    modify fun s => (assigned.map (·.1)).foldl Session.tell s
    let e ← work
    modify fun s => { s with bindings := before.bindings, exported := before.exported }
    pure e

/-- Tells why a script cannot be read. -/
def complainMalformed (m : Malformed) : Work Unit := do
  modify fun s => { s with line := m.line }
  Work.report ("Syntax error: ".toList ++ m.reason)

/-- Carries out a command. Where its status is tested, a failure never ends a strict script. -/
def run (around : Surroundings) : Nat → Array Word → Bool → Command → Work Ending
  | 0, _, _, _ => pure (.exit 2)
  | fuel + 1, documents, tested, c => do
      let again (tested : Bool) (c : Command) : Work Ending := run around fuel documents tested c
      let script (t : Text) : Work Ending := do
        match Script.ofText t with
        | .ok s => run around fuel s.documents tested s.body
        | .error m => do
            complainMalformed m
            pure (.exit 2)
      let catch_ : Catch := fun t => do
        let (e, bs) ← Work.catching (inCopy (script t))
        let _ ← remember e
        let text := Text.decodeLossy bs
        pure ((text.reverse.dropWhile (· == '\n')).reverse)
      let strictly (e : Ending) : Work Ending := do
        let e ← remember e
        match e with
        | .status n => do
            pure (if n != 0 && !tested && (← get).strict then .exit n else e)
        | e => pure e
      match c with
      | .simple assigned ws rs line => do
          modify fun s => { s with line := line }
          let words ← fields catch_ ws
          if (← get).aborted then pure (.exit 2)
          else
            match words with
            | [] => do
                modify fun s => { s with status := 0 }
                assignWords catch_ assigned
                let s ← get
                if s.aborted then pure (.exit 2)
                else strictly (← redirected catch_ documents rs (pure (.status s.status)))
            | name :: args => do
                let body (c : Command) (documents : Array Word) : Work Ending :=
                  run around fuel documents tested c
                strictly (← telling catch_ assigned
                  (redirected catch_ documents rs (invoke around script body name args)))
      | .pipeline negated cs => do
          let e ← stages (again (tested || negated)) cs
          match e, negated with
          | .status n, true => remember (.status (if n = 0 then 1 else 0))
          | e, _ => strictly e
      | .both a b =>
          andThen (again true a) fun n =>
            if n = 0 then again tested b else remember (.status n)
      | .either a b =>
          andThen (again true a) fun n =>
            if n = 0 then remember (.status 0) else again tested b
      | .sequence cs => inTurn (again tested) cs
      | .choice condition yes no =>
          andThen (again true condition) fun n =>
            if n = 0 then again tested yes
            else
              match no with
              | some no => again tested no
              | none => remember (.status 0)
      | .loop until_ condition body =>
          andThen (again true condition) fun n =>
            if (n = 0) != until_ then
              inLoop (again tested body) (again tested (.loop until_ condition body))
            else remember (.status 0)
      | .each name items body => do
          let values ← match items with
            | some ws => fields catch_ ws
            | none => do pure (← get).args
          forEach name (again tested body) values
      | .select subject cases => do
          let t ← textOf catch_ subject
          match ← chosen? catch_ t cases with
          | some c => again tested c
          | none => remember (.status 0)
      | .group body rs => redirected catch_ documents rs (again tested body)
      | .subshell body rs => do
          strictly (← redirected catch_ documents rs (inCopy (again tested body)))
      | .define name body => do
          modify fun s => { s with functions := (name, body, documents) :: s.functions }
          remember (.status 0)

/-! ## Scripts -/

/-- Number of steps that a script may take. -/
def stepLimit : Nat := 20000

/-- Carries out a script. -/
def perform (around : Surroundings) (t : Text) : Work Ending := do
  match Script.ofText t with
  | .error m => do
      complainMalformed m
      pure (.exit 2)
  | .ok script => run around stepLimit script.documents false script.body

/-- Carries out a script as a process, with what it has put off to its end. -/
def runScript (around : Surroundings) (t : Text) (s : Session) : Finished × FileSystem :=
  let work : Work (Option Int) := do
    let e ← perform around t
    match e, (← get).farewell with
    | .killed, _ => pure none
    | e, farewell => do
        let _ ← farewell.mapM (perform around)
        pure (match e with
          | .status n | .exit n | .leave n => some n
          | _ => some 0)
  let (code, s) := work.run s
  (⟨code, s.written Session.outStream, s.written Session.errStream⟩, s.fs)

end Interpreter

end UnitReview.Shell
