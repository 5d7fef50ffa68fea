import UnitReview.CommandLine.Help

/-!
# Reading a command line

Arguments are read from the left. An option whose value is a word of its own is kept back until
something else comes: only then is it checked that it has a value and is not repeated. After `--`
everything is positional. A command ends the options of the program; the arguments after it are
read for the command first, and what was kept back before it is checked last.

Arguments are whatever the system passes on. What is said about one in a message is how it is shown;
only a value that has to be a text is refused if it is none.
-/

set_option autoImplicit false

namespace UnitReview.CommandLine

open Host (OsText)

/-- Why a command line is not carried out. -/
inductive UsageError where
  /-- Help on a command was asked for. -/
  | help (command : CommandSpec)
  /-- The version was asked for. -/
  | version
  /-- Nothing at all was given. -/
  | nothingGiven (command : CommandSpec)
  | missingCommand (command : CommandSpec)
  | unknownCommand (command : CommandSpec) (name : String)
  | unknownArgument (command : CommandSpec) (text : String)
  /-- A value is missing or empty. -/
  | missingValue (display : String)
  | repeated (command : CommandSpec) (display : String)
  | unexpectedValue (command : CommandSpec) (value display : String)
  | missingArgument (command : CommandSpec) (display : String)
  /-- A value that has to be a text is none. -/
  | invalidText (command : CommandSpec)
  deriving Repr, DecidableEq

namespace UsageError

/-- Whether the user asked for what is shown. -/
def isRequest : UsageError → Bool
  | .help _ | .version => true
  | _ => false

/-- What the user is told. -/
def message (p : ProgramSpec) (e : UsageError) : String :=
  let more := "\n\nFor more information, try '--help'.\n"
  let usage (c : CommandSpec) : String := "\n\n" ++ usageLine p c ++ more
  match e with
  | .help c | .nothingGiven c => helpText p c
  | .version => versionText p
  | .missingCommand c =>
      let names := (p.commands ++ [helpCommand]).flatMap fun d => d.name :: d.aliases
      "error: '" ++ c.name ++ "' requires a subcommand but one was not provided\n  [subcommands: "
        ++ String.intercalate ", " names ++ "]" ++ usage c
  | .unknownCommand c name => "error: unrecognized subcommand '" ++ name ++ "'" ++ usage c
  | .unknownArgument c text => "error: unexpected argument '" ++ text ++ "' found" ++ usage c
  | .missingValue d => "error: a value is required for '" ++ d ++ "' but none was supplied" ++ more
  | .repeated c d => "error: the argument '" ++ d ++ "' cannot be used multiple times" ++ usage c
  | .unexpectedValue c v d =>
      "error: unexpected value '" ++ v ++ "' for '" ++ d ++ "' found; no more were expected"
        ++ usage c
  | .missingArgument c d =>
      "error: the following required arguments were not provided:\n  " ++ d ++ usage c
  | .invalidText c => "error: invalid UTF-8 was detected in one or more arguments" ++ usage c

end UsageError

/-- An option or argument that is kept back. -/
structure Pending where
  name : String
  display : String
  taking : Taking
  value : Option OsText
  deriving Repr, DecidableEq, Inhabited

/-- What has been read. -/
structure Matches where
  /-- Values by the names of options and arguments. -/
  values : List (String × OsText)
  /-- Counts by the names of options. -/
  counts : List (String × Nat)
  deriving Repr, DecidableEq, Inhabited

namespace Matches

/-- Nothing has been read. -/
def empty : Matches := ⟨[], []⟩

/-- The value of an option or argument. -/
def value? (m : Matches) (name : String) : Option OsText := m.values.lookup name

/-- The value of an option or argument that has to be a text. -/
def text? (m : Matches) (name : String) : Option String := (m.value? name).bind OsText.text?

/-- The count of an option. -/
def count? (m : Matches) (name : String) : Option Nat := m.counts.lookup name

/-- The highest count. -/
def maxCount : Nat := 255

/-- Counts one more occurrence. -/
def countUp (m : Matches) (name : String) : Matches :=
  let n := min maxCount ((m.count? name).getD 0 + 1)
  { m with counts := (name, n) :: m.counts.filter (·.1 != name) }

/-- Whether nothing has been given. -/
def isEmpty (m : Matches) : Bool := m.values.isEmpty && m.counts.isEmpty

end Matches

/-- State of the reader. -/
structure Reading where
  found : Matches
  pending : Option Pending
  /-- Whether the pending option still needs its value. -/
  waiting : Bool
  /-- Whether everything is positional. -/
  trailing : Bool
  /-- Whether the positional argument has been given. -/
  placed : Bool
  deriving Repr, DecidableEq, Inhabited

namespace Reading

/-- The state before the first argument. -/
def start : Reading := ⟨Matches.empty, none, false, false, false⟩

/-- Takes a value: it may not be missing or given twice, a path may not be empty, and a text has to
be one. -/
def accept (c : CommandSpec) (r : Reading) (p : Pending) : Except UsageError Reading :=
  match p.value with
  | none => .error (.missingValue p.display)
  | some v =>
      if (r.found.value? p.name).isSome then .error (.repeated c p.display)
      else if p.taking == .path && v.isEmpty then .error (.missingValue p.display)
      else if p.taking == .text && !v.isText then .error (.invalidText c)
      else .ok { r with found := { r.found with values := (p.name, v) :: r.found.values } }

/-- Checks and takes what was kept back. -/
def settle (c : CommandSpec) (r : Reading) : Except UsageError Reading :=
  match r.pending with
  | none => .ok r
  | some p => accept c { r with pending := none } p

/-- An option with its value or, if that is still to come, without. -/
def takeOption (c : CommandSpec) (r : Reading) (o : OptionSpec) (attached : Option OsText) :
    Except UsageError Reading := do
  let r ← settle c r
  let p : Pending := ⟨o.name, o.display, o.taking, attached⟩
  match attached with
  | some _ => do
      let r ← accept c r p
      pure { r with waiting := false }
  | none => pure { r with pending := some p, waiting := true }

/-- An option that has no value. -/
def takeFlag (c : CommandSpec) (r : Reading) (o : OptionSpec) : Except UsageError Reading := do
  let r ← settle c r
  match o.taking with
  | .help => throw (.help c)
  | .version => throw .version
  | _ => pure { r with found := r.found.countUp o.name, waiting := false }

/-- An option by its long name, with what follows an equals sign. -/
def takeLong (c : CommandSpec) (r : Reading) (name : OsText) (attached : Option OsText) :
    Except UsageError Reading :=
  match c.options.find? (fun o => OsText.ofString o.name == name), attached with
  | none, _ => .error (.unknownArgument c ("--" ++ name.display))
  | some o, _ =>
      if o.taking.hasValue then takeOption c r o attached
      else
        match attached with
        | some v => .error (.unexpectedValue c v.display o.display)
        | none => takeFlag c r o

/-- Options by their letters. What follows the letter of an option with a value is the value; an
equals sign before it does not belong to it. -/
def takeLetters (c : CommandSpec) : Reading → List Text.Stretch → Except UsageError Reading
  | r, [] => .ok r
  | _, .broken bs :: rest =>
      .error (.unknownArgument c ("-" ++ OsText.display ⟨bs ++ rest.flatMap Text.Stretch.bytes⟩))
  | r, .char l :: rest =>
      match c.options.find? (·.letter == some l) with
      | none => .error (.unknownArgument c ("-" ++ String.singleton l))
      | some o =>
          if o.taking.hasValue then
            match rest with
            | [] => takeOption c r o none
            | .char '=' :: v => takeOption c r o (some ⟨v.flatMap Text.Stretch.bytes⟩)
            | v => takeOption c r o (some ⟨v.flatMap Text.Stretch.bytes⟩)
          else do
            let r ← takeFlag c r o
            takeLetters c r rest

/-- A word that is no option. -/
def takeWord (p : ProgramSpec) (c : CommandSpec) (r : Reading) (word : OsText) :
    Except UsageError Reading :=
  match c.argument, r.placed with
  | some a, false => do
      let r ← settle c r
      pure { r with
        pending := some ⟨a.name, a.display, a.taking, some word⟩, waiting := false, placed := true }
  | _, _ =>
      if c.name != p.main.name || p.commands.isEmpty then .error (.unknownArgument c word.display)
      else if r.trailing && (p.command? word).isSome then .error (.unknownArgument c word.display)
      else .error (.unknownCommand c word.display)

end Reading

/-- How an argument looks. -/
inductive Shape where
  | escape
  | long (name : OsText) (attached : Option OsText)
  | letters (letters : List Text.Stretch)
  | word

/-- The byte that options start with. -/
abbrev hyphen : UInt8 := 0x2D

/-- The byte between an option and its value. -/
def equalsSign : UInt8 := 0x3D

/-- The look of an argument. A hyphen alone is a word. -/
def Shape.of (s : OsText) : Shape :=
  match s.bytes with
  | [0x2D, 0x2D] => .escape
  | 0x2D :: 0x2D :: rest =>
      let name : OsText := ⟨rest.takeWhile (· != equalsSign)⟩
      match rest.dropWhile (· != equalsSign) with
      | _ :: v => .long name (some ⟨v⟩)
      | [] => .long name none
  | 0x2D :: b :: bs => .letters (Text.stretches (b :: bs))
  | _ => .word

/-- Help on the command that words lead to. -/
def helpOn (p : ProgramSpec) : List OsText → UsageError
  | [] => .help p.main
  | name :: rest =>
      match p.command? name, rest with
      | none, _ => .unknownCommand p.main name.display
      | some c, [] => .help c
      | some c, next :: _ => .unknownCommand c next.display

/-- Reads arguments for the program (`top`) or one of its commands, up to the name of a command. -/
def readArguments (p : ProgramSpec) (c : CommandSpec) (top : Bool) :
    Reading → List OsText → Except UsageError (Reading × Option (CommandSpec × List OsText))
  | r, [] => .ok (r, none)
  | r, a :: rest =>
      if r.trailing then do
        let r ← r.takeWord p c a
        readArguments p c top r rest
      else
        match if top && !r.waiting then p.command? a else none with
        | some d =>
            if d.name == helpCommand.name then .error (helpOn p rest) else .ok (r, some (d, rest))
        | none =>
            match Shape.of a with
            | .escape => readArguments p c top { r with trailing := true } rest
            | .long name attached => do
                let r ← r.takeLong c name attached
                readArguments p c top r rest
            | .letters ls => do
                let r ← r.takeLetters c ls
                readArguments p c top r rest
            | .word =>
                match r.waiting, r.pending with
                | true, some w =>
                    readArguments p c top
                      { r with pending := some { w with value := some a }, waiting := false } rest
                | _, _ => do
                    let r ← r.takeWord p c a
                    readArguments p c top r rest

/-- Checks that the needed argument is there. -/
def requireArgument (c : CommandSpec) (m : Matches) : Except UsageError Unit :=
  match c.argument with
  | some a =>
      if a.required && (m.value? a.name).isNone then .error (.missingArgument c a.display)
      else .ok ()
  | none => .ok ()

/-- Reads the arguments of a command. -/
def readCommand (p : ProgramSpec) (c : CommandSpec) (args : List OsText) :
    Except UsageError Matches := do
  let (r, _) ← readArguments p c false Reading.start args
  let r ← r.settle c
  requireArgument c r.found
  pure r.found

/-- What a command line says: what was given before the command, and the command with what was
given after it. -/
structure Parsed where
  main : Matches
  command : Option (CommandSpec × Matches)
  deriving Repr, DecidableEq, Inhabited

/-- Reads a command line. -/
def read (p : ProgramSpec) (args : List OsText) : Except UsageError Parsed := do
  let (r, next) ← readArguments p p.main true Reading.start args
  let command ← match next with
    | some (c, rest) => do pure (some (c, ← readCommand p c rest))
    | none => pure none
  let r ← r.settle p.main
  if command.isNone && !p.commands.isEmpty then
    throw (if r.found.isEmpty then .nothingGiven p.main else .missingCommand p.main)
  requireArgument p.main r.found
  pure ⟨r.found, command⟩

end UnitReview.CommandLine
