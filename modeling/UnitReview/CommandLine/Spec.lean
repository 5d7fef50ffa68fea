import UnitReview.Host.OsText

/-!
# What a command line may hold

A program has options and at most one positional argument, or commands that have them. Options
are written with a long name or with a single letter.
-/

set_option autoImplicit false

namespace UnitReview.CommandLine

open Host (OsText)

/-- What an option or an argument stands for. -/
inductive Taking where
  /-- A value that is a text. -/
  | text
  /-- A value that may be any bytes, but not empty. -/
  | path
  /-- Nothing: its occurrences are counted. -/
  | count
  /-- A request for help. -/
  | help
  /-- A request for the version. -/
  | version
  deriving Repr, DecidableEq, Inhabited

/-- Whether a value belongs to it. -/
def Taking.hasValue : Taking → Bool
  | .text | .path => true
  | .count | .help | .version => false

/-- An option. -/
structure OptionSpec where
  name : String
  letter : Option Char
  taking : Taking
  /-- Place in the list of options that help shows. -/
  order : Nat
  about : String
  /-- The value that it has if it is not given. -/
  standard : Option String
  deriving Repr, DecidableEq, Inhabited

/-- A positional argument. -/
structure ArgumentSpec where
  name : String
  taking : Taking
  required : Bool
  about : String
  deriving Repr, DecidableEq, Inhabited

/-- A command. -/
structure CommandSpec where
  name : String
  aliases : List String
  about : String
  options : List OptionSpec
  argument : Option ArgumentSpec
  deriving Repr, DecidableEq, Inhabited

/-- Whether a command goes by a name. -/
def CommandSpec.goesBy (c : CommandSpec) (name : OsText) : Bool :=
  (c.name :: c.aliases).any fun n => OsText.ofString n == name

/-- A program: the command line before any command, and its commands. -/
structure ProgramSpec where
  main : CommandSpec
  commands : List CommandSpec
  version : String
  deriving Repr, DecidableEq, Inhabited

/-- The command that asks for help. -/
def helpCommand : CommandSpec :=
  ⟨"help", [], "Print this message or the help of the given subcommand(s)", [], none⟩

/-- The command of a name. A program with commands also has one that asks for help. -/
def ProgramSpec.command? (p : ProgramSpec) (name : OsText) : Option CommandSpec :=
  if p.commands.isEmpty then none
  else (p.commands ++ [helpCommand]).find? (·.goesBy name)

/-- The option that asks for help. -/
def helpOption : OptionSpec := ⟨"help", some 'h', .help, 999, "Print help", none⟩

/-- The option that asks for the version. -/
def versionOption : OptionSpec := ⟨"version", some 'V', .version, 1000, "Print version", none⟩

end UnitReview.CommandLine
