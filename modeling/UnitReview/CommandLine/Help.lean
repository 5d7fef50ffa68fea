import UnitReview.CommandLine.Spec

/-!
# Help and usage

How a program and its commands are described to the user.
-/

set_option autoImplicit false

namespace UnitReview.CommandLine

/-- The name of a value. -/
def valueName (name : String) : String :=
  name.map fun c => if c == '-' then '_' else c.toUpper

/-- An option in words, without its letter. -/
def OptionSpec.display (o : OptionSpec) : String :=
  "--" ++ o.name ++
    match o.taking with
    | .text | .path => " <" ++ valueName o.name ++ ">"
    | .count => "..."
    | .help | .version => ""

/-- An argument in words. -/
def ArgumentSpec.display (a : ArgumentSpec) : String :=
  if a.required then "<" ++ valueName a.name ++ ">" else "[" ++ valueName a.name ++ "]"

/-- The line that shows how a command is used, after the words that lead to it. -/
def usageLine (p : ProgramSpec) (c : CommandSpec) : String :=
  let words := if c.name == p.main.name then c.name else p.main.name ++ " " ++ c.name
  "Usage: " ++ words ++ (if c.options.isEmpty then "" else " [OPTIONS]") ++
    (match c.argument with
      | some a => " " ++ a.display
      | none => "") ++
    (if c.name == p.main.name && !p.commands.isEmpty then " <COMMAND>" else "")

/-- A text filled with spaces up to a width. -/
def fillTo (width : Nat) (s : String) : String :=
  s ++ String.ofList (List.replicate (width - s.length) ' ')

/-- Rows of two columns. -/
def table (rows : List (String × String)) : String :=
  let width := (rows.map (·.1.length)).foldl max 0
  String.join (rows.map fun r => "  " ++ fillTo width r.1 ++ "  " ++ r.2 ++ "\n")

/-- A titled table, if it has rows. -/
def section_ (title : String) (rows : List (String × String)) : String :=
  if rows.isEmpty then "" else "\n" ++ title ++ ":\n" ++ table rows

/-- The row of a command. -/
def commandRow (c : CommandSpec) : String × String :=
  (c.name, c.about ++
    if c.aliases.isEmpty then "" else " [aliases: " ++ String.intercalate ", " c.aliases ++ "]")

/-- The row of an option. -/
def optionRow (o : OptionSpec) : String × String :=
  let letter := match o.letter with
    | some c => "-" ++ String.singleton c ++ ", "
    | none => "    "
  (letter ++ o.display, o.about ++
    match o.standard with
    | some v => " [default: " ++ v ++ "]"
    | none => "")

/-- Options in the order of their places; of those at one place the lower name comes first. -/
def inOrder (os : List OptionSpec) : List OptionSpec :=
  let key (o : OptionSpec) : String := match o.letter with
    | some c => String.singleton c.toLower ++ (if c.isLower then "0" else "1")
    | none => o.name
  os.mergeSort fun a b => a.order < b.order || (a.order == b.order && decide (key a ≤ key b))

/-- The description of a command. -/
def helpText (p : ProgramSpec) (c : CommandSpec) : String :=
  let commands := if c.name == p.main.name then p.commands else []
  let commands := if commands.isEmpty then [] else commands ++ [helpCommand]
  c.about ++ "\n\n" ++ usageLine p c ++ "\n" ++
    section_ "Commands" (commands.map commandRow) ++
    section_ "Arguments" (c.argument.toList.map fun a => (a.display, a.about)) ++
    section_ "Options" ((inOrder c.options).map optionRow)

/-- The line that shows the version. -/
def versionText (p : ProgramSpec) : String := p.main.name ++ " " ++ p.version ++ "\n"

end UnitReview.CommandLine
