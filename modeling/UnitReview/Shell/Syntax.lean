import UnitReview.Text.Basic

/-!
# Shell scripts

A script is a list of commands. Words are kept as the pieces that they are made of, because what
a piece stands for is known only when the command is carried out.
-/

set_option autoImplicit false

namespace UnitReview.Shell

/-- What is asked of a parameter. With `empty`, an empty value counts as missing. The text after
the mark is a word of its own. -/
inductive Use where
  | value
  | length
  /-- The word stands for a missing value. -/
  | fallback (word : Text) (empty : Bool)
  /-- The word becomes the value if that is missing. -/
  | assign (word : Text) (empty : Bool)
  /-- The word stands for a value that is not missing. -/
  | alternative (word : Text) (empty : Bool)
  /-- A missing value ends the script with the word as message. -/
  | required (word : Text) (empty : Bool)
  /-- The value without a start that fits the pattern. -/
  | withoutStart (pattern : Text) (longest : Bool)
  /-- The value without an end that fits the pattern. -/
  | withoutEnd (pattern : Text) (longest : Bool)
  deriving Repr, DecidableEq, Inhabited

/-- A piece of a word. -/
inductive Piece where
  /-- Text as it stands; in quotes it is no pattern. -/
  | literal (text : Text) (quoted : Bool)
  | parameter (name : Text) (use : Use) (quoted : Bool)
  /-- The value of an arithmetic expression. -/
  | arithmetic (expression : Text) (quoted : Bool)
  /-- What a script writes. -/
  | output (script : Text) (quoted : Bool)
  deriving Repr, DecidableEq, Inhabited

/-- Whether a piece is in quotes. -/
def Piece.isQuoted : Piece → Bool
  | .literal _ q | .parameter _ _ q | .arithmetic _ q | .output _ q => q

/-- A word. -/
abbrev Word := List Piece

/-- Where output goes to or input comes from. -/
inductive Redirection where
  /-- Output to a file, from its start or at its end. -/
  | write (descriptor : Nat) (file : Word) (append : Bool)
  /-- Input from a file. -/
  | read (file : Word)
  /-- Output to where another descriptor goes. -/
  | duplicate (descriptor source : Nat)
  /-- Input from the script itself, by the number of the document. -/
  | document (number : Nat)
  deriving Repr, DecidableEq, Inhabited

/-- A command. -/
inductive Command where
  /-- Assignments, words and redirections; the line is told in messages. -/
  | simple (assigned : List (Text × Word)) (words : List Word) (redirections : List Redirection)
      (line : Nat)
  | pipeline (negated : Bool) (stages : List Command)
  | both (first second : Command)
  | either (first second : Command)
  | sequence (commands : List Command)
  | choice (condition yes : Command) (no : Option Command)
  | loop (until_ : Bool) (condition body : Command)
  | each (name : Text) (items : Option (List Word)) (body : Command)
  | select (subject : Word) (cases : List (List Word × Command))
  | group (body : Command) (redirections : List Redirection)
  | subshell (body : Command) (redirections : List Redirection)
  /-- The definition of a function. -/
  | define (name : Text) (body : Command)
  deriving Repr, Inhabited

/-- A script with the documents that it holds. -/
structure Script where
  body : Command
  /-- Texts for input, as pieces. -/
  documents : Array Word
  deriving Repr, Inhabited

end UnitReview.Shell
