import UnitReview.Csharp.Tree

/-!
# Tokens

A token is a lexeme with its extent and the trivia before it: comments and the directive lines
that may stand anywhere. Words are not yet told apart: whether `async` or `record` is a keyword
is for the grammar to say.
-/

set_option autoImplicit false

namespace UnitReview.Csharp

namespace Place

/-- The place before the first character. -/
def start : Place := ⟨0, 0, 0⟩

/-- The place after one more character. -/
def next (p : Place) (c : Char) : Place :=
  if c = '\n' then ⟨p.offset + 1, p.row + 1, 0⟩
  else ⟨p.offset + c.utf8Size, p.row, p.column + c.utf8Size⟩

/-- The place after a whole text. -/
def after (p : Place) (t : Text) : Place := t.foldl next p

/-- The stretch between two places. -/
def upTo (a b : Place) : Extent := ⟨a, b⟩

end Place

/-- What a token is. -/
inductive Lexeme where
  /-- An identifier or a keyword. -/
  | word (text : String)
  /-- Punctuation or an operator. -/
  | symbol (text : String)
  /-- A literal, with the parts that have nodes of their own. -/
  | literal (kind : String) (parts : List Tree)
  /-- A part of an interpolated string, as a leaf of the given kind. -/
  | part (kind : String)
  /-- A line that opens, splits or closes a conditional section. -/
  | directive (text : String)
  /-- A character that starts no token. -/
  | stray
  deriving Repr, Inhabited

/-- A lexeme, where it stands, and the comments and directive lines before it. -/
structure Token where
  lexeme : Lexeme
  extent : Extent
  trivia : List Tree
  deriving Repr, Inhabited

namespace Token

/-- Whether the token is the given punctuation. -/
def isSymbol (s : String) (t : Token) : Bool :=
  match t.lexeme with
  | .symbol u => u == s
  | _ => false

/-- Whether the token is the given word. -/
def isWord (s : String) (t : Token) : Bool :=
  match t.lexeme with
  | .word u => u == s
  | _ => false

/-- The text of a word. -/
def word? (t : Token) : Option String :=
  match t.lexeme with
  | .word u => some u
  | _ => none

end Token

end UnitReview.Csharp
