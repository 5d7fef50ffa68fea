import UnitReview.Text.Basic

/-!
# JSON documents and their written form

The documents written here hold natural numbers, texts, lists and objects. They are written over
several lines, two blanks to a level; an empty list or object stays on one line. Quotes,
backslashes and control characters of texts are escaped and all else is kept.
-/

set_option autoImplicit false

namespace UnitReview

/-- A JSON document. -/
inductive Json where
  | num (n : Nat)
  | str (s : Text)
  | arr (items : List Json)
  | obj (fields : List (Text × Json))
  deriving Inhabited

namespace Json

/-- A small hexadecimal digit. -/
def hexDigit (n : Nat) : Char := "0123456789abcdef".toList.getD n '0'

/-- How a character is written between double quotes. -/
def escapeChar (c : Char) : Text :=
  if c = '"' then ['\\', '"']
  else if c = '\\' then ['\\', '\\']
  else if c.toNat = 8 then ['\\', 'b']
  else if c.toNat = 9 then ['\\', 't']
  else if c.toNat = 10 then ['\\', 'n']
  else if c.toNat = 12 then ['\\', 'f']
  else if c.toNat = 13 then ['\\', 'r']
  else if c.toNat < 0x20 then
    ['\\', 'u', '0', '0', hexDigit (c.toNat / 16), hexDigit (c.toNat % 16)]
  else [c]

/-- A text as a JSON string. -/
def quote (s : Text) : Text := '"' :: s.flatMap escapeChar ++ ['"']

/-- A new line, two blanks to a level. -/
def newLine (level : Nat) : Text := '\n' :: List.replicate (2 * level) ' '

mutual

/-- A document as it is written inside `level` lists and objects. -/
def prettyAt (level : Nat) : Json → Text
  | .num n => (toString n).toList
  | .str s => quote s
  | .arr [] => ['[', ']']
  | .arr (x :: xs) =>
      '[' :: newLine (level + 1) ++ prettyAt (level + 1) x ++ prettyItems (level + 1) xs
        ++ newLine level ++ [']']
  | .obj [] => ['\x7b', '\x7d']
  | .obj ((k, v) :: fs) =>
      '\x7b' :: newLine (level + 1) ++ quote k ++ [':', ' '] ++ prettyAt (level + 1) v
        ++ prettyFields (level + 1) fs ++ newLine level ++ ['\x7d']

/-- The items of a list after the first. -/
def prettyItems (level : Nat) : List Json → Text
  | [] => []
  | x :: xs => ',' :: newLine level ++ prettyAt level x ++ prettyItems level xs

/-- The fields of an object after the first. -/
def prettyFields (level : Nat) : List (Text × Json) → Text
  | [] => []
  | (k, v) :: fs =>
      ',' :: newLine level ++ quote k ++ [':', ' '] ++ prettyAt level v ++ prettyFields level fs

end

/-- A document as it is written. -/
def pretty (j : Json) : Text := prettyAt 0 j

end Json

end UnitReview
