import UnitReview.Text.Identifier
import UnitReview.Text.Search

/-!
# Lexical rules

How far a lexeme reaches, as the number of its characters. Each function takes the text from
the first character of the lexeme on, and gives `none` where no such lexeme starts.
-/

set_option autoImplicit false

namespace UnitReview.Csharp.Lexical

/-- Characters that separate tokens. -/
def isSpacing (c : Char) : Bool :=
  (9 ≤ c.toNat && c.toNat ≤ 13) || [0x20, 0xA0, 0xFEFF, 0x3000].contains c.toNat

/-- Number of leading characters that satisfy a test. -/
def spanLength (p : Char → Bool) (cs : Text) : Nat := (cs.takeWhile p).length

/-! ## Words -/

/-- An identifier or keyword; an identifier may start with `@`. -/
def word? : Text → Option Nat
  | '@' :: c :: cs => if isIdentStart c then some (2 + spanLength isIdentContinue cs) else none
  | c :: cs => if isIdentStart c then some (1 + spanLength isIdentContinue cs) else none
  | [] => none

/-! ## Comments -/

/-- Length up to and including the first `*/`. -/
def blockCommentEnd? : Nat → Text → Option Nat
  | _, [] => none
  | n, '*' :: '/' :: _ => some (n + 2)
  | n, _ :: cs => blockCommentEnd? (n + 1) cs

/-- A comment to the end of its line, or between `/*` and `*/`. -/
def comment? : Text → Option Nat
  | '/' :: '/' :: cs => some (2 + spanLength (fun c => c != '\n' && c != '\r') cs)
  | '/' :: '*' :: cs => blockCommentEnd? 2 cs
  | _ => none

/-! ## Numbers -/

/-- Whether a character may stand in a decimal numeral. -/
def isDecimal (c : Char) : Bool := c.isDigit || c == '_'

/-- Whether a character is a hexadecimal digit. -/
def isHexDigit (c : Char) : Bool :=
  c.isDigit || ('a' ≤ c && c ≤ 'f') || ('A' ≤ c && c ≤ 'F')

/-- Length of an integer suffix: `u` and `l` in either order and case. -/
def integerSuffix : Text → Nat
  | a :: b :: _ =>
      let isU := fun c => c == 'u' || c == 'U'
      let isL := fun c => c == 'l' || c == 'L'
      if (isU a && isL b) || (isL a && isU b) then 2 else if isU a || isL a then 1 else 0
  | [a] => if ['u', 'U', 'l', 'L'].contains a then 1 else 0
  | [] => 0

/-- Length of a real suffix. -/
def realSuffix : Text → Nat
  | a :: _ => if ['f', 'F', 'd', 'D', 'm', 'M'].contains a then 1 else 0
  | [] => 0

/-- Length of an exponent, sign included; 0 if none starts. -/
def exponent : Text → Nat
  | e :: cs =>
      if e == 'e' || e == 'E' then
        match cs with
        | s :: d :: ds =>
            if (s == '+' || s == '-') && d.isDigit then 3 + spanLength isDecimal ds
            else if s.isDigit then 2 + spanLength isDecimal (d :: ds)
            else 0
        | [s] => if s.isDigit then 2 else 0
        | [] => 0
      else 0
  | [] => 0

/-- The point and the digits after it; 0 if no digit follows. -/
def fraction : Text → Nat
  | '.' :: d :: ds => if d.isDigit then 2 + spanLength isDecimal ds else 0
  | _ => 0

/-- A numeral without a radix mark: its length and whether it is a real number. -/
def decimal (cs : Text) : Nat × Bool :=
  let whole := spanLength isDecimal cs
  let r₁ := cs.drop whole
  let frac := fraction r₁
  let r₂ := r₁.drop frac
  let exp := exponent r₂
  let r₃ := r₂.drop exp
  let suffix := realSuffix r₃
  if frac + exp + suffix > 0 then (whole + frac + exp + suffix, true)
  else (whole + integerSuffix r₁, false)

/-- A numeral: its length and whether it is a real number. -/
def number? : Text → Option (Nat × Bool)
  | '0' :: x :: cs =>
      if x == 'x' || x == 'X' then
        let n := spanLength (fun c => isHexDigit c || c == '_') cs
        some (2 + n + integerSuffix (cs.drop n), false)
      else if x == 'b' || x == 'B' then
        let n := spanLength (fun c => ['0', '1', '_'].contains c) cs
        some (2 + n + integerSuffix (cs.drop n), false)
      else some (decimal ('0' :: x :: cs))
  | '.' :: d :: cs => if d.isDigit then some (decimal ('.' :: d :: cs)) else none
  | c :: cs => if c.isDigit then some (decimal (c :: cs)) else none
  | [] => none

/-! ## Escapes and string parts -/

/-- Length of an escape that starts with a backslash; any character may be escaped. -/
def escape? : Text → Option Nat
  | '\\' :: c :: cs =>
      let hex := fun n => spanLength isHexDigit (cs.take n)
      if c == 'x' then some (2 + hex 4)
      else if c == 'u' then some (2 + hex 4)
      else if c == 'U' then some (2 + hex 8)
      else if c == '\n' then none
      else some 2
  | _ => none

/-- The mark of a string in UTF-8. -/
def encodingSuffix : Text → Nat
  | u :: '8' :: _ => if u == 'u' || u == 'U' then 2 else 0
  | _ => 0

/-- Length of a verbatim string from after its opening quote up to and including its closing
quote; a quote inside is written twice. -/
def verbatimEnd? : Nat → Text → Option Nat
  | _, [] => none
  | n, '"' :: '"' :: cs => verbatimEnd? (n + 2) cs
  | n, '"' :: _ => some (n + 1)
  | n, _ :: cs => verbatimEnd? (n + 1) cs

/-- Length of the content of a raw string, up to a run of at least `quotes` quotes. -/
def rawContent? (quotes : Nat) : Nat → Text → Option Nat
  | _, [] => none
  | n, c :: cs =>
      let run := spanLength (· == '"') (c :: cs)
      if quotes ≤ run then some (n + (run - quotes)) else rawContent? quotes (n + 1) cs

/-! ## Symbols -/

/-- Punctuation and operators, longer ones first. A `>` is always a token of its own unless `=`
follows, since it may close a list of types. -/
def symbols : List String :=
  [ "??=", "<<=", "..", "=>", "==", "!=", "<=", ">=", "&&", "||", "??", "++", "--", "+=", "-="
  , "*=", "/=", "%=", "&=", "|=", "^=", "->", "::", "<<", "\x7b", "\x7d", "(", ")", "[", "]", ";"
  , ",", ".", ":", "?", "<", ">", "=", "+", "-", "*", "/", "%", "&", "|", "^", "!", "~" ]

/-- The symbol a text starts with. -/
def symbol? (cs : Text) : Option String := symbols.find? (fun s => s.toList.isPrefixOf cs)

/-! ## Directive lines -/

/-- Words of the directive lines that may stand anywhere, with the kinds of their nodes. -/
def lineDirectives : List (String × String) :=
  [ ("region", "preproc_region"), ("endregion", "preproc_endregion"), ("line", "preproc_line")
  , ("pragma", "preproc_pragma"), ("nullable", "preproc_nullable"), ("error", "preproc_error")
  , ("warning", "preproc_warning"), ("define", "preproc_define"), ("undef", "preproc_undef") ]

/-- Words of the directives that delimit conditional sections. -/
def sectionDirectives : List String := ["if", "elif", "else", "endif"]

/-- A number sign, blanks and a word: the length of the whole and the word. -/
def directive? : Text → Option (Nat × String)
  | '#' :: cs =>
      let blanks := spanLength (fun c => c == ' ' || c == '\t') cs
      let rest := cs.drop blanks
      let name := rest.takeWhile Char.isAlpha
      if name.isEmpty then none else some (1 + blanks + name.length, String.ofList name)
  | _ => none

end UnitReview.Csharp.Lexical
