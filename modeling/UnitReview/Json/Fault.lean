import UnitReview.Decimal.Shortest
import UnitReview.Text.Quoted

/-!
# What can be wrong with a JSON text

A reader stops at the first fault. A fault has a cause and a place; the place is told by what
was still unread, so that readers need not count lines, and `Fault.message` works out line and
column at the end. Lines count from 1; a column is the number of bytes read in the line.
-/

set_option autoImplicit false

namespace UnitReview

namespace Json

/-- What was found where something else was expected. -/
inductive Found where
  | null
  | boolean (b : Bool)
  | natural (n : Nat)
  | negative (n : Nat)
  | fraction (f : Float)
  | string (s : Text)
  | sequence
  | map

/-- How a found value is called in a message. -/
def Found.describe : Found → String
  | .null => "null"
  | .boolean b => "boolean `" ++ toString b ++ "`"
  | .natural n => "integer `" ++ toString n ++ "`"
  | .negative n => "integer `-" ++ toString n ++ "`"
  | .fraction f => "floating point `" ++ Decimal.ofFloat .compact f ++ "`"
  | .string s => "string " ++ String.ofList s.quoted
  | .sequence => "sequence"
  | .map => "map"

/-- Why a JSON text cannot be read. -/
inductive Cause where
  | eofList
  | eofObject
  | eofString
  | eofValue
  | expectedColon
  | expectedListEnd
  | expectedObjectEnd
  | expectedIdent
  | expectedValue
  | invalidEscape
  | invalidNumber
  | numberOutOfRange
  | controlCharacter
  | keyNotString
  | loneSurrogate
  | trailingComma
  | trailingCharacters
  | endOfHexEscape
  | invalidType (found : Found) (expected : String)
  | invalidValue (found : Found) (expected : String)
  | invalidLength (n : Nat) (expected : String)
  | missingField (name : String)
  | duplicateField (name : String)
  | unknownVariant (name : Text) (expected : List String)

/-- The words for a cause. -/
def Cause.describe : Cause → String
  | .eofList => "EOF while parsing a list"
  | .eofObject => "EOF while parsing an object"
  | .eofString => "EOF while parsing a string"
  | .eofValue => "EOF while parsing a value"
  | .expectedColon => "expected `:`"
  | .expectedListEnd => "expected `,` or `]`"
  | .expectedObjectEnd => "expected `,` or `\x7d`"
  | .expectedIdent => "expected ident"
  | .expectedValue => "expected value"
  | .invalidEscape => "invalid escape"
  | .invalidNumber => "invalid number"
  | .numberOutOfRange => "number out of range"
  | .controlCharacter => "control character (\\u0000-\\u001F) found while parsing a string"
  | .keyNotString => "key must be a string"
  | .loneSurrogate => "lone leading surrogate in hex escape"
  | .trailingComma => "trailing comma"
  | .trailingCharacters => "trailing characters"
  | .endOfHexEscape => "unexpected end of hex escape"
  | .invalidType f e => "invalid type: " ++ f.describe ++ ", expected " ++ e
  | .invalidValue f e => "invalid value: " ++ f.describe ++ ", expected " ++ e
  | .invalidLength n e => "invalid length " ++ toString n ++ ", expected " ++ e
  | .missingField n => "missing field `" ++ n ++ "`"
  | .duplicateField n => "duplicate field `" ++ n ++ "`"
  | .unknownVariant n es =>
      "unknown variant `" ++ String.ofList n ++ "`, expected one of "
        ++ ", ".intercalate (es.map fun e => "`" ++ e ++ "`")

/-- A cause and its place: `rest` was unread, and `extra` more bytes count as read. -/
structure Fault where
  cause : Cause
  rest : Text
  extra : Nat

/-- A fault at the place up to which the text was read. -/
def fault {α : Type} (cause : Cause) (rest : Text) : Except Fault α := .error ⟨cause, rest, 0⟩

/-- A fault at the next byte, which was looked at and not read. -/
def faultAhead {α : Type} (cause : Cause) (rest : Text) : Except Fault α :=
  .error ⟨cause, rest, 1⟩

/-- Line and column after the first `bytes` bytes of a text, going on from a line and column. -/
def positionFrom : Nat → Nat → Nat → Text → Nat × Nat
  | line, column, 0, _ => (line, column)
  | line, column, n + 1, [] => (line, column + (n + 1))
  | line, column, n + 1, c :: cs =>
      if c = '\n' then positionFrom (line + 1) 0 n cs
      else if c.utf8Size ≤ n + 1 then positionFrom line (column + c.utf8Size) (n + 1 - c.utf8Size) cs
      else (line, column + (n + 1))

/-- Line and column of a fault in the text `whole`. -/
def Fault.position (f : Fault) (whole : Text) : Nat × Nat :=
  let unread := Text.byteLength f.rest
  positionFrom 1 0 (Text.byteLength whole - unread + min f.extra unread) whole

/-- The message for a fault in the text `whole`. -/
def Fault.message (f : Fault) (whole : Text) : String :=
  let p := f.position whole
  f.cause.describe ++ " at line " ++ toString p.1 ++ " column " ++ toString p.2

end Json

end UnitReview
