/-!
# What can be wrong with a document

A mark is a place in a stream: characters before it, line and column, all from 0. A fault is
either a breach of the format, found by the scanner or the parser, or a value of another shape
than the one asked for. Places are told to the user from 1; a place at the very start is not
told at all.
-/

set_option autoImplicit false

namespace UnitReview.Yaml

/-- A place in a stream. -/
structure Mark where
  index : Nat
  line : Nat
  column : Nat
  deriving Repr, DecidableEq, Inhabited

namespace Mark

/-- The start of a stream. -/
def start : Mark := ⟨0, 0, 0⟩

/-- Whether the mark is on the first line before its first character. -/
def isStart (m : Mark) : Bool := m.line == 0 && m.column == 0

/-- Whether two marks are the same place of the same line. -/
def sameAs (a b : Mark) : Bool := a.line == b.line && a.column == b.column

/-- A place as the user counts. -/
def display (m : Mark) : String :=
  "line " ++ toString (m.line + 1) ++ " column " ++ toString (m.column + 1)

end Mark

/-- Why a document could not be used. -/
inductive Fault where
  /-- A breach of the format, with what was going on around it. -/
  | malformed (problem : String) (mark : Mark) (context : Option (String × Mark))
  /-- A character that may not stand in a stream, at a byte offset. -/
  | forbiddenCharacter (offset : Nat)
  /-- A reference to an anchor that has not been set. -/
  | unknownAnchor (mark : Mark)
  /-- The stream ends where a value is needed. -/
  | endOfStream
  /-- The stream goes on after its first document. -/
  | secondDocument
  /-- A value of another shape than the one asked for; the place is that of the innermost
  collection or value that knows it, with the path of keys that leads there. -/
  | mismatch (text : String) (place : Option (Mark × String))
  deriving Repr, DecidableEq, Inhabited

namespace Fault

/-- A place in a message, unless it is the start. -/
def at_ (m : Mark) : String := if m.isStart then "" else " at " ++ m.display

/-- The path of keys of the whole document. -/
def rootPath : String := "."

/-- The words for a fault. -/
def message : Fault → String
  | .malformed problem mark context =>
      problem ++ at_ mark ++
        match context with
        | none => ""
        | some (text, m) => ", " ++ text ++ if m.sameAs mark then "" else at_ m
  | .forbiddenCharacter offset =>
      "control characters are not allowed" ++
        if offset = 0 then "" else " at position " ++ toString offset
  | .unknownAnchor mark => "unknown anchor" ++ at_ mark
  | .endOfStream => "EOF while parsing a value"
  | .secondDocument =>
      "deserializing from YAML containing more than one document is not supported"
  | .mismatch text none => text
  | .mismatch text (some (mark, path)) =>
      (if path == rootPath then "" else path ++ ": ") ++ text ++ at_ mark

/-- Adds a place to a fault that has none yet. -/
def located (mark : Mark) (path : String) : Fault → Fault
  | .mismatch text none => .mismatch text (some (mark, path))
  | f => f

end Fault

end UnitReview.Yaml
