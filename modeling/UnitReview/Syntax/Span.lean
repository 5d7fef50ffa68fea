/-!
# Spans

A span is a stretch of a source unit: byte offsets from 0, the end excluded, and the line and
column of either end, both from 1.
-/

set_option autoImplicit false

namespace UnitReview

/-- A stretch of a source unit. -/
structure Span where
  startByte : Nat
  endByte : Nat
  startLine : Nat
  startCol : Nat
  endLine : Nat
  endCol : Nat
  deriving Repr, DecidableEq, Inhabited

namespace Span

/-- Number of lines the span touches; a span that ends before it starts touches one. -/
def lineCount (s : Span) : Nat := s.endLine - s.startLine + 1

/-- The start of the span as `line:column`. -/
def display (s : Span) : String := toString s.startLine ++ ":" ++ toString s.startCol

end Span

end UnitReview
