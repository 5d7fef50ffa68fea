import UnitReview.Csharp.Tree
import UnitReview.Diagnostic
import UnitReview.Text.Lines

/-!
# Defects as diagnostics

Each outermost defect of a concrete tree is reported at its start: an inserted token by its
kind, a stretch that the grammar cannot place by the first line of its text. Nothing below a
reported defect is searched.
-/

set_option autoImplicit false

namespace UnitReview.Csharp

/-- Identifier of the diagnostic for a stretch that the grammar cannot place. -/
def unexpectedSyntaxId : String := "SC1001"

/-- Identifier of the diagnostic for a token that had to be inserted. -/
def missingTokenId : String := "SC1002"

/-- Category of all diagnostics about defects. -/
def defectCategory : String := "Syntax"

/-- Longest stretch of text that a message quotes, in characters. -/
def maxSnippetLength : Nat := 40

/-- The first line of a text without blanks around it; three dots stand for what is too long. -/
def snippet (t : Text) : String :=
  let line := ((Text.lines t).head?.getD []).trim
  if line.length > maxSnippetLength then String.ofList (line.take maxSnippetLength ++ "...".toList)
  else String.ofList line

/-- The diagnostic for a defect. -/
def Tree.defectDiagnostic (src : Text) (displayName : String) (t : Tree) : Diagnostic :=
  let span := t.extent.span
  let place : Location := ⟨span.startLine, span.startCol, displayName⟩
  if t.missing then
    ⟨missingTokenId, .error, "'" ++ t.kind ++ "' expected", some place, defectCategory⟩
  else
    ⟨unexpectedSyntaxId, .error, "unexpected syntax '" ++ snippet (t.text src) ++ "'",
      some place, defectCategory⟩

mutual

/-- The diagnostics for the outermost defects of a tree, in source order. -/
def Tree.defects (src : Text) (displayName : String) : Tree → List Diagnostic
  | ⟨k, n, m, f, e, cs⟩ =>
      let t : Tree := ⟨k, n, m, f, e, cs⟩
      if t.isDefect then [t.defectDiagnostic src displayName]
      else if t.hasDefect then Tree.defectsAll src displayName cs
      else []

/-- The diagnostics for the outermost defects of several trees. -/
def Tree.defectsAll (src : Text) (displayName : String) : List Tree → List Diagnostic
  | [] => []
  | t :: ts => Tree.defects src displayName t ++ Tree.defectsAll src displayName ts

end

end UnitReview.Csharp
