import UnitReview.Text.Folding

/-!
# Diagnostics

What a reader of source text has to say about a unit: an identifier, a severity, a message, a
category and, where there is one, a place. Hidden diagnostics are for the rules only and never
reach a result.
-/

set_option autoImplicit false

namespace UnitReview

/-- How serious a diagnostic is. -/
inductive Severity where
  | error
  | warning
  | info
  | hidden
  deriving Repr, DecidableEq, Inhabited

namespace Severity

/-- All severities, most serious first. -/
def all : List Severity := [.error, .warning, .info, .hidden]

/-- The name of a severity. -/
def name : Severity → String
  | .error => "Error"
  | .warning => "Warning"
  | .info => "Info"
  | .hidden => "Hidden"

/-- The severity of a given exact name. -/
def ofName? (s : String) : Option Severity := all.find? (·.name == s)

/-- Reads a severity without regard to letter case; the error is the message for the user. -/
def parse (s : String) : Except String Severity :=
  match all.find? (fun v => Text.lower v.name.toList == Text.lower s.toList) with
  | some v => .ok v
  | none => .error ("unknown severity: " ++ s)

theorem ofName?_name (s : Severity) : ofName? s.name = some s := by cases s <;> decide

end Severity

/-- Where a diagnostic points to; line and column from 1. -/
structure Location where
  line : Nat
  column : Nat
  file : String
  deriving Repr, DecidableEq, Inhabited

/-- One finding of the reader. -/
structure Diagnostic where
  id : String
  severity : Severity
  message : String
  location : Option Location
  category : String
  deriving Repr, DecidableEq, Inhabited

namespace Diagnostic

/-- A hidden diagnostic is not for the user. -/
def isHidden (d : Diagnostic) : Bool := d.severity == .hidden

/-- The diagnostic on one line, its place first if it has one. -/
def display (d : Diagnostic) : String :=
  let body := d.severity.name ++ " " ++ d.id ++ ": " ++ d.message
  match d.location with
  | some l =>
      l.file ++ "(" ++ toString l.line ++ "," ++ toString l.column ++ "): " ++ body
  | none => body

end Diagnostic

end UnitReview
