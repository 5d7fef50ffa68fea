import UnitReview.Failure

/-!
# Requests

A request asks for the review of a source text or of a file, never of both, under a name of the
caller's choice.
-/

set_option autoImplicit false

namespace UnitReview

open Host (OsText)

/-- What is to be reviewed. -/
inductive RequestInput where
  | source (text : String)
  | file (path : OsText)
  deriving Repr, DecidableEq, Inhabited

/-- A request for a review. -/
structure Request where
  input : RequestInput
  displayName : Option String
  deriving Repr, DecidableEq, Inhabited

namespace Request

/-- A request from its optional parts: exactly one of source and file has to be given. -/
def ofParts (source : Option String) (file : Option OsText) (displayName : Option String) :
    Except Failure Request :=
  match source, file with
  | some s, none => .ok ⟨.source s, displayName⟩
  | none, some p => .ok ⟨.file p, displayName⟩
  | none, none => .error (.validation "either source text or a file path is required")
  | some _, some _ => .error (.validation "source text and file path are mutually exclusive")

/-- A request for a source text, without a name. -/
def ofSource (s : String) : Request := ⟨.source s, none⟩

/-- A request for a file, without a name. -/
def ofFile (p : OsText) : Request := ⟨.file p, none⟩

/-- The same request under a name. -/
def named (r : Request) (name : String) : Request := { r with displayName := some name }

end Request

end UnitReview
