import UnitReview.Json.Value
import UnitReview.Result

/-!
# The result document

A result as a JSON document: an object with `diagnostics`, `metrics` and `suggestions`. A
diagnostic without a place has no `location` field.
-/

set_option autoImplicit false

namespace UnitReview

namespace Wire

/-- A text value. -/
def string (s : String) : Json := .str s.toList

/-- The fields of a place. -/
def locationMembers (l : Location) : List (Text × Json) :=
  [("line".toList, .num l.line), ("column".toList, .num l.column),
    ("file".toList, string l.file)]

/-- A place as a document. -/
def location (l : Location) : Json := .obj (locationMembers l)

/-- The fields of a diagnostic. One without a place has no field for it. -/
def diagnosticMembers (d : Diagnostic) : List (Text × Json) :=
  [("id".toList, string d.id), ("severity".toList, string d.severity.name),
      ("message".toList, string d.message)]
    ++ (d.location.map fun l => ("location".toList, location l)).toList
    ++ [("category".toList, string d.category)]

/-- A diagnostic as a document. -/
def diagnostic (d : Diagnostic) : Json := .obj (diagnosticMembers d)

/-- The fields of metrics. -/
def metricsMembers (m : Metrics) : List (Text × Json) :=
  [("classes".toList, .num m.classes), ("methods".toList, .num m.methods),
    ("lines".toList, .num m.lines), ("complexity".toList, .num m.complexity)]

/-- Metrics as a document. -/
def metrics (m : Metrics) : Json := .obj (metricsMembers m)

/-- The fields of a result. -/
def resultMembers (r : ReviewResult) : List (Text × Json) :=
  [("diagnostics".toList, .arr (r.diagnostics.map diagnostic)),
    ("metrics".toList, metrics r.metrics),
    ("suggestions".toList, .arr (r.suggestions.map string))]

/-- A result as a document. -/
def document (r : ReviewResult) : Json := .obj (resultMembers r)

end Wire

/-- A result in its written form. -/
def ReviewResult.toJson (r : ReviewResult) : Text := (Wire.document r).pretty

end UnitReview
