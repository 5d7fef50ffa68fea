import UnitReview.Diagnostic
import UnitReview.Metrics
import UnitReview.Rule.Groups

/-!
# Results

Everything that a review of one unit yields: diagnostics, metrics and suggestions.
-/

set_option autoImplicit false

namespace UnitReview

/-- What a review yields. Suggestions come category by category. -/
structure ReviewResult where
  diagnostics : List Diagnostic
  metrics : Metrics
  suggestions : List String
  deriving Repr, DecidableEq, Inhabited

namespace ReviewResult

/-- Puts the parts of a review together; hidden diagnostics are left out. -/
def aggregate (diagnostics : List Diagnostic) (metrics : Metrics) (groups : Groups) :
    ReviewResult :=
  { diagnostics := diagnostics.filter (fun d => !d.isHidden)
    metrics := metrics
    suggestions := groups.ordered }

/-- Number of diagnostics that are errors. -/
def errorCount (r : ReviewResult) : Nat := r.diagnostics.countP (fun d => d.severity == .error)

theorem isHidden_eq_false_of_mem_aggregate {ds : List Diagnostic} {m : Metrics} {g : Groups}
    {d : Diagnostic} (h : d ∈ (aggregate ds m g).diagnostics) : d.isHidden = false := by
  simpa using (List.mem_filter.mp h).2

end ReviewResult

end UnitReview
