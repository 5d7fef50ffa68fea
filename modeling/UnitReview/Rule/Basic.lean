import UnitReview.Diagnostic
import UnitReview.Rule.Groups
import UnitReview.Syntax.Node

/-!
# Rules

A rule looks at a unit and at the diagnostics of its reader, and answers with suggestions. It
cannot fail: where it finds nothing it answers with none.
-/

set_option autoImplicit false

namespace UnitReview

/-- What a rule may look at. The diagnostics include the hidden ones. -/
structure RuleContext where
  unit : SourceUnit
  diagnostics : List Diagnostic

namespace RuleContext

/-- The text of a node of the unit under review. -/
def text (ctx : RuleContext) (n : Node) : Text := n.text ctx.unit.source

/-- The nodes of the unit of the given kind. -/
def nodesOfKind (ctx : RuleContext) (k : Kind) : List Node := ctx.unit.nodesOfKind k

end RuleContext

/-- A detector of one kind of weakness. -/
structure Rule where
  id : String
  category : Category
  detect : RuleContext → List String

namespace Rule

/-- A one-line description of a rule. -/
def describe (r : Rule) : String :=
  "Rule \x7b id: \"" ++ r.id ++ "\", category: " ++ r.category.title ++ " \x7d"

end Rule

end UnitReview
