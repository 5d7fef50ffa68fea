import UnitReview.Rule.Performance
import UnitReview.Rule.Query
import UnitReview.Rule.Security
import UnitReview.Rule.Style

/-!
# The rule registry

An ordered list of rules. A run asks the rules one after the other and files what they say
under their categories.
-/

set_option autoImplicit false

namespace UnitReview

/-- Rules in the order of their registration. -/
structure Registry where
  rules : List Rule
  deriving Inhabited

namespace Registry

/-- No rules. -/
def empty : Registry := ⟨[]⟩

/-- Every built-in rule. -/
def builtIn : Registry := ⟨Style.rules ++ Security.rules ++ Performance.rules ++ Query.rules⟩

/-- Adds a rule at the end. -/
def register (r : Registry) (rule : Rule) : Registry := ⟨r.rules ++ [rule]⟩

/-- Number of registrations. -/
def size (r : Registry) : Nat := r.rules.length

/-- Whether nothing is registered. -/
def isEmpty (r : Registry) : Bool := r.rules.isEmpty

/-- The built-in rule of a given identifier. -/
def builtIn? (id : String) : Option Rule := builtIn.rules.find? (fun r => r.id == id)

/-- Runs every rule and groups the suggestions by category. -/
def run (r : Registry) (ctx : RuleContext) : Groups :=
  r.rules.foldl (fun g rule => g.extend rule.category (rule.detect ctx)) .empty

end Registry

end UnitReview
