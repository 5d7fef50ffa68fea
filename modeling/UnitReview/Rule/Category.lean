/-!
# Rule categories

Every rule belongs to one of four categories, and suggestions are reported category by
category in this order. Suggestions of the last three start with a fixed prefix; a suggestion
with none of these prefixes is a basic one.
-/

set_option autoImplicit false

namespace UnitReview

/-- What a rule is concerned with. -/
inductive Category where
  | basic
  | security
  | performance
  | linq
  deriving Repr, DecidableEq, Inhabited

namespace Category

/-- All categories, in the order of reports. -/
def all : List Category := [.basic, .security, .performance, .linq]

/-- The name of a category in reports. -/
def name : Category → String
  | .basic => "basic"
  | .security => "security"
  | .performance => "performance"
  | .linq => "linq"

/-- The category's own constructor name, as it is shown in a rule's description. -/
def title : Category → String
  | .basic => "Basic"
  | .security => "Security"
  | .performance => "Performance"
  | .linq => "Linq"

/-- The category of a given name. -/
def ofName? (s : String) : Option Category := all.find? (·.name == s)

/-- How suggestions of the category start; basic ones carry no mark. -/
def mark? : Category → Option String
  | .basic => none
  | .security => some "SECURITY:"
  | .performance => some "PERFORMANCE:"
  | .linq => some "LINQ:"

/-- Whether a suggestion starts with the mark of the category. -/
def marks (c : Category) (suggestion : String) : Bool :=
  match c.mark? with
  | some m => m.toList.isPrefixOf suggestion.toList
  | none => false

/-- The category of a suggestion, judged by how it starts. -/
def ofSuggestion (suggestion : String) : Category :=
  (all.find? (·.marks suggestion)).getD .basic

theorem mem_all (c : Category) : c ∈ all := by cases c <;> decide

end Category

end UnitReview
