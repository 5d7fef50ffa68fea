import UnitReview.Rule.Basic
import UnitReview.Rule.Shape
import UnitReview.Rule.Style

/-!
# Query rules

Heuristics on queries over sequences. Each speaks at most once per unit, of the first place it
objects to.
-/

set_option autoImplicit false

namespace UnitReview

namespace Query

/-- Most bytes of a query expression that is given to a variable. -/
def maxQueryLength : Nat := 100

/-- Calls that take the first element. -/
def firstCalls : List Text := [".First()", ".FirstOrDefault()"].map String.toList

/-- Query operators that sort. -/
def sortOperators : List Text := [".OrderBy(", ".OrderByDescending("].map String.toList

/-- A sequence that is built and then filtered. -/
def eagerFilters : List Text := [".ToList().Where(", ".ToArray().Where("].map String.toList

/-- A suggestion for a place, if there is one. -/
def report (found : Option Node) (message : String) : List String :=
  (found.map fun n => "LINQ: " ++ message ++ " (line " ++ toString n.span.startLine ++ ")").toList

/-- The first invocation that satisfies a condition. -/
def firstInvocation? (ctx : RuleContext) (p : Node → Bool) : Option Node :=
  (ctx.nodesOfKind .invocationExpression).find? p

/-- Whether what a node calls ends with the given word. -/
def calleeEndsWith (ctx : RuleContext) (word : String) (n : Node) : Bool :=
  n.callee?.any fun c => word.toList.isSuffixOf (Text.trimEnd (ctx.text c))

/-- The comparisons that ask whether a count is zero. -/
def isComparison : Kind → Bool
  | .greaterThanExpression | .notEqualsExpression | .equalsExpression => true
  | _ => false

/-- A comparison of a call of `Count` with zero. -/
def isZeroComparison (ctx : RuleContext) (n : Node) : Bool :=
  match n.left?, n.right? with
  | some left, some right =>
      isComparison n.kind && left.kind == .invocationExpression
        && calleeEndsWith ctx ".Count" left && (ctx.text right).trim == ['0']
  | _, _ => false

/-- Reports a count that is compared with zero. -/
def countComparedToZero (ctx : RuleContext) : List String :=
  report (ctx.unit.nodes.find? (isZeroComparison ctx))
    "Use Any() instead of comparing Count() with 0"

/-- A text that filters and ends in one of the given calls. -/
def whereThen (ctx : RuleContext) (calls : List Text) (n : Node) : Bool :=
  Text.contains ".Where(".toList (ctx.text n) && Text.endsWithAny (ctx.text n) calls

/-- Reports a filter that is counted. -/
def whereThenCount (ctx : RuleContext) : List String :=
  report (firstInvocation? ctx (whereThen ctx [".Count()".toList]))
    "Use Count(predicate) instead of Where(predicate).Count()"

/-- Reports a filter that is asked for any element. -/
def whereThenAny (ctx : RuleContext) : List String :=
  report (firstInvocation? ctx (whereThen ctx [".Any()".toList]))
    "Use Any(predicate) instead of Where(predicate).Any()"

/-- Reports a filter whose first element is taken. -/
def whereThenFirst (ctx : RuleContext) : List String :=
  report (firstInvocation? ctx (whereThen ctx firstCalls))
    "Use First(predicate) instead of Where(predicate).First()"

/-- A projection onto the element itself. -/
def isIdentitySelect (ctx : RuleContext) (n : Node) : Bool :=
  calleeEndsWith ctx ".Select" n &&
    n.arguments?.any fun args =>
      Text.isIdentityLambda (Text.dropClosing (Text.dropOpening (ctx.text args).trim))

/-- Reports a projection onto the element itself. -/
def identitySelect (ctx : RuleContext) : List String :=
  report (firstInvocation? ctx (isIdentitySelect ctx))
    "Select(x => x) is redundant and can be removed"

/-- A sorted sequence whose first element is taken. -/
def sortsForFirst (ctx : RuleContext) (n : Node) : Bool :=
  Text.containsAny sortOperators (ctx.text n) && Text.endsWithAny (ctx.text n) firstCalls

/-- Reports a sequence that is sorted for its first element. -/
def sortThenFirst (ctx : RuleContext) : List String :=
  report (firstInvocation? ctx (sortsForFirst ctx))
    "Use MinBy()/MaxBy() instead of sorting to take the first element"

/-- Reports a sequence that is built before it is filtered. -/
def materializeThenFilter (ctx : RuleContext) : List String :=
  report (firstInvocation? ctx fun n => Text.containsAny eagerFilters (ctx.text n))
    "Filter with Where() before materializing with ToList()/ToArray()"

/-- A declarator whose value is a long query expression. -/
def holdsLongQuery (ctx : RuleContext) (d : Node) : Bool :=
  d.initializer?.any fun init =>
    init.kind == .queryExpression && Text.byteLength (ctx.text init) > maxQueryLength

/-- Reports a long query expression that is given to a variable. -/
def longQueryExpression (ctx : RuleContext) : List String :=
  (((ctx.nodesOfKind .variableDeclarator).find? (holdsLongQuery ctx)).map fun d =>
    "LINQ: Long query expression assigned to '" ++ Style.declaredName ctx d
      ++ "' may be enumerated multiple times. Consider materializing it once.").toList

/-- The query rules. -/
def rules : List Rule :=
  [ ⟨"count-compared-to-zero", .linq, countComparedToZero⟩
  , ⟨"where-then-count", .linq, whereThenCount⟩
  , ⟨"where-then-any", .linq, whereThenAny⟩
  , ⟨"where-then-first", .linq, whereThenFirst⟩
  , ⟨"identity-select", .linq, identitySelect⟩
  , ⟨"sort-then-first", .linq, sortThenFirst⟩
  , ⟨"materialize-then-filter", .linq, materializeThenFilter⟩
  , ⟨"long-query-expression", .linq, longQueryExpression⟩ ]

end Query

end UnitReview
