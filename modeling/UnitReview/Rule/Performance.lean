import UnitReview.Rule.Basic
import UnitReview.Rule.Shape
import UnitReview.Rule.Style

/-!
# Performance rules

Heuristics for work done in vain: strings joined in loops, sequences built only to be counted,
queries that run again at every use. All but the rule on query variables speak once per unit.
-/

set_option autoImplicit false

namespace UnitReview

namespace Performance

/-- How many invocations after a `.ToList()` are looked at. -/
def materializeLookahead : Nat := 3

/-- Most query operators in the text of one invocation. -/
def maxChainedOperators : Nat := 3

/-- Query operators that only describe a sequence. -/
def deferredOperators : List Text := [".Where(", ".Select(", ".OrderBy("].map String.toList

/-- Calls that build the sequence. -/
def materializers : List Text := [".ToList()", ".ToArray()"].map String.toList

/-- Query operators counted in a chain. -/
def chainedOperators : List Text :=
  [".Where(", ".Select(", ".OrderBy(", ".GroupBy("].map String.toList

/-- Calls in whose place an interpolated string reads better. -/
def formatHelpers : List Text :=
  ["string.Format", "String.Format", "string.Concat", "String.Concat"].map String.toList

/-- Strings, and whatever ends in a call of `ToString`. -/
def looksLikeString (ctx : RuleContext) (n : Node) : Bool :=
  n.isStringLike || ".ToString()".toList.isSuffixOf (Text.trimEnd (ctx.text n))

/-- A `+` with an operand that looks like a string. -/
def joinsStrings (ctx : RuleContext) (n : Node) : Bool :=
  n.left?.any (looksLikeString ctx) || n.right?.any (looksLikeString ctx)

/-- The first `+` on strings below a loop. -/
def joinIn? (ctx : RuleContext) (loop : Node) : Option Node :=
  (loop.ofKind .addExpression).find? (joinsStrings ctx)

/-- Reports the first `+` on strings in the first loop that has one. -/
def concatInLoop (ctx : RuleContext) : List String :=
  (((ctx.unit.nodes.filter (fun n => n.kind.isLoop)).findSome? (joinIn? ctx)).map fun n =>
    "PERFORMANCE: String concatenation inside a loop at line " ++ toString n.span.startLine
      ++ ". Use StringBuilder instead.").toList

/-- The text of an invocation that builds a list. -/
def buildsList (t : Text) : Bool := Text.contains ".ToList()".toList t

/-- The text of an invocation that counts, or asks whether there is anything. -/
def counts (t : Text) : Bool :=
  Text.contains ".Count".toList t || Text.contains ".Any()".toList t

/-- Whether some text builds a list and one of the next few counts. -/
def countsSoonAfter : List Text → Bool
  | [] => false
  | t :: ts => (buildsList t && (ts.take materializeLookahead).any counts) || countsSoonAfter ts

/-- Reports that a list is built and counted soon after. -/
def materializeBeforeCount (ctx : RuleContext) : List String :=
  if countsSoonAfter ((ctx.nodesOfKind .invocationExpression).map ctx.text) then
    ["PERFORMANCE: ToList() followed by Count/Any() materializes the whole sequence. Call Any() or Count() on the query directly."]
  else []

/-- A declarator whose value is a query that is not built. -/
def deferredQuery? (ctx : RuleContext) (d : Node) : Option String := do
  let init ← d.initializer?
  let t := ctx.text init
  if init.kind == .invocationExpression && Text.containsAny deferredOperators t
      && !Text.endsWithAny t materializers then
    some ("PERFORMANCE: Query assigned to '" ++ Style.declaredName ctx d
      ++ "' is not materialized and runs again on every enumeration. Consider ToList() or ToArray().")
  else none

/-- Reports every variable that holds a query that is not built. -/
def deferredQueries (ctx : RuleContext) : List String :=
  (ctx.nodesOfKind .variableDeclarator).filterMap (deferredQuery? ctx)

/-- Reports that a format helper is called. -/
def formatHelper (ctx : RuleContext) : List String :=
  if ((ctx.nodesOfKind .invocationExpression).filterMap Node.callee?).any
      (fun c => formatHelpers.contains (ctx.text c).trim) then
    ["PERFORMANCE: Prefer string interpolation ($\"...\") over string.Format/string.Concat."]
  else []

/-- Reports the first `await` whose text does not speak of `ConfigureAwait`. -/
def missingConfigureAwait (ctx : RuleContext) : List String :=
  (((ctx.nodesOfKind .awaitExpression).find?
      (fun n => !Text.contains "ConfigureAwait".toList (ctx.text n))).map fun n =>
    "PERFORMANCE: Await at line " ++ toString n.span.startLine
      ++ " has no ConfigureAwait(false). Library code should avoid capturing the synchronization context.").toList

/-- Number of query operators in the text of a node. -/
def operatorCount (ctx : RuleContext) (n : Node) : Nat :=
  Text.countOccurrences (ctx.text n) chainedOperators

/-- Reports the first invocation with too many query operators. -/
def excessiveChaining (ctx : RuleContext) : List String :=
  (((ctx.nodesOfKind .invocationExpression).map (operatorCount ctx)).find?
      (fun k => k > maxChainedOperators)).toList.map fun k =>
    "PERFORMANCE: Query chains " ++ toString k
      ++ " operators. Consider combining predicates or splitting the query."

/-- The performance rules. -/
def rules : List Rule :=
  [ ⟨"string-concat-in-loop", .performance, concatInLoop⟩
  , ⟨"materialize-before-count", .performance, materializeBeforeCount⟩
  , ⟨"deferred-query-variable", .performance, deferredQueries⟩
  , ⟨"format-helper", .performance, formatHelper⟩
  , ⟨"missing-configure-await", .performance, missingConfigureAwait⟩
  , ⟨"excessive-chaining", .performance, excessiveChaining⟩ ]

end Performance

end UnitReview
