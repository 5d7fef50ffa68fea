import UnitReview.Syntax.Node
import UnitReview.Text.Lines

/-!
# Metrics

Structural counts of a unit and cyclomatic complexity. The complexity of a node is one more than
the number of decision points among it and the nodes below it: `if`, `while`, `for`, `foreach`,
case labels, catch clauses, `?:`, `&&` and `||`. A `do` loop is no decision point.
-/

set_option autoImplicit false

namespace UnitReview

/-- The kinds of decision points. -/
inductive Decision where
  | branch
  | loop
  | case
  | catch
  | ternary
  | and
  | or
  deriving Repr, DecidableEq

/-- The decision point that a kind of node is, if it is one. -/
def Kind.decision? : Kind → Option Decision
  | .ifStatement => some .branch
  | .whileStatement | .forStatement | .forEachStatement => some .loop
  | .caseSwitchLabel => some .case
  | .catchClause => some .catch
  | .conditionalExpression => some .ternary
  | .logicalAndExpression => some .and
  | .logicalOrExpression => some .or
  | _ => none

/-- Whether a kind of node is a decision point. -/
def Kind.isDecision (k : Kind) : Bool := k.decision?.isSome

/-- The decision points of a subtree, by kind. -/
structure ControlFlow where
  branches : Nat
  loops : Nat
  cases : Nat
  catches : Nat
  ternaries : Nat
  ands : Nat
  ors : Nat
  deriving Repr, DecidableEq, Inhabited

namespace ControlFlow

/-- No decision points. -/
def none : ControlFlow :=
  { branches := 0, loops := 0, cases := 0, catches := 0, ternaries := 0, ands := 0, ors := 0 }

/-- Takes a node of the given kind into account. -/
def count (f : ControlFlow) (k : Kind) : ControlFlow :=
  match k.decision? with
  | some .branch => { f with branches := f.branches + 1 }
  | some .loop => { f with loops := f.loops + 1 }
  | some .case => { f with cases := f.cases + 1 }
  | some .catch => { f with catches := f.catches + 1 }
  | some .ternary => { f with ternaries := f.ternaries + 1 }
  | some .and => { f with ands := f.ands + 1 }
  | some .or => { f with ors := f.ors + 1 }
  | .none => f

/-- Counts the decision points among a node and the nodes below it, in the order of the walk. -/
def collect (n : Node) : ControlFlow :=
  n.descendants.foldl (fun f m => f.count m.kind) none

/-- One more than the number of decision points. -/
def complexity (f : ControlFlow) : Nat :=
  1 + (f.branches + f.loops + f.cases + f.catches + f.ternaries + f.ands + f.ors)

theorem one_le_complexity (f : ControlFlow) : 1 ≤ f.complexity := Nat.le_add_right 1 _

end ControlFlow

/-- The cyclomatic complexity of a node. -/
def Node.complexity (n : Node) : Nat := (ControlFlow.collect n).complexity

/-- The metrics of a unit. -/
structure Metrics where
  classes : Nat
  methods : Nat
  lines : Nat
  complexity : Nat
  deriving Repr, DecidableEq

namespace Metrics

/-- The metrics of an empty unit. -/
def empty : Metrics := { classes := 0, methods := 0, lines := 0, complexity := 1 }

instance : Inhabited Metrics := ⟨empty⟩

/-- Measures a unit. Lines are those of the whole text that are not blank. -/
def compute (u : SourceUnit) : Metrics :=
  { classes := (u.nodesOfKind .classDeclaration).length
    methods := (u.nodesOfKind .methodDeclaration).length
    lines := u.source.nonBlankLines
    complexity := u.root.complexity }

theorem one_le_complexity_compute (u : SourceUnit) : 1 ≤ (compute u).complexity :=
  ControlFlow.one_le_complexity _

end Metrics

end UnitReview
