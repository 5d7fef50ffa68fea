import UnitReview.Syntax.Node
import UnitReview.Text.Search
import UnitReview.Text.Word

/-!
# Shapes that several rules look for

Parts of invocations and declarators, chains of `+`, and lambdas that return their parameter.
Rules match on the text of subtrees and not on what names refer to, so these helpers are shallow.
-/

set_option autoImplicit false

namespace UnitReview

namespace Node

/-- What an invocation calls: `items.Where` in `items.Where(p)`. -/
def callee? (n : Node) : Option Node := (n.fieldNamed? "function").or n.children.head?

/-- The argument list of an invocation, with its parentheses. -/
def arguments? (n : Node) : Option Node := (n.fieldNamed? "arguments").or n.children.getLast?

/-- The initial value of a declarator: the first child of its value clause, or else the last
child after the first that is no bracketed list. -/
def initializer? (n : Node) : Option Node :=
  match n.children.find? (fun c => c.grammarKind == "equals_value_clause") with
  | some clause => clause.children.head?
  | none =>
      ((n.children.drop 1).filter (fun c => c.grammarKind != "bracketed_argument_list")).getLast?

/-- String literals and interpolated strings. -/
def isStringLike (n : Node) : Bool := n.kind == .stringLiteral || n.kind == .interpolatedString

/-! ## Chains of `+` -/

theorem sizeOf_lt_of_mem_children {n c : Node} (h : c ∈ n.children) : sizeOf c < sizeOf n := by
  have := List.sizeOf_lt_of_mem h
  cases n
  simp only [Node.mk.sizeOf_spec]
  simp only at this
  omega

/-- A part that is told by its field, or else by its place among the children, is a child. -/
theorem mem_children_of_field_or {n c : Node} {name : String} {other : Option Node}
    (hother : ∀ d, other = some d → d ∈ n.children)
    (h : (n.fieldNamed? name).or other = some c) : c ∈ n.children := by
  rcases Option.or_eq_some_iff.1 h with h | ⟨_, h⟩
  · exact List.mem_of_find?_eq_some h
  · exact hother c h

theorem mem_children_of_left? {n c : Node} (h : n.left? = some c) : c ∈ n.children :=
  mem_children_of_field_or (fun _ => List.mem_of_mem_head?) h

theorem mem_children_of_right? {n c : Node} (h : n.right? = some c) : c ∈ n.children :=
  mem_children_of_field_or (fun _ => List.mem_of_getLast?) h

theorem mem_children_of_callee? {n c : Node} (h : n.callee? = some c) : c ∈ n.children :=
  mem_children_of_field_or (fun _ => List.mem_of_mem_head?) h

/-- The operands of a chain of `+`, from left to right. -/
def concatOperands (n : Node) : List Node :=
  if n.kind = .addExpression then
    (match h : n.left? with
      | some l =>
          have : sizeOf l < sizeOf n := sizeOf_lt_of_mem_children (mem_children_of_left? h)
          concatOperands l
      | none => []) ++
    (match h : n.right? with
      | some r =>
          have : sizeOf r < sizeOf n := sizeOf_lt_of_mem_children (mem_children_of_right? h)
          concatOperands r
      | none => [])
  else [n]
termination_by sizeOf n

theorem concatOperands_eq (n : Node) : n.concatOperands =
    if n.kind = .addExpression then n.left?.elim [] concatOperands ++ n.right?.elim [] concatOperands
    else [n] := by
  rw [concatOperands]
  split
  · congr 1
    · split <;> simp [*]
    · split <;> simp [*]
  · rfl

/-- Induction down a chain of `+`, from the operands to the sums over them. -/
theorem sum_induction {P : Node → Prop} (operand : ∀ n : Node, n.kind ≠ .addExpression → P n)
    (sum : ∀ n : Node, n.kind = .addExpression →
      (∀ c : Node, n.left? = some c ∨ n.right? = some c → P c) → P n) (n : Node) : P n := by
  by_cases h : n.kind = .addExpression
  · exact sum n h fun c hc => sum_induction operand sum c
  · exact operand n h
termination_by sizeOf n
decreasing_by
  exact sizeOf_lt_of_mem_children (hc.elim mem_children_of_left? mem_children_of_right?)

/-- A chain of `+` with a string among its operands. -/
def isStringConcatenation (n : Node) : Bool :=
  n.kind == .addExpression && n.concatOperands.any isStringLike

end Node

/-! ## Lambdas -/

namespace Text

/-- The text without leading opening parentheses. -/
def dropOpening (cs : Text) : Text := cs.dropWhile (· == '(')

/-- The text without trailing closing parentheses. -/
def dropClosing (cs : Text) : Text := (cs.reverse.dropWhile (· == ')')).reverse

/-- Whether a lambda's body is its single parameter, as in `x => x`. -/
def isIdentityLambda (cs : Text) : Bool :=
  match Text.splitOnce? ['=', '>'] cs with
  | none => false
  | some (before, after) =>
      let param := (dropClosing (dropOpening before.trim)).trim
      let body := after.trim
      !param.isEmpty && param == body && param.all isWordChar

end Text

end UnitReview
