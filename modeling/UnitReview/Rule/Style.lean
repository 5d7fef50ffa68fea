import UnitReview.Metrics
import UnitReview.Rule.Basic
import UnitReview.Text.Search

/-!
# Style rules

Rules on single declarations: the length, documentation, name and complexity of methods, and
the number of members of classes. Each reports every declaration it objects to.
-/

set_option autoImplicit false

namespace UnitReview

namespace Style

/-- Most lines that the block of a method may span. -/
def maxMethodLines : Nat := 50

/-- Most members of a class. -/
def maxClassMembers : Nat := 20

/-- Highest cyclomatic complexity of a method. -/
def maxMethodComplexity : Nat := 10

/-- How a declaration without a name is called. -/
def unnamed : String := "<anonymous>"

/-- The name of a declaration as it stands in a suggestion. -/
def declaredName (ctx : RuleContext) (n : Node) : String :=
  match n.name? ctx.unit.source with
  | some t => String.ofList t
  | none => unnamed

/-- The block of a method: its body if that is a block, or else its first block. -/
def block? (n : Node) : Option Node :=
  ((n.fieldNamed? "body").filter (fun b => b.kind == .block)).or (n.childOfKind? .block)

/-- A method whose block spans too many lines. -/
def longMethod? (ctx : RuleContext) (m : Node) : Option String := do
  let lines := (← block? m).span.lineCount
  if lines > maxMethodLines then
    some ("Method '" ++ declaredName ctx m ++ "' is " ++ toString lines ++ " lines long (more than "
      ++ toString maxMethodLines ++ "). Consider breaking it into smaller methods.")
  else none

/-- Reports methods whose block spans too many lines. -/
def longMethods (ctx : RuleContext) : List String :=
  (ctx.nodesOfKind .methodDeclaration).filterMap (longMethod? ctx)

/-- Documentation comments start with three slashes or with a slash and two stars. -/
def isDocComment (comment : String) : Bool :=
  let c := Text.trimStart comment.toList
  "///".toList.isPrefixOf c || "/**".toList.isPrefixOf c

/-- A public method with no documentation comment before it. -/
def missingDoc? (ctx : RuleContext) (m : Node) : Option String :=
  if m.hasModifier ctx.unit.source "public" && !m.leadingComments.any isDocComment then
    some ("Public method '" ++ declaredName ctx m ++ "' is missing XML documentation.")
  else none

/-- Reports public methods with no documentation comment before them. -/
def missingDocs (ctx : RuleContext) : List String :=
  (ctx.nodesOfKind .methodDeclaration).filterMap (missingDoc? ctx)

/-- An asynchronous method whose name does not end in `Async`. -/
def asyncNaming? (ctx : RuleContext) (m : Node) : Option String :=
  if m.hasModifier ctx.unit.source "async"
      && !"Async".toList.isSuffixOf (declaredName ctx m).toList then
    some ("Async method '" ++ declaredName ctx m ++ "' should have the 'Async' suffix.")
  else none

/-- Reports asynchronous methods whose name does not end in `Async`. -/
def asyncNaming (ctx : RuleContext) : List String :=
  (ctx.nodesOfKind .methodDeclaration).filterMap (asyncNaming? ctx)

/-- A class with too many members. -/
def largeClass? (ctx : RuleContext) (c : Node) : Option String := do
  let body ← (c.fieldNamed? "body").or (c.childOfKind? .declarationList)
  let members := body.children.length
  if members > maxClassMembers then
    some ("Class '" ++ declaredName ctx c ++ "' has " ++ toString members ++ " members (more than "
      ++ toString maxClassMembers ++ "). Consider splitting it into smaller classes.")
  else none

/-- Reports classes with too many members. -/
def largeClasses (ctx : RuleContext) : List String :=
  (ctx.nodesOfKind .classDeclaration).filterMap (largeClass? ctx)

/-- A method of high cyclomatic complexity. -/
def highComplexity? (ctx : RuleContext) (m : Node) : Option String :=
  if m.complexity > maxMethodComplexity then
    some ("Method '" ++ declaredName ctx m ++ "' has high cyclomatic complexity ("
      ++ toString m.complexity ++ "). Consider simplifying it.")
  else none

/-- Reports methods of high cyclomatic complexity. -/
def highComplexity (ctx : RuleContext) : List String :=
  (ctx.nodesOfKind .methodDeclaration).filterMap (highComplexity? ctx)

/-- The style rules. -/
def rules : List Rule :=
  [ ⟨"long-method", .basic, longMethods⟩
  , ⟨"missing-doc", .basic, missingDocs⟩
  , ⟨"async-naming", .basic, asyncNaming⟩
  , ⟨"large-class", .basic, largeClasses⟩
  , ⟨"high-complexity", .basic, highComplexity⟩ ]

end Style

end UnitReview
