import UnitReview.Csharp.Tree
import UnitReview.Syntax.Node

/-!
# From concrete trees to generic trees

The generic tree keeps the named nodes of the concrete tree. Keywords and punctuation are
dropped, with one exception: a `case` keyword right under a switch section becomes a node of its
own, so that labels can be counted. A comment is no node; its text is kept with the next named
node among its siblings. The kind of a binary expression is decided by its operator.
-/

set_option autoImplicit false

namespace UnitReview.Csharp

/-- The kind of a binary expression with the given operator. -/
def binaryKind : String → Kind
  | "&&" => .logicalAndExpression
  | "||" => .logicalOrExpression
  | "+" => .addExpression
  | "==" => .equalsExpression
  | "!=" => .notEqualsExpression
  | ">" => .greaterThanExpression
  | "<" => .lessThanExpression
  | _ => .binaryExpression

/-- The kind of a node, by the grammar's word for it. -/
def kindOfGrammar (t : Tree) : Kind :=
  match t.kind with
  | "compilation_unit" => .compilationUnit
  | "namespace_declaration" => .namespaceDeclaration
  | "file_scoped_namespace_declaration" => .namespaceDeclaration
  | "class_declaration" => .classDeclaration
  | "struct_declaration" => .structDeclaration
  | "interface_declaration" => .interfaceDeclaration
  | "record_declaration" => .recordDeclaration
  | "record_struct_declaration" => .recordDeclaration
  | "enum_declaration" => .enumDeclaration
  | "declaration_list" => .declarationList
  | "method_declaration" => .methodDeclaration
  | "constructor_declaration" => .constructorDeclaration
  | "property_declaration" => .propertyDeclaration
  | "field_declaration" => .fieldDeclaration
  | "modifier" => .modifier
  | "identifier" => .identifier
  | "block" => .block
  | "if_statement" => .ifStatement
  | "while_statement" => .whileStatement
  | "do_statement" => .doStatement
  | "for_statement" => .forStatement
  | "foreach_statement" => .forEachStatement
  | "switch_statement" => .switchStatement
  | "switch_section" => .switchSection
  | "case_switch_label" => .caseSwitchLabel
  | "case_pattern_switch_label" => .caseSwitchLabel
  | "try_statement" => .tryStatement
  | "catch_clause" => .catchClause
  | "catch_declaration" => .catchDeclaration
  | "throw_statement" => .throwStatement
  | "throw_expression" => .throwExpression
  | "conditional_expression" => .conditionalExpression
  | "binary_expression" => binaryKind ((t.kindOfField? "operator").getD "")
  | "invocation_expression" => .invocationExpression
  | "member_access_expression" => .memberAccessExpression
  | "object_creation_expression" => .objectCreationExpression
  | "await_expression" => .awaitExpression
  | "assignment_expression" => .assignmentExpression
  | "local_declaration_statement" => .localDeclarationStatement
  | "variable_declaration" => .variableDeclaration
  | "variable_declarator" => .variableDeclarator
  | "string_literal" => .stringLiteral
  | "verbatim_string_literal" => .stringLiteral
  | "raw_string_literal" => .stringLiteral
  | "interpolated_string_expression" => .interpolatedString
  | "query_expression" => .queryExpression
  | "ERROR" => .error
  | _ => .other

/-- Whether a child of a node of kind `parent` is a keyword that stands for a switch label. -/
def Tree.isCaseKeyword (parent : String) (t : Tree) : Bool :=
  t.kind == "case" && parent == "switch_section"

/-- The node that stands for a `case` keyword. -/
def Tree.caseLabel (t : Tree) : Node := ⟨.caseSwitchLabel, "case", t.field, t.extent.span, [], []⟩

mutual

/-- The generic node for a concrete node. -/
def Tree.lower (src : Text) : Tree → Node
  | ⟨k, n, m, f, e, cs⟩ =>
      ⟨kindOfGrammar ⟨k, n, m, f, e, cs⟩, k, f, e.span, Tree.lowerAll src k [] cs, []⟩

/-- The generic nodes for the children of a node of kind `parent`; `pending` are the comments
that wait for the next named child. -/
def Tree.lowerAll (src : Text) (parent : String) : List String → List Tree → List Node
  | _, [] => []
  | pending, t :: ts =>
      if t.isComment then
        Tree.lowerAll src parent (pending ++ [String.ofList (t.text src)]) ts
      else if t.named then
        { Tree.lower src t with leadingComments := pending } :: Tree.lowerAll src parent [] ts
      else if t.isCaseKeyword parent then
        t.caseLabel :: Tree.lowerAll src parent pending ts
      else Tree.lowerAll src parent pending ts

end

end UnitReview.Csharp
