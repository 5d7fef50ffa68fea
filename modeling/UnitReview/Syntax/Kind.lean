/-!
# Kinds of syntax nodes

The kinds that metrics and rules tell apart. A node of the grammar without a kind of its own
is `other`; the grammar's own word for it stays with the node.
-/

set_option autoImplicit false

namespace UnitReview

/-- What a node of the generic tree is. -/
inductive Kind where
  | compilationUnit
  | namespaceDeclaration
  | classDeclaration
  | structDeclaration
  | interfaceDeclaration
  | recordDeclaration
  | enumDeclaration
  | declarationList
  | methodDeclaration
  | constructorDeclaration
  | propertyDeclaration
  | fieldDeclaration
  | modifier
  | identifier
  | block
  | ifStatement
  | whileStatement
  | doStatement
  | forStatement
  | forEachStatement
  | switchStatement
  | switchSection
  | caseSwitchLabel
  | tryStatement
  | catchClause
  | catchDeclaration
  | throwStatement
  | throwExpression
  | conditionalExpression
  | logicalAndExpression
  | logicalOrExpression
  | addExpression
  | equalsExpression
  | notEqualsExpression
  | greaterThanExpression
  | lessThanExpression
  | binaryExpression
  | invocationExpression
  | memberAccessExpression
  | objectCreationExpression
  | awaitExpression
  | assignmentExpression
  | localDeclarationStatement
  | variableDeclaration
  | variableDeclarator
  | stringLiteral
  | interpolatedString
  | queryExpression
  | error
  | other
  deriving Repr, DecidableEq, Inhabited

namespace Kind

/-- The name of a kind in answers and requests. -/
def name : Kind → String
  | .compilationUnit => "CompilationUnit"
  | .namespaceDeclaration => "NamespaceDeclaration"
  | .classDeclaration => "ClassDeclaration"
  | .structDeclaration => "StructDeclaration"
  | .interfaceDeclaration => "InterfaceDeclaration"
  | .recordDeclaration => "RecordDeclaration"
  | .enumDeclaration => "EnumDeclaration"
  | .declarationList => "DeclarationList"
  | .methodDeclaration => "MethodDeclaration"
  | .constructorDeclaration => "ConstructorDeclaration"
  | .propertyDeclaration => "PropertyDeclaration"
  | .fieldDeclaration => "FieldDeclaration"
  | .modifier => "Modifier"
  | .identifier => "Identifier"
  | .block => "Block"
  | .ifStatement => "IfStatement"
  | .whileStatement => "WhileStatement"
  | .doStatement => "DoStatement"
  | .forStatement => "ForStatement"
  | .forEachStatement => "ForEachStatement"
  | .switchStatement => "SwitchStatement"
  | .switchSection => "SwitchSection"
  | .caseSwitchLabel => "CaseSwitchLabel"
  | .tryStatement => "TryStatement"
  | .catchClause => "CatchClause"
  | .catchDeclaration => "CatchDeclaration"
  | .throwStatement => "ThrowStatement"
  | .throwExpression => "ThrowExpression"
  | .conditionalExpression => "ConditionalExpression"
  | .logicalAndExpression => "LogicalAndExpression"
  | .logicalOrExpression => "LogicalOrExpression"
  | .addExpression => "AddExpression"
  | .equalsExpression => "EqualsExpression"
  | .notEqualsExpression => "NotEqualsExpression"
  | .greaterThanExpression => "GreaterThanExpression"
  | .lessThanExpression => "LessThanExpression"
  | .binaryExpression => "BinaryExpression"
  | .invocationExpression => "InvocationExpression"
  | .memberAccessExpression => "MemberAccessExpression"
  | .objectCreationExpression => "ObjectCreationExpression"
  | .awaitExpression => "AwaitExpression"
  | .assignmentExpression => "AssignmentExpression"
  | .localDeclarationStatement => "LocalDeclarationStatement"
  | .variableDeclaration => "VariableDeclaration"
  | .variableDeclarator => "VariableDeclarator"
  | .stringLiteral => "StringLiteral"
  | .interpolatedString => "InterpolatedString"
  | .queryExpression => "QueryExpression"
  | .error => "Error"
  | .other => "Other"

/-- All kinds, in the order of their declaration. -/
def all : List Kind :=
  [.compilationUnit, .namespaceDeclaration, .classDeclaration, .structDeclaration,
   .interfaceDeclaration, .recordDeclaration, .enumDeclaration, .declarationList,
   .methodDeclaration, .constructorDeclaration, .propertyDeclaration, .fieldDeclaration,
   .modifier, .identifier, .block, .ifStatement, .whileStatement, .doStatement, .forStatement,
   .forEachStatement, .switchStatement, .switchSection, .caseSwitchLabel, .tryStatement,
   .catchClause, .catchDeclaration, .throwStatement, .throwExpression, .conditionalExpression,
   .logicalAndExpression, .logicalOrExpression, .addExpression, .equalsExpression,
   .notEqualsExpression, .greaterThanExpression, .lessThanExpression, .binaryExpression,
   .invocationExpression, .memberAccessExpression, .objectCreationExpression,
   .awaitExpression, .assignmentExpression, .localDeclarationStatement, .variableDeclaration,
   .variableDeclarator, .stringLiteral, .interpolatedString, .queryExpression, .error, .other]

/-- The kind of a given name. -/
def ofName? (s : String) : Option Kind := all.find? (·.name == s)

/-- The four loop statements. -/
def isLoop : Kind → Bool
  | .forStatement | .forEachStatement | .whileStatement | .doStatement => true
  | _ => false

end Kind

end UnitReview
