import UnitReview.Rule.Basic
import UnitReview.Rule.Shape
import UnitReview.Text.Folding

/-!
# Security rules

Heuristics over the text of subtrees, without regard to letter case where a word is searched
for. Suspected SQL injection and file operations are reported once per unit, the others at
every place, except that of the declared secrets only the first is named.
-/

set_option autoImplicit false

namespace UnitReview

namespace Security

/-- Words that make a text look like SQL. -/
def sqlWords : List Text := ["select", "insert", "update", "delete"].map String.toList

/-- Words that make a name look like that of a secret. -/
def secretWords : List Text := ["password", "secret", "apikey"].map String.toList

/-- Words that make the target of an assignment look like a secret. -/
def secretTargetWords : List Text :=
  ["password", "secret", "apikey", "connectionstring"].map String.toList

/-- File operations that need care with paths. -/
def fileOperations : List Text :=
  ["file.delete", "file.move", "directory.delete", "file.writealltext"].map String.toList

/-- The exception types that stand for every failure. -/
def generalExceptions : List Text := ["Exception", "System.Exception"].map String.toList

/-- Random number generators that are not fit for secrets. -/
def weakGenerators : List Text := ["Random", "System.Random"].map String.toList

/-- A chain of `+` over strings that looks like SQL. -/
def buildsSql (ctx : RuleContext) (n : Node) : Bool :=
  n.isStringConcatenation && Text.containsAnyFolded sqlWords (ctx.text n)

/-- Reports the first chain of `+` that builds SQL. -/
def sqlInjection (ctx : RuleContext) : List String :=
  (((ctx.nodesOfKind .addExpression).find? (buildsSql ctx)).map fun n =>
    "SECURITY: Possible SQL injection at line " ++ toString n.span.startLine
      ++ ": SQL text is built by string concatenation. Use parameterized queries instead.").toList

/-- The name of a declarator that gives a string literal to a name that looks secret. -/
def declaredSecret? (ctx : RuleContext) (d : Node) : Option Text := do
  let name ← d.name? ctx.unit.source
  let init ← d.initializer?
  if Text.containsAnyFolded secretWords name && init.kind == .stringLiteral then some name else none

/-- An assignment of a string literal to a target that looks secret. -/
def assignedSecret? (ctx : RuleContext) (a : Node) : Option String := do
  let left ← a.left?
  let right ← a.right?
  if right.kind == .stringLiteral && Text.containsAnyFolded secretTargetWords (ctx.text left) then
    some ("SECURITY: Possible hardcoded secret assigned to '" ++ String.ofList (ctx.text left).trim
      ++ "'. Load secrets from configuration or a secret store.")
  else none

/-- The suggestion for the first declared secret. -/
def declaredSecrets (ctx : RuleContext) : List String :=
  (((ctx.nodesOfKind .variableDeclarator).findSome? (declaredSecret? ctx)).map fun name =>
    "SECURITY: Possible hardcoded secret in '" ++ String.ofList name
      ++ "'. Load secrets from configuration or a secret store.").toList

/-- The suggestions for all assigned secrets. -/
def assignedSecrets (ctx : RuleContext) : List String :=
  (ctx.nodesOfKind .assignmentExpression).filterMap (assignedSecret? ctx)

/-- Reports the first declared secret, then every assigned one. -/
def hardcodedSecrets (ctx : RuleContext) : List String :=
  declaredSecrets ctx ++ assignedSecrets ctx

/-- Whether a catch clause is for every exception by name. -/
def catchesGeneral (ctx : RuleContext) (clause : Node) : Bool :=
  match clause.childOfKind? .catchDeclaration with
  | none => false
  | some decl =>
      match (decl.fieldNamed? "type").or decl.children.head? with
      | none => false
      | some ty => generalExceptions.contains (ctx.text ty).trim

/-- Whether the body of a catch clause throws or speaks of a log. -/
def handles (ctx : RuleContext) (body : Node) : Bool :=
  !(body.ofKind .throwStatement).isEmpty || Text.contains "log".toList (Text.lower (ctx.text body))

/-- A catch clause for every exception that neither throws nor logs. -/
def swallows (ctx : RuleContext) (clause : Node) : Bool :=
  catchesGeneral ctx clause &&
    (match (clause.fieldNamed? "body").or (clause.childOfKind? .block) with
      | none => true
      | some body => !handles ctx body)

/-- Reports the catch clauses that swallow every exception. -/
def swallowedExceptions (ctx : RuleContext) : List String :=
  ((ctx.nodesOfKind .catchClause).filter (swallows ctx)).map fun clause =>
    "SECURITY: Catch block at line " ++ toString clause.span.startLine
      ++ " swallows a general Exception without logging or rethrowing it."

/-- Reports the first call of a file operation that needs care with paths. -/
def unsafeFileOperations (ctx : RuleContext) : List String :=
  ((((ctx.nodesOfKind .invocationExpression).filterMap Node.callee?).find?
      (fun c => Text.containsAnyFolded fileOperations (ctx.text c))).map fun c =>
    "SECURITY: File system operation '" ++ String.ofList (ctx.text c).trim
      ++ "' detected. Validate and sanitize paths to prevent path traversal.").toList

/-- Whether a creation makes a weak random number generator. -/
def makesWeakGenerator (ctx : RuleContext) (n : Node) : Bool :=
  match (n.fieldNamed? "type").or n.children.head? with
  | none => false
  | some ty => weakGenerators.contains (ctx.text ty).trim

/-- Reports every creation of a weak random number generator. -/
def weakRandom (ctx : RuleContext) : List String :=
  ((ctx.nodesOfKind .objectCreationExpression).filter (makesWeakGenerator ctx)).map fun n =>
    "SECURITY: System.Random at line " ++ toString n.span.startLine
      ++ " is not cryptographically secure. Use RandomNumberGenerator for security-sensitive values."

/-- The security rules. -/
def rules : List Rule :=
  [ ⟨"sql-injection", .security, sqlInjection⟩
  , ⟨"hardcoded-secret", .security, hardcodedSecrets⟩
  , ⟨"swallowed-exception", .security, swallowedExceptions⟩
  , ⟨"unsafe-file-operation", .security, unsafeFileOperations⟩
  , ⟨"weak-random", .security, weakRandom⟩ ]

end Security

end UnitReview
