import UnitReview.Csharp.Grammar.Expressions

/-!
# Statements
-/

set_option autoImplicit false

namespace UnitReview.Csharp.Grammar

/-! ## Declarations of variables -/

/-- Names in parentheses that take a value apart. -/
def tuplePattern : Nat → Parse Piece
  | 0 => failure
  | fuel + 1 => do
      let ps ← between "(" ")" (commaSeparated (one (tuplePattern fuel) <|> (do
        let name ← identifier
        pure [name.labeled "name"])))
      join "tuple_pattern" ps

/-- What a declaration with the given type names: a variable, or, if the type is left open, the
parts of a value. -/
def declaredName (type : Piece) : Parse Piece := do
  let ts ← tokens
  (do
    let name ← identifier
    pure (name.labeled "name")) <|> (do
    guardThat (type.tree.kind == "implicit_type")
    tuplePattern ts.length)

/-- A declared name, with its value if one is given. -/
def variableDeclarator (n : Nested) (type : Piece) : Parse Piece := do
  let name ← declaredName type
  let size ← optional (one (bracketedArguments n "bracketed_argument_list"))
  let value ← optional (defaultValue n)
  join "variable_declarator" (name :: size ++ value)

/-- A type and what is declared with it. -/
def variableDeclaration (n : Nested) : Parse Piece := do
  let type ← n.type
  let ps ← commaSeparated (one (variableDeclarator n type))
  join "variable_declaration" (type.labeled "type" :: ps)

/-! ## Function bodies -/

/-- An arrow and the value of a function. -/
def arrowClause (n : Nested) : Parse Piece := do
  let arrow ← symbol "=>"
  let value ← n.expression
  join "arrow_expression_clause" [arrow, value]

/-- The body of a function, or the semicolon in its place. -/
def functionBody (n : Nested) : Parse (List Piece) :=
  (do
    let b ← block n
    pure [b.labeled "body"]) <|> (do
    let a ← arrowClause n
    let semi ← symbol ";"
    pure [a.labeled "body", semi]) <|> one (symbol ";")

/-! ## Modifiers -/

/-- Words that are always modifiers in front of a declaration. -/
def plainModifiers : List String :=
  [ "abstract", "const", "extern", "fixed", "internal", "new", "override", "private"
  , "protected", "public", "readonly", "sealed", "static", "unsafe", "virtual", "volatile" ]

/-- Words that are modifiers only if another word or a type follows. -/
def contextualModifiers : List String := ["async", "file", "partial", "required"]

/-- Whether a declaration goes on after a word, so that the word is no type or name itself. -/
def declarationGoesOn : List Token → Bool
  | t :: u :: _ =>
      t.isSymbol "(" || (t.word?.isSome && !(["=", ";", ","].any u.isSymbol))
  | _ => false

/-- A modifier. -/
def modifier : Parse Piece :=
  namedWord "modifier" plainModifiers.contains <|> (do
    let p ← namedWord "modifier" contextualModifiers.contains
    guardThat (declarationGoesOn (← tokens))
    pure p)

/-! ## Simple statements -/

/-- A statement that does nothing. -/
def emptyStatement : Parse Piece := do
  let s ← symbol ";"
  join "empty_statement" [s]

/-- A keyword, perhaps a value, and a semicolon. -/
def valueStatement (n : Nested) (word kind : String) : Parse Piece := do
  let w ← keyword word
  let value ← optional (one n.expression)
  let semi ← semicolon
  join kind (w :: value ++ [semi])

/-- A keyword and a semicolon. -/
def wordStatement (word kind : String) : Parse Piece := do
  let w ← keyword word
  let semi ← semicolon
  join kind [w, semi]

/-- A jump to a label. -/
def gotoStatement (n : Nested) : Parse Piece := do
  let g ← keyword "goto"
  let ps ← (do
    let c ← keyword "case"
    let value ← n.expression
    pure [c, value]) <|> one (keyword "default") <|> one n.expression
  let semi ← semicolon
  join "goto_statement" (g :: ps ++ [semi])

/-- A value or the end of a sequence. -/
def yieldStatement (n : Nested) : Parse Piece := do
  let y ← keyword "yield"
  let ps ← (do
    let r ← keyword "return"
    let value ← n.expression
    pure [r, value]) <|> one (keyword "break")
  let semi ← semicolon
  join "yield_statement" (y :: ps ++ [semi])

/-- An expression as a statement. -/
def expressionStatement (n : Nested) : Parse Piece := do
  let value ← n.expression
  let semi ← semicolon
  join "expression_statement" [value, semi]

/-- A statement with a label. -/
def labeledStatement (n : Nested) : Parse Piece := do
  let label ← identifier
  let colon ← symbol ":"
  let body ← n.statement
  join "labeled_statement" [label, colon, body]

/-! ## Branches and loops -/

/-- A value in parentheses. -/
def inParens (ps : Parse (List Piece)) : Parse (List Piece) := between "(" ")" ps

/-- A field with an expression in it. -/
def expressionField (n : Nested) (field : String) : Parse (List Piece) := do
  let p ← n.expression
  pure [p.labeled field]

/-- A statement in a field. -/
def statementField (n : Nested) (field : String) : Parse (List Piece) := do
  let p ← n.statement
  pure [p.labeled field]

/-- A branch. -/
def ifStatement (n : Nested) : Parse Piece := do
  let w ← keyword "if"
  let c ← inParens (expressionField n "condition")
  let yes ← statementField n "consequence"
  let no ← optional (do
    let e ← keyword "else"
    let s ← statementField n "alternative"
    pure (e :: s))
  join "if_statement" (w :: c ++ yes ++ no)

/-- A loop that tests first. -/
def whileStatement (n : Nested) : Parse Piece := do
  let w ← keyword "while"
  let c ← inParens (expressionField n "condition")
  let body ← statementField n "body"
  join "while_statement" (w :: c ++ body)

/-- A loop that tests last. -/
def doStatement (n : Nested) : Parse Piece := do
  let d ← keyword "do"
  let body ← statementField n "body"
  let w ← keyword "while"
  let c ← inParens (expressionField n "condition")
  let semi ← semicolon
  join "do_statement" (d :: body ++ w :: c ++ [semi])

/-- Expressions, separated by commas, in a field. -/
def expressionFields (n : Nested) (field : String) : Parse (List Piece) := do
  let ps ← commaSeparated? (one n.expression)
  pure (labelAll field ps)

/-- A loop with a start, a test and a step. -/
def forStatement (n : Nested) : Parse Piece := do
  let w ← keyword "for"
  let a ← symbol "("
  let start ← (do
    let d ← variableDeclaration n
    guardThat (← atSymbol ";")
    pure [d.labeled "initializer"]) <|> expressionFields n "initializer"
  let s₁ ← symbol ";"
  let c ← optional (expressionField n "condition")
  let s₂ ← symbol ";"
  let update ← expressionFields n "update"
  let b ← symbol ")"
  let body ← statementField n "body"
  join "for_statement" (w :: a :: start ++ s₁ :: c ++ s₂ :: update ++ b :: body)

/-- What a loop over a sequence declares. -/
def loopVariable (n : Nested) : Parse (List Piece) :=
  (do
    let type ← n.type
    let name ← (do
      let ts ← tokens
      identifier <|> tuplePattern ts.length)
    guardThat (← atWord "in")
    pure [type.labeled "type", name.labeled "left"]) <|> expressionField n "left"

/-- A loop over a sequence. -/
def foreachStatement (n : Nested) : Parse Piece := do
  let aw ← optional (one (keyword "await"))
  let w ← keyword "foreach"
  let a ← symbol "("
  let var ← loopVariable n
  let within ← keyword "in"
  let source ← expressionField n "right"
  let b ← symbol ")"
  let body ← statementField n "body"
  join "foreach_statement" (aw ++ w :: a :: var ++ within :: source ++ b :: body)

/-! ## Switches -/

/-- The label of a section. -/
def switchLabel (n : Nested) : Parse (List Piece) :=
  (do
    let c ← keyword "case"
    let p ← n.pattern
    let cond ← optional (one (whenClause n))
    let colon ← symbol ":"
    pure (c :: p :: cond ++ [colon])) <|> (do
    let d ← keyword "default"
    let colon ← symbol ":"
    pure [d, colon])

/-- Whether a section of a switch ends here. -/
def atSwitchSectionEnd : Parse Bool := do
  pure ((← atClosingBrace) || (← atWord "case") ||
    ((← atWord "default") && (← secondSymbol ":")))

/-- A label and the statements after it. -/
def switchSection (n : Nested) : Parse Piece := do
  let label ← switchLabel n
  let body ← items atSwitchSectionEnd n.statement
  join "switch_section" (label ++ body)

/-- A choice by patterns. -/
def switchStatement (n : Nested) : Parse Piece := do
  let w ← keyword "switch"
  let value ← (do
    let t ← tupleExpression n
    pure [t.labeled "value"]) <|> inParens (expressionField n "value")
  let body ← braced "switch_body" (switchSection n)
  join "switch_statement" (w :: value ++ [body.labeled "body"])

/-! ## Failures and resources -/

/-- The exceptions that are caught. -/
def catchDeclaration (n : Nested) : Parse Piece := do
  let ps ← inParens (do
    let type ← n.type
    let name ← optional (one identifier)
    pure (type.labeled "type" :: labelAll "name" name))
  join "catch_declaration" ps

/-- A condition on the exceptions that are caught. -/
def catchFilter (n : Nested) : Parse Piece := do
  let w ← keyword "when"
  let ps ← inParens (one n.expression)
  join "catch_filter_clause" (w :: ps)

/-- One way to deal with an exception. -/
def catchClause (n : Nested) : Parse Piece := do
  let c ← keyword "catch"
  let d ← optional (one (catchDeclaration n))
  let f ← optional (one (catchFilter n))
  let body ← block n
  join "catch_clause" (c :: d ++ f ++ [body.labeled "body"])

/-- What is done in any case. -/
def finallyClause (n : Nested) : Parse Piece := do
  let f ← keyword "finally"
  let body ← block n
  join "finally_clause" [f, body]

/-- Statements that may fail. -/
def tryStatement (n : Nested) : Parse Piece := do
  let t ← keyword "try"
  let body ← block n
  let cs ← many (one (catchClause n))
  let f ← optional (one (finallyClause n))
  join "try_statement" (t :: body.labeled "body" :: cs ++ f)

/-- A variable declaration or an expression in parentheses. -/
def resource (n : Nested) : Parse (List Piece) := inParens (one (do
    let d ← variableDeclaration n
    guardThat (← atSymbol ")")
    pure d) <|> one n.expression)

/-- Statements with a resource that is released after them. -/
def usingStatement (n : Nested) : Parse Piece := do
  let aw ← optional (one (keyword "await"))
  let u ← keyword "using"
  let r ← resource n
  let body ← statementField n "body"
  join "using_statement" (aw ++ u :: r ++ body)

/-- A keyword, something in parentheses and a statement that fills no field. -/
def guardedStatement (n : Nested) (word kind : String) (inside : Parse (List Piece)) :
    Parse Piece := do
  let w ← keyword word
  let r ← inside
  let body ← n.statement
  join kind (w :: r ++ [body])

/-- A keyword and a block. -/
def wordBlock (n : Nested) (words : List String) (kind : String) : Parse Piece := do
  let w ← oneOfKeywords words
  let b ← block n
  join kind [w, b]

/-! ## Local declarations -/

/-- A function inside a function, after its return type. -/
def localFunctionTail (n : Nested) (start : List Piece) (type : Piece) : Parse Piece := do
  let name ← identifier
  let tps ← optional (one (typeParameters (attributeLists n)))
  let params ← parameterList n
  let cs ← many (one (constraintsClause n))
  let body ← functionBody n
  join "local_function_statement" (start ++ type.labeled "type" :: name.labeled "name" ::
    labelAll "type_parameters" tps ++ params.labeled "parameters" :: cs ++ body)

/-- Variables, after their type. -/
def localVariablesTail (n : Nested) (start : List Piece) (type : Piece) : Parse Piece := do
  let ps ← commaSeparated (one (variableDeclarator n type))
  let d ← join "variable_declaration" (type.labeled "type" :: ps)
  let semi ← semicolon
  join "local_declaration_statement" (start ++ [d, semi])

/-- A variable or a function declared among statements. -/
def localDeclaration (n : Nested) : Parse Piece := do
  let attrs ← attributeLists n
  let aw ← optional (do
    let a ← keyword "await"
    let u ← keyword "using"
    pure [a, u])
  let us ← optional (one (keyword "using"))
  let mods ← many (one modifier)
  let type ← n.type
  let start := attrs ++ aw ++ us ++ mods
  localFunctionTail n start type <|> localVariablesTail n start type

/-! ## All of them -/

/-- A statement. -/
def statementRule (n : Nested) : Parse Piece :=
  block n <|> emptyStatement <|> ifStatement n <|> whileStatement n <|> doStatement n <|>
    forStatement n <|> foreachStatement n <|> switchStatement n <|> tryStatement n <|>
    valueStatement n "return" "return_statement" <|>
    valueStatement n "throw" "throw_statement" <|> wordStatement "break" "break_statement" <|>
    wordStatement "continue" "continue_statement" <|> gotoStatement n <|> yieldStatement n <|>
    usingStatement n <|> guardedStatement n "lock" "lock_statement" (inParens (one n.expression)) <|>
    guardedStatement n "fixed" "fixed_statement" (inParens (one (variableDeclaration n))) <|>
    wordBlock n ["checked", "unchecked"] "checked_statement" <|>
    wordBlock n ["unsafe"] "unsafe_statement" <|> conditionalSection n.statement <|>
    labeledStatement n <|> localDeclaration n <|> expressionStatement n

end UnitReview.Csharp.Grammar
