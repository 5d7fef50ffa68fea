import UnitReview.Csharp.Grammar.Patterns
import UnitReview.Csharp.Grammar.Queries
import UnitReview.Csharp.Grammar.Values

/-!
# Expressions

Operators by binding strength. Member access, calls and indexing bind tightest; then come unary
operators, then binary ones, left to right except for `??`, then the choice between two values,
then assignment. Access to a member of a value that may be null binds as loosely as a choice on
its left: all that stands to its left is the value.
-/

set_option autoImplicit false

namespace UnitReview.Csharp.Grammar

/-! ## What may follow a value -/

/-- One access, call, index or mark after a value. -/
def suffix (n : Nested) (p : Piece) : Parse Piece :=
  (do
    let dot ← oneOfSymbols [".", "->"]
    let name ← valueName n
    join "member_access_expression" [p.labeled "expression", dot, name.labeled "name"]) <|> (do
    let args ← argumentList n
    join "invocation_expression" [p.labeled "function", args.labeled "arguments"]) <|> (do
    let args ← bracketedArguments n "bracketed_argument_list"
    join "element_access_expression" [p.labeled "expression", args.labeled "subscript"]) <|> (do
    let op ← oneOfSymbols ["++", "--", "!"]
    join "postfix_unary_expression" [p, op])

/-- All that follows a value. -/
def suffixes (n : Nested) : Nat → Piece → Parse Piece
  | 0, p => pure p
  | fuel + 1, p => (do
      let q ← suffix n p
      suffixes n fuel q) <|> pure p

/-- All that follows a value, as far as there are tokens. -/
def withSuffixes (n : Nested) (p : Piece) : Parse Piece := do
  let ts ← tokens
  suffixes n ts.length p

/-! ## Unary operators -/

/-- Whether a token may start the operand of a cast to a named type: operators that are also
binary may not. -/
def startsCastOperand (t : Token) : Bool :=
  match t.lexeme with
  | .word w => !(["is", "as", "switch", "with", "and", "or", "when", "in"].contains w)
  | .literal _ _ => true
  | .part k => k == "interpolation_start"
  | .symbol s => s == "(" || s == "!" || s == "~"
  | _ => false

/-- Whether a type is written with a keyword, so that parentheses around it are a cast. -/
def isKeywordType (t : Tree) : Bool :=
  ["predefined_type", "array_type", "nullable_type", "pointer_type", "tuple_type"].contains t.kind

/-- Conversion to a type. -/
def castExpression (n : Nested) : Parse Piece := do
  let a ← symbol "("
  let type ← n.type
  let b ← symbol ")"
  let next ← peek?
  guardThat (next.any fun t =>
    startsCastOperand t ||
      (isKeywordType type.tree && ["+", "-", "*", "&", "++", "--"].any t.isSymbol))
  let value ← n.unary
  join "cast_expression" [a, type.labeled "type", b, value.labeled "value"]

/-- An operator in front of a value. -/
def unaryOperation (n : Nested) : Parse Piece := do
  let op ← oneOfSymbols ["++", "--", "+", "-", "!", "~", "&", "*", "^"]
  let value ← n.unary
  join "prefix_unary_expression" [op, value]

/-- Waiting for a value. -/
def awaitExpression (n : Nested) : Parse Piece := do
  let w ← keyword "await"
  let value ← n.unary
  join "await_expression" [w, value]

/-- Throwing where a value is wanted. -/
def throwExpression (n : Nested) : Parse Piece := do
  let w ← keyword "throw"
  let value ← n.expression
  join "throw_expression" [w, value]

/-- A reference to a variable. -/
def refExpression (n : Nested) : Parse Piece := do
  let w ← keyword "ref"
  let value ← n.expression
  join "ref_expression" [w, value]

/-- A range without a start. -/
def openRange (n : Nested) : Parse Piece := do
  let dots ← symbol ".."
  let stop ← optional (one (n.operand Level.tight.rank))
  join "range_expression" (dots :: stop)

/-- A value with the operators in front of it. -/
def unaryRule (n : Nested) : Parse Piece :=
  lambda n <|> unaryOperation n <|> awaitExpression n <|> throwExpression n <|> refExpression n <|>
    openRange n <|> castExpression n <|> (do
    let p ← primary n
    withSuffixes n p)

/-! ## Binary operators -/

/-- Binary operators that are one symbol, with their levels. -/
def binaryOperators : List (String × Level) :=
  [ ("??", .coalesce), ("||", .logicalOr), ("&&", .logicalAnd), ("|", .bitOr), ("^", .bitXor)
  , ("&", .bitAnd), ("==", .equality), ("!=", .equality), ("<", .relation), (">", .relation)
  , ("<=", .relation), (">=", .relation), ("<<", .shift), ("+", .sum), ("-", .sum)
  , ("*", .product), ("/", .product), ("%", .product) ]

/-- Whether two tokens stand side by side. -/
def adjacent (a b : Token) : Bool := a.extent.stop.offset == b.extent.start.offset && b.trivia.isEmpty

/-- How many of the next tokens are closing angle brackets side by side, at most three. -/
def shiftWidth : List Token → Nat
  | a :: b :: c :: _ =>
      if a.isSymbol ">" && b.isSymbol ">" && adjacent a b then
        if c.isSymbol ">" && adjacent b c then 3
        else if c.isSymbol ">=" && adjacent b c then 0
        else 2
      else 0
  | [a, b] => if a.isSymbol ">" && b.isSymbol ">" && adjacent a b then 2 else 0
  | _ => 0

/-- Whether the next tokens are a right shift that is also an assignment. -/
def isShiftAssignment : List Token → Bool
  | a :: b :: c :: _ =>
      a.isSymbol ">" && adjacent a b && (b.isSymbol ">=" ||
        (b.isSymbol ">" && c.isSymbol ">=" && adjacent b c))
  | [a, b] => a.isSymbol ">" && b.isSymbol ">=" && adjacent a b
  | _ => false

/-- Takes `count` tokens as one anonymous leaf. -/
def fused (kind : String) (count : Nat) : Parse Piece := fun i =>
  match i.tokens.take count, (i.tokens.take count).getLast? with
  | first :: _, some last =>
      let extent := first.extent.start.upTo last.extent.stop
      some (⟨first.trivia, Tree.leaf kind false extent⟩,
        { i with
          tokens := i.tokens.drop count
          last := last.extent.stop })
  | _, _ => none

/-- A right shift. -/
def rightShift : Parse Piece := do
  let width := shiftWidth (← tokens)
  guardThat (width > 0)
  fused (if width = 3 then ">>>" else ">>") width

/-- A binary operator and its level. -/
def binaryOperator : Parse (Piece × Level) :=
  (do
    let p ← rightShift
    pure (p, Level.shift)) <|> (do
    guardThat (!isShiftAssignment (← tokens))
    let p ← oneOfSymbols (binaryOperators.map (·.1))
    match binaryOperators.find? (·.1 == p.tree.kind) with
    | some (_, l) => pure (p, l)
    | none => failure)

/-- The least level of the right operand: one more than the operator's, so that operators group
to the left, except that `??` groups to the right. -/
def rightLevel (l : Level) : Nat := if l = .coalesce then l.rank else l.rank + 1

/-- A binary operator and its right operand after a left operand. -/
def binaryStep (n : Nested) (level : Nat) (p : Piece) : Parse Piece := do
  let (op, l) ← binaryOperator
  guardThat (level ≤ l.rank)
  let right ← n.operand (rightLevel l)
  join "binary_expression" [p.labeled "left", op.labeled "operator", right.labeled "right"]

/-- Whether a type after `is` is all there is: no name, clause or connective follows. -/
def typeTestEnds : Parse Bool := do
  let next ← peek?
  pure !(next.any fun t =>
    t.isSymbol "\x7b" || t.isSymbol "(" || t.isSymbol "." || t.isWord "and" || t.isWord "or" ||
      (match t.word? with
        | some w => !reservedWords.contains w && !patternWords.contains w
        | none => false))

/-- A test against a type. -/
def typeTest (n : Nested) (p : Piece) : Parse Piece := do
  let op ← keyword "is"
  guardThat !(← atWord "not")
  let type ← testedType n
  guardThat (← typeTestEnds)
  join "is_expression" [p.labeled "left", op.labeled "operator", type.labeled "right"]

/-- A test against a pattern. -/
def patternTest (n : Nested) (p : Piece) : Parse Piece := do
  let op ← keyword "is"
  let pattern ← n.pattern
  join "is_pattern_expression" [p.labeled "expression", op, pattern.labeled "pattern"]

/-- Conversion to a type, or null where the value is of another. -/
def asExpression (n : Nested) (p : Piece) : Parse Piece := do
  let op ← keyword "as"
  let type ← testedType n
  join "as_expression" [p.labeled "left", op.labeled "operator", type.labeled "right"]

/-- Tests and conversions after a left operand. -/
def typeStep (n : Nested) (level : Nat) (p : Piece) : Parse Piece := do
  guardThat (level ≤ Level.relation.rank)
  typeTest n p <|> patternTest n p <|> asExpression n p

/-- One arm of a choice by patterns. -/
def switchArm (n : Nested) : Parse Piece := do
  let pattern ← n.pattern
  let cond ← optional (one (whenClause n))
  let arrow ← symbol "=>"
  let value ← n.expression
  join "switch_expression_arm" (pattern :: cond ++ [arrow, value])

/-- A choice by patterns after the value that is matched. -/
def switchStep (n : Nested) (level : Nat) (p : Piece) : Parse Piece := do
  guardThat (level ≤ Level.select.rank)
  let w ← keyword "switch"
  let ps ← between "\x7b" "\x7d" (commaTerminated (one (switchArm n)))
  join "switch_expression" (p :: w :: ps)

/-- A changed member of a copy. -/
def copiedMember (n : Nested) : Parse Piece := do
  let name ← identifier
  let eq ← symbol "="
  let value ← n.expression
  join "with_initializer" [name, eq, value]

/-- A copy with changed members. -/
def copyStep (n : Nested) (level : Nat) (p : Piece) : Parse Piece := do
  guardThat (level ≤ Level.copy.rank)
  let w ← keyword "with"
  let ps ← between "\x7b" "\x7d" (commaTerminated (one (copiedMember n)))
  join "with_expression" (p :: w :: ps)

/-- A range after its start. -/
def rangeStep (n : Nested) (level : Nat) (p : Piece) : Parse Piece := do
  guardThat (level ≤ Level.range.rank)
  let dots ← symbol ".."
  let stop ← optional (one (n.operand Level.tight.rank))
  join "range_expression" (p :: dots :: stop)

/-- Access to a member of a value that may be null, with all that follows it. -/
def conditionalAccessStep (n : Nested) (level : Nat) (p : Piece) : Parse Piece := do
  guardThat (level ≤ Level.choice.rank)
  guardThat ((← secondSymbol ".") || (← secondSymbol "["))
  let mark ← symbol "?"
  let member ← (do
    let dot ← symbol "."
    let name ← valueName n
    join "member_binding_expression" [dot, name.labeled "name"]) <|>
    bracketedArguments n "element_binding_expression"
  let q ← join "conditional_access_expression" [p.labeled "condition", mark, member]
  withSuffixes n q

/-- One operator after a left operand. -/
def operatorStep (n : Nested) (level : Nat) (p : Piece) : Parse Piece :=
  binaryStep n level p <|> typeStep n level p <|> switchStep n level p <|> copyStep n level p <|>
    rangeStep n level p <|> conditionalAccessStep n level p

/-- All operators of at least the given level after a left operand. -/
def operatorSteps (n : Nested) (level : Nat) : Nat → Piece → Parse Piece
  | 0, p => pure p
  | fuel + 1, p => (do
      let q ← operatorStep n level p
      operatorSteps n level fuel q) <|> pure p

/-- An expression whose operators are at least of the given level. -/
def operandRule (n : Nested) (level : Nat) : Parse Piece := do
  let p ← n.unary
  let ts ← tokens
  operatorSteps n level ts.length p

/-! ## Choice and assignment -/

/-- A choice between two values after its condition. -/
def choiceTail (n : Nested) (p : Piece) : Parse Piece := do
  let mark ← symbol "?"
  let yes ← n.expression
  let colon ← symbol ":"
  let no ← n.expression
  join "conditional_expression" [p.labeled "condition", mark, yes.labeled "consequence", colon,
    no.labeled "alternative"]

/-- Assignment operators that are one symbol. -/
def assignmentOperators : List String :=
  ["=", "+=", "-=", "*=", "/=", "%=", "&=", "|=", "^=", "<<=", "??="]

/-- An assignment operator. -/
def assignmentOperator : Parse Piece :=
  (do
    let ts ← tokens
    guardThat (isShiftAssignment ts)
    if (ts.drop 1).head?.any (·.isSymbol ">=") then fused ">>=" 2 else fused ">>>=" 3) <|>
    oneOfSymbols assignmentOperators

/-- An assignment after its left side. -/
def assignmentTail (n : Nested) (p : Piece) : Parse Piece := do
  let op ← assignmentOperator
  let right ← n.expression
  join "assignment_expression" [p.labeled "left", op.labeled "operator", right.labeled "right"]

/-- An expression. -/
def expressionRule (n : Nested) : Parse Piece :=
  queryExpression n <|> (do
    let p ← operandRule n Level.choice.rank
    let q ← choiceTail n p <|> pure p
    assignmentTail n q <|> pure q)

end UnitReview.Csharp.Grammar
