import UnitReview.Csharp.Grammar.Arguments

/-!
# Patterns

A pattern is tested against a value: after `is`, after `case`, and in the arms of a `switch`
expression.
-/

set_option autoImplicit false

namespace UnitReview.Csharp.Grammar

/-- Binding strength of operators, the higher the tighter. -/
inductive Level where
  | choice | coalesce | logicalOr | logicalAnd | bitOr | bitXor | bitAnd | equality | relation
  | shift | sum | product | copy | select | range | tight
  deriving DecidableEq

/-- The levels as numbers. -/
def Level.rank : Level → Nat
  | .choice => 2
  | .coalesce => 3
  | .logicalOr => 4
  | .logicalAnd => 5
  | .bitOr => 6
  | .bitXor => 7
  | .bitAnd => 8
  | .equality => 9
  | .relation => 10
  | .shift => 11
  | .sum => 12
  | .product => 13
  | .copy => 14
  | .select => 15
  | .range => 16
  | .tight => 17

/-- Words that continue a pattern or a query, so that none of them names a variable right after
a type. -/
def patternWords : List String :=
  [ "and", "or", "when", "select", "where", "orderby", "group", "join", "let", "from", "into"
  , "on", "equals", "by", "ascending", "descending" ]

/-- The name that a pattern gives to a value. -/
def designation : Parse Piece :=
  takeToken fun t =>
    match t.lexeme with
    | .word w =>
        if reservedWords.contains w || patternWords.contains w then none
        else if w == "_" then some (Tree.leaf "discard" true t.extent)
        else some { Tree.leaf "identifier" true t.extent with field := some "name" }
    | _ => none

/-- Several names in parentheses. -/
def designations : Parse Piece := do
  let ps ← between "(" ")" (commaSeparated? (one designation))
  join "parenthesized_variable_designation" ps

/-- The discard pattern. -/
def discardPattern : Parse Piece := namedWord "discard" (· == "_")

/-- A pattern that takes any value and names it. -/
def varPattern : Parse Piece := do
  let v ← keyword "var"
  let d ← designation <|> designations
  join "var_pattern" [v, d]

/-- A component of a pattern, with the member that it is for. -/
def subpattern (n : Nested) : Parse Piece := do
  let member ← optional (do
    let m ← n.operand Level.tight.rank
    let colon ← symbol ":"
    pure [m, colon])
  let p ← n.pattern
  join "subpattern" (member ++ [p])

/-- Patterns for the members of a value. -/
def propertyClause (n : Nested) : Parse Piece := do
  let ps ← between "\x7b" "\x7d" (commaTerminated (one (subpattern n)))
  join "property_pattern_clause" ps

/-- Patterns for the components of a value. -/
def positionalClause (n : Nested) : Parse Piece := do
  let a ← symbol "("
  let first ← subpattern n
  let comma ← symbol ","
  let ps ← commaSeparated (one (subpattern n))
  let b ← symbol ")"
  join "positional_pattern_clause" ([a, first, comma] ++ ps ++ [b])

/-- The clauses of a pattern that looks into a value. -/
def recursiveClauses (n : Nested) : Parse (List Piece) :=
  (do
    let a ← positionalClause n
    let b ← optional (one (propertyClause n))
    pure (a :: b)) <|> one (propertyClause n)

/-- A pattern that looks into a value, with or without a type. -/
def recursivePattern (n : Nested) : Parse Piece :=
  (do
    let ps ← recursiveClauses n
    let d ← optional (one designation)
    join "recursive_pattern" (ps ++ d)) <|> (do
    let type ← testedType n
    let ps ← recursiveClauses n
    let d ← optional (one designation)
    join "recursive_pattern" (type.labeled "type" :: ps ++ d))

/-- A pattern for the elements of a sequence. -/
def listPattern (n : Nested) : Parse Piece := do
  let ps ← between "[" "]" (commaTerminated (one (symbol "..") <|> one n.pattern))
  join "list_pattern" ps

/-- A pattern in parentheses. -/
def parenthesizedPattern (n : Nested) : Parse Piece := do
  let ps ← between "(" ")" (one n.pattern)
  join "parenthesized_pattern" ps

/-- A comparison with a constant. -/
def relationalPattern (n : Nested) : Parse Piece := do
  let op ← oneOfSymbols ["<=", ">=", "<", ">"]
  let value ← n.operand Level.shift.rank
  join "relational_pattern" [op, value]

/-- A type and a name for the value. -/
def declarationPattern (n : Nested) : Parse Piece := do
  let type ← testedType n
  let d ← designation
  join "declaration_pattern" [type.labeled "type", d]

/-- A type that is no constant either: it has a keyword or marks. -/
def typePattern (n : Nested) : Parse Piece := do
  let type ← testedType n
  guardThat (["predefined_type", "array_type", "nullable_type", "tuple_type", "generic_name"].contains
    type.tree.kind)
  guardThat (!(← atSymbols [".", "("]))
  join "type_pattern" [type.labeled "type"]

/-- A constant. -/
def constantPattern (n : Nested) : Parse Piece := do
  let value ← n.operand Level.shift.rank
  join "constant_pattern" [value]

/-- A pattern without `not`, `and` and `or`. -/
def simplePattern (n : Nested) : Parse Piece :=
  relationalPattern n <|> varPattern <|> discardPattern <|> recursivePattern n <|>
    parenthesizedPattern n <|> listPattern n <|> declarationPattern n <|> typePattern n <|>
    constantPattern n

/-- A pattern that may be negated. -/
def negatedPattern (n : Nested) : Nat → Parse Piece
  | 0 => failure
  | fuel + 1 => (do
      let no ← keyword "not"
      let p ← negatedPattern n fuel
      join "negated_pattern" [no, p]) <|> simplePattern n

/-- Continues a pattern by others of the same connective. -/
def patternTail (word kind : String) (r : Parse Piece) : Nat → Piece → Parse Piece
  | 0, p => pure p
  | fuel + 1, p => (do
      let op ← keyword word
      let right ← r
      let q ← join kind [p.labeled "left", op.labeled "operator", right.labeled "right"]
      patternTail word kind r fuel q) <|> pure p

/-- Patterns joined by `and`. -/
def conjunction (n : Nested) : Parse Piece := do
  let ts ← tokens
  let p ← negatedPattern n ts.length
  patternTail "and" "and_pattern" (negatedPattern n ts.length) ts.length p

/-- A pattern. -/
def patternRule (n : Nested) : Parse Piece := do
  let ts ← tokens
  let p ← conjunction n
  patternTail "or" "or_pattern" (conjunction n) ts.length p

/-- A condition on a value that fits a pattern. -/
def whenClause (n : Nested) : Parse Piece := do
  let w ← keyword "when"
  let c ← n.expression
  join "when_clause" [w, c]

end UnitReview.Csharp.Grammar
