import UnitReview.Csharp.Grammar.Arguments
import UnitReview.Csharp.Grammar.Lists

/-!
# Expressions that need no operator

Literals, names, strings with holes, calls of constructors, functions without a name, and
whatever stands in parentheses.
-/

set_option autoImplicit false

namespace UnitReview.Csharp.Grammar

/-! ## Literals and names -/

/-- A literal that is one token. -/
def tokenLiteral : Parse Piece :=
  takeToken fun t =>
    match t.lexeme with
    | .literal kind parts => some (Tree.inner kind t.extent parts)
    | _ => none

/-- A literal that is a word. -/
def wordLiteral : Parse Piece :=
  namedWord "boolean_literal" (fun w => w == "true" || w == "false") <|>
    namedWord "null_literal" (· == "null")

/-- The object itself. -/
def selfReference : Parse Piece := oneOfKeywords ["this", "base"]

/-- Symbols after which a list of types in angle brackets belongs to the name before it. -/
def afterTypeArguments : List String :=
  ["(", ")", "]", "\x7d", ":", ";", ",", ".", "?", "==", "!=", "|", "^", "&&", "||", "&", "["]

/-- An identifier with types, where the next symbol shows that the brackets are no comparison. -/
def genericValue (n : Nested) : Parse Piece := do
  let name ← identifier
  let args ← typeArguments n
  guardThat ((← atSymbols afterTypeArguments) || (← tokens).isEmpty)
  join "generic_name" [name, args]

/-- A simple name used as a value. -/
def valueName (n : Nested) : Parse Piece := genericValue n <|> identifier

/-- A name after an alias, used as a value. -/
def aliasedValue (n : Nested) : Parse Piece := do
  let first ← identifier
  let colons ← symbol "::"
  let name ← valueName n
  join "alias_qualified_name" [first.labeled "alias", colons, name.labeled "name"]

/-- A predefined type, of which a member is used. -/
def typeValue : Parse Piece := do
  let p ← predefinedType
  guardThat (← atSymbol ".")
  pure p

/-! ## Interpolated strings -/

/-- A part of an interpolated string. -/
def stringPart (kind : String) : Parse Piece :=
  takeToken fun t =>
    match t.lexeme with
    | .part k => if k == kind then some (Tree.leaf k true t.extent) else none
    | _ => none

/-- A hole in an interpolated string. -/
def interpolation (n : Nested) : Parse Piece := do
  let a ← stringPart "interpolation_brace"
  let value ← n.expression
  let alignment ← optional (do
    let comma ← symbol ","
    let width ← n.expression
    let p ← join "interpolation_alignment_clause" [comma, width]
    pure [p])
  let format ← optional (one (stringPart "interpolation_format_clause"))
  let b ← stringPart "interpolation_brace"
  join "interpolation" (a :: value :: alignment ++ format ++ [b])

/-- A string with holes. -/
def interpolatedString (n : Nested) : Parse Piece := do
  let start ← stringPart "interpolation_start"
  let a ← symbol "\""
  let ps ← many (one (stringPart "string_content") <|> one (stringPart "escape_sequence") <|>
    one (interpolation n))
  let b ← symbol "\""
  join "interpolated_string_expression" (start :: a :: ps ++ [b])

/-! ## Creation -/

/-- Values in braces. -/
def initializer (n : Nested) : Parse Piece := do
  let ps ← between "\x7b" "\x7d" (commaTerminated (one n.expression))
  join "initializer_expression" ps

/-- A member of an object without a named type. -/
def anonymousMember (n : Nested) : Parse (List Piece) :=
  (do
    let name ← identifier
    let eq ← symbol "="
    let value ← n.expression
    pure [name, eq, value]) <|> one n.expression

/-- An object without a named type. -/
def anonymousObject (n : Nested) (new : Piece) : Parse Piece := do
  let ps ← between "\x7b" "\x7d" (commaTerminated (anonymousMember n))
  join "anonymous_object_creation_expression" (new :: ps)

/-- An array whose element type is inferred. -/
def implicitArray (n : Nested) (new : Piece) : Parse Piece := do
  let ps ← between "[" "]" (many (one (symbol ",")))
  let values ← initializer n
  join "implicit_array_creation_expression" (new :: ps ++ [values])

/-- An object whose type is inferred. -/
def implicitObject (n : Nested) (new : Piece) : Parse Piece := do
  let args ← argumentList n
  let values ← optional (one (initializer n))
  join "implicit_object_creation_expression" (new :: args :: values)

/-- Continues an element type by the brackets of an array. -/
def arrayRanks (n : Nested) : Nat → Piece → Parse Piece
  | 0, p => pure p
  | fuel + 1, p => (do
      let rank ← sizeSpecifier n
      let q ← join "array_type" [p.labeled "type", rank.labeled "rank"]
      arrayRanks n fuel q) <|> pure p

/-- The type of a new object or of the elements of a new array. -/
def createdType (n : Nested) : Parse Piece := do
  let p ← predefinedType <|> tupleType n <|> qualifiedName n
  (do
    let mark ← symbol "?"
    guardThat (← atSymbol "[")
    join "nullable_type" [p.labeled "type", mark]) <|> pure p

/-- A new array. -/
def newArray (n : Nested) (word : String) (kind : String) : Parse Piece := do
  let new ← keyword word
  let element ← createdType n
  guardThat (← atSymbol "[")
  let ts ← tokens
  let type ← arrayRanks n ts.length element
  let values ← optional (one (initializer n))
  join kind (new :: type.labeled "type" :: values)

/-- A new object of a named type. -/
def newObject (n : Nested) : Parse Piece := do
  let new ← keyword "new"
  let type ← createdType n
  let args ← optional (one (argumentList n))
  let values ← optional (one (initializer n))
  join "object_creation_expression"
    (new :: type.labeled "type" :: labelAll "arguments" args ++ labelAll "initializer" values)

/-- Something new. -/
def creation (n : Nested) : Parse Piece :=
  (do
    let new ← keyword "new"
    anonymousObject n new <|> implicitArray n new <|> implicitObject n new) <|>
    newArray n "new" "array_creation_expression" <|> newObject n <|>
    newArray n "stackalloc" "stackalloc_expression"

/-! ## Functions without a name -/

/-- Words in front of a function without a name. -/
def lambdaModifier : Parse Piece := do
  let p ← namedWord "modifier" (fun w => w == "async" || w == "static")
  guardThat (!(← atSymbol "=>"))
  pure p

/-- What is left after a closing parenthesis that matches the opening one before the tokens;
`depth` counts those that are open further inside. -/
def afterMatching : Nat → List Token → Option (List Token)
  | _, [] => none
  | depth, t :: ts =>
      if t.isSymbol "(" then afterMatching (depth + 1) ts
      else if t.isSymbol ")" then
        match depth with
        | 0 => some ts
        | d + 1 => afterMatching d ts
      else afterMatching depth ts

/-- Whether an arrow stands after the parentheses that open here. -/
def parenthesesThenArrow : List Token → Bool
  | t :: ts =>
      t.isSymbol "(" && (afterMatching 0 ts).any fun rest => rest.head?.any (·.isSymbol "=>")
  | [] => false

/-- The parameters of a lambda. -/
def lambdaParameters (n : Nested) : Parse Piece := do
  let ts ← tokens
  if parenthesesThenArrow ts then parameterList n
  else
    let p ← identifierAs "implicit_parameter"
    guardThat (← atSymbol "=>")
    pure p

/-- The body of a lambda. -/
def lambdaBody (n : Nested) : Parse Piece := do
  if ← atSymbol "\x7b" then block n else n.expression

/-- A function written with an arrow. -/
def lambda (n : Nested) : Parse Piece := do
  let mods ← many (one lambdaModifier)
  let params ← lambdaParameters n
  let arrow ← symbol "=>"
  let body ← lambdaBody n
  join "lambda_expression"
    (mods ++ [params.labeled "parameters", arrow, body.labeled "body"])

/-- A function written with the keyword `delegate`. -/
def anonymousMethod (n : Nested) : Parse Piece := do
  let mods ← many (one lambdaModifier)
  let d ← keyword "delegate"
  let params ← optional (one (parameterList n))
  let body ← block n
  join "anonymous_method_expression" (mods ++ d :: labelAll "parameters" params ++ [body])

/-! ## Parentheses -/

/-- A keyword and a type in parentheses. -/
def typeOperator (n : Nested) (word kind : String) : Parse Piece := do
  let w ← keyword word
  let a ← symbol "("
  let type ← n.type
  let b ← symbol ")"
  join kind [w, a, type.labeled "type", b]

/-- The default value of a type. -/
def defaultExpression (n : Nested) : Parse Piece :=
  typeOperator n "default" "default_expression" <|> (do
    let d ← keyword "default"
    join "default_expression" [d])

/-- An expression whose arithmetic is checked or not. -/
def checkedExpression (n : Nested) : Parse Piece := do
  let w ← oneOfKeywords ["checked", "unchecked"]
  let ps ← between "(" ")" (one n.expression)
  join "checked_expression" (w :: ps)

/-- Two values or more in parentheses. -/
def tupleExpression (n : Nested) : Parse Piece := do
  let a ← symbol "("
  let first ← argument n
  let comma ← symbol ","
  let ps ← commaSeparated (one (argument n))
  let b ← symbol ")"
  join "tuple_expression" ([a, first, comma] ++ ps ++ [b])

/-- Whether a comma stands between the parentheses that open here, outside all brackets. -/
def commaInParentheses : Nat → List Token → Bool
  | _, [] => false
  | depth, t :: ts =>
      if ["(", "[", "\x7b"].any t.isSymbol then commaInParentheses (depth + 1) ts
      else if [")", "]", "\x7d"].any t.isSymbol then
        if depth ≤ 1 then false else commaInParentheses (depth - 1) ts
      else if t.isSymbol "," && depth == 1 then true
      else commaInParentheses depth ts

/-- A value in parentheses. -/
def parenthesized (n : Nested) : Parse Piece := do
  let ps ← between "(" ")" (one n.expression)
  join "parenthesized_expression" ps

/-- A tuple or a value in parentheses. -/
def inParentheses (n : Nested) : Parse Piece := do
  guardThat (← atSymbol "(")
  if commaInParentheses 0 (← tokens) then tupleExpression n <|> parenthesized n
  else parenthesized n

/-! ## All of them -/

/-- An expression that needs no operator. -/
def primary (n : Nested) : Parse Piece :=
  tokenLiteral <|> wordLiteral <|> interpolatedString n <|> selfReference <|> creation n <|>
    anonymousMethod n <|> typeOperator n "typeof" "typeof_expression" <|>
    typeOperator n "sizeof" "sizeof_expression" <|> defaultExpression n <|>
    checkedExpression n <|> typeValue <|> inParentheses n <|> aliasedValue n <|> valueName n <|>
    initializer n <|> bracketedArguments n "element_binding_expression"

end UnitReview.Csharp.Grammar
