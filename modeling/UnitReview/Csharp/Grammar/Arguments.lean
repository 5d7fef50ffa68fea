import UnitReview.Csharp.Grammar.Types

/-!
# Attributes, parameters and arguments
-/

set_option autoImplicit false

namespace UnitReview.Csharp.Grammar

/-! ## Arguments -/

/-- A name and a colon in front of an argument. -/
def argumentName : Parse (List Piece) := do
  let name ← identifier
  let colon ← symbol ":"
  pure [name.labeled "name", colon]

/-- A variable declared where it is passed. -/
def declarationExpression (n : Nested) : Parse Piece := do
  let type ← n.type
  let name ← identifier
  guardThat (← atSymbols [",", ")", "]"])
  join "declaration_expression" [type.labeled "type", name.labeled "name"]

/-- An argument of a call. -/
def argument (n : Nested) : Parse Piece := do
  let name ← optional argumentName
  let by_ ← optional (one (oneOfKeywords ["ref", "out", "in"]))
  let value ← declarationExpression n <|> n.expression
  join "argument" (name ++ by_ ++ [value])

/-- The arguments of a call. -/
def argumentList (n : Nested) : Parse Piece := do
  let a ← symbol "("
  let ps ← commaSeparated? (one (argument n))
  let b ← closingParenthesis
  join "argument_list" (a :: ps ++ [b])

/-- Arguments in brackets, as a node of the given kind. -/
def bracketedArguments (n : Nested) (kind : String) : Parse Piece := do
  let ps ← between "[" "]" (commaTerminated (one (argument n)))
  join kind ps

/-! ## Attributes -/

/-- An argument of an attribute, with a name if one is given. -/
def attributeArgument (n : Nested) : Parse Piece := do
  let name ← optional (do
    let name ← identifier
    let colon ← symbol ":"
    pure [name, colon])
  let value ← n.expression
  join "attribute_argument" (name ++ [value])

/-- The arguments of an attribute. -/
def attributeArguments (n : Nested) : Parse Piece := do
  let ps ← between "(" ")" (commaSeparated? (one (attributeArgument n)))
  join "attribute_argument_list" ps

/-- One attribute. -/
def singleAttribute (n : Nested) : Parse Piece := do
  let name ← qualifiedName n
  let args ← optional (one (attributeArguments n))
  join "attribute" (name.labeled "name" :: args)

/-- What a list of attributes is for. -/
def attributeTarget : Parse Piece := do
  let target ← oneOfKeywords ["field", "event", "method", "param", "property", "return", "type"]
  let colon ← symbol ":"
  join "attribute_target_specifier" [target, colon]

/-- A list of attributes in brackets. -/
def attributeList (n : Nested) : Parse Piece := do
  let ps ← between "[" "]" (do
    let target ← optional (one attributeTarget)
    let ps ← commaSeparated (one (singleAttribute n))
    let comma ← optional (one (symbol ","))
    pure (target ++ ps ++ comma))
  join "attribute_list" ps

/-- The lists of attributes before a declaration. -/
def attributeLists (n : Nested) : Parse (List Piece) := many (one (attributeList n))

/-- Attributes of the whole assembly or module. -/
def globalAttribute (n : Nested) : Parse Piece := do
  let ps ← between "[" "]" (do
    let target ← oneOfKeywords ["assembly", "module"]
    let colon ← symbol ":"
    let ps ← commaSeparated (one (singleAttribute n))
    let comma ← optional (one (symbol ","))
    pure (target :: colon :: ps ++ comma))
  join "global_attribute" ps

/-! ## Parameters -/

/-- Words that say how a parameter is passed. -/
def parameterModifiers : List String := ["this", "scoped", "ref", "out", "in", "readonly"]

/-- A word in front of a parameter that says how it is passed. -/
def parameterModifier : Parse Piece := do
  let p ← namedWord "modifier" parameterModifiers.contains
  -- A word that stands alone is the name of the parameter.
  guardThat (!(← atSymbols [",", ")", "=", "]"]))
  pure p

/-- The value of a parameter that is not given. -/
def defaultValue (n : Nested) : Parse (List Piece) := do
  let eq ← symbol "="
  let value ← n.expression
  pure [eq, value]

/-- A parameter with its type. -/
def typedParameter (n : Nested) : Parse (List Piece) := do
  let mods ← many (one parameterModifier)
  let type ← n.type
  let name ← identifier
  pure (mods ++ [type.labeled "type", name.labeled "name"])

/-- A parameter without its type. -/
def untypedParameter : Parse (List Piece) := do
  let mods ← many (one parameterModifier)
  let name ← identifier
  pure (mods ++ [name.labeled "name"])

/-- A parameter. -/
def parameter (n : Nested) : Parse Piece := do
  let attrs ← attributeLists n
  let ps ← typedParameter n <|> untypedParameter
  let value ← optional (defaultValue n)
  join "parameter" (attrs ++ ps ++ value)

/-- The parameter that takes all further arguments; it has no node of its own. -/
def parameterArray (n : Nested) : Parse (List Piece) := do
  let attrs ← attributeLists n
  let params ← keyword "params"
  let type ← n.type
  let name ← identifier
  pure (attrs ++ [params, type.labeled "type", name.labeled "name"])

/-- Parameters, separated by commas. -/
def parameters (n : Nested) : Parse (List Piece) :=
  commaSeparated? (parameterArray n <|> one (parameter n))

/-- Parameters in parentheses. -/
def parameterList (n : Nested) : Parse Piece := do
  let ps ← between "(" ")" (parameters n)
  join "parameter_list" ps

/-- Parameters in brackets. -/
def bracketedParameterList (n : Nested) : Parse Piece := do
  let ps ← between "[" "]" (parameters n)
  join "bracketed_parameter_list" ps

end UnitReview.Csharp.Grammar
