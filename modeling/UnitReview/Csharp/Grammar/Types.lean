import UnitReview.Csharp.Grammar.Basic

/-!
# Names and types
-/

set_option autoImplicit false

namespace UnitReview.Csharp.Grammar

/-! ## Names -/

/-- A list of types between angle brackets; it may hold commas only. -/
def typeArguments (n : Nested) : Parse Piece := do
  let ps ← between "<" ">" (commaSeparated (one n.type) <|> many (one (symbol ",")))
  join "type_argument_list" ps

/-- An identifier, with types if some follow. -/
def simpleName (n : Nested) : Parse Piece := do
  let name ← identifier
  (do
    let args ← typeArguments n
    join "generic_name" [name, args]) <|> pure name

/-- Continues a name by further parts after points. -/
def qualify (n : Nested) : Nat → Piece → Parse Piece
  | 0, p => pure p
  | fuel + 1, p => (do
      let dot ← symbol "."
      let name ← simpleName n
      let q ← join "qualified_name" [p.labeled "qualifier", dot, name.labeled "name"]
      qualify n fuel q) <|> pure p

/-- A name after an alias and a double colon, or else a simple name. -/
def aliasedName (n : Nested) : Parse Piece :=
  (do
    let first ← identifier
    let colons ← symbol "::"
    let name ← simpleName n
    join "alias_qualified_name" [first.labeled "alias", colons, name.labeled "name"]) <|>
    simpleName n

/-- A name with all its parts. -/
def qualifiedName (n : Nested) : Parse Piece := do
  let first ← aliasedName n
  let ts ← tokens
  qualify n ts.length first

/-! ## Types -/

/-- Types that have a keyword. -/
def predefinedTypes : List String :=
  [ "bool", "byte", "char", "decimal", "double", "float", "int", "long", "object", "sbyte"
  , "short", "string", "uint", "ulong", "ushort", "nint", "nuint", "void" ]

/-- A type that has a keyword. -/
def predefinedType : Parse Piece := namedWord "predefined_type" predefinedTypes.contains

/-- The word `var` before the thing that it declares. -/
def implicitType : Parse Piece := do
  let p ← namedWord "implicit_type" (· == "var")
  lookAhead (do let _ ← identifier <|> symbol "("; pure ())
  pure p

/-- One component of a tuple type. -/
def tupleElement (n : Nested) : Parse Piece := do
  let type ← n.type
  let name ← optional (one identifier)
  join "tuple_element" (type.labeled "type" :: labelAll "name" name)

/-- Two types or more between parentheses. -/
def tupleType (n : Nested) : Parse Piece := do
  let a ← symbol "("
  let first ← tupleElement n
  let comma ← symbol ","
  let ps ← commaSeparated (one (tupleElement n))
  let b ← symbol ")"
  join "tuple_type" ([a, first, comma] ++ ps ++ [b])

/-- The brackets of an array type. -/
def rankSpecifier : Parse Piece := do
  let ps ← between "[" "]" (many (one (symbol ",")))
  join "array_rank_specifier" ps

/-- The brackets of a new array; they may hold sizes. -/
def sizeSpecifier (n : Nested) : Parse Piece := do
  let ps ← between "[" "]" (many (one (symbol ",") <|> one n.expression))
  join "array_rank_specifier" ps

/-- A type without marks after it. -/
def baseType (n : Nested) : Parse Piece :=
  implicitType <|> predefinedType <|> tupleType n <|> qualifiedName n

/-- Symbols after which a question mark belongs to the type before it, when the type follows
`is` or `as`; before anything else it starts a choice between two values. -/
def afterNullable : List String :=
  [")", ";", ",", "]", "\x7d", "&&", "||", "==", "!=", "??", ":", ">", "="]

/-- The question mark of a type that may be null. -/
def nullableMark (afterTest : Bool) : Parse Piece := do
  let p ← symbol "?"
  let next ← atSymbols afterNullable
  guardThat (!afterTest || next)
  pure p

/-- Continues a type by the marks after it. -/
def typeMarks (afterTest : Bool) : Nat → Piece → Parse Piece
  | 0, p => pure p
  | fuel + 1, p => (do
      let mark ← nullableMark afterTest
      let q ← join "nullable_type" [p.labeled "type", mark]
      typeMarks afterTest fuel q) <|> (do
      let rank ← rankSpecifier
      let q ← join "array_type" [p.labeled "type", rank.labeled "rank"]
      typeMarks afterTest fuel q) <|> (do
      guardThat (!afterTest)
      let star ← symbol "*"
      let q ← join "pointer_type" [p.labeled "type", star]
      typeMarks afterTest fuel q) <|> pure p

/-- A type with the marks after it. -/
def markedType (n : Nested) (afterTest : Bool) : Parse Piece := do
  let p ← baseType n
  let ts ← tokens
  typeMarks afterTest ts.length p

/-- A type passed by reference. -/
def referenceType (n : Nested) : Parse Piece := do
  let r ← keyword "ref"
  let ro ← optional (one (keyword "readonly"))
  let type ← n.type
  join "ref_type" (r :: ro ++ [type.labeled "type"])

/-- A type. -/
def typeRule (n : Nested) : Parse Piece := referenceType n <|> markedType n false

/-- A type after `is` or `as`. -/
def testedType (n : Nested) : Parse Piece := markedType n true

/-! ## Type parameters -/

/-- A list of type parameters between angle brackets. -/
def typeParameters (attributes : Parse (List Piece)) : Parse Piece := do
  let ps ← between "<" ">" (commaSeparated (do
    let attrs ← attributes
    let variance ← optional (one (oneOfKeywords ["in", "out"]))
    let name ← identifier
    let p ← join "type_parameter" (attrs ++ variance ++ [name.labeled "name"])
    pure [p]))
  join "type_parameter_list" ps

/-- What a type parameter has to satisfy. -/
def typeConstraint (n : Nested) : Parse Piece :=
  (do
    let c ← keyword "class"
    let q ← optional (one (symbol "?"))
    join "type_parameter_constraint" (c :: q)) <|> (do
    let c ← oneOfKeywords ["struct", "notnull", "unmanaged"]
    join "type_parameter_constraint" [c]) <|> (do
    let new ← keyword "new"
    let a ← symbol "("
    let b ← symbol ")"
    let c ← join "constructor_constraint" [new, a, b]
    join "type_parameter_constraint" [c]) <|> (do
    let type ← n.type
    join "type_parameter_constraint" [type.labeled "type"])

/-- The constraints on one type parameter. -/
def constraintsClause (n : Nested) : Parse Piece := do
  let w ← keyword "where"
  let name ← identifier
  let colon ← symbol ":"
  let ps ← commaSeparated (one (typeConstraint n))
  join "type_parameter_constraints_clause" (w :: name :: colon :: ps)

end UnitReview.Csharp.Grammar
