import UnitReview.Csharp.Grammar.Statements

/-!
# Declarations

Types and their members, namespaces, and the directives at the head of a unit.
-/

set_option autoImplicit false

namespace UnitReview.Csharp.Grammar

/-- Attributes and modifiers, in front of a declaration. -/
def declarationStart (n : Nested) : Parse (List Piece) := do
  let attrs ← attributeLists n
  let mods ← many (one modifier)
  pure (attrs ++ mods)

/-! ## Types -/

/-- A base type, with arguments if it is built from them. -/
def baseEntry (n : Nested) (record : Bool) : Parse (List Piece) := do
  let type ← n.type
  (do
    let args ← argumentList n
    if record then
      let p ← join "primary_constructor_base_type" [type.labeled "type", args]
      pure [p]
    else pure [type, args]) <|> pure [type]

/-- The base types of a type. -/
def baseList (n : Nested) (record : Bool) : Parse Piece := do
  let colon ← symbol ":"
  let ps ← commaSeparated (baseEntry n record)
  join "base_list" (colon :: ps)

/-- What may follow the name of a type, in any order. -/
def typeHeads (n : Nested) (record : Bool) : Parse (List Piece) := do
  let ps ← many (one (typeParameters (attributeLists n)) <|> one (parameterList n) <|>
    one (baseList n record))
  let cs ← many (one (constraintsClause n))
  pure (ps ++ cs)

/-- The members of a type. -/
def declarationList (n : Nested) : Parse Piece := braced "declaration_list" n.declaration

/-- A body and an optional semicolon, or a semicolon in its place. -/
def typeBody (body : Parse Piece) : Parse (List Piece) :=
  (do
    let b ← body
    let semi ← optional (one (symbol ";"))
    pure (b.labeled "body" :: semi)) <|> one (symbol ";")

/-- A class, struct or interface. -/
def typeDeclaration (n : Nested) (start : List Piece) (word kind : String) : Parse Piece := do
  let w ← keyword word
  let name ← identifier
  let heads ← typeHeads n false
  let body ← typeBody (declarationList n)
  join kind (start ++ w :: name.labeled "name" :: heads ++ body)

/-- A struct; it may be a reference. -/
def structDeclaration (n : Nested) (start : List Piece) : Parse Piece := do
  let r ← optional (one (keyword "ref"))
  typeDeclaration n (start ++ r) "struct" "struct_declaration"

/-- A record, with a semicolon in place of its members if it has none. -/
def recordDeclaration (n : Nested) (start : List Piece) : Parse Piece := do
  let w ← keyword "record"
  let sort ← optional (one (oneOfKeywords ["class", "struct"]))
  let name ← identifier
  let heads ← typeHeads n true
  let body ← typeBody (declarationList n)
  join "record_declaration" (start ++ w :: sort ++ name.labeled "name" :: heads ++ body)

/-- One value of an enumeration. -/
def enumMember (n : Nested) : Parse Piece := do
  let attrs ← attributeLists n
  let name ← identifier
  let value ← optional (do
    let eq ← symbol "="
    let v ← n.expression
    pure [eq, v.labeled "value"])
  join "enum_member_declaration" (attrs ++ name.labeled "name" :: value)

/-- The values of an enumeration. -/
def enumMembers (n : Nested) : Parse Piece := do
  let ps ← between "\x7b" "\x7d" (commaTerminated (one (enumMember n)))
  join "enum_member_declaration_list" ps

/-- An enumeration. -/
def enumDeclaration (n : Nested) (start : List Piece) : Parse Piece := do
  let w ← keyword "enum"
  let name ← identifier
  let base ← optional (one (baseList n false))
  let body ← typeBody (enumMembers n)
  join "enum_declaration" (start ++ w :: name.labeled "name" :: base ++ body)

/-- A type of functions. -/
def delegateDeclaration (n : Nested) (start : List Piece) : Parse Piece := do
  let w ← keyword "delegate"
  let type ← n.type
  let name ← identifier
  let tps ← optional (one (typeParameters (attributeLists n)))
  let params ← parameterList n
  let cs ← many (one (constraintsClause n))
  let semi ← symbol ";"
  join "delegate_declaration" (start ++ w :: type.labeled "type" :: name.labeled "name" ::
    labelAll "type_parameters" tps ++ params.labeled "parameters" :: cs ++ [semi])

/-- A declaration of a type, after its modifiers. -/
def typeDeclarations (n : Nested) (start : List Piece) : Parse Piece :=
  typeDeclaration n start "class" "class_declaration" <|> structDeclaration n start <|>
    typeDeclaration n start "interface" "interface_declaration" <|> enumDeclaration n start <|>
    recordDeclaration n start <|> delegateDeclaration n start

/-! ## Members -/

/-- A call of another constructor. -/
def constructorInitializer (n : Nested) : Parse Piece := do
  let colon ← symbol ":"
  let w ← oneOfKeywords ["base", "this"]
  let args ← argumentList n
  join "constructor_initializer" [colon, w, args]

/-- A constructor. -/
def constructorDeclaration (n : Nested) (start : List Piece) : Parse Piece := do
  let name ← identifier
  let params ← parameterList n
  let init ← optional (one (constructorInitializer n))
  let body ← functionBody n
  join "constructor_declaration"
    (start ++ name.labeled "name" :: params.labeled "parameters" :: init ++ body)

/-- What runs when an object is dropped. -/
def destructorDeclaration (n : Nested) (start : List Piece) : Parse Piece := do
  let tilde ← symbol "~"
  let name ← identifier
  let params ← parameterList n
  let body ← functionBody n
  join "destructor_declaration"
    (start ++ tilde :: name.labeled "name" :: params.labeled "parameters" :: body)

/-- One way to read or change a property or an event. -/
def accessor (n : Nested) : Parse Piece := do
  let start ← declarationStart n
  let name ← oneOfKeywords ["get", "set", "init", "add", "remove"]
  let body ← functionBody n
  join "accessor_declaration" (start ++ name.labeled "name" :: body)

/-- The ways to read and change a property or an event. -/
def accessorList (n : Nested) : Parse Piece := braced "accessor_list" (accessor n)

/-- Whether the next tokens are a simple name and a point after it. -/
def interfaceStep (n : Nested) : Parse (Piece × Piece) := do
  let name ← simpleName n
  let dot ← symbol "."
  pure (name, dot)

/-- Continues the name of an interface while a member name still follows. -/
def interfaceName (n : Nested) : Nat → Piece → Piece → Parse (Piece × Piece)
  | 0, p, dot => pure (p, dot)
  | fuel + 1, p, dot => (do
      let (name, next) ← interfaceStep n
      let q ← join "qualified_name" [p.labeled "qualifier", dot, name.labeled "name"]
      interfaceName n fuel q next) <|> pure (p, dot)

/-- The interface that a member belongs to. -/
def explicitInterface (n : Nested) : Parse Piece := do
  let (first, dot) ← interfaceStep n
  let ts ← tokens
  let (name, last) ← interfaceName n ts.length first dot
  join "explicit_interface_specifier" [name, last]

/-- A method, after its return type. -/
def methodTail (n : Nested) (start : List Piece) (type : Piece) : Parse Piece := do
  let spec ← optional (one (explicitInterface n))
  let name ← identifier
  let tps ← optional (one (typeParameters (attributeLists n)))
  let params ← parameterList n
  let cs ← many (one (constraintsClause n))
  let body ← functionBody n
  join "method_declaration" (start ++ type.labeled "returns" :: spec ++ name.labeled "name" ::
    labelAll "type_parameters" tps ++ params.labeled "parameters" :: cs ++ body)

/-- An arrow, a value and a semicolon in place of accessors. -/
def arrowValue (n : Nested) : Parse (List Piece) := do
  let a ← arrowClause n
  let semi ← symbol ";"
  pure [a.labeled "value", semi]

/-- The accessors of a property and its first value. -/
def propertyBody (n : Nested) : Parse (List Piece) :=
  (do
    let acc ← accessorList n
    let value ← optional (do
      let eq ← symbol "="
      let v ← n.expression
      let semi ← symbol ";"
      pure [eq, v.labeled "value", semi])
    pure (acc.labeled "accessors" :: value)) <|> arrowValue n

/-- A property, after its type. -/
def propertyTail (n : Nested) (start : List Piece) (type : Piece) : Parse Piece := do
  let spec ← optional (one (explicitInterface n))
  let name ← identifier
  let body ← propertyBody n
  join "property_declaration"
    (start ++ type.labeled "type" :: spec ++ name.labeled "name" :: body)

/-- An indexer, after its type. -/
def indexerTail (n : Nested) (start : List Piece) (type : Piece) : Parse Piece := do
  let spec ← optional (one (explicitInterface n))
  let this ← keyword "this"
  let params ← bracketedParameterList n
  let body ← (do
    let acc ← accessorList n
    pure [acc.labeled "accessors"]) <|> arrowValue n
  join "indexer_declaration"
    (start ++ type.labeled "type" :: spec ++ this :: params.labeled "parameters" :: body)

/-- Operators that a type may define. -/
def definableOperators : List String :=
  [ "!", "~", "++", "--", "+", "-", "*", "/", "%", "^", "|", "&", "<<", "==", "!=", ">", "<"
  , ">=", "<=" ]

/-- An operator that a type may define. -/
def definedOperator : Parse Piece :=
  rightShift <|> oneOfSymbols definableOperators <|> oneOfKeywords ["true", "false"]

/-- An operator, after its type. -/
def operatorTail (n : Nested) (start : List Piece) (type : Piece) : Parse Piece := do
  let spec ← optional (one (explicitInterface n))
  let w ← keyword "operator"
  let checked ← optional (one (keyword "checked"))
  let op ← definedOperator
  let params ← parameterList n
  let body ← functionBody n
  join "operator_declaration" (start ++ type.labeled "type" :: spec ++ w :: checked ++
    op.labeled "operator" :: params.labeled "parameters" :: body)

/-- A conversion between types. -/
def conversionDeclaration (n : Nested) (start : List Piece) : Parse Piece := do
  let how ← oneOfKeywords ["implicit", "explicit"]
  let spec ← optional (one (explicitInterface n))
  let w ← keyword "operator"
  let checked ← optional (one (keyword "checked"))
  let type ← n.type
  let params ← parameterList n
  let body ← functionBody n
  join "conversion_operator_declaration" (start ++ how :: spec ++ w :: checked ++
    type.labeled "type" :: params.labeled "parameters" :: body)

/-- Fields, after their type. -/
def fieldTail (n : Nested) (start : List Piece) (type : Piece) : Parse Piece := do
  let ps ← commaSeparated (one (variableDeclarator n type))
  let d ← join "variable_declaration" (type.labeled "type" :: ps)
  let semi ← symbol ";"
  join "field_declaration" (start ++ [d, semi])

/-- An event, with accessors or as a field. -/
def eventDeclaration (n : Nested) (start : List Piece) : Parse Piece := do
  let w ← keyword "event"
  (do
    let type ← n.type
    let spec ← optional (one (explicitInterface n))
    let name ← identifier
    let acc ← accessorList n
    join "event_declaration" (start ++ w :: type.labeled "type" :: spec ++
      [name.labeled "name", acc.labeled "accessors"])) <|> (do
    let d ← variableDeclaration n
    let semi ← symbol ";"
    join "event_field_declaration" (start ++ [w, d, semi]))

/-- A member that starts with its type. -/
def typedMember (n : Nested) (start : List Piece) : Parse Piece := do
  let type ← n.type
  operatorTail n start type <|> indexerTail n start type <|> methodTail n start type <|>
    propertyTail n start type <|> fieldTail n start type

/-! ## Namespaces and directives -/

/-- A namespace with its members in braces. -/
def namespaceDeclaration (n : Nested) : Parse Piece := do
  let w ← keyword "namespace"
  let name ← qualifiedName n
  let body ← declarationList n
  let semi ← optional (one (symbol ";"))
  join "namespace_declaration" (w :: name.labeled "name" :: body.labeled "body" :: semi)

/-- A namespace for the rest of the unit. -/
def fileNamespace (n : Nested) : Parse Piece := do
  let w ← keyword "namespace"
  let name ← qualifiedName n
  let semi ← symbol ";"
  join "file_scoped_namespace_declaration" [w, name.labeled "name", semi]

/-- What a directive makes known: a namespace, the members of a type, or a new name. -/
def usingTarget (n : Nested) : Parse (List Piece) :=
  (do
    let u ← optional (one (keyword "unsafe"))
    let name ← identifier
    let eq ← symbol "="
    let type ← n.type
    pure (u ++ [name.labeled "name", eq, type])) <|> (do
    let s ← optional (one (keyword "static"))
    let u ← optional (one (keyword "unsafe"))
    let name ← qualifiedName n
    pure (s ++ u ++ [name]))

/-- A directive that makes names known. -/
def usingDirective (n : Nested) : Parse Piece := do
  let g ← optional (one (keyword "global"))
  let u ← keyword "using"
  let target ← usingTarget n
  let semi ← symbol ";"
  join "using_directive" (g ++ u :: target ++ [semi])

/-- A name for another assembly. -/
def externAlias : Parse Piece := do
  let e ← keyword "extern"
  let a ← keyword "alias"
  let name ← identifier
  let semi ← symbol ";"
  join "extern_alias_directive" [e, a, name.labeled "name", semi]

/-! ## All of them -/

/-- A member of a type or a namespace. -/
def declarationRule (n : Nested) : Parse Piece :=
  conditionalSection n.declaration <|> namespaceDeclaration n <|> usingDirective n <|> (do
    let start ← declarationStart n
    typeDeclarations n start <|> eventDeclaration n start <|> destructorDeclaration n start <|>
      conversionDeclaration n start <|> constructorDeclaration n start <|> typedMember n start)

/-- A declaration of a type, with its modifiers. -/
def topLevelType (n : Nested) : Parse Piece := do
  let start ← declarationStart n
  typeDeclarations n start

/-- A statement outside all declarations. -/
def globalStatement (n : Nested) : Parse Piece := do
  let s ← n.statement
  join "global_statement" [s]

/-- An item of a unit, but no conditional section. -/
def plainItem (n : Nested) : Parse Piece :=
  externAlias <|> usingDirective n <|> globalAttribute n <|> namespaceDeclaration n <|>
    fileNamespace n <|> topLevelType n <|> globalStatement n

/-- An item of a unit, conditional sections nested at most `depth` deep. -/
def unitItem (n : Nested) : Nat → Parse Piece
  | 0 => failure
  | depth + 1 => conditionalSection (unitItem n depth) <|> plainItem n

end UnitReview.Csharp.Grammar
