import UnitReview.Csharp.Grammar.Types

/-!
# Query expressions
-/

set_option autoImplicit false

namespace UnitReview.Csharp.Grammar

/-- The source of a query: a variable and what it ranges over. -/
def fromClause (n : Nested) : Parse Piece := do
  let f ← keyword "from"
  let head ← (do
    let name ← identifier
    let within ← keyword "in"
    pure [name.labeled "name", within]) <|> (do
    let type ← n.type
    let name ← identifier
    let within ← keyword "in"
    pure [type.labeled "type", name.labeled "name", within])
  let source ← n.expression
  join "from_clause" (f :: head ++ [source])

/-- A name for a value computed in a query. -/
def letClause (n : Nested) : Parse Piece := do
  let l ← keyword "let"
  let name ← identifier
  let eq ← symbol "="
  let value ← n.expression
  join "let_clause" [l, name, eq, value]

/-- A condition in a query. -/
def whereClause (n : Nested) : Parse Piece := do
  let w ← keyword "where"
  let c ← n.expression
  join "where_clause" [w, c]

/-- A name for the matches of a join. -/
def joinIntoClause : Parse Piece := do
  let i ← keyword "into"
  let name ← identifier
  join "join_into_clause" [i, name]

/-- A join with another source. -/
def joinClause (n : Nested) : Parse Piece := do
  let j ← keyword "join"
  let head ← (do
    let name ← identifier
    let within ← keyword "in"
    pure [name, within]) <|> (do
    let type ← n.type
    let name ← identifier
    let within ← keyword "in"
    pure [type.labeled "type", name, within])
  let source ← n.expression
  let on ← keyword "on"
  let left ← n.expression
  let eq ← keyword "equals"
  let right ← n.expression
  let into ← optional (one joinIntoClause)
  join "join_clause" (j :: head ++ [source, on, left, eq, right] ++ into)

/-- An order of the results. -/
def orderByClause (n : Nested) : Parse Piece := do
  let o ← keyword "orderby"
  let ps ← commaSeparated (do
    let key ← n.expression
    let direction ← optional (one (oneOfKeywords ["ascending", "descending"]))
    pure (key :: direction))
  join "order_by_clause" (o :: ps)

/-- What a query gives out. -/
def selectClause (n : Nested) : Parse Piece := do
  let s ← keyword "select"
  let value ← n.expression
  join "select_clause" [s, value]

/-- The groups that a query gives out. -/
def groupClause (n : Nested) : Parse Piece := do
  let g ← keyword "group"
  let value ← n.expression
  let by_ ← keyword "by"
  let key ← n.expression
  join "group_clause" [g, value, by_, key]

/-- A clause between the source and the result of a query. -/
def queryClause (n : Nested) : Parse Piece :=
  fromClause n <|> letClause n <|> whereClause n <|> joinClause n <|> orderByClause n

/-- A query that goes on with the results of the one before it. -/
def queryContinuation (n : Nested) : Parse (List Piece) := do
  let i ← keyword "into"
  let name ← identifier
  let ps ← n.queryBody
  pure (i :: name :: ps)

/-- A query from after its source on. -/
def queryBodyRule (n : Nested) : Parse (List Piece) := do
  let clauses ← many (one (queryClause n))
  let result ← selectClause n <|> groupClause n
  let more ← optional (queryContinuation n)
  pure (clauses ++ [result] ++ more)

/-- A query. -/
def queryExpression (n : Nested) : Parse Piece := do
  let source ← fromClause n
  let ps ← queryBodyRule n
  join "query_expression" (source :: ps)

end UnitReview.Csharp.Grammar
