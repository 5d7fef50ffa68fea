import UnitReview.Csharp.Grammar.Basic

/-!
# Lists of items, and what does not fit

Statements of a block, members of a class and items of a unit come in lists. Where no item fits,
the lenient mode skips tokens up to the next place at which an item fits or the list ends; the
skipped stretch is one node of kind `ERROR`.
-/

set_option autoImplicit false

namespace UnitReview.Csharp.Grammar

/-- The tree for a skipped token; a stray character has none. -/
def skippedTree (t : Token) : Option Tree :=
  match t.lexeme with
  | .word w =>
      if reservedWords.contains w then some (Tree.leaf w false t.extent)
      else some (Tree.leaf "identifier" true t.extent)
  | .symbol s => some (Tree.leaf s false t.extent)
  | .literal k parts => some (Tree.inner k t.extent parts)
  | .part k => some (Tree.leaf k true t.extent)
  | .directive d => some (Tree.leaf d false t.extent)
  | .stray => none

/-- The children of a stretch of skipped tokens. -/
def skippedTrees : List Token → List Tree
  | [] => []
  | t :: ts => (skippedTree t).toList ++ ts.flatMap fun u => u.trivia ++ (skippedTree u).toList

/-- The node for a stretch of skipped tokens. -/
def skippedNode (ts : List Token) : Parse Piece :=
  match ts, ts.getLast? with
  | first :: _, some last =>
      let extent := first.extent.start.upTo last.extent.stop
      pure ⟨first.trivia, Tree.inner Tree.errorKind extent (skippedTrees ts)⟩
  | _, _ => failure

/-- Whether a rule applies to what is left. -/
def applies (item : Parse Piece) : Parse Bool := fun i => some ((item i).isSome, i)

/-- Takes one token, whatever it is. -/
def anyToken : Parse Token := fun i =>
  match i.tokens with
  | [] => none
  | t :: ts =>
      some (t, { i with tokens := ts, last := t.extent.stop })

/-- Skips tokens until the list ends or an item fits; `done` are those skipped, latest first. -/
def skipUntil (atEnd : Parse Bool) (item : Parse Piece) : Nat → List Token → Parse Piece
  | 0, done => skippedNode done.reverse
  | fuel + 1, done => do
      let t ← anyToken
      if (← atEnd) || (← applies item) then skippedNode (t :: done).reverse
      else skipUntil atEnd item fuel (t :: done)

/-- The items of a list, with skipped stretches between them. -/
def lenientItems (atEnd : Parse Bool) (item : Parse Piece) : Nat → Parse (List Piece)
  | 0 => pure []
  | fuel + 1 => do
      if ← atEnd then pure []
      else
        let ts ← tokens
        let p ← item <|> skipUntil atEnd item ts.length []
        let ps ← lenientItems atEnd item fuel
        pure (p :: ps)

/-- The items of a list up to its end. -/
def items (atEnd : Parse Bool) (item : Parse Piece) : Parse (List Piece) := fun i =>
  if i.lenient then lenientItems atEnd item i.tokens.length i
  else many (one item) i

/-- Whether no token is left. -/
def atEndOfText : Parse Bool := fun i => some (i.tokens.isEmpty, i)

/-- Whether a list in braces ends here. -/
def atClosingBrace : Parse Bool := do pure ((← atSymbol "\x7d") || (← atEndOfText))

/-- A list of items in braces. -/
def braced (kind : String) (item : Parse Piece) : Parse Piece := do
  let a ← symbol "\x7b"
  let ps ← items atClosingBrace item
  let b ← symbol "\x7d"
  join kind (a :: ps ++ [b])

/-- A block of statements. -/
def block (n : Nested) : Parse Piece := braced "block" n.statement

/-! ## Conditional sections -/

/-- A directive, as an anonymous leaf. -/
def directive (s : String) : Parse Piece :=
  takeToken fun t =>
    match t.lexeme with
    | .directive d => if d == s then some (Tree.leaf d false t.extent) else none
    | _ => none

/-- Whether a section of a conditional section ends here. -/
def atSectionEnd : Parse Bool := fun i =>
  some (i.tokens.isEmpty || i.tokens.head?.any (fun t =>
    match t.lexeme with
    | .directive d => d != "#if"
    | _ => false), i)

/-- Operators of conditions, loosest first. -/
def conditionOperators : List (List String) := [["||"], ["&&"], ["==", "!="]]

/-- Continues a condition by operators of one level. -/
def conditionTail (ops : List String) (operand : Parse Piece) : Nat → Piece → Parse Piece
  | 0, p => pure p
  | fuel + 1, p => (do
      let op ← oneOfSymbols ops
      let right ← operand
      let q ← join "binary_expression"
        [p.labeled "left", op.labeled "operator", right.labeled "right"]
      conditionTail ops operand fuel q) <|> pure p

/-- A condition with operators of the given levels. -/
def conditionLevels (atom : Parse Piece) : List (List String) → Parse Piece
  | [] => atom
  | ops :: rest => do
      let p ← conditionLevels atom rest
      let ts ← tokens
      conditionTail ops (conditionLevels atom rest) ts.length p

/-- The condition of a section: symbols joined by operators. -/
def condition : Nat → Parse Piece
  | 0 => failure
  | fuel + 1 =>
      let rec atom : Nat → Parse Piece
        | 0 => failure
        | depth + 1 =>
            namedWord "boolean_literal" (fun w => w == "true" || w == "false") <|> identifier <|>
            (do
              let op ← symbol "!"
              let arg ← atom depth
              join "unary_expression" [op.labeled "operator", arg.labeled "argument"]) <|>
            (do
              let a ← symbol "("
              let p ← condition fuel
              let b ← symbol ")"
              join "parenthesized_expression" [a, p, b])
      conditionLevels (atom (fuel + 1)) conditionOperators

/-- The items of a section up to the next directive of the same conditional. -/
def sectionItems (item : Parse Piece) : Parse (List Piece) := items atSectionEnd item

/-- The sections after the first one. -/
def alternatives (item : Parse Piece) : Nat → Parse (List Piece)
  | 0 => pure []
  | fuel + 1 => (do
      let d ← directive "#else"
      let ps ← sectionItems item
      let p ← join "preproc_else" (d :: ps)
      pure [p.labeled "alternative"]) <|> (do
      let d ← directive "#elif"
      let ts ← tokens
      let c ← condition ts.length
      let line ← symbol "\n"
      let ps ← sectionItems item
      let alts ← alternatives item fuel
      let p ← join "preproc_elif" (d :: c.labeled "condition" :: line :: ps ++ alts)
      pure [p.labeled "alternative"]) <|> pure []

/-- A conditional section around items of a list. -/
def conditionalSection (item : Parse Piece) : Parse Piece := do
  let d ← directive "#if"
  let ts ← tokens
  let c ← condition ts.length
  let line ← symbol "\n"
  let ps ← sectionItems item
  let alts ← alternatives item ts.length
  let e ← directive "#endif"
  join "preproc_if" (d :: c.labeled "condition" :: line :: ps ++ alts ++ [e])

end UnitReview.Csharp.Grammar
