import UnitReview.Csharp.Scanner

/-!
# Building blocks of the grammar

A rule of the grammar takes pieces off the tokens that are left, or fails and takes nothing. A
piece is a concrete tree with the trivia before its first token. When pieces are joined to a
node, the trivia of the first one stays outside, in front of the node, and the trivia of the
others become children of the node, each in front of its piece: so a comment is a child of the
innermost node that is open around it.

In the lenient mode a rule may insert a token that is not there. The inserted token stands right
after the last token taken.
-/

set_option autoImplicit false

namespace UnitReview.Csharp.Grammar

/-- What a rule has to work with. -/
structure Input where
  /-- The tokens that are left. -/
  tokens : List Token
  /-- The end of the last token taken. -/
  last : Place
  /-- Whether tokens may be inserted and stretches skipped. -/
  lenient : Bool
  deriving Inhabited

/-- A rule of the grammar: takes pieces off the input, or fails and leaves it as it was. -/
abbrev Parse (α : Type) := StateT Input Option α

/-- A tree and the trivia before its first token. -/
structure Piece where
  trivia : List Tree
  tree : Tree
  deriving Repr, Inhabited

namespace Piece

/-- The piece as the filler of a field. -/
def labeled (field : String) (p : Piece) : Piece :=
  { p with tree := { p.tree with field := some field } }

/-- The piece as a child that is not the first: its trivia go in front of it. -/
def inlined (p : Piece) : List Tree := p.trivia ++ [p.tree]

/-- The stretch from the start of the first tree to the end of the last. -/
def extentOf (first : Tree) (rest : List Piece) : Extent :=
  match rest.getLast? with
  | some l => first.extent.start.upTo l.tree.extent.stop
  | none => first.extent

end Piece

/-- Joins pieces to a node; without pieces there is no node. -/
def join (kind : String) (pieces : List Piece) : Parse Piece :=
  match pieces with
  | [] => failure
  | p :: ps =>
      pure ⟨p.trivia, Tree.inner kind (Piece.extentOf p.tree ps)
        (p.tree :: ps.flatMap Piece.inlined)⟩

/-! ## Looking ahead -/

/-- The tokens that are left. -/
def tokens : Parse (List Token) := fun i => some (i.tokens, i)

/-- The next token. -/
def peek? : Parse (Option Token) := fun i => some (i.tokens.head?, i)

/-- Whether the next token is the given punctuation. -/
def atSymbol (s : String) : Parse Bool := fun i =>
  some (i.tokens.head?.any (·.isSymbol s), i)

/-- Whether the next token is the given word. -/
def atWord (s : String) : Parse Bool := fun i => some (i.tokens.head?.any (·.isWord s), i)

/-- Whether one of the given symbols is next. -/
def atSymbols (ss : List String) : Parse Bool := fun i =>
  some (i.tokens.head?.any (fun t => ss.any t.isSymbol), i)

/-- Whether the token after the next one is the given punctuation. -/
def secondSymbol (s : String) : Parse Bool := fun i =>
  some ((i.tokens.drop 1).head?.any (·.isSymbol s), i)

/-- Goes on only if a condition holds. -/
def guardThat (b : Bool) : Parse Unit := if b then pure () else failure

/-- Runs a rule and forgets what it took. -/
def lookAhead {α : Type} (r : Parse α) : Parse α := fun i => (r i).map fun p => (p.1, i)

/-! ## Taking tokens -/

/-- Takes the next token as a tree of a given shape. -/
def takeToken (shape : Token → Option Tree) : Parse Piece := fun i =>
  match i.tokens with
  | [] => none
  | t :: ts =>
      (shape t).map fun tree =>
        (⟨t.trivia, tree⟩,
          { i with tokens := ts, last := t.extent.stop })

/-- Punctuation, as an anonymous leaf. -/
def symbol (s : String) : Parse Piece :=
  takeToken fun t => if t.isSymbol s then some (Tree.leaf s false t.extent) else none

/-- One of several symbols. -/
def oneOfSymbols (ss : List String) : Parse Piece :=
  takeToken fun t =>
    (ss.find? t.isSymbol).map fun s => Tree.leaf s false t.extent

/-- A keyword, as an anonymous leaf. -/
def keyword (s : String) : Parse Piece :=
  takeToken fun t => if t.isWord s then some (Tree.leaf s false t.extent) else none

/-- One of several keywords. -/
def oneOfKeywords (ss : List String) : Parse Piece :=
  takeToken fun t => (ss.find? t.isWord).map fun s => Tree.leaf s false t.extent

/-- A word as a named leaf of the given kind. -/
def namedWord (kind : String) (accept : String → Bool) : Parse Piece :=
  takeToken fun t =>
    match t.lexeme with
    | .word w => if accept w then some (Tree.leaf kind true t.extent) else none
    | _ => none

/-- Words that are never identifiers. -/
def reservedWords : List String :=
  [ "abstract", "as", "await", "base", "bool", "break", "byte", "case", "catch", "char"
  , "checked", "class", "const", "continue", "decimal", "default", "delegate", "do", "double"
  , "else", "enum", "event", "explicit", "extern", "false", "finally", "fixed", "float", "for"
  , "foreach", "goto", "if", "implicit", "in", "int", "interface", "internal", "is", "lock"
  , "long", "namespace", "new", "null", "object", "operator", "out", "override", "params"
  , "private", "protected", "public", "readonly", "ref", "return", "sbyte", "sealed", "short"
  , "sizeof", "stackalloc", "static", "string", "struct", "switch", "this", "throw", "true"
  , "try", "typeof", "uint", "ulong", "unchecked", "unsafe", "ushort", "using", "virtual"
  , "void", "volatile", "while" ]

/-- An identifier, as a leaf of the given kind. -/
def identifierAs (kind : String) : Parse Piece :=
  namedWord kind fun w => !reservedWords.contains w

/-- An identifier. -/
def identifier : Parse Piece := identifierAs "identifier"

/-- A token that is not there, right after the last token taken. -/
def insertMissing (kind : String) : Parse Piece := fun i =>
  if i.lenient then
    some (⟨[], ⟨kind, false, true, none, i.last.upTo i.last, []⟩⟩, i)
  else none

/-- The semicolon after a statement; it may be left out before a closing brace. -/
def semicolon : Parse Piece := do
  if ← atSymbol "\x7d" then insertMissing ";" else symbol ";"

/-- The parenthesis that closes a list of arguments; it may be left out before a semicolon. -/
def closingParenthesis : Parse Piece := do
  if ← atSymbol ";" then insertMissing ")" else symbol ")"

/-! ## Repetition -/

/-- What a rule takes, or nothing. -/
def optional (r : Parse (List Piece)) : Parse (List Piece) := r <|> pure []

/-- A single piece as a sequence. -/
def one (r : Parse Piece) : Parse (List Piece) := do
  let p ← r
  pure [p]

/-- At most `fuel` times in a row, as often as the rule applies. -/
def repeatUpTo (r : Parse (List Piece)) : Nat → Parse (List Piece)
  | 0 => pure []
  | fuel + 1 => (do
      let ps ← r
      let qs ← repeatUpTo r fuel
      pure (ps ++ qs)) <|> pure []

/-- As often in a row as the rule applies. Each time takes a token, so the number of tokens
bounds the number of times. -/
def many (r : Parse (List Piece)) : Parse (List Piece) := fun i =>
  repeatUpTo r i.tokens.length i

/-- At least once. -/
def many1 (r : Parse (List Piece)) : Parse (List Piece) := do
  let ps ← r
  let qs ← many r
  pure (ps ++ qs)

/-- A sequence of one piece or more, separated by commas. -/
def commaSeparated (r : Parse (List Piece)) : Parse (List Piece) := do
  let ps ← r
  let qs ← many (do
    let c ← symbol ","
    let ps ← r
    pure (c :: ps))
  pure (ps ++ qs)

/-- A sequence that may be empty, separated by commas. -/
def commaSeparated? (r : Parse (List Piece)) : Parse (List Piece) := optional (commaSeparated r)

/-- A sequence that may be empty and may end with a comma. -/
def commaTerminated (r : Parse (List Piece)) : Parse (List Piece) := do
  let ps ← commaSeparated? r
  let c ← optional (one (symbol ","))
  pure (ps ++ c)

/-- Something between two brackets, brackets included. -/
def between (opening closing : String) (r : Parse (List Piece)) : Parse (List Piece) := do
  let a ← symbol opening
  let ps ← r
  let b ← symbol closing
  pure (a :: ps ++ [b])

/-- Labels all pieces with a field. -/
def labelAll (field : String) (ps : List Piece) : List Piece := ps.map (·.labeled field)

/-! ## Rules that need each other

Expressions hold types, statements (in lambdas) and further expressions, and so on in a circle.
Each rule is therefore written over a record of the rules one level further down. -/

/-- The rules that a rule may use for what is nested in it. -/
structure Nested where
  type : Parse Piece
  expression : Parse Piece
  /-- An expression whose operators bind at least as tightly as the given level. -/
  operand : Nat → Parse Piece
  unary : Parse Piece
  pattern : Parse Piece
  queryBody : Parse (List Piece)
  statement : Parse Piece
  declaration : Parse Piece

/-- Nothing may be nested any further. -/
def Nested.none : Nested :=
  ⟨failure, failure, fun _ => failure, failure, failure, failure, failure, failure⟩

end UnitReview.Csharp.Grammar
