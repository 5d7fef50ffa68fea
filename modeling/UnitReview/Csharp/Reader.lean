import UnitReview.Csharp.Defects
import UnitReview.Csharp.Grammar.Declarations
import UnitReview.Csharp.Lowering
import UnitReview.Rule.Basic

/-!
# Reading a unit

The rules of the grammar are tied together to a fixed depth of nesting, which the number of
tokens bounds. A unit is first read strictly; if that fails it is read leniently, with tokens
inserted and stretches skipped. A unit that ends inside an open declaration is one stretch that
the grammar cannot place.
-/

set_option autoImplicit false

namespace UnitReview.Csharp

open Grammar

/-- The rules of the grammar, to a given depth of nesting. -/
def Grammar.Nested.upTo : Nat → Nested
  | 0 => Nested.none
  | depth + 1 =>
      { type := fun i => typeRule (Nested.upTo depth) i
        expression := fun i => expressionRule (Nested.upTo depth) i
        operand := fun level i => operandRule (Nested.upTo depth) level i
        unary := fun i => unaryRule (Nested.upTo depth) i
        pattern := fun i => patternRule (Nested.upTo depth) i
        queryBody := fun i => queryBodyRule (Nested.upTo depth) i
        statement := fun i => statementRule (Nested.upTo depth) i
        declaration := fun i => declarationRule (Nested.upTo depth) i }

/-- An item of a unit of at most `size` tokens. Between two tokens at most four rules follow
each other. -/
def item (size : Nat) : Parse Grammar.Piece := unitItem (Nested.upTo (4 * size + 8)) (size + 1)

/-- The items of a unit, if all tokens belong to one. -/
def readItems (lenient : Bool) (tokens : List Token) : Option (List Grammar.Piece) :=
  match items atEndOfText (item tokens.length) ⟨tokens, Place.start, lenient⟩ with
  | some (ps, rest) => if rest.tokens.isEmpty then some ps else none
  | none => none

/-- The root of a tree: it starts at its first child and ends with the text. -/
def root (kind : String) (children : List Tree) (stop : Place) : Tree :=
  let start := (children.head?.map (·.extent.start)).getD stop
  Tree.inner kind (start.upTo stop) children

/-- Braces left open at the end of the tokens, closing ones without a partner not counted. -/
def openBraces (tokens : List Token) : Nat :=
  tokens.foldl (fun d t =>
    if t.isSymbol "\x7b" then d + 1 else if t.isSymbol "\x7d" then d - 1 else d) 0

/-- The concrete tree of a source text. -/
def readTree (source : Text) : Tree :=
  let s := scan source
  let whole := fun (ps : List Grammar.Piece) =>
    root "compilation_unit" (ps.flatMap Grammar.Piece.inlined ++ s.trailing) s.stop
  match readItems false s.tokens with
  | some ps => whole ps
  | none =>
      if openBraces s.tokens > 0 then
        root Tree.errorKind
          ((s.tokens.flatMap fun t => t.trivia ++ (skippedTree t).toList) ++ s.trailing) s.stop
      else
        match readItems true s.tokens with
        | some ps => whole ps
        | none =>
            root Tree.errorKind
              ((s.tokens.flatMap fun t => t.trivia ++ (skippedTree t).toList) ++ s.trailing) s.stop

/-! ## Units -/

/-- What the rules are given to look at when a tree is lowered. -/
def Tree.context (src : Text) (name : String) (diagnostics : List Diagnostic) (t : Tree) :
    RuleContext :=
  ⟨⟨t.lower src, src, name⟩, diagnostics⟩

/-- Why there is no tree. -/
inductive TreeFault where
  /-- The grammar cannot be used, for the given reason. -/
  | grammar (reason : String)
  /-- The text was not read to its end. -/
  | unfinished
  deriving Repr, DecidableEq, Inhabited

/-- What is said of a unit without a tree. -/
def TreeFault.message (name : String) : TreeFault → String
  | .grammar reason => reason
  | .unfinished => "failed to parse C# source: " ++ name

/-- What makes trees of source texts. It is not told the name of the unit. -/
abbrev TreeReader := Text → Except TreeFault Tree

/-- The reader of trees by the grammar, which makes a tree of every text. -/
def grammarReader : TreeReader := fun source => .ok (readTree source)

/-- A unit as a reader of trees sees it, with what is wrong with it. -/
def readUnit (reader : TreeReader) (source : Text) (name : String) : Except String RuleContext :=
  match reader source with
  | .ok tree => .ok (tree.context source name (tree.defects source name))
  | .error fault => .error (fault.message name)

end UnitReview.Csharp
