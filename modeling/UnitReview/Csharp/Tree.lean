import UnitReview.Syntax.Span
import UnitReview.Text.Basic

/-!
# Concrete trees

What the grammar makes of a source text, nothing left out: keywords and punctuation are
anonymous leaves whose kind is their own text, comments are leaves wherever they stand, a token
that had to be inserted is a missing leaf without text, and a stretch the grammar cannot place
is a node of kind `ERROR`.
-/

set_option autoImplicit false

namespace UnitReview.Csharp

/-- A place between two characters: bytes before it, row and column, both from 0. Columns count
bytes. -/
structure Place where
  offset : Nat
  row : Nat
  column : Nat
  deriving Repr, DecidableEq, Inhabited

/-- A stretch of the source, from one place to another. -/
structure Extent where
  start : Place
  stop : Place
  deriving Repr, DecidableEq, Inhabited

/-- The stretch with lines and columns from 1. -/
def Extent.span (e : Extent) : Span :=
  { startByte := e.start.offset
    endByte := e.stop.offset
    startLine := e.start.row + 1
    startCol := e.start.column + 1
    endLine := e.stop.row + 1
    endCol := e.stop.column + 1 }

/-- A node of a concrete tree, with everything below it. -/
structure Tree where
  kind : String
  named : Bool
  missing : Bool
  field : Option String
  extent : Extent
  children : List Tree
  deriving Repr, Inhabited

namespace Tree

/-- The kind of comments. -/
def commentKind : String := "comment"

/-- The kind of stretches that the grammar cannot place. -/
def errorKind : String := "ERROR"

/-- Comments belong to what follows them and are no nodes of the generic tree. -/
def isComment (t : Tree) : Bool := t.kind == commentKind

/-- Whether the node is a stretch that the grammar cannot place. -/
def isError (t : Tree) : Bool := t.kind == errorKind

/-- A defect is an inserted token or a stretch that the grammar cannot place. -/
def isDefect (t : Tree) : Bool := t.missing || t.isError

/-- The part of the source that the node covers. -/
def text (src : Text) (t : Tree) : Text :=
  (src.slice? t.extent.start.offset t.extent.stop.offset).getD []

/-- The kind of the child that fills a field; a comment fills none. -/
def kindOfField? (name : String) (t : Tree) : Option String :=
  (t.children.find? (fun c => !c.isComment && c.field == some name)).map kind

end Tree

mutual

/-- The node and all nodes below it, parents before children, in source order. -/
def Tree.preorder : Tree → List Tree
  | ⟨k, n, m, f, e, cs⟩ => ⟨k, n, m, f, e, cs⟩ :: Tree.preorderAll cs

/-- The pre-orders of several nodes, one after the other. -/
def Tree.preorderAll : List Tree → List Tree
  | [] => []
  | t :: ts => t.preorder ++ Tree.preorderAll ts

end

mutual

/-- Whether the node or a node below it is a defect. -/
def Tree.hasDefect : Tree → Bool
  | ⟨k, n, m, f, e, cs⟩ => (⟨k, n, m, f, e, cs⟩ : Tree).isDefect || Tree.anyDefect cs

/-- Whether one of several nodes has a defect. -/
def Tree.anyDefect : List Tree → Bool
  | [] => false
  | t :: ts => t.hasDefect || Tree.anyDefect ts

end

namespace Tree

@[simp] theorem preorder_eq (t : Tree) : t.preorder = t :: preorderAll t.children := by
  cases t; simp [preorder]

@[simp] theorem preorderAll_nil : preorderAll [] = [] := by simp [preorderAll]

@[simp] theorem preorderAll_cons (t : Tree) (ts : List Tree) :
    preorderAll (t :: ts) = t.preorder ++ preorderAll ts := by simp [preorderAll]

theorem hasDefect_eq (t : Tree) : t.hasDefect = (t.isDefect || anyDefect t.children) := by
  cases t; simp [hasDefect]

@[simp] theorem anyDefect_nil : anyDefect [] = false := by simp [anyDefect]

@[simp] theorem anyDefect_cons (t : Tree) (ts : List Tree) :
    anyDefect (t :: ts) = (t.hasDefect || anyDefect ts) := by simp [anyDefect]

end Tree

end UnitReview.Csharp
