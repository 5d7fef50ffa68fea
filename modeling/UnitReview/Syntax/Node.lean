import UnitReview.Syntax.Kind
import UnitReview.Syntax.Span
import UnitReview.Text.Blank

/-!
# The generic syntax tree

A node has a kind, the grammar's word for it, the field it fills in its parent, a span, its
children in source order and the comments right before it. A node does not hold the source: its
text is the part of a source that its span covers, so that one tree can be read over several
sources. A span that is no stretch of the source covers the empty text.

`Node.preorder` lists a node and all nodes below it, parents before children; `Node.walk` visits
the same nodes one after another, with an explicit stack.
-/

set_option autoImplicit false

namespace UnitReview

/-- A node of the generic tree, with everything below it. -/
structure Node where
  kind : Kind
  grammarKind : String
  field : Option String
  span : Span
  children : List Node
  leadingComments : List String
  deriving Repr, Inhabited

namespace Node

/-- The part of the source that the node covers. -/
def text (src : Text) (n : Node) : Text := (src.slice? n.span.startByte n.span.endByte).getD []

/-- First child that fills the given field. -/
def fieldNamed? (name : String) (n : Node) : Option Node :=
  n.children.find? (fun c => c.field == some name)

/-- First child of the given kind. -/
def childOfKind? (k : Kind) (n : Node) : Option Node := n.children.find? (fun c => c.kind == k)

/-- Left operand: the field `left`, or else the first child. -/
def left? (n : Node) : Option Node := (n.fieldNamed? "left").or n.children.head?

/-- Right operand: the field `right`, or else the last child. -/
def right? (n : Node) : Option Node := (n.fieldNamed? "right").or n.children.getLast?

/-- The node that names a declaration: the field `name`, or else the first identifier. -/
def nameNode? (n : Node) : Option Node := (n.fieldNamed? "name").or (n.childOfKind? .identifier)

/-- The name of a declaration. -/
def name? (src : Text) (n : Node) : Option Text := n.nameNode?.map (text src)

/-- Whether a modifier with the given keyword is among the children. -/
def hasModifier (src : Text) (keyword : String) (n : Node) : Bool :=
  n.children.any fun c => c.kind == .modifier && (c.text src).trim == keyword.toList

end Node

/-! ## Pre-order -/

mutual

/-- The node and all nodes below it, parents before children, in source order. -/
def Node.preorder : Node → List Node
  | ⟨k, g, f, s, cs, l⟩ => ⟨k, g, f, s, cs, l⟩ :: Node.preorderAll cs

/-- The pre-orders of several nodes, one after the other. -/
def Node.preorderAll : List Node → List Node
  | [] => []
  | n :: ns => n.preorder ++ Node.preorderAll ns

end

mutual

/-- The number of nodes of a subtree. -/
def Node.size : Node → Nat
  | ⟨_, _, _, _, cs, _⟩ => Node.sizeAll cs + 1

/-- The number of nodes of several subtrees. -/
def Node.sizeAll : List Node → Nat
  | [] => 0
  | n :: ns => n.size + Node.sizeAll ns

end

namespace Node

/-- The nodes of a given kind among a node and the nodes below it. -/
def ofKind (k : Kind) (n : Node) : List Node := n.preorder.filter (fun m => m.kind == k)

@[simp] theorem preorder_eq (n : Node) : n.preorder = n :: preorderAll n.children := by
  cases n; simp [preorder]

@[simp] theorem preorderAll_nil : preorderAll [] = [] := by simp [preorderAll]

@[simp] theorem preorderAll_cons (n : Node) (ns : List Node) :
    preorderAll (n :: ns) = n.preorder ++ preorderAll ns := by simp [preorderAll]

theorem preorderAll_append (as bs : List Node) :
    preorderAll (as ++ bs) = preorderAll as ++ preorderAll bs := by
  induction as with
  | nil => simp
  | cons n ns ih => simp only [List.cons_append, preorderAll_cons, ih, List.append_assoc]

theorem preorderAll_eq_flatMap (ns : List Node) : preorderAll ns = ns.flatMap preorder := by
  induction ns with
  | nil => simp
  | cons n ns ih => rw [preorderAll_cons, ih, List.flatMap_cons]

theorem mem_preorder_self (n : Node) : n ∈ n.preorder := by simp

end Node

/-! ## The walk with a stack -/

/-- A walk under way: the nodes whose turn is still to come, the next one last. -/
structure Walk where
  stack : Array Node
  deriving Repr, Inhabited

namespace Walk

/-- Gives out the last node of the stack and puts its children in its place, the first child
last. -/
def next? (w : Walk) : Option (Node × Walk) :=
  w.stack.back?.map fun n => (n, ⟨w.stack.pop ++ n.children.reverse⟩)

/-- The nodes that a walk gives out, the first `limit` of them. -/
def take : Nat → Walk → List Node
  | 0, _ => []
  | limit + 1, w =>
      match w.next? with
      | none => []
      | some (n, rest) => n :: take limit rest

end Walk

namespace Node

/-- The walk that starts at a node. -/
def walk (n : Node) : Walk := ⟨#[n]⟩

/-- What the walk over a node and all nodes below it gives out. -/
def descendants (n : Node) : List Node := n.walk.take n.size

end Node

/-! ## Units -/

/-- A source unit that has been read: its tree, its text and the name it goes by. -/
structure SourceUnit where
  root : Node
  source : Text
  displayName : String
  deriving Repr, Inhabited

namespace SourceUnit

/-- All nodes of a unit in pre-order. -/
def nodes (u : SourceUnit) : List Node := u.root.preorder

/-- All nodes of a unit of the given kind, in pre-order. -/
def nodesOfKind (k : Kind) (u : SourceUnit) : List Node := u.root.ofKind k

end SourceUnit

end UnitReview
