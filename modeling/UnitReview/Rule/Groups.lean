import UnitReview.Rule.Category

/-!
# Suggestions by category

Suggestions are collected per category, in the order in which they come, and are given out one
category after the other. Nothing is dropped and nothing is merged.
-/

set_option autoImplicit false

namespace UnitReview

/-- Suggestions per category. -/
structure Groups where
  basic : List String
  security : List String
  performance : List String
  linq : List String
  deriving Repr, DecidableEq, Inhabited

namespace Groups

/-- No suggestions. -/
def empty : Groups := ⟨[], [], [], []⟩

/-- The suggestions of one category. -/
def get (g : Groups) : Category → List String
  | .basic => g.basic
  | .security => g.security
  | .performance => g.performance
  | .linq => g.linq

/-- Adds suggestions at the end of a category. -/
def extend (g : Groups) (c : Category) (items : List String) : Groups :=
  match c with
  | .basic => { g with basic := g.basic ++ items }
  | .security => { g with security := g.security ++ items }
  | .performance => { g with performance := g.performance ++ items }
  | .linq => { g with linq := g.linq ++ items }

/-- Number of suggestions in all categories. -/
def size (g : Groups) : Nat := Category.all.foldr (fun c n => (g.get c).length + n) 0

/-- Whether there is no suggestion. -/
def isEmpty (g : Groups) : Bool := g.size == 0

/-- All suggestions, category by category. -/
def ordered (g : Groups) : List String := Category.all.flatMap g.get

@[simp] theorem get_empty (c : Category) : empty.get c = [] := by cases c <;> rfl

theorem get_extend (g : Groups) (c d : Category) (items : List String) :
    (g.extend c items).get d = if c = d then g.get d ++ items else g.get d := by
  cases c <;> cases d <;> rfl

theorem length_ordered (g : Groups) : g.ordered.length = g.size := by
  simp [ordered, size, Category.all]

end Groups

end UnitReview
