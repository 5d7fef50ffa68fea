import UnitReview.Proofs.Rule.Chains

/-!
# The links of a chain

A chain of `+` is a nest of sums of two, and the same operands can be nested in many ways. A
`Grouping` is one of them, apart from how the sums are written. Flattening a node that is grouped in
any way gives the operands of the grouping from left to right (`Node.GroupedAs.concatOperands`), so
that whether a chain joins strings is a matter of its operands alone.

A chain of calls has query operators in its text. They all open with a dot and have no other, so
that no two of them overlap and a search that steps over each one finds all of them.
-/

set_option autoImplicit false

namespace UnitReview

/-! ## Operands -/

namespace Node

/-- **The operands of a chain** are no sums, and stand in the tree of the chain. -/
theorem operand_of_mem_concatOperands {n o : Node} (ho : o ∈ n.concatOperands) :
    o.kind ≠ .addExpression ∧ o ∈ n.preorder := by
  induction n using sum_induction with
  | operand n hn =>
      rw [concatOperands_eq, if_neg hn, List.mem_singleton] at ho
      subst ho
      exact ⟨hn, o.mem_preorder_self⟩
  | sum n hn ih =>
      obtain ⟨c, hc, hoc⟩ := (mem_concatOperands hn).1 ho
      obtain ⟨hkind, hbelow⟩ := ih c hc.2 hoc
      exact ⟨hkind, mem_preorder_of_mem_children hc.mem_children hbelow⟩

/-- The child is the first one that fills a field. -/
def FirstIn (c : Node) (name : String) (n : Node) : Prop :=
  c.field = some name ∧
    ∃ before after, n.children = before ++ c :: after ∧ ∀ b ∈ before, b.field ≠ some name

theorem fieldNamed?_eq_some_iff {n c : Node} {name : String} :
    n.fieldNamed? name = some c ↔ c.FirstIn name n := by
  rw [fieldNamed?, List.find?_eq_some_iff_append]
  simp only [FirstIn, beq_iff_eq, Bool.not_eq_true', beq_eq_false_iff_ne]

theorem fieldNamed?_eq_none_iff {n : Node} {name : String} :
    n.fieldNamed? name = none ↔ ∀ c ∈ n.children, c.field ≠ some name := by
  rw [fieldNamed?, List.find?_eq_none]
  simp only [beq_iff_eq, ne_eq]

/-- A sum of two operands. On either side the operand is the first child that fills the field of
that side; where the field is not filled, it is the child at that end. -/
structure Adds (n l r : Node) : Prop where
  kind : n.kind = .addExpression
  left : l.FirstIn "left" n ∨
    (∀ c ∈ n.children, c.field ≠ some "left") ∧ ∃ after, n.children = l :: after
  right : r.FirstIn "right" n ∨
    (∀ c ∈ n.children, c.field ≠ some "right") ∧ ∃ before, n.children = before ++ [r]

theorem Adds.left? {n l r : Node} (h : n.Adds l r) : n.left? = some l := by
  rw [Node.left?, Option.or_eq_some_iff, fieldNamed?_eq_some_iff, fieldNamed?_eq_none_iff,
    List.head?_eq_some_iff]
  exact h.left

theorem Adds.right? {n l r : Node} (h : n.Adds l r) : n.right? = some r := by
  rw [Node.right?, Option.or_eq_some_iff, fieldNamed?_eq_some_iff, fieldNamed?_eq_none_iff,
    List.getLast?_eq_some_iff]
  exact h.right

/-- The node apart from the field that it fills in its parent. -/
def unplaced (n : Node) : Node := { n with field := none }

theorem any_isStringLike_unplaced (os : List Node) :
    (os.map unplaced).any isStringLike = os.any isStringLike := by
  rw [List.any_map]
  rfl

/-- The node in a field of its parent. -/
def placed (name : String) (n : Node) : Node := { n with field := some name }

theorem Adds.placed {n l r : Node} (h : n.Adds l r) (name : String) : (n.placed name).Adds l r :=
  ⟨h.kind, h.left, h.right⟩

/-- The sum of two nodes, which fill its two fields. -/
def plus (l r : Node) : Node where
  kind := .addExpression
  grammarKind := "binary_expression"
  field := none
  span := ⟨l.span.startByte, r.span.endByte, l.span.startLine, l.span.startCol, r.span.endLine,
    r.span.endCol⟩
  children := [l.placed "left", r.placed "right"]
  leadingComments := []

theorem adds_plus (l r : Node) : (l.plus r).Adds (l.placed "left") (r.placed "right") where
  kind := rfl
  left := Or.inl ⟨rfl, [], [r.placed "right"], rfl, by simp⟩
  right := Or.inl ⟨rfl, [l.placed "left"], [], rfl, by simp [placed]⟩

end Node

/-! ## Groupings -/

/-- A way of putting the operands of a chain into sums of two. -/
inductive Grouping where
  | operand (o : Node)
  | sum (left right : Grouping)

namespace Grouping

/-- The operands from left to right. -/
def operands : Grouping → List Node
  | operand o => [o]
  | sum l r => l.operands ++ r.operands

/-- The grouping apart from the fields that its operands fill. -/
def unplaced : Grouping → Grouping
  | operand o => operand o.unplaced
  | sum l r => sum l.unplaced r.unplaced

end Grouping

namespace Node

/-- `n.GroupedAs g`: the sums of the chain are nested as the grouping says. -/
def GroupedAs : Node → Grouping → Prop
  | n, .operand o => n = o
  | n, .sum l r => ∃ a b : Node, n.Adds a b ∧ a.GroupedAs l ∧ b.GroupedAs r

variable {n : Node} {g : Grouping}

/-- **Flattening undoes any grouping.** -/
theorem GroupedAs.concatOperands (h : n.GroupedAs g)
    (hg : ∀ o ∈ g.operands, o.kind ≠ .addExpression) : n.concatOperands = g.operands := by
  induction g generalizing n with
  | operand o =>
      obtain rfl : n = o := h
      rw [concatOperands_eq, if_neg (hg n List.mem_cons_self), Grouping.operands]
  | sum l r ihl ihr =>
      obtain ⟨a, b, hsum, ha, hb⟩ := h
      rw [Grouping.operands, List.forall_mem_append] at hg
      rw [concatOperands_eq, if_pos hsum.kind, hsum.left?, hsum.right?, Option.elim_some,
        Option.elim_some, ihl ha hg.1, ihr hb hg.2, Grouping.operands]

/-- A chain of two or more operands is a sum. -/
theorem GroupedAs.kind_eq (h : n.GroupedAs g) (hmany : 2 ≤ g.operands.length) :
    n.kind = .addExpression := by
  cases g with
  | operand o => exact absurd hmany (Nat.not_le_of_lt Nat.one_lt_two)
  | sum l r =>
      obtain ⟨a, b, hsum, -⟩ := h
      exact hsum.kind

theorem GroupedAs.isStringConcatenation (h : n.GroupedAs g)
    (hg : ∀ o ∈ g.operands, o.kind ≠ .addExpression) (hmany : 2 ≤ g.operands.length) :
    n.isStringConcatenation = g.operands.any isStringLike := by
  rw [Node.isStringConcatenation, h.kind_eq hmany, h.concatOperands hg, beq_self_eq_true,
    Bool.true_and]

/-- Where a chain stands is no matter of how it is grouped. -/
theorem GroupedAs.placed (h : n.GroupedAs g) (name : String) :
    ∃ g' : Grouping, g'.unplaced = g.unplaced ∧ (n.placed name).GroupedAs g' := by
  cases g with
  | operand o =>
      obtain rfl : n = o := h
      exact ⟨.operand (n.placed name), rfl, rfl⟩
  | sum l r =>
      obtain ⟨a, b, hsum, ha, hb⟩ := h
      exact ⟨.sum l r, rfl, a, b, hsum.placed name, ha, hb⟩

/-- Operands can be nested in every way, once they have the fields for it. -/
theorem exists_groupedAs (g : Grouping) :
    ∃ (n : Node) (g' : Grouping), g'.unplaced = g.unplaced ∧ n.GroupedAs g' := by
  induction g with
  | operand o => exact ⟨o, .operand o, rfl, rfl⟩
  | sum l r ihl ihr =>
      obtain ⟨a, l', hl', ha⟩ := ihl
      obtain ⟨b, r', hr', hb⟩ := ihr
      -- what stood nowhere before takes the field of its side
      obtain ⟨l'', hl'', hleft⟩ := ha.placed "left"
      obtain ⟨r'', hr'', hright⟩ := hb.placed "right"
      refine ⟨a.plus b, .sum l'' r'', ?_, _, _, adds_plus a b, hleft, hright⟩
      rw [Grouping.unplaced, Grouping.unplaced, hl'', hr'', hl', hr']

/-- **How a chain is grouped does not matter.** The operands of a chain are no sums, and stand in the
tree of the chain. Operands that are no sums can be grouped in every way, if they take the fields
that the grouping gives them. However they are grouped, the operands of the chain are exactly these,
from left to right; and of two or more operands, the chain is a concatenation of strings exactly if
one of them is a string. -/
theorem concatOperands_of_grouping :
    (∀ n : Node, ∀ o ∈ n.concatOperands, o.kind ≠ .addExpression ∧ o ∈ n.preorder) ∧
    (∀ g : Grouping, ∃ (n : Node) (g' : Grouping), g'.unplaced = g.unplaced ∧ n.GroupedAs g') ∧
    ∀ os : List Node, (∀ o ∈ os, o.kind ≠ .addExpression) → ∀ (g : Grouping) (n : Node),
      g.operands.map unplaced = os.map unplaced → n.GroupedAs g →
        n.concatOperands = g.operands ∧
        (2 ≤ os.length → n.isStringConcatenation = os.any isStringLike) := by
  refine ⟨fun n o => operand_of_mem_concatOperands, exists_groupedAs, ?_⟩
  intro os hos g n hsame hn
  have hoperands : ∀ o ∈ g.operands, o.kind ≠ .addExpression := by
    have hunplaced : ∀ o ∈ os.map unplaced, o.kind ≠ .addExpression := List.forall_mem_map.2 hos
    rw [← hsame] at hunplaced
    exact fun o ho => hunplaced o.unplaced (List.mem_map_of_mem ho)
  refine ⟨hn.concatOperands hoperands, fun hmany => ?_⟩
  have hlength : g.operands.length = os.length := by
    rw [← List.length_map unplaced, hsame, List.length_map]
  calc n.isStringConcatenation
      = g.operands.any isStringLike := hn.isStringConcatenation hoperands (hlength ▸ hmany)
    _ = (g.operands.map unplaced).any isStringLike := (any_isStringLike_unplaced _).symm
    _ = (os.map unplaced).any isStringLike := by rw [hsame]
    _ = os.any isStringLike := any_isStringLike_unplaced os

/-- `a + "s" + b`, grouped to the left in sums with fields and to the right in sums without. -/
theorem concatOperands_of_grouping_twoWays :
    let a : Node := ⟨.identifier, "identifier", none, ⟨0, 1, 1, 1, 1, 2⟩, [], []⟩
    let s : Node := ⟨.stringLiteral, "string_literal", none, ⟨4, 7, 1, 5, 1, 8⟩, [], []⟩
    let b : Node := ⟨.identifier, "identifier", none, ⟨10, 11, 1, 11, 1, 12⟩, [], []⟩
    let left : Node := (a.plus s).plus b
    let inner : Node := { s.plus b with children := [s, b] }
    let right : Node := { a.plus inner with children := [a, inner] }
    left.concatOperands = [a.placed "left", s.placed "right", b.placed "right"] ∧
      left.isStringConcatenation = true ∧
      right.concatOperands = [a, s, b] ∧ right.isStringConcatenation = true := by
  intro a s b left inner right
  have hleft : left.GroupedAs (.sum (.sum (.operand (a.placed "left"))
      (.operand (s.placed "right"))) (.operand (b.placed "right"))) :=
    ⟨_, _, adds_plus _ b, ⟨_, _, (adds_plus a s).placed "left", rfl, rfl⟩, rfl⟩
  have hinner : inner.Adds s b :=
    ⟨rfl, Or.inr ⟨by decide, [b], rfl⟩, Or.inr ⟨by decide, [s], rfl⟩⟩
  have hright : right.GroupedAs (.sum (.operand a) (.sum (.operand s) (.operand b))) :=
    ⟨a, inner, ⟨rfl, Or.inr ⟨by decide, [inner], rfl⟩, Or.inr ⟨by decide, [a], rfl⟩⟩, rfl,
      s, b, hinner, rfl, rfl⟩
  have hany := concatOperands_of_grouping.2.2 [a, s, b] (by decide)
  obtain ⟨hleftList, hleftString⟩ := hany _ left rfl hleft
  obtain ⟨hrightList, hrightString⟩ := hany _ right rfl hright
  exact ⟨hleftList, hleftString (by decide), hrightList, hrightString (by decide)⟩

end Node

/-! ## Query operators -/

namespace Performance

theorem pairwise_unlike_chainedOperators : chainedOperators.Pairwise Text.Unlike := by decide

theorem head?_of_mem_chainedOperators :
    ∀ word ∈ chainedOperators, List.head? word = some '.' := by decide

/-- **Counting query operators neither misses one nor counts one twice.** The count of a text is the
number of positions at which one of the four operators starts, and no two occurrences overlap. A
text that is joined from two has at least the operators of both, so that the count does not get less
when a text is extended on either side. -/
theorem operators_counted_once :
    (∀ t : Text, Text.countOccurrences t chainedOperators =
      (List.range t.length).countP fun i =>
        [".Where(", ".Select(", ".OrderBy(", ".GroupBy("].any fun word =>
          word.toList.isPrefixOf (t.drop i)) ∧
    (∀ (t : Text) (i j : Nat), ∀ u ∈ chainedOperators, ∀ v ∈ chainedOperators,
      u <+: t.drop i → v <+: t.drop j →
        (i = j ∧ u = v) ∨ i + u.length ≤ j ∨ j + v.length ≤ i) ∧
    (∀ a b : Text, Text.countOccurrences a chainedOperators +
        Text.countOccurrences b chainedOperators ≤
      Text.countOccurrences (a ++ b) chainedOperators) ∧
    ∀ before t after : Text, Text.countOccurrences t chainedOperators ≤
      Text.countOccurrences (before ++ t ++ after) chainedOperators := by
  refine ⟨fun t => ?_, fun t i j u hu v hv hi hj => ?_, ?_, fun before t after => ?_⟩
  · rw [Text.countOccurrences_eq_startsAny opensOnce_chainedOperators
      pairwise_unlike_chainedOperators]
    rfl
  · exact Text.eq_or_apart opensOnce_chainedOperators pairwise_unlike_chainedOperators
      head?_of_mem_chainedOperators hu hv hi hj
  · exact Text.countOccurrences_append_le opensOnce_chainedOperators
  · exact Text.countOccurrences_le_of_part opensOnce_chainedOperators ⟨before, after, rfl⟩

/-- An operator that is cut in two is counted in the whole text and in neither part. -/
theorem operators_counted_once_cut :
    let a : Text := "q.Where(a).Sel".toList
    let b : Text := "ect(b).Where(c)".toList
    Text.countOccurrences a chainedOperators = 1 ∧ Text.countOccurrences b chainedOperators = 1 ∧
      Text.countOccurrences (a ++ b) chainedOperators = 3 ∧
      Text.countOccurrences a chainedOperators + Text.countOccurrences b chainedOperators ≤
        Text.countOccurrences (a ++ b) chainedOperators ∧
      ".Where(".toList <+: (a ++ b).drop 1 ∧ ".Select(".toList <+: (a ++ b).drop 10 ∧
      1 + ".Where(".toList.length ≤ 10 := by
  intro a b
  obtain ⟨hcount, hapart, hjoined, -⟩ := operators_counted_once
  have hfirst : ".Where(".toList <+: (a ++ b).drop 1 := by decide
  have hsecond : ".Select(".toList <+: (a ++ b).drop 10 := by decide
  refine ⟨?_, ?_, ?_, hjoined a b, hfirst, hsecond, ?_⟩
  · exact (hcount a).trans (by decide +kernel)
  · exact (hcount b).trans (by decide +kernel)
  · exact (hcount (a ++ b)).trans (by decide +kernel)
  · rcases hapart (a ++ b) 1 10 _ (by decide) _ (by decide) hfirst hsecond with ⟨h, -⟩ | h | h
    · exact absurd h (by decide)
    · exact h
    · exact absurd h (by decide)

end Performance

end UnitReview
