import UnitReview.Proofs.Rule.Chains
import UnitReview.Proofs.Rule.Decomposition

/-!
# Lists that are built to be counted

The rule on lists that are built only to be counted goes through the invocations of a unit in
pre-order and looks for one that builds a list with one that counts among the three behind it. In
`e.ToList().Count()` the call that counts is the outer one: it comes first, and the call that builds
the list comes behind it. The text of the outer call has both in it, so that it can be either half
of a find, but the other half has to be another invocation: one before it that builds a list, in
particular one around it, or one behind it that counts. With no such invocation the rule is silent.
-/

set_option autoImplicit false

namespace UnitReview

namespace Performance

variable {ctx : RuleContext}

/-! ## What the rule finds -/

/-- Some node of a list builds a list, and one of the three behind it counts. -/
def CountedSoon (ctx : RuleContext) (ns : List Node) : Prop :=
  ∃ skipped n next, ns = skipped ++ n :: next ∧ buildsList (ctx.text n) = true ∧
    ∃ m ∈ next.take 3, counts (ctx.text m) = true

theorem not_countedSoon_nil : ¬ CountedSoon ctx [] := by
  rintro ⟨skipped, n, next, h, -⟩
  exact absurd h.symm (List.append_ne_nil_of_right_ne_nil _ (List.cons_ne_nil n next))

theorem countedSoon_cons {n : Node} {ns : List Node} : CountedSoon ctx (n :: ns) ↔
    (buildsList (ctx.text n) = true ∧ ∃ m ∈ ns.take 3, counts (ctx.text m) = true) ∨
      CountedSoon ctx ns := by
  constructor
  · rintro ⟨skipped, b, next, h, hfind⟩
    cases skipped with
    | nil =>
        obtain ⟨rfl, rfl⟩ := List.cons.inj h
        exact Or.inl hfind
    | cons s skipped => exact Or.inr ⟨skipped, b, next, (List.cons.inj h).2, hfind⟩
  · rintro (hfind | ⟨skipped, b, next, rfl, hfind⟩)
    · exact ⟨[], n, ns, rfl, hfind⟩
    · exact ⟨n :: skipped, b, next, rfl, hfind⟩

theorem countsSoonAfter_iff {ns : List Node} :
    countsSoonAfter (ns.map ctx.text) = true ↔ CountedSoon ctx ns := by
  induction ns with
  | nil =>
      constructor
      · intro h
        exact absurd h Bool.false_ne_true
      · intro h
        exact absurd h not_countedSoon_nil
  | cons n ns ih =>
      rw [List.map_cons, countsSoonAfter, Bool.or_eq_true, Bool.and_eq_true, ih, countedSoon_cons,
        ← List.map_take, List.any_map, List.any_eq_true]
      rfl

/-- The rule speaks exactly if there is a find among all invocations of the unit. -/
theorem materializeBeforeCount_iff_countedSoon : materializeBeforeCount ctx ≠ [] ↔
    CountedSoon ctx (ctx.nodesOfKind .invocationExpression) :=
  materializeBeforeCount_ne_nil.trans countsSoonAfter_iff

theorem mem_take_append_cons {before after : List Node} {n : Node} {k : Nat}
    (h : before.length < k) : n ∈ (before ++ n :: after).take k := by
  rw [List.take_append, List.mem_append]
  obtain ⟨d, hd⟩ : ∃ d, k - before.length = d + 1 := ⟨k - before.length - 1, by omega⟩
  rw [hd, List.take_succ_cons]
  exact Or.inr List.mem_cons_self

/-- **Around a node that builds a list and counts.** A find that reaches the node or goes over it has
its first half right before the node, and one that starts at the node has its second half right
behind it; all others are on one side. -/
theorem countedSoon_around (before after : List Node) {n : Node}
    (hbuilds : buildsList (ctx.text n) = true) (hcounts : counts (ctx.text n) = true) :
    CountedSoon ctx (before ++ n :: after) ↔
      CountedSoon ctx before ∨
      (∃ m ∈ before.reverse.take 3, buildsList (ctx.text m) = true) ∨
      (∃ m ∈ after.take 3, counts (ctx.text m) = true) ∨
      CountedSoon ctx after := by
  induction before with
  | nil => simp [countedSoon_cons, hbuilds, not_countedSoon_nil]
  | cons b bs ih =>
      rw [List.cons_append, countedSoon_cons, countedSoon_cons, ih, List.reverse_cons]
      by_cases hlong : 3 ≤ bs.length
      · -- the node is out of reach of the first one
        rw [List.take_append_of_le_length hlong,
          List.take_append_of_le_length (by rwa [List.length_reverse])]
        simp only [or_assoc]
      · -- the first one reaches the node, which is all the count it needs
        have hreached : ∃ m ∈ (bs ++ n :: after).take 3, counts (ctx.text m) = true :=
          ⟨n, mem_take_append_cons (by omega), hcounts⟩
        have hall : (bs.reverse ++ [b]).take 3 = bs.reverse ++ [b] := by
          refine List.take_of_length_le ?_
          rw [List.length_append, List.length_reverse, List.length_singleton]
          omega
        have hbs : bs.reverse.take 3 = bs.reverse :=
          List.take_of_length_le (by rw [List.length_reverse]; omega)
        simp only [hreached, hall, hbs, and_true, List.mem_append, List.mem_singleton]
        grind

/-! ## Counting what was just built -/

/-- An invocation that counts the list which another invocation builds, as the outer and the inner
call in `e.ToList().Count()`. -/
structure CountsBuilt (ctx : RuleContext) (n built : Node) : Prop where
  isCall : n.kind = .invocationExpression
  counted : ".Count()".toList <:+ ctx.text n ∨ ".Any()".toList <:+ ctx.text n
  onBuilt : ∃ callee, n.callee? = some callee ∧ callee.kind = .memberAccessExpression ∧
    built ∈ callee.children
  builtIsCall : built.kind = .invocationExpression
  isBuilt : ".ToList()".toList <:+ ctx.text built

namespace CountsBuilt

variable {n built : Node}

theorem below (h : CountsBuilt ctx n built) : built ∈ Node.preorderAll n.children := by
  obtain ⟨callee, hcallee, -, hbuilt⟩ := h.onBuilt
  exact Node.mem_preorderAll.2 ⟨callee, Node.mem_children_of_callee? hcallee,
    Node.mem_preorder_of_child hbuilt⟩

/-- The text of the call that counts has the other call in it. -/
theorem buildsList (hfit : ctx.unit.root.SpansFit ctx.unit.source)
    (hn : n ∈ ctx.unit.root.preorder) (h : CountsBuilt ctx n built) :
    buildsList (ctx.text n) = true :=
  Text.contains_of_part (hfit.text_part hn (Node.mem_preorder_of_below h.below))
    (Text.contains_iff_part.2 h.isBuilt.isInfix)

theorem counts (h : CountsBuilt ctx n built) : counts (ctx.text n) = true := by
  rw [Performance.counts, Bool.or_eq_true]
  rcases h.counted with hcount | hany
  · -- the rule looks for the name of the method without its parentheses
    have hname : ".Count".toList <:+: ".Count()".toList := by decide
    exact Or.inl (Text.contains_iff_part.2 (hname.trans hcount.isInfix))
  · exact Or.inr (Text.contains_iff_part.2 hany.isInfix)

end CountsBuilt

/-- Among the nodes of one kind, too, whatever is below a node comes behind it. -/
theorem mem_after_of_below {k : Kind} {before after : List Node} {n d : Node}
    (hsplit : ctx.nodesOfKind k = before ++ n :: after)
    (hd : d ∈ Node.preorderAll n.children) (hkind : d.kind = k) : d ∈ after := by
  obtain ⟨a, rest, htree, -, hrest⟩ := List.filter_eq_append_iff.1 hsplit
  obtain ⟨b, behind, rfl, -, -, rfl⟩ := List.filter_eq_cons_iff.1 hrest
  rw [← List.append_assoc] at htree
  have hbehind : d ∈ behind := (Node.below_follows htree).subset hd
  exact List.mem_filter.2 ⟨hbehind, by rw [hkind, beq_self_eq_true]⟩

/-- **A list that is counted at once is not always reported.** In a tree whose spans fit its source,
let `n` count the list that `built` builds. The call that builds comes behind the one that counts.
The rule speaks exactly if it finds something on one side of `n`, or if one of the three invocations
before `n` builds a list, or if one of the three behind it counts. An invocation around `n` that is
one of the three before it is enough. -/
theorem materializeBeforeCount_of_countsBuilt
    (hfit : ctx.unit.root.SpansFit ctx.unit.source) {before after : List Node} {n built : Node}
    (hsplit : ctx.nodesOfKind .invocationExpression = before ++ n :: after)
    (h : CountsBuilt ctx n built) :
    built ∈ after ∧
    (materializeBeforeCount ctx ≠ [] ↔
      CountedSoon ctx before ∨
      (∃ m ∈ before.reverse.take 3, buildsList (ctx.text m) = true) ∨
      (∃ m ∈ after.take 3, counts (ctx.text m) = true) ∨
      CountedSoon ctx after) ∧
    ((∃ outer ∈ before.reverse.take 3, n ∈ outer.preorder) → materializeBeforeCount ctx ≠ []) := by
  have hmem : ∀ m ∈ before ++ n :: after, m ∈ ctx.unit.root.preorder := by
    intro m hm
    rw [← hsplit] at hm
    exact (Node.mem_ofKind.1 hm).1
  have hn : n ∈ ctx.unit.root.preorder := hmem n (List.mem_append_right _ List.mem_cons_self)
  have hspeaks := countedSoon_around before after (h.buildsList hfit hn) h.counts
  rw [← hsplit, ← materializeBeforeCount_iff_countedSoon] at hspeaks
  refine ⟨mem_after_of_below hsplit h.below h.builtIsCall, hspeaks, ?_⟩
  rintro ⟨outer, houter, hinside⟩
  have htree : outer ∈ ctx.unit.root.preorder :=
    hmem outer (List.mem_append_left _ (List.mem_reverse.1 (List.mem_of_mem_take houter)))
  have hbuilds : buildsList (ctx.text outer) = true :=
    Text.contains_of_part (hfit.text_part htree hinside) (h.buildsList hfit hn)
  exact hspeaks.2 (Or.inr (Or.inl ⟨outer, houter, hbuilds⟩))

/-- A list that is counted at once, in a unit with no other invocations. -/
def countedQuery : RuleContext where
  unit :=
    { root := .callsOn [(16, 18), (8, 10)]
      source := "q.ToList().Count()".toList
      displayName := "Count.cs" }
  diagnostics := []

theorem spansFit_countedQuery : countedQuery.unit.root.SpansFit countedQuery.unit.source :=
  ⟨by decide +kernel, by decide +kernel⟩

theorem countsBuilt_countedQuery :
    CountsBuilt countedQuery (.callsOn [(16, 18), (8, 10)]) (.callsOn [(8, 10)]) where
  isCall := rfl
  counted := Or.inl (by decide +kernel)
  onBuilt := ⟨_, rfl, rfl, List.mem_singleton.2 rfl⟩
  builtIsCall := rfl
  isBuilt := by decide +kernel

/-- The list of the query is built and counted, and the rule is silent. -/
theorem materializeBeforeCount_of_countsBuilt_alone :
    CountsBuilt countedQuery (.callsOn [(16, 18), (8, 10)]) (.callsOn [(8, 10)]) ∧
      materializeBeforeCount countedQuery = [] := by
  have hsplit : countedQuery.nodesOfKind .invocationExpression =
      [] ++ .callsOn [(16, 18), (8, 10)] :: [.callsOn [(8, 10)]] := rfl
  have hinner : counts (countedQuery.text (.callsOn [(8, 10)])) = false := by decide +kernel
  obtain ⟨-, hspeaks, -⟩ := materializeBeforeCount_of_countsBuilt spansFit_countedQuery hsplit
    countsBuilt_countedQuery
  refine ⟨countsBuilt_countedQuery, Classical.byContradiction fun hspoken => ?_⟩
  rcases hspeaks.1 hspoken with h | ⟨m, hm, -⟩ | ⟨m, hm, hcounts⟩ | h
  · exact not_countedSoon_nil h
  · cases hm
  · obtain rfl := List.mem_singleton.1 hm
    rw [hinner] at hcounts
    cases hcounts
  · rcases countedSoon_cons.1 h with ⟨-, m, hm, -⟩ | h
    · cases hm
    · exact not_countedSoon_nil h

end Performance

end UnitReview
