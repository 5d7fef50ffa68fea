import UnitReview.Proofs.Syntax.Spans
import UnitReview.Proofs.Text.Search
import UnitReview.Rule.Registry

/-!
# Chains are judged as a whole

A chain of `+` is a nest of sums, and a chain of calls a nest of invocations. Each link has the text
of the links inside it as a part of its own, so that what is found in the text of one link is found
in the text of all links around it. The rules meet the whole chain first: a sum that is reported for
building SQL is not an operand of another sum, and an invocation that is reported for its chain of
query operators, or for a sequence that is built and then filtered, is inside no other invocation.

Two rules tell sums of strings in different ways, one by all operands of a chain and one by the two
operands of a single sum. Every operand of a chain is an operand of one of its sums
(`Node.exists_sum_of_mem_concatOperands`), so that inside loops the second rule speaks wherever the
first one sees a sum of strings.
-/

set_option autoImplicit false

namespace UnitReview

variable {ctx : RuleContext}

/-! ## Two small units -/

/-- A loop over a chain of `+` whose right half is a chain on the next line. -/
def RuleContext.chainInLoop : RuleContext where
  unit :=
    let name (field : String) (start line col : Nat) : Node :=
      ⟨.identifier, "identifier", some field, ⟨start, start + 1, line, col, line, col + 1⟩, [], []⟩
    let words : Node :=
      ⟨.stringLiteral, "string_literal", some "left", ⟨14, 23, 2, 1, 2, 10⟩, [], []⟩
    let inner : Node :=
      ⟨.addExpression, "binary_expression", some "right", ⟨14, 27, 2, 1, 2, 14⟩,
        [words, name "right" 26 2 13], []⟩
    let outer : Node :=
      ⟨.addExpression, "binary_expression", some "body", ⟨10, 27, 1, 11, 2, 14⟩,
        [name "left" 10 1 11, inner], []⟩
    let loop : Node :=
      ⟨.whileStatement, "while_statement", none, ⟨0, 28, 1, 1, 2, 15⟩,
        [name "condition" 7 1 8, outer], []⟩
    { root := ⟨.compilationUnit, "compilation_unit", none, ⟨0, 28, 1, 1, 2, 15⟩, [loop], []⟩
      source := "while (c) a +\n\"SELECT \" + b;".toList
      displayName := "Loop.cs" }
  diagnostics := []

/-- A name and calls on it, the last call first. A call is given by where the name of its method
ends and by where the call itself ends. -/
def Node.callsOn : List (Nat × Nat) → Node
  | [] => ⟨.identifier, "identifier", some "expression", ⟨0, 1, 1, 1, 1, 2⟩, [], []⟩
  | (name, stop) :: calls =>
      let callee : Node :=
        ⟨.memberAccessExpression, "member_access_expression", some "function",
          ⟨0, name, 1, 1, 1, name + 1⟩, [Node.callsOn calls], []⟩
      ⟨.invocationExpression, "invocation_expression", some "expression",
        ⟨0, stop, 1, 1, 1, stop + 1⟩, [callee], []⟩

/-- A query with five operators, four of them in the last call but one. -/
def RuleContext.fiveOperators : RuleContext where
  unit :=
    { root := .callsOn [(57, 60), (46, 49), (35, 38), (25, 28), (17, 19), (7, 10)]
      source := "q.Where(a).ToList().Where(b).Select(c).OrderBy(d).GroupBy(e)".toList
      displayName := "Query.cs" }
  diagnostics := []

theorem RuleContext.spansFit_chainInLoop :
    chainInLoop.unit.root.SpansFit chainInLoop.unit.source :=
  ⟨by decide +kernel, by decide +kernel⟩

theorem RuleContext.spansFit_fiveOperators :
    fiveOperators.unit.root.SpansFit fiveOperators.unit.source :=
  ⟨by decide +kernel, by decide +kernel⟩

/-! ## Chains of `+` -/

namespace Node

/-- The left or the right operand of a sum. -/
def IsOperandOf (c n : Node) : Prop :=
  n.kind = .addExpression ∧ (n.left? = some c ∨ n.right? = some c)

theorem IsOperandOf.mem_children {c n : Node} (h : c.IsOperandOf n) : c ∈ n.children := by
  rcases h.2 with h | h
  · exact mem_children_of_left? h
  · exact mem_children_of_right? h

/-- The operands of a chain are those of its two halves. -/
theorem mem_concatOperands {n s : Node} (hn : n.kind = .addExpression) :
    s ∈ n.concatOperands ↔ ∃ c : Node, c.IsOperandOf n ∧ s ∈ c.concatOperands := by
  rw [concatOperands_eq, if_pos hn, List.mem_append]
  constructor
  · rintro (hs | hs)
    · cases hleft : n.left? with
      | none => rw [hleft] at hs; cases hs
      | some c => rw [hleft] at hs; exact ⟨c, ⟨hn, Or.inl hleft⟩, hs⟩
    · cases hright : n.right? with
      | none => rw [hright] at hs; cases hs
      | some c => rw [hright] at hs; exact ⟨c, ⟨hn, Or.inr hright⟩, hs⟩
  · rintro ⟨c, ⟨-, hleft | hright⟩, hs⟩
    · rw [hleft]; exact Or.inl hs
    · rw [hright]; exact Or.inr hs

theorem isStringConcatenation_iff {n : Node} : n.isStringConcatenation = true ↔
    n.kind = .addExpression ∧ ∃ s ∈ n.concatOperands, s.isStringLike = true := by
  rw [isStringConcatenation, Bool.and_eq_true, beq_iff_eq, List.any_eq_true]

/-- A string in one half of a chain is a string in the chain. -/
theorem IsOperandOf.isStringConcatenation {c n : Node} (h : c.IsOperandOf n)
    (hc : c.isStringConcatenation = true) : n.isStringConcatenation = true := by
  obtain ⟨-, s, hs, hstring⟩ := isStringConcatenation_iff.1 hc
  exact isStringConcatenation_iff.2 ⟨h.1, s, (mem_concatOperands h.1).2 ⟨c, h, hs⟩, hstring⟩

/-- **Every operand of a chain is an operand of one of its sums.** -/
theorem exists_sum_of_mem_concatOperands {n s : Node} (hn : n.kind = .addExpression)
    (hs : s ∈ n.concatOperands) : ∃ m ∈ n.preorder, s.IsOperandOf m := by
  induction n using sum_induction with
  | operand n hkind => exact absurd hn hkind
  | sum n _ ih =>
      -- down the chain, to the half that has the operand
      obtain ⟨c, hc, hsc⟩ := (mem_concatOperands hn).1 hs
      by_cases hkind : c.kind = .addExpression
      · obtain ⟨m, hm, hsum⟩ := ih c hc.2 hkind hsc
        exact ⟨m, mem_preorder_of_mem_children hc.mem_children hm, hsum⟩
      · rw [concatOperands_eq, if_neg hkind, List.mem_singleton] at hsc
        exact ⟨n, n.mem_preorder_self, hsc ▸ hc⟩

end Node

/-- A node that stands as an operand below a sum. -/
def Occurrence.IsOperand (o : Occurrence Node) : Prop :=
  ∃ parent : Node, o.above.head? = some parent ∧ o.node.IsOperandOf parent

namespace Security

/-- Whatever is built into one half of a chain is built into the chain. -/
theorem buildsSql_of_operand (hfit : ctx.unit.root.SpansFit ctx.unit.source) {n c : Node}
    (hn : n ∈ ctx.unit.root.preorder) (hc : c.IsOperandOf n) (h : buildsSql ctx c = true) :
    buildsSql ctx n = true := by
  rw [buildsSql, Bool.and_eq_true] at h ⊢
  have hpart : ctx.text c <:+: ctx.text n :=
    hfit.text_part hn (Node.mem_preorder_of_child hc.mem_children)
  exact ⟨hc.isStringConcatenation h.1, Text.containsAnyFolded_of_part hpart h.2⟩

/-- A sum that builds SQL makes the rule speak. -/
theorem exists_sqlInjection {n : Node} (hn : n ∈ ctx.nodesOfKind .addExpression)
    (h : buildsSql ctx n = true) : ∃ suggestion, sqlInjection ctx = [suggestion] := by
  have hfound : ((ctx.nodesOfKind .addExpression).find? (buildsSql ctx)).isSome :=
    List.find?_isSome.2 ⟨n, hn, h⟩
  obtain ⟨first, hfirst⟩ := Option.isSome_iff_exists.1 hfound
  rw [sqlInjection, hfirst]
  exact ⟨_, rfl⟩

/-- **SQL injection is judged on whole chains.** In a tree whose spans fit its source there is one
suggestion if some sum is a concatenation of strings with an SQL word in its text, and none
otherwise. Its line is the one on which a sum starts that builds SQL and is not an operand of
another sum. -/
theorem sqlInjection_whole_chain (hfit : ctx.unit.root.SpansFit ctx.unit.source) :
    ((∃ n ∈ ctx.nodesOfKind .addExpression, n.isStringConcatenation = true ∧
        Text.containsAnyFolded sqlWords (ctx.text n) = true) →
      ∃ o ∈ ctx.unit.root.occurrences, o.node.kind = .addExpression ∧
        buildsSql ctx o.node = true ∧ ¬ o.IsOperand ∧
        sqlInjection ctx = ["SECURITY: Possible SQL injection at line " ++
          toString o.node.span.startLine ++
          ": SQL text is built by string concatenation. Use parameterized queries instead."]) ∧
    ((¬ ∃ n ∈ ctx.nodesOfKind .addExpression, n.isStringConcatenation = true ∧
        Text.containsAnyFolded sqlWords (ctx.text n) = true) →
      sqlInjection ctx = []) := by
  constructor
  · rintro ⟨n, hn, hbuilds⟩
    have hmatch : buildsSql ctx n = true := by
      rw [buildsSql, Bool.and_eq_true]
      exact hbuilds
    obtain ⟨o, ho, hfound, hkind, hsql, habove⟩ := Node.exists_first_ofKind hn hmatch
    refine ⟨o, List.mem_of_find?_eq_some ho, hkind, hsql, ?_, ?_⟩
    · -- a sum around the first match would have been the first match
      rintro ⟨parent, hparent, hoperand⟩
      obtain ⟨htree, -, hearlier⟩ := habove parent (List.mem_of_mem_head? hparent)
      have hlater := buildsSql_of_operand hfit htree hoperand hsql
      rw [hearlier hoperand.1] at hlater
      cases hlater
    · rw [sqlInjection, RuleContext.nodesOfKind, SourceUnit.nodesOfKind, hfound]
      rfl
  · intro hnone
    have hfound : (ctx.nodesOfKind .addExpression).find? (buildsSql ctx) = none := by
      rw [List.find?_eq_none]
      intro n hn hbuilds
      rw [buildsSql, Bool.and_eq_true] at hbuilds
      exact hnone ⟨n, hn, hbuilds⟩
    rw [sqlInjection, hfound]
    rfl

/-- Both sums of the chain build SQL; the outer one is reported, which starts on the first line. -/
theorem sqlInjection_whole_chain_twoLines :
    (∃ o ∈ RuleContext.chainInLoop.unit.root.occurrences, ¬ o.IsOperand ∧
      sqlInjection .chainInLoop = ["SECURITY: Possible SQL injection at line " ++
        toString o.node.span.startLine ++
        ": SQL text is built by string concatenation. Use parameterized queries instead."]) ∧
    sqlInjection .chainInLoop =
      ["SECURITY: Possible SQL injection at line 1: SQL text is built by string concatenation. Use parameterized queries instead."] := by
  have hsome : ∃ n ∈ RuleContext.chainInLoop.nodesOfKind .addExpression,
      n.isStringConcatenation = true ∧
        Text.containsAnyFolded sqlWords (RuleContext.chainInLoop.text n) = true := by
    decide +kernel
  obtain ⟨o, ho, -, -, houter, hsaid⟩ :=
    (sqlInjection_whole_chain RuleContext.spansFit_chainInLoop).1 hsome
  exact ⟨⟨o, ho, houter, hsaid⟩, by decide +kernel⟩

end Security

/-! ## Sums in loops -/

namespace Performance

/-- A sum with a string for an operand joins strings. -/
theorem joinsStrings_of_operand {n s : Node} (h : s.IsOperandOf n) (hs : s.isStringLike = true) :
    joinsStrings ctx n = true := by
  have hlooks : looksLikeString ctx s = true := by rw [looksLikeString, hs, Bool.true_or]
  rw [joinsStrings, Bool.or_eq_true]
  rcases h.2 with hleft | hright
  · exact Or.inl (by rw [hleft]; exact hlooks)
  · exact Or.inr (by rw [hright]; exact hlooks)

/-- In a chain with a string among its operands, one of the sums has a string for an operand. -/
theorem exists_joinsStrings {n : Node} (h : n.isStringConcatenation = true) :
    ∃ m ∈ n.ofKind .addExpression, joinsStrings ctx m = true := by
  obtain ⟨hkind, s, hs, hstring⟩ := Node.isStringConcatenation_iff.1 h
  obtain ⟨m, hm, hsum⟩ := Node.exists_sum_of_mem_concatOperands hkind hs
  exact ⟨m, Node.mem_ofKind.2 ⟨hm, hsum.1⟩, joinsStrings_of_operand hsum hstring⟩

/-- A loop with a sum that joins strings below it makes the rule speak. -/
theorem exists_concatInLoop {loop m : Node} (hloop : loop ∈ ctx.unit.nodes)
    (hkind : loop.kind.isLoop = true) (hm : m ∈ loop.ofKind .addExpression)
    (hjoins : joinsStrings ctx m = true) : ∃ suggestion, concatInLoop ctx = [suggestion] := by
  have hjoin : (joinIn? ctx loop).isSome := List.find?_isSome.2 ⟨m, hm, hjoins⟩
  have hfound :
      ((ctx.unit.nodes.filter fun n => n.kind.isLoop).findSome? (joinIn? ctx)).isSome := by
    rw [List.findSome?_isSome_iff]
    exact ⟨loop, List.mem_filter.2 ⟨hloop, hkind⟩, hjoin⟩
  obtain ⟨first, hfirst⟩ := Option.isSome_iff_exists.1 hfound
  rw [concatInLoop, hfirst]
  exact ⟨_, rfl⟩

/-- **The two tests for sums of strings agree inside loops.** If a chain of `+` below a loop has a
string anywhere among its operands, the rule on strings joined in loops has exactly one suggestion.
So a chain below a loop that is reported for building SQL is reported by both rules. -/
theorem concatInLoop_of_isStringConcatenation {loop n : Node} (hloop : loop ∈ ctx.unit.nodes)
    (hkind : loop.kind.isLoop = true) (hn : n ∈ loop.ofKind .addExpression) :
    (n.isStringConcatenation = true → ∃ suggestion, concatInLoop ctx = [suggestion]) ∧
    (Security.buildsSql ctx n = true →
      (∃ suggestion, Security.sqlInjection ctx = [suggestion]) ∧
        ∃ suggestion, concatInLoop ctx = [suggestion]) := by
  obtain ⟨hmem, hsum⟩ := Node.mem_ofKind.1 hn
  have hjoined :
      n.isStringConcatenation = true → ∃ suggestion, concatInLoop ctx = [suggestion] := by
    intro hstrings
    obtain ⟨m, hm, hjoins⟩ := exists_joinsStrings hstrings
    obtain ⟨hmn, hmkind⟩ := Node.mem_ofKind.1 hm
    have hmloop : m ∈ loop.ofKind .addExpression :=
      Node.mem_ofKind.2 ⟨Node.preorder_subset_of_mem hmem hmn, hmkind⟩
    exact exists_concatInLoop hloop hkind hmloop hjoins
  refine ⟨hjoined, fun hbuilds => ⟨?_, ?_⟩⟩
  · have htree : n ∈ ctx.nodesOfKind .addExpression :=
      Node.mem_ofKind.2 ⟨Node.preorder_subset_of_mem hloop hmem, hsum⟩
    exact Security.exists_sqlInjection htree hbuilds
  · rw [Security.buildsSql, Bool.and_eq_true] at hbuilds
    exact hjoined hbuilds.1

/-- The sum right below the loop builds SQL and has no string for an operand; its right half has. -/
theorem concatInLoop_of_isStringConcatenation_nested :
    ∃ loop ∈ RuleContext.chainInLoop.unit.nodes, loop.kind.isLoop = true ∧
      ∃ n ∈ loop.ofKind .addExpression, joinsStrings .chainInLoop n = false ∧
        Security.buildsSql .chainInLoop n = true ∧
        (∃ suggestion, Security.sqlInjection .chainInLoop = [suggestion]) ∧
        ∃ suggestion, concatInLoop .chainInLoop = [suggestion] := by
  have hsome : ∃ loop ∈ RuleContext.chainInLoop.unit.nodes, loop.kind.isLoop = true ∧
      ∃ n ∈ loop.ofKind .addExpression, joinsStrings .chainInLoop n = false ∧
        Security.buildsSql .chainInLoop n = true := by
    decide +kernel
  obtain ⟨loop, hloop, hkind, n, hn, hdirect, hbuilds⟩ := hsome
  refine ⟨loop, hloop, hkind, n, hn, hdirect, hbuilds, ?_⟩
  exact (concatInLoop_of_isStringConcatenation hloop hkind hn).2 hbuilds

end Performance

/-! ## Chains of calls -/

/-- A condition that holds of a text as soon as it holds of a part of it. -/
def Text.Persists (p : Text → Bool) : Prop :=
  ∀ part whole : Text, part <:+: whole → p part = true → p whole = true

/-- **The first invocation with such a text is not inside another one.** -/
theorem exists_first_invocation (hfit : ctx.unit.root.SpansFit ctx.unit.source) {p : Text → Bool}
    (hp : Text.Persists p)
    (hsome : ∃ n ∈ ctx.nodesOfKind .invocationExpression, p (ctx.text n) = true) :
    ∃ o : Occurrence Node,
      (ctx.unit.root.firstWhere? fun n => n.kind == .invocationExpression && p (ctx.text n)) =
        some o ∧
      Query.firstInvocation? ctx (fun n => p (ctx.text n)) = some o.node ∧
      ∀ a ∈ o.above, a.kind ≠ .invocationExpression := by
  obtain ⟨n, hn, hpn⟩ := hsome
  obtain ⟨o, ho, hfound, -, hpo, habove⟩ :=
    Node.exists_first_ofKind (p := fun n => p (ctx.text n)) hn hpn
  refine ⟨o, ho, hfound, fun a ha hinvocation => ?_⟩
  -- the text around the first match has all that is sought in it
  obtain ⟨htree, hbelow, hearlier⟩ := habove a ha
  have hlater : p (ctx.text a) = true := hp _ _ (hfit.text_part htree hbelow) hpo
  rw [hearlier hinvocation] at hlater
  cases hlater

namespace Performance

/-- No query operator that is counted can overlap with itself. -/
theorem opensOnce_chainedOperators : ∀ word ∈ chainedOperators, Text.OpensOnce word := by decide

/-- An invocation around another one has at least its operators. -/
theorem operatorCount_le (hfit : ctx.unit.root.SpansFit ctx.unit.source) {n m : Node}
    (hn : n ∈ ctx.unit.root.preorder) (hm : m ∈ n.preorder) :
    operatorCount ctx m ≤ operatorCount ctx n :=
  Text.countOccurrences_le_of_part opensOnce_chainedOperators (hfit.text_part hn hm)

theorem persists_manyOperators (k : Nat) :
    Text.Persists fun t => decide (k < Text.countOccurrences t chainedOperators) := by
  intro part whole h hpart
  have hle := Text.countOccurrences_le_of_part opensOnce_chainedOperators h
  rw [decide_eq_true_eq] at hpart ⊢
  omega

/-- The rule on long chains reports the first invocation with too many operators. -/
theorem excessiveChaining_eq (ctx : RuleContext) : excessiveChaining ctx =
    ((Query.firstInvocation? ctx fun n => decide (3 < operatorCount ctx n)).map fun n =>
      "PERFORMANCE: Query chains " ++ toString (operatorCount ctx n) ++
        " operators. Consider combining predicates or splitting the query.").toList := by
  rw [excessiveChaining, List.find?_map, ← Option.toList_map, Option.map_map]
  rfl

end Performance

/-- **Chains of calls are reported as a whole**, in a tree whose spans fit its source. If some
invocation has more than three query operators in its text, the rule on long chains reports the
first one. It is inside no other invocation, and the number of operators that is told is at least
that of every invocation inside it. If in some invocation a sequence is built and then filtered, the
rule on that reports the first one, which again is inside no other invocation. -/
theorem callChains_reported_whole (hfit : ctx.unit.root.SpansFit ctx.unit.source) :
    ((∃ n ∈ ctx.nodesOfKind .invocationExpression, 3 < Performance.operatorCount ctx n) →
      ∃ o : Occurrence Node,
        (ctx.unit.root.firstWhere? fun n =>
          n.kind == .invocationExpression && decide (3 < Performance.operatorCount ctx n)) =
            some o ∧
        (∀ a ∈ o.above, a.kind ≠ .invocationExpression) ∧
        Performance.excessiveChaining ctx = ["PERFORMANCE: Query chains " ++
          toString (Performance.operatorCount ctx o.node) ++
          " operators. Consider combining predicates or splitting the query."] ∧
        ∀ m ∈ o.node.ofKind .invocationExpression,
          Performance.operatorCount ctx m ≤ Performance.operatorCount ctx o.node) ∧
    ((∃ n ∈ ctx.nodesOfKind .invocationExpression,
        Text.containsAny Query.eagerFilters (ctx.text n) = true) →
      ∃ o : Occurrence Node,
        (ctx.unit.root.firstWhere? fun n =>
          n.kind == .invocationExpression && Text.containsAny Query.eagerFilters (ctx.text n)) =
            some o ∧
        (∀ a ∈ o.above, a.kind ≠ .invocationExpression) ∧
        Query.materializeThenFilter ctx =
          ["LINQ: Filter with Where() before materializing with ToList()/ToArray() (line " ++
            toString o.node.span.startLine ++ ")"]) := by
  constructor
  · rintro ⟨n, hn, hmany⟩
    obtain ⟨o, ho, hfound, habove⟩ := exists_first_invocation hfit
      (Performance.persists_manyOperators 3) ⟨n, hn, decide_eq_true hmany⟩
    refine ⟨o, ho, habove, ?_, fun m hm => ?_⟩
    · have hreported : Query.firstInvocation? ctx
          (fun n => decide (3 < Performance.operatorCount ctx n)) = some o.node := hfound
      rw [Performance.excessiveChaining_eq, hreported]
      rfl
    · have hnode : o.node ∈ ctx.unit.root.preorder := Branching.node_mem_of_firstWhere? ho
      exact Performance.operatorCount_le hfit hnode (Node.mem_ofKind.1 hm).1
  · intro hsome
    obtain ⟨o, ho, hfound, habove⟩ := exists_first_invocation hfit
      (fun _ _ h => Text.containsAny_of_part h) hsome
    refine ⟨o, ho, habove, ?_⟩
    rw [Query.materializeThenFilter, hfound]
    rfl

/-- The last call has all five operators; the one before it has four, which are too many as well. -/
theorem callChains_reported_whole_fiveOperators :
    (∃ o : Occurrence Node, (∀ a ∈ o.above, a.kind ≠ .invocationExpression) ∧
      Performance.excessiveChaining .fiveOperators = ["PERFORMANCE: Query chains " ++
        toString (Performance.operatorCount .fiveOperators o.node) ++
        " operators. Consider combining predicates or splitting the query."] ∧
      ∀ m ∈ o.node.ofKind .invocationExpression,
        Performance.operatorCount .fiveOperators m ≤
          Performance.operatorCount .fiveOperators o.node) ∧
    Performance.excessiveChaining .fiveOperators =
      ["PERFORMANCE: Query chains 5 operators. Consider combining predicates or splitting the query."] ∧
    ∃ o : Occurrence Node, (∀ a ∈ o.above, a.kind ≠ .invocationExpression) ∧
      Query.materializeThenFilter .fiveOperators =
        ["LINQ: Filter with Where() before materializing with ToList()/ToArray() (line " ++
          toString o.node.span.startLine ++ ")"] := by
  obtain ⟨hlong, heager⟩ := callChains_reported_whole RuleContext.spansFit_fiveOperators
  have hmany : ∃ n ∈ RuleContext.fiveOperators.nodesOfKind .invocationExpression,
      3 < Performance.operatorCount .fiveOperators n := by decide +kernel
  have hfilter : ∃ n ∈ RuleContext.fiveOperators.nodesOfKind .invocationExpression,
      Text.containsAny Query.eagerFilters (RuleContext.fiveOperators.text n) = true := by
    decide +kernel
  obtain ⟨o, -, habove, hsaid, hinside⟩ := hlong hmany
  obtain ⟨o', -, habove', hsaid'⟩ := heager hfilter
  exact ⟨⟨o, habove, hsaid, hinside⟩, by decide +kernel, o', habove', hsaid'⟩

end UnitReview
