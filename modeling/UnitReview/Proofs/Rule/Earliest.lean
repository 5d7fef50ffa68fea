import UnitReview.Proofs.Rule.Chains

/-!
# The line that is told is the earliest

Ten rules stop at the first node they object to and tell its line. In a tree in the order of its
source that line is the least of all lines on which such a node starts.

A `LineRule` says of a rule which nodes it objects to and how it tells a line, apart from how it
searches. Nine of the ten rules put one question to all nodes in pre-order. The rule on strings
joined in loops goes from loop to loop and searches each; loops may be nested, and it still ends at
the earliest sum.
-/

set_option autoImplicit false

namespace UnitReview

theorem RuleContext.inDocumentOrder_chainInLoop : chainInLoop.unit.root.InDocumentOrder :=
  ⟨⟨by decide +kernel, by decide +kernel⟩, by decide +kernel⟩

/-- A rule that tells the line of one node. -/
structure LineRule where
  id : String
  /-- The nodes of a unit that the rule objects to. -/
  objects : RuleContext → Node → Prop
  /-- What the rule says of a line. -/
  tell : Nat → String

namespace LineRule

/-- A rule on the nodes of one kind. -/
def ofKind (id : String) (k : Kind) (p : RuleContext → Node → Bool) (tell : Nat → String) :
    LineRule :=
  ⟨id, fun ctx n => n.kind = k ∧ p ctx n = true, tell⟩

/-- How the query rules tell a line. -/
def queryLine (message : String) (line : Nat) : String :=
  "LINQ: " ++ message ++ " (line " ++ toString line ++ ")"

/-- A rule on sums of strings below loops: of each loop, all sums with an operand that looks like a
string, however deep they are below the loop. -/
def concatInLoop : LineRule where
  id := "string-concat-in-loop"
  objects ctx n := ∃ loop ∈ ctx.unit.nodes, loop.kind.isLoop = true ∧ n ∈ loop.preorder ∧
    n.kind = .addExpression ∧ Performance.joinsStrings ctx n = true
  tell line := "PERFORMANCE: String concatenation inside a loop at line " ++ toString line ++
    ". Use StringBuilder instead."

/-- A rule on comparisons of a count with zero. -/
def countComparedToZero : LineRule where
  id := "count-compared-to-zero"
  objects ctx n := Query.isZeroComparison ctx n = true
  tell := queryLine "Use Any() instead of comparing Count() with 0"

/-- The rules that tell the line of the first node they object to. -/
def all : List LineRule :=
  [ ofKind "sql-injection" .addExpression Security.buildsSql fun line =>
      "SECURITY: Possible SQL injection at line " ++ toString line ++
        ": SQL text is built by string concatenation. Use parameterized queries instead."
  , concatInLoop
  , ofKind "missing-configure-await" .awaitExpression
      (fun ctx n => !Text.contains "ConfigureAwait".toList (ctx.text n)) fun line =>
      "PERFORMANCE: Await at line " ++ toString line ++
        " has no ConfigureAwait(false). Library code should avoid capturing the synchronization context."
  , countComparedToZero
  , ofKind "where-then-count" .invocationExpression
      (fun ctx => Query.whereThen ctx [".Count()".toList])
      (queryLine "Use Count(predicate) instead of Where(predicate).Count()")
  , ofKind "where-then-any" .invocationExpression
      (fun ctx => Query.whereThen ctx [".Any()".toList])
      (queryLine "Use Any(predicate) instead of Where(predicate).Any()")
  , ofKind "where-then-first" .invocationExpression
      (fun ctx => Query.whereThen ctx Query.firstCalls)
      (queryLine "Use First(predicate) instead of Where(predicate).First()")
  , ofKind "identity-select" .invocationExpression Query.isIdentitySelect
      (queryLine "Select(x => x) is redundant and can be removed")
  , ofKind "sort-then-first" .invocationExpression Query.sortsForFirst
      (queryLine "Use MinBy()/MaxBy() instead of sorting to take the first element")
  , ofKind "materialize-then-filter" .invocationExpression
      (fun ctx n => Text.containsAny Query.eagerFilters (ctx.text n))
      (queryLine "Filter with Where() before materializing with ToList()/ToArray()") ]

/-- **The earliest line is told**: either nothing is said and there is nothing to object to, or one
line is told, which is that of a node the rule objects to and is not after that of any other. -/
def TellsEarliest (r : LineRule) (ctx : RuleContext) (said : List String) : Prop :=
  (said = [] ∧ ∀ n ∈ ctx.unit.nodes, ¬ r.objects ctx n) ∨
  ∃ first ∈ ctx.unit.nodes, r.objects ctx first ∧ said = [r.tell first.span.startLine] ∧
    ∀ n ∈ ctx.unit.nodes, r.objects ctx n → first.span.startLine ≤ n.span.startLine

variable {r : LineRule} {ctx : RuleContext}

/-- It is enough to find one of the nodes that start first. -/
theorem tellsEarliest_of_found (h : ctx.unit.root.InDocumentOrder) {found : Option Node}
    (hnone : found = none → ∀ n ∈ ctx.unit.nodes, ¬ r.objects ctx n)
    (hsome : ∀ first, found = some first → first ∈ ctx.unit.nodes ∧ r.objects ctx first ∧
      ∀ n ∈ ctx.unit.nodes, r.objects ctx n → first.span.startByte ≤ n.span.startByte) :
    r.TellsEarliest ctx (found.map fun n => r.tell n.span.startLine).toList := by
  cases hfound : found with
  | none => exact Or.inl ⟨rfl, hnone hfound⟩
  | some first =>
      obtain ⟨hmem, hobjects, hleast⟩ := hsome first hfound
      refine Or.inr ⟨first, hmem, hobjects, rfl, fun n hn hn' => ?_⟩
      exact h.lines first hmem n hn (hleast n hn hn')

/-- A search through all nodes. -/
theorem tellsEarliest_find (h : ctx.unit.root.InDocumentOrder) {p : Node → Bool}
    (hp : ∀ n, r.objects ctx n ↔ p n = true) :
    r.TellsEarliest ctx ((ctx.unit.nodes.find? p).map fun n => r.tell n.span.startLine).toList := by
  refine tellsEarliest_of_found h (fun hnone n hn => ?_) fun first hfirst => ?_
  · rw [hp]
    exact List.find?_eq_none.1 hnone n hn
  · refine ⟨List.mem_of_find?_eq_some hfirst, (hp first).2 (List.find?_some hfirst), ?_⟩
    intro n hn hobjects
    exact h.start_le_of_find? hfirst hn ((hp n).1 hobjects)

/-- A search through the nodes of one kind. -/
theorem tellsEarliest_ofKind (h : ctx.unit.root.InDocumentOrder) {id : String} {k : Kind}
    {p : RuleContext → Node → Bool} {tell : Nat → String} :
    (ofKind id k p tell).TellsEarliest ctx
      (((ctx.nodesOfKind k).find? (p ctx)).map fun n => tell n.span.startLine).toList := by
  rw [RuleContext.nodesOfKind, SourceUnit.nodesOfKind, Node.ofKind, List.find?_filter]
  refine tellsEarliest_find (r := ofKind id k p tell) h fun n => ?_
  rw [decide_eq_true_eq, beq_iff_eq]
  rfl

/-- The sums of strings below a loop, as a condition on its nodes. -/
theorem joinIn?_eq (ctx : RuleContext) (loop : Node) : Performance.joinIn? ctx loop =
    loop.preorder.find? fun n => n.kind == .addExpression && Performance.joinsStrings ctx n := by
  rw [Performance.joinIn?, Node.ofKind, List.find?_filter]
  simp only [Bool.decide_and, Bool.decide_eq_true]

/-- The search through the loops. -/
theorem tellsEarliest_concatInLoop (h : ctx.unit.root.InDocumentOrder) :
    concatInLoop.TellsEarliest ctx (Performance.concatInLoop ctx) := by
  have hjoins : ∀ n : Node, (n.kind == .addExpression && Performance.joinsStrings ctx n) = true ↔
      n.kind = .addExpression ∧ Performance.joinsStrings ctx n = true := by
    intro n
    rw [Bool.and_eq_true, beq_iff_eq]
  refine tellsEarliest_of_found h (fun hnone n hn => ?_) fun first hfirst => ?_
  · rintro ⟨loop, hloop, hkind, hmem, hsum⟩
    rw [List.findSome?_eq_none_iff] at hnone
    have hsearch := hnone loop (List.mem_filter.2 ⟨hloop, hkind⟩)
    rw [joinIn?_eq, List.find?_eq_none] at hsearch
    exact hsearch n hmem ((hjoins n).2 hsum)
  · obtain ⟨loop, hmem, hsearch⟩ := List.exists_of_findSome?_eq_some hfirst
    obtain ⟨hloop, hkind⟩ := List.mem_filter.1 hmem
    rw [joinIn?_eq] at hsearch
    have hbelow := List.mem_of_find?_eq_some hsearch
    have hfound := List.find?_some hsearch
    have hsum := (hjoins first).1 hfound
    refine ⟨Node.preorder_subset_of_mem hloop hbelow, ⟨loop, hloop, hkind, hbelow, hsum⟩, ?_⟩
    rintro n - ⟨other, hother, hotherKind, hn, hnsum⟩
    simp only [funext (joinIn?_eq ctx)] at hfirst
    exact h.start_le_of_findSome? hfirst hother hotherKind hn ((hjoins n).2 hnsum)

/-- **The line that is told is the earliest.** In a tree in the order of its source, each of the ten
rules tells no line after that of any node it objects to. -/
theorem reported_line_earliest (h : ctx.unit.root.InDocumentOrder) :
    ∀ r ∈ all, ∃ rule, Registry.builtIn? r.id = some rule ∧
      r.TellsEarliest ctx (rule.detect ctx) := by
  intro r hr
  simp only [all, List.mem_cons, List.not_mem_nil, or_false] at hr
  rcases hr with rfl | rfl | rfl | rfl | rfl | rfl | rfl | rfl | rfl | rfl
  · exact ⟨_, rfl, tellsEarliest_ofKind h⟩
  · exact ⟨_, rfl, tellsEarliest_concatInLoop h⟩
  · exact ⟨_, rfl, tellsEarliest_ofKind h⟩
  · exact ⟨_, rfl, tellsEarliest_find (r := countComparedToZero) h fun _ => Iff.rfl⟩
  · exact ⟨_, rfl, tellsEarliest_ofKind h⟩
  · exact ⟨_, rfl, tellsEarliest_ofKind h⟩
  · exact ⟨_, rfl, tellsEarliest_ofKind h⟩
  · exact ⟨_, rfl, tellsEarliest_ofKind h⟩
  · exact ⟨_, rfl, tellsEarliest_ofKind h⟩
  · exact ⟨_, rfl, tellsEarliest_ofKind h⟩

/-- The sum that joins strings starts on the second line, the chain it is in on the first. -/
theorem reported_line_earliest_twoLines :
    (∃ rule, Registry.builtIn? "sql-injection" = some rule ∧
      rule.detect .chainInLoop = ["SECURITY: Possible SQL injection at line 1: SQL text is built by string concatenation. Use parameterized queries instead."]) ∧
    ∃ rule, Registry.builtIn? "string-concat-in-loop" = some rule ∧
      rule.detect .chainInLoop = [concatInLoop.tell 2] ∧
      concatInLoop.TellsEarliest .chainInLoop (rule.detect .chainInLoop) := by
  refine ⟨⟨_, rfl, by decide +kernel⟩, ?_⟩
  obtain ⟨rule, hrule, hearliest⟩ :=
    reported_line_earliest RuleContext.inDocumentOrder_chainInLoop concatInLoop (by simp [all])
  obtain rfl := Option.some.inj hrule
  exact ⟨_, rfl, by decide +kernel, hearliest⟩

end LineRule

end UnitReview
