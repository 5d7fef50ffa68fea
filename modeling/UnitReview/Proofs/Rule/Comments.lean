import UnitReview.Proofs.Complexity
import UnitReview.Rule.Registry

/-!
# What comments matter for

Comments are kept with the nodes that they stand before, and only the rule on missing documentation
looks at them there. Without its comments a unit has the same metrics, and every other built-in rule
says the same of it (`Registry.detect_uncommented`).

What a rule asks of a node leads to parts of the node and to their texts. Each such question is shown
to have the same answer without comments; the detectors follow, since they differ only in how they
put questions to the nodes of a unit.
-/

set_option autoImplicit false

namespace UnitReview

/-! ## Trees without comments -/

mutual

/-- The node with no comments before it or before any node below it. -/
def Node.uncommented : Node → Node
  | ⟨k, g, f, s, cs, _⟩ => ⟨k, g, f, s, Node.uncommentedAll cs, []⟩

/-- The same for several nodes. -/
def Node.uncommentedAll : List Node → List Node
  | [] => []
  | n :: ns => n.uncommented :: Node.uncommentedAll ns

end

namespace Node

theorem uncommentedAll_eq_map (ns : List Node) : uncommentedAll ns = ns.map uncommented := by
  induction ns with
  | nil => rw [uncommentedAll, List.map_nil]
  | cons n ns ih => rw [uncommentedAll, ih, List.map_cons]

section Parts

variable (n : Node)

@[simp] theorem uncommented_kind : n.uncommented.kind = n.kind := by
  cases n; rw [uncommented]

@[simp] theorem uncommented_grammarKind : n.uncommented.grammarKind = n.grammarKind := by
  cases n; rw [uncommented]

@[simp] theorem uncommented_field : n.uncommented.field = n.field := by
  cases n; rw [uncommented]

@[simp] theorem uncommented_span : n.uncommented.span = n.span := by
  cases n; rw [uncommented]

@[simp] theorem uncommented_children : n.uncommented.children = n.children.map uncommented := by
  cases n; rw [uncommented, uncommentedAll_eq_map]

@[simp] theorem uncommented_text (src : Text) : n.uncommented.text src = n.text src := by
  rw [text, text, uncommented_span]

@[simp] theorem uncommented_fieldNamed? (name : String) :
    n.uncommented.fieldNamed? name = (n.fieldNamed? name).map uncommented := by
  simp only [fieldNamed?, uncommented_children, List.find?_map, Function.comp_def,
    uncommented_field]

@[simp] theorem uncommented_childOfKind? (k : Kind) :
    n.uncommented.childOfKind? k = (n.childOfKind? k).map uncommented := by
  simp only [childOfKind?, uncommented_children, List.find?_map, Function.comp_def,
    uncommented_kind]

@[simp] theorem uncommented_left? : n.uncommented.left? = n.left?.map uncommented := by
  simp [left?, Option.map_or]

@[simp] theorem uncommented_right? : n.uncommented.right? = n.right?.map uncommented := by
  simp [right?, Option.map_or]

@[simp] theorem uncommented_name? (src : Text) : n.uncommented.name? src = n.name? src := by
  simp [name?, nameNode?, ← Option.map_or, Function.comp_def]

@[simp] theorem uncommented_hasModifier (src : Text) (keyword : String) :
    n.uncommented.hasModifier src keyword = n.hasModifier src keyword := by
  simp [hasModifier, List.any_map, Function.comp_def]

@[simp] theorem uncommented_callee? : n.uncommented.callee? = n.callee?.map uncommented := by
  simp [callee?, Option.map_or]

@[simp] theorem uncommented_arguments? :
    n.uncommented.arguments? = n.arguments?.map uncommented := by
  simp [arguments?, Option.map_or]

@[simp] theorem uncommented_initializer? :
    n.uncommented.initializer? = n.initializer?.map uncommented := by
  have hclause : n.uncommented.children.find? (fun c => c.grammarKind == "equals_value_clause") =
      (n.children.find? fun c => c.grammarKind == "equals_value_clause").map uncommented := by
    simp only [uncommented_children, List.find?_map, Function.comp_def, uncommented_grammarKind]
  unfold initializer?
  rw [hclause]
  cases n.children.find? fun c => c.grammarKind == "equals_value_clause" with
  | some clause => simp
  | none =>
      rw [uncommented_children, ← List.map_drop, List.filter_map, List.getLast?_map]
      simp only [Function.comp_def, uncommented_grammarKind, Option.map_none]

@[simp] theorem uncommented_isStringLike : n.uncommented.isStringLike = n.isStringLike := by
  simp [isStringLike]

end Parts

mutual

theorem uncommented_preorder : ∀ n : Node, n.uncommented.preorder = n.preorder.map uncommented
  | ⟨k, g, f, s, cs, l⟩ => by
      rw [preorder_eq, preorder_eq, List.map_cons, uncommented_children,
        preorderAll_map_uncommented cs]

theorem preorderAll_map_uncommented : ∀ ns : List Node,
    preorderAll (ns.map uncommented) = (preorderAll ns).map uncommented
  | [] => by simp
  | n :: ns => by
      rw [List.map_cons, preorderAll_cons, preorderAll_cons, List.map_append,
        uncommented_preorder n, preorderAll_map_uncommented ns]

end

@[simp] theorem uncommented_ofKind (n : Node) (k : Kind) :
    n.uncommented.ofKind k = (n.ofKind k).map uncommented := by
  rw [ofKind, ofKind, uncommented_preorder, List.filter_map]
  simp [Function.comp_def]

@[simp] theorem uncommented_complexity (n : Node) : n.uncommented.complexity = n.complexity := by
  rw [complexity_eq, complexity_eq, decisions, decisions, uncommented_preorder, List.countP_map]
  simp [Function.comp_def]

/-- The operands of a chain, link by link. -/
theorem uncommented_concatOperands (n : Node) :
    n.uncommented.concatOperands = n.concatOperands.map uncommented := by
  induction n using sum_induction with
  | operand n hn =>
      rw [concatOperands_eq, concatOperands_eq n, uncommented_kind, if_neg hn, if_neg hn]
      rfl
  | sum n hn ih =>
      rw [concatOperands_eq, concatOperands_eq n, uncommented_kind, if_pos hn, if_pos hn,
        uncommented_left?, uncommented_right?, List.map_append]
      congr 1
      · cases h : n.left? with
        | none => rfl
        | some l => exact ih l (Or.inl h)
      · cases h : n.right? with
        | none => rfl
        | some r => exact ih r (Or.inr h)

@[simp] theorem uncommented_isStringConcatenation (n : Node) :
    n.uncommented.isStringConcatenation = n.isStringConcatenation := by
  simp [isStringConcatenation, uncommented_concatOperands, List.any_map, Function.comp_def]

end Node

/-! ## Questions about nodes -/

namespace RuleContext

/-- The context of the unit without its comments. -/
def uncommented (ctx : RuleContext) : RuleContext :=
  { ctx with unit := { ctx.unit with root := ctx.unit.root.uncommented } }

variable (ctx : RuleContext)

@[simp] theorem uncommented_source : ctx.uncommented.unit.source = ctx.unit.source := rfl

@[simp] theorem uncommented_nodes :
    ctx.uncommented.unit.nodes = ctx.unit.nodes.map Node.uncommented :=
  Node.uncommented_preorder ctx.unit.root

@[simp] theorem uncommented_nodesOfKind (k : Kind) :
    ctx.uncommented.nodesOfKind k = (ctx.nodesOfKind k).map Node.uncommented :=
  Node.uncommented_ofKind ctx.unit.root k

@[simp] theorem uncommented_textOf (n : Node) :
    ctx.uncommented.text n.uncommented = ctx.text n := Node.uncommented_text n _

end RuleContext

/-- The answer is the same without comments. -/
def IgnoresComments {β : Type} (ask : RuleContext → Node → β) : Prop :=
  ∀ ctx n, ask ctx.uncommented n.uncommented = ask ctx n

namespace IgnoresComments

section Asking

variable {β : Type} (ctx : RuleContext) (ns : List Node)

theorem filterMap {ask : RuleContext → Node → Option β} (h : IgnoresComments ask) :
    (ns.map Node.uncommented).filterMap (ask ctx.uncommented) = ns.filterMap (ask ctx) := by
  rw [List.filterMap_map]
  exact congrArg (ns.filterMap ·) (funext (h ctx))

theorem findSome? {ask : RuleContext → Node → Option β} (h : IgnoresComments ask) :
    (ns.map Node.uncommented).findSome? (ask ctx.uncommented) = ns.findSome? (ask ctx) := by
  rw [List.findSome?_map]
  exact congrArg (ns.findSome? ·) (funext (h ctx))

theorem filter {ask : RuleContext → Node → Bool} (h : IgnoresComments ask) :
    (ns.map Node.uncommented).filter (ask ctx.uncommented) =
      (ns.filter (ask ctx)).map Node.uncommented := by
  rw [List.filter_map]
  exact congrArg (fun p => (ns.filter p).map Node.uncommented) (funext (h ctx))

theorem find? {ask : RuleContext → Node → Bool} (h : IgnoresComments ask) :
    (ns.map Node.uncommented).find? (ask ctx.uncommented) =
      (ns.find? (ask ctx)).map Node.uncommented := by
  rw [List.find?_map]
  exact congrArg (fun p => (ns.find? p).map Node.uncommented) (funext (h ctx))

end Asking

theorem declaredName : IgnoresComments Style.declaredName := by
  intro ctx n
  simp [Style.declaredName]

theorem longMethod? : IgnoresComments Style.longMethod? := by
  intro ctx n
  have hblock : Style.block? n.uncommented = (Style.block? n).map Node.uncommented := by
    simp [Style.block?, Option.map_or, Option.filter_map, Function.comp_def]
  simp [Style.longMethod?, hblock, declaredName ctx n, Option.bind_map]

theorem asyncNaming? : IgnoresComments Style.asyncNaming? := by
  intro ctx n
  rw [Style.asyncNaming?, declaredName ctx n, RuleContext.uncommented_source,
    Node.uncommented_hasModifier, Style.asyncNaming?]

theorem largeClass? : IgnoresComments Style.largeClass? := by
  intro ctx n
  simp [Style.largeClass?, declaredName ctx n, ← Option.map_or, Option.bind_map]

theorem highComplexity? : IgnoresComments Style.highComplexity? := by
  intro ctx n
  simp [Style.highComplexity?, declaredName ctx n]

theorem buildsSql : IgnoresComments Security.buildsSql := by
  intro ctx n
  simp [Security.buildsSql]

theorem declaredSecret? : IgnoresComments Security.declaredSecret? := by
  intro ctx n
  simp [Security.declaredSecret?, Option.bind_map]

theorem assignedSecret? : IgnoresComments Security.assignedSecret? := by
  intro ctx n
  simp [Security.assignedSecret?, Option.bind_map]

theorem catchesGeneral : IgnoresComments Security.catchesGeneral := by
  intro ctx n
  unfold Security.catchesGeneral
  rw [Node.uncommented_childOfKind?]
  cases n.childOfKind? .catchDeclaration with
  | none => rfl
  | some decl =>
      simp only [Option.map_some, Node.uncommented_fieldNamed?, Node.uncommented_children,
        List.head?_map, ← Option.map_or]
      cases (decl.fieldNamed? "type").or decl.children.head? with
      | none => rfl
      | some ty => simp

theorem handles : IgnoresComments Security.handles := by
  intro ctx n
  simp [Security.handles]

theorem swallows : IgnoresComments Security.swallows := by
  intro ctx n
  unfold Security.swallows
  rw [catchesGeneral ctx n, Node.uncommented_fieldNamed?, Node.uncommented_childOfKind?,
    ← Option.map_or]
  cases (n.fieldNamed? "body").or (n.childOfKind? .block) with
  | none => rfl
  | some body => simp [handles ctx body]

theorem makesWeakGenerator : IgnoresComments Security.makesWeakGenerator := by
  intro ctx n
  unfold Security.makesWeakGenerator
  rw [Node.uncommented_fieldNamed?, Node.uncommented_children, List.head?_map, ← Option.map_or]
  cases (n.fieldNamed? "type").or n.children.head? with
  | none => rfl
  | some ty => simp

theorem looksLikeString : IgnoresComments Performance.looksLikeString := by
  intro ctx n
  simp [Performance.looksLikeString]

theorem joinsStrings : IgnoresComments Performance.joinsStrings := by
  intro ctx n
  simp [Performance.joinsStrings, Option.any_map, looksLikeString ctx]

theorem deferredQuery? : IgnoresComments Performance.deferredQuery? := by
  intro ctx n
  simp [Performance.deferredQuery?, declaredName ctx n, Option.bind_map]

theorem operatorCount : IgnoresComments Performance.operatorCount := by
  intro ctx n
  simp [Performance.operatorCount]

theorem calleeEndsWith (word : String) :
    IgnoresComments (fun ctx => Query.calleeEndsWith ctx word) := by
  intro ctx n
  simp [Query.calleeEndsWith, Option.any_map]

theorem isZeroComparison : IgnoresComments Query.isZeroComparison := by
  intro ctx n
  unfold Query.isZeroComparison
  rw [Node.uncommented_left?, Node.uncommented_right?]
  cases n.left? with
  | none => rfl
  | some left =>
      cases n.right? with
      | none => rfl
      | some right => simp [calleeEndsWith ".Count" ctx left]

theorem whereThen (calls : List Text) : IgnoresComments (fun ctx => Query.whereThen ctx calls) := by
  intro ctx n
  simp [Query.whereThen]

theorem isIdentitySelect : IgnoresComments Query.isIdentitySelect := by
  intro ctx n
  simp [Query.isIdentitySelect, calleeEndsWith ".Select" ctx n, Option.any_map]

theorem sortsForFirst : IgnoresComments Query.sortsForFirst := by
  intro ctx n
  simp [Query.sortsForFirst]

theorem filtersEagerly :
    IgnoresComments fun ctx n => Text.containsAny Query.eagerFilters (ctx.text n) := by
  intro ctx n
  simp only [RuleContext.uncommented_textOf]

theorem holdsLongQuery : IgnoresComments Query.holdsLongQuery := by
  intro ctx n
  simp [Query.holdsLongQuery, Option.any_map]

end IgnoresComments

/-! ## Rules -/

/-- The rule says the same of a unit without its comments. -/
def Rule.IgnoresComments (r : Rule) : Prop := ∀ ctx, r.detect ctx.uncommented = r.detect ctx

section Detectors

variable (ctx : RuleContext)

theorem Style.longMethods_uncommented : longMethods ctx.uncommented = longMethods ctx := by
  rw [longMethods, RuleContext.uncommented_nodesOfKind]
  exact IgnoresComments.longMethod?.filterMap ctx _

theorem Style.asyncNaming_uncommented : asyncNaming ctx.uncommented = asyncNaming ctx := by
  rw [asyncNaming, RuleContext.uncommented_nodesOfKind]
  exact IgnoresComments.asyncNaming?.filterMap ctx _

theorem Style.largeClasses_uncommented : largeClasses ctx.uncommented = largeClasses ctx := by
  rw [largeClasses, RuleContext.uncommented_nodesOfKind]
  exact IgnoresComments.largeClass?.filterMap ctx _

theorem Style.highComplexity_uncommented :
    highComplexity ctx.uncommented = highComplexity ctx := by
  rw [highComplexity, RuleContext.uncommented_nodesOfKind]
  exact IgnoresComments.highComplexity?.filterMap ctx _

theorem Security.sqlInjection_uncommented : sqlInjection ctx.uncommented = sqlInjection ctx := by
  simp [sqlInjection, IgnoresComments.buildsSql.find? ctx, Function.comp_def]

theorem Security.hardcodedSecrets_uncommented :
    hardcodedSecrets ctx.uncommented = hardcodedSecrets ctx := by
  simp [hardcodedSecrets, declaredSecrets, assignedSecrets,
    IgnoresComments.declaredSecret?.findSome? ctx, IgnoresComments.assignedSecret?.filterMap ctx]

theorem Security.swallowedExceptions_uncommented :
    swallowedExceptions ctx.uncommented = swallowedExceptions ctx := by
  simp [swallowedExceptions, IgnoresComments.swallows.filter ctx, Function.comp_def]

theorem filterMap_callee?_uncommented (ns : List Node) :
    (ns.map Node.uncommented).filterMap Node.callee? =
      (ns.filterMap Node.callee?).map Node.uncommented := by
  simp [List.filterMap_map, List.map_filterMap]

theorem Security.unsafeFileOperations_uncommented :
    unsafeFileOperations ctx.uncommented = unsafeFileOperations ctx := by
  simp only [unsafeFileOperations, RuleContext.uncommented_nodesOfKind,
    filterMap_callee?_uncommented, List.find?_map, Option.map_map, Function.comp_def,
    RuleContext.uncommented_textOf]

theorem Security.weakRandom_uncommented : weakRandom ctx.uncommented = weakRandom ctx := by
  simp [weakRandom, IgnoresComments.makesWeakGenerator.filter ctx, Function.comp_def]

theorem Performance.concatInLoop_uncommented :
    concatInLoop ctx.uncommented = concatInLoop ctx := by
  have hjoin (loop : Node) : joinIn? ctx.uncommented loop.uncommented =
      (joinIn? ctx loop).map Node.uncommented := by
    rw [joinIn?, Node.uncommented_ofKind, IgnoresComments.joinsStrings.find? ctx, joinIn?]
  have hfound (loops : List Node) :
      (loops.map Node.uncommented).findSome? (joinIn? ctx.uncommented) =
        (loops.findSome? (joinIn? ctx)).map Node.uncommented := by
    rw [List.findSome?_map, List.map_findSome?]
    exact congrArg (loops.findSome? ·) (funext hjoin)
  simp [concatInLoop, List.filter_map, hfound, Function.comp_def]

theorem Performance.materializeBeforeCount_uncommented :
    materializeBeforeCount ctx.uncommented = materializeBeforeCount ctx := by
  simp [materializeBeforeCount, Function.comp_def]

theorem Performance.deferredQueries_uncommented :
    deferredQueries ctx.uncommented = deferredQueries ctx := by
  rw [deferredQueries, RuleContext.uncommented_nodesOfKind]
  exact IgnoresComments.deferredQuery?.filterMap ctx _

theorem Performance.formatHelper_uncommented :
    formatHelper ctx.uncommented = formatHelper ctx := by
  simp only [formatHelper, RuleContext.uncommented_nodesOfKind, filterMap_callee?_uncommented,
    List.any_map, Function.comp_def, RuleContext.uncommented_textOf]

theorem Performance.missingConfigureAwait_uncommented :
    missingConfigureAwait ctx.uncommented = missingConfigureAwait ctx := by
  simp only [missingConfigureAwait, RuleContext.uncommented_nodesOfKind, List.find?_map,
    Option.map_map, Function.comp_def, RuleContext.uncommented_textOf, Node.uncommented_span]

theorem Performance.excessiveChaining_uncommented :
    excessiveChaining ctx.uncommented = excessiveChaining ctx := by
  simp [excessiveChaining, Function.comp_def, IgnoresComments.operatorCount ctx]

theorem Query.report_uncommented (found : Option Node) (message : String) :
    report (found.map Node.uncommented) message = report found message := by
  simp [report, Function.comp_def]

theorem Query.report_firstInvocation?_uncommented {ask : RuleContext → Node → Bool}
    (h : IgnoresComments ask) (message : String) :
    report (firstInvocation? ctx.uncommented (ask ctx.uncommented)) message =
      report (firstInvocation? ctx (ask ctx)) message := by
  rw [firstInvocation?, RuleContext.uncommented_nodesOfKind, h.find? ctx, report_uncommented]
  rfl

theorem Query.countComparedToZero_uncommented :
    countComparedToZero ctx.uncommented = countComparedToZero ctx := by
  rw [countComparedToZero, RuleContext.uncommented_nodes,
    IgnoresComments.isZeroComparison.find? ctx, report_uncommented]
  rfl

theorem Query.longQueryExpression_uncommented :
    longQueryExpression ctx.uncommented = longQueryExpression ctx := by
  simp [longQueryExpression, IgnoresComments.holdsLongQuery.find? ctx, Function.comp_def,
    IgnoresComments.declaredName ctx]

end Detectors

theorem Style.ignoresComments_rules :
    ∀ rule ∈ Style.rules, rule.id ≠ "missing-doc" → rule.IgnoresComments := by
  simp only [Style.rules, List.forall_mem_cons]
  refine ⟨fun _ => longMethods_uncommented, fun h => absurd rfl h, fun _ => asyncNaming_uncommented,
    fun _ => largeClasses_uncommented, fun _ => highComplexity_uncommented, ?_⟩
  exact List.forall_mem_nil _

theorem Security.ignoresComments_rules : ∀ rule ∈ Security.rules, rule.IgnoresComments := by
  simp only [Security.rules, List.forall_mem_cons]
  exact ⟨sqlInjection_uncommented, hardcodedSecrets_uncommented, swallowedExceptions_uncommented,
    unsafeFileOperations_uncommented, weakRandom_uncommented, List.forall_mem_nil _⟩

theorem Performance.ignoresComments_rules : ∀ rule ∈ Performance.rules, rule.IgnoresComments := by
  simp only [Performance.rules, List.forall_mem_cons]
  exact ⟨concatInLoop_uncommented, materializeBeforeCount_uncommented, deferredQueries_uncommented,
    formatHelper_uncommented, missingConfigureAwait_uncommented, excessiveChaining_uncommented,
    List.forall_mem_nil _⟩

theorem Query.ignoresComments_rules : ∀ rule ∈ Query.rules, rule.IgnoresComments := by
  simp only [Query.rules, List.forall_mem_cons]
  exact ⟨countComparedToZero_uncommented,
    fun ctx => report_firstInvocation?_uncommented ctx (.whereThen _) _,
    fun ctx => report_firstInvocation?_uncommented ctx (.whereThen _) _,
    fun ctx => report_firstInvocation?_uncommented ctx (.whereThen _) _,
    fun ctx => report_firstInvocation?_uncommented ctx .isIdentitySelect _,
    fun ctx => report_firstInvocation?_uncommented ctx .sortsForFirst _,
    fun ctx => report_firstInvocation?_uncommented ctx .filtersEagerly _,
    longQueryExpression_uncommented, List.forall_mem_nil _⟩

/-- **Comments matter only for documentation.** Every other built-in rule says the same of a unit
without its comments. -/
theorem Registry.detect_uncommented : ∀ rule ∈ builtIn.rules, rule.id ≠ "missing-doc" →
    rule.IgnoresComments := by
  intro rule hrule hid
  simp only [builtIn, List.mem_append] at hrule
  rcases hrule with ((h | h) | h) | h
  · exact Style.ignoresComments_rules rule h hid
  · exact Security.ignoresComments_rules rule h
  · exact Performance.ignoresComments_rules rule h
  · exact Query.ignoresComments_rules rule h

/-- Metrics do not depend on comments. -/
theorem Metrics.compute_uncommented (ctx : RuleContext) :
    Metrics.compute ctx.uncommented.unit = Metrics.compute ctx.unit := by
  simp [Metrics.compute, RuleContext.uncommented, SourceUnit.nodesOfKind]

end UnitReview
