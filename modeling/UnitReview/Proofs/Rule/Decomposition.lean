import UnitReview.Proofs.Rule.Registry

/-!
# Rules look at one node at a time

A unit can be taken apart at its root: each child of the root becomes the root of a unit of its
own over the same source. If the root is of a kind that no rule seeks, what the rules say of the
whole can be told from what they say of the parts. How depends on the rule's policy:

* a rule that reports **every** node it objects to says of the whole what it says of the parts,
  one after the other;
* a rule that reports the **first** one says the first thing that it says of any part;
* the rule on secrets does the one for declared secrets and the other for assigned ones;
* the rule on lists that are built to be counted looks at several invocations in a row, and may
  see across parts: of the whole it says at least what it says of some part.

The first two policies are those of a `Scan`: what there is to say of a node is judged from the
node and the source alone (`Local`), so that it does not matter which unit the node is in.
-/

set_option autoImplicit false

namespace UnitReview

/-! ## Units taken apart -/

/-- The kinds of nodes that rules seek. All other kinds matter to them at most below such a
node. -/
def Kind.isSought : Kind → Bool
  | .methodDeclaration | .classDeclaration | .variableDeclarator | .assignmentExpression
  | .addExpression | .invocationExpression | .objectCreationExpression | .awaitExpression
  | .catchClause | .greaterThanExpression | .notEqualsExpression | .equalsExpression => true
  | k => k.isLoop

-- Units, namespaces and lists of members are among the other kinds.
example : ∀ k ∈ [Kind.compilationUnit, .namespaceDeclaration, .declarationList, .other],
    k.isSought = false := by decide

theorem isSought_of_beq {k k' : Kind} (hk : k.isSought = true) (h : (k' == k) = true) :
    k'.isSought = true := by
  rwa [eq_of_beq h]

namespace RuleContext

variable {ctx : RuleContext} {parts : List RuleContext}

/-- **A unit taken apart at its root**: the children of the root are, in order, the roots of the
parts, and the parts have the source of the whole. Their names and diagnostics are free. -/
structure SplitsInto (ctx : RuleContext) (parts : List RuleContext) : Prop where
  roots : parts.map (·.unit.root) = ctx.unit.root.children
  source : ∀ part ∈ parts, part.unit.source = ctx.unit.source

/-- The nodes of a unit are its root and the nodes of its parts. -/
theorem SplitsInto.nodes_eq (h : ctx.SplitsInto parts) :
    ctx.unit.nodes = ctx.unit.root :: parts.flatMap (·.unit.nodes) := by
  have hbelow : Node.preorderAll ctx.unit.root.children = parts.flatMap (·.unit.nodes) := by
    rw [← h.roots, Node.preorderAll_eq_flatMap, List.flatMap_map]
    rfl
  rw [SourceUnit.nodes, Node.preorder_eq, hbelow]

/-- Surroundings that hold a source text and nothing else. -/
def bare (source : Text) : RuleContext := ⟨⟨default, source, ""⟩, []⟩

end RuleContext

/-! ## Scans -/

/-- What is asked depends on the source alone, not on the unit around it. -/
def Local {α β : Type} (ask : RuleContext → α → β) : Prop :=
  ∀ ctx : RuleContext, ask ctx = ask (.bare ctx.unit.source)

theorem Local.congr {α β : Type} {ask : RuleContext → α → β} (h : Local ask)
    {ctx ctx' : RuleContext} (hsource : ctx.unit.source = ctx'.unit.source) :
    ask ctx = ask ctx' := by
  rw [h ctx, h ctx', hsource]

/-- What is to be had of the nodes of some kinds, in pre-order. -/
def gather {α : Type} (kinds : Kind → Bool) (ask : RuleContext → Node → Option α)
    (ctx : RuleContext) : List α :=
  (ctx.unit.nodes.filter (fun n => kinds n.kind)).filterMap (ask ctx)

variable {ctx : RuleContext} {parts : List RuleContext}

/-- **Gathering from a unit is gathering from its parts**, if the root itself yields nothing. -/
theorem gather_split {α : Type} {kinds : Kind → Bool} {ask : RuleContext → Node → Option α}
    (hask : Local ask) (hroot : kinds ctx.unit.root.kind = false) (hparts : ctx.SplitsInto parts) :
    gather kinds ask ctx = parts.flatMap (gather kinds ask) := by
  -- over the source of the whole, the parts are asked the same questions
  have hsame : ∀ part ∈ parts, gather kinds ask part =
      (part.unit.nodes.filter (fun n => kinds n.kind)).filterMap (ask ctx) := by
    intro part hpart
    rw [gather, hask.congr (hparts.source part hpart)]
  have hskip : ctx.unit.nodes.filter (fun n => kinds n.kind) =
      (parts.flatMap (·.unit.nodes)).filter (fun n => kinds n.kind) := by
    rw [hparts.nodes_eq, List.filter_cons_of_neg (by rw [hroot]; exact Bool.false_ne_true)]
  rw [gather, hskip, List.filter_flatMap, List.filterMap_flatMap, List.flatMap_def,
    List.flatMap_def, List.map_congr_left hsame]

/-- What a rule that looks at single nodes has to say of a node. -/
structure Scan where
  /-- The kinds of nodes that are looked at. -/
  kinds : Kind → Bool
  say : RuleContext → Node → Option String
  sought : ∀ k, kinds k = true → k.isSought = true
  judgedLocally : Local say

namespace Scan

/-- Everything that there is to say of a unit. -/
def all (s : Scan) : RuleContext → List String := gather s.kinds s.say

/-- A scan of the nodes of one kind. -/
def ofKind (k : Kind) (hk : k.isSought = true) (say : RuleContext → Node → Option String)
    (hsay : Local say) : Scan where
  kinds := (· == k)
  say := say
  sought := fun _ => isSought_of_beq hk
  judgedLocally := hsay

theorem all_split (s : Scan) (hroot : ctx.unit.root.kind.isSought = false)
    (hparts : ctx.SplitsInto parts) : s.all ctx = parts.flatMap s.all := by
  apply gather_split s.judgedLocally _ hparts
  cases hkind : s.kinds ctx.unit.root.kind with
  | false => rfl
  | true =>
      have hsought := s.sought _ hkind
      rw [hroot] at hsought
      cases hsought

/-- The first thing to say of a unit is found by a search. -/
theorem take_one_all (s : Scan) (ctx : RuleContext) :
    (s.all ctx).take 1 =
      ((ctx.unit.nodes.filter (fun n => s.kinds n.kind)).findSome? (s.say ctx)).toList := by
  rw [List.take_one, all, gather, List.head?_filterMap]

end Scan

/-! ## The two policies -/

/-- A detector that reports every node it objects to. -/
def ReportsEvery (detect : RuleContext → List String) : Prop := ∃ s : Scan, detect = s.all

/-- A detector that reports the first node it objects to. -/
def ReportsFirst (detect : RuleContext → List String) : Prop :=
  ∃ s : Scan, detect = fun ctx => (s.all ctx).take 1

theorem ReportsEvery.split {detect : RuleContext → List String} (h : ReportsEvery detect)
    (hroot : ctx.unit.root.kind.isSought = false) (hparts : ctx.SplitsInto parts) :
    detect ctx = parts.flatMap detect := by
  obtain ⟨s, rfl⟩ := h
  exact s.all_split hroot hparts

/-- The first entry of several lists is the first of their first entries. -/
theorem take_one_flatMap {α β : Type} (l : List α) (f : α → List β) :
    (l.flatMap f).take 1 = (l.flatMap fun a => (f a).take 1).take 1 := by
  have hhead : (fun a => ((f a).take 1).head?) = fun a => (f a).head? := by
    funext a
    cases f a <;> rfl
  rw [List.take_one, List.take_one, List.head?_flatMap, List.head?_flatMap, hhead]

theorem ReportsFirst.split {detect : RuleContext → List String} (h : ReportsFirst detect)
    (hroot : ctx.unit.root.kind.isSought = false) (hparts : ctx.SplitsInto parts) :
    detect ctx = (parts.flatMap detect).take 1 := by
  obtain ⟨s, rfl⟩ := h
  show (s.all ctx).take 1 = _
  rw [s.all_split hroot hparts, take_one_flatMap]

/-! ### Detectors that report every node -/

/-- Nodes are kept by a condition and then told. -/
theorem reportsEvery_filter {k : Kind} {p : RuleContext → Node → Bool} {tell : Node → String}
    (hk : k.isSought = true) (hp : Local p) :
    ReportsEvery fun ctx => ((ctx.nodesOfKind k).filter (p ctx)).map tell := by
  refine ⟨.ofKind k hk (fun ctx n => if p ctx n then some (tell n) else none) ?_, ?_⟩
  · intro ctx
    funext n
    show (if p ctx n then some (tell n) else none) = _
    rw [hp ctx]
  · funext ctx
    show _ = (ctx.nodesOfKind k).filterMap _
    rw [← List.filterMap_eq_map, List.filterMap_filter]
    rfl

theorem reportsEvery_longMethods : ReportsEvery Style.longMethods :=
  ⟨.ofKind .methodDeclaration rfl Style.longMethod? fun _ => rfl, rfl⟩

theorem reportsEvery_missingDocs : ReportsEvery Style.missingDocs :=
  ⟨.ofKind .methodDeclaration rfl Style.missingDoc? fun _ => rfl, rfl⟩

theorem reportsEvery_asyncNaming : ReportsEvery Style.asyncNaming :=
  ⟨.ofKind .methodDeclaration rfl Style.asyncNaming? fun _ => rfl, rfl⟩

theorem reportsEvery_largeClasses : ReportsEvery Style.largeClasses :=
  ⟨.ofKind .classDeclaration rfl Style.largeClass? fun _ => rfl, rfl⟩

theorem reportsEvery_highComplexity : ReportsEvery Style.highComplexity :=
  ⟨.ofKind .methodDeclaration rfl Style.highComplexity? fun _ => rfl, rfl⟩

theorem reportsEvery_swallowedExceptions : ReportsEvery Security.swallowedExceptions :=
  reportsEvery_filter rfl fun _ => rfl

theorem reportsEvery_weakRandom : ReportsEvery Security.weakRandom :=
  reportsEvery_filter rfl fun _ => rfl

theorem reportsEvery_deferredQueries : ReportsEvery Performance.deferredQueries :=
  ⟨.ofKind .variableDeclarator rfl Performance.deferredQuery? fun _ => rfl, rfl⟩

theorem reportsEvery_assignedSecrets : ReportsEvery Security.assignedSecrets :=
  ⟨.ofKind .assignmentExpression rfl Security.assignedSecret? fun _ => rfl, rfl⟩

/-! ### Detectors that report the first node -/

section

variable {α : Type} {k : Kind} {find : RuleContext → Node → Option α}
  {p : RuleContext → Node → Bool} {tell : RuleContext → Node → String}

/-- A search of nodes for something to tell. -/
theorem reportsFirst_findSome {tell : RuleContext → α → String} (kinds : Kind → Bool)
    (hkinds : ∀ k, kinds k = true → k.isSought = true) (hfind : Local find) (htell : Local tell) :
    ReportsFirst fun ctx =>
      (((ctx.unit.nodes.filter (fun n => kinds n.kind)).findSome? (find ctx)).map
        (tell ctx)).toList := by
  refine ⟨⟨kinds, fun ctx n => (find ctx n).map (tell ctx), hkinds, ?_⟩, ?_⟩
  · intro ctx
    funext n
    show (find ctx n).map (tell ctx) = _
    rw [hfind ctx, htell ctx]
  · funext ctx
    rw [Scan.take_one_all, List.map_findSome?]
    rfl

/-- A search among nodes that are picked out at the nodes of one kind. -/
theorem reportsFirst_find_picked {pick : Node → Option Node} (hk : k.isSought = true)
    (hp : Local p) (htell : Local tell) :
    ReportsFirst fun ctx =>
      ((((ctx.nodesOfKind k).filterMap pick).find? (p ctx)).map (tell ctx)).toList := by
  have hfind : Local fun (ctx : RuleContext) (n : Node) =>
      (pick n).bind (Option.guard (p ctx)) := by
    intro ctx
    funext n
    show (pick n).bind (Option.guard (p ctx)) = _
    rw [hp ctx]
  have heq : ∀ ctx : RuleContext, ((ctx.nodesOfKind k).filterMap pick).find? (p ctx) =
      (ctx.nodesOfKind k).findSome? fun n => (pick n).bind (Option.guard (p ctx)) := by
    intro ctx
    rw [List.find?_eq_findSome?_guard, ← List.head?_filterMap, List.filterMap_filterMap,
      List.head?_filterMap]
  simp only [heq]
  exact reportsFirst_findSome (· == k) (fun _ => isSought_of_beq hk) hfind htell

/-- A search among the nodes of one kind. -/
theorem reportsFirst_find (hk : k.isSought = true) (hp : Local p) (htell : Local tell) :
    ReportsFirst fun ctx => (((ctx.nodesOfKind k).find? (p ctx)).map (tell ctx)).toList := by
  have h : ReportsFirst fun ctx =>
      ((((ctx.nodesOfKind k).filterMap some).find? (p ctx)).map (tell ctx)).toList :=
    reportsFirst_find_picked hk hp htell
  simpa only [List.filterMap_some] using h

/-- A search among all nodes for one that can only be of some kinds. -/
theorem reportsFirst_find_nodes (kinds : Kind → Bool)
    (hkinds : ∀ k, kinds k = true → k.isSought = true)
    (honly : ∀ ctx n, p ctx n = true → kinds n.kind = true) (hp : Local p) (htell : Local tell) :
    ReportsFirst fun ctx => ((ctx.unit.nodes.find? (p ctx)).map (tell ctx)).toList := by
  have hfind : Local fun (ctx : RuleContext) (n : Node) => Option.guard (p ctx) n := by
    intro ctx
    funext n
    show Option.guard (p ctx) n = _
    rw [hp ctx]
  have heq : ∀ ctx : RuleContext, ctx.unit.nodes.find? (p ctx) =
      (ctx.unit.nodes.filter (fun n => kinds n.kind)).findSome? (Option.guard (p ctx)) := by
    intro ctx
    rw [← List.find?_eq_findSome?_guard, List.find?_filter]
    congr 1
    funext n
    cases hn : p ctx n with
    | false => simp
    | true => simp [honly ctx n hn]
  simp only [heq]
  exact reportsFirst_findSome kinds hkinds hfind htell

/-- A fixed suggestion where one of the nodes that are picked out satisfies a condition. -/
theorem reportsFirst_any_picked {pick : Node → Option Node} {message : String}
    (hk : k.isSought = true) (hp : Local p) :
    ReportsFirst fun ctx =>
      if ((ctx.nodesOfKind k).filterMap pick).any (p ctx) then [message] else [] := by
  have heq : ∀ (l : List Node) (q : Node → Bool),
      (if l.any q then [message] else []) = ((l.find? q).map fun _ => message).toList := by
    intro l q
    cases hl : l.find? q with
    | none =>
        have hany : l.any q = false := by
          rw [List.any_eq_false]
          exact List.find?_eq_none.1 hl
        rw [hany]
        rfl
    | some c =>
        have hany : l.any q = true :=
          List.any_eq_true.2 ⟨c, List.mem_of_find?_eq_some hl, List.find?_some hl⟩
        rw [hany]
        rfl
  simp only [heq]
  exact reportsFirst_find_picked hk hp fun _ => rfl

/-- A search among numbers that are counted at the nodes of one kind. -/
theorem reportsFirst_find_counted {count : RuleContext → Node → Nat} {tooMany : Nat → Bool}
    {tell : Nat → String} (hk : k.isSought = true) (hcount : Local count) :
    ReportsFirst fun ctx =>
      (((ctx.nodesOfKind k).map (count ctx)).find? tooMany).toList.map tell := by
  have hp : Local fun (ctx : RuleContext) (n : Node) => tooMany (count ctx n) := by
    intro ctx
    funext n
    show tooMany (count ctx n) = _
    rw [hcount ctx]
  have htell : Local fun (ctx : RuleContext) (n : Node) => tell (count ctx n) := by
    intro ctx
    funext n
    show tell (count ctx n) = _
    rw [hcount ctx]
  have heq : ∀ ctx : RuleContext,
      (((ctx.nodesOfKind k).map (count ctx)).find? tooMany).toList.map tell =
        (((ctx.nodesOfKind k).find? fun n => tooMany (count ctx n)).map
          fun n => tell (count ctx n)).toList := by
    intro ctx
    rw [List.find?_map, ← Option.toList_map, Option.map_map]
    rfl
  simp only [heq]
  exact reportsFirst_find hk hp htell

end

theorem reportsFirst_sqlInjection : ReportsFirst Security.sqlInjection :=
  reportsFirst_find rfl (fun _ => rfl) (fun _ => rfl)

theorem reportsFirst_declaredSecrets : ReportsFirst Security.declaredSecrets :=
  reportsFirst_findSome (· == .variableDeclarator) (fun _ => isSought_of_beq rfl) (fun _ => rfl)
    (fun _ => rfl)

theorem reportsFirst_unsafeFileOperations : ReportsFirst Security.unsafeFileOperations :=
  reportsFirst_find_picked rfl (fun _ => rfl) (fun _ => rfl)

theorem reportsFirst_concatInLoop : ReportsFirst Performance.concatInLoop :=
  reportsFirst_findSome Kind.isLoop (by intro k; cases k <;> decide)
    (fun _ => rfl) (fun _ => rfl)

theorem reportsFirst_formatHelper : ReportsFirst Performance.formatHelper :=
  reportsFirst_any_picked rfl fun _ => rfl

theorem reportsFirst_missingConfigureAwait : ReportsFirst Performance.missingConfigureAwait :=
  reportsFirst_find rfl (fun _ => rfl) (fun _ => rfl)

theorem reportsFirst_excessiveChaining : ReportsFirst Performance.excessiveChaining :=
  reportsFirst_find_counted rfl fun _ => rfl

theorem isComparison_of_isZeroComparison {n : Node} (h : Query.isZeroComparison ctx n = true) :
    Query.isComparison n.kind = true := by
  unfold Query.isZeroComparison at h
  split at h
  · simp only [Bool.and_eq_true] at h
    exact h.1.1.1
  · cases h

theorem reportsFirst_countComparedToZero : ReportsFirst Query.countComparedToZero :=
  reportsFirst_find_nodes Query.isComparison
    (by intro k; cases k <;> decide)
    (fun _ _ => isComparison_of_isZeroComparison) (fun _ => rfl) (fun _ => rfl)

theorem reportsFirst_whereThenCount : ReportsFirst Query.whereThenCount :=
  reportsFirst_find rfl (fun _ => rfl) (fun _ => rfl)

theorem reportsFirst_whereThenAny : ReportsFirst Query.whereThenAny :=
  reportsFirst_find rfl (fun _ => rfl) (fun _ => rfl)

theorem reportsFirst_whereThenFirst : ReportsFirst Query.whereThenFirst :=
  reportsFirst_find rfl (fun _ => rfl) (fun _ => rfl)

theorem reportsFirst_identitySelect : ReportsFirst Query.identitySelect :=
  reportsFirst_find rfl (fun _ => rfl) (fun _ => rfl)

theorem reportsFirst_sortThenFirst : ReportsFirst Query.sortThenFirst :=
  reportsFirst_find rfl (fun _ => rfl) (fun _ => rfl)

theorem reportsFirst_materializeThenFilter : ReportsFirst Query.materializeThenFilter :=
  reportsFirst_find rfl (fun _ => rfl) (fun _ => rfl)

theorem reportsFirst_longQueryExpression : ReportsFirst Query.longQueryExpression :=
  reportsFirst_find rfl (fun _ => rfl) (fun _ => rfl)

/-! ## Lists that are built to be counted -/

namespace Performance

/-- What is found among some texts is found when more texts follow, -/
theorem countsSoonAfter_append_right {a : List Text} (b : List Text)
    (h : countsSoonAfter a = true) : countsSoonAfter (a ++ b) = true := by
  induction a with
  | nil => cases h
  | cons t ts ih =>
      simp only [countsSoonAfter, Bool.or_eq_true, Bool.and_eq_true] at h
      simp only [List.cons_append, countsSoonAfter, Bool.or_eq_true, Bool.and_eq_true]
      rcases h with ⟨hbuilds, hcounts⟩ | h
      · left
        -- the texts looked at after `t` only grow
        rw [List.take_append, List.any_append, hcounts]
        exact ⟨hbuilds, rfl⟩
      · right
        exact ih h

/-- and when more texts stand before them. -/
theorem countsSoonAfter_append_left (a : List Text) {b : List Text}
    (h : countsSoonAfter b = true) : countsSoonAfter (a ++ b) = true := by
  induction a with
  | nil => exact h
  | cons t ts ih => rw [List.cons_append, countsSoonAfter, ih, Bool.or_true]

/-- The texts of the invocations of a unit. -/
def invocationTexts (ctx : RuleContext) : List Text :=
  (ctx.nodesOfKind .invocationExpression).map ctx.text

theorem invocationTexts_eq_gather :
    invocationTexts = gather (· == .invocationExpression) fun ctx n => some (ctx.text n) := by
  funext ctx
  show (ctx.nodesOfKind .invocationExpression).map ctx.text = List.filterMap (some ∘ ctx.text) _
  rw [List.filterMap_eq_map]
  rfl

theorem materializeBeforeCount_ne_nil :
    materializeBeforeCount ctx ≠ [] ↔ countsSoonAfter (invocationTexts ctx) = true := by
  unfold materializeBeforeCount invocationTexts
  split
  next h => simp [h]
  next h => simp [h]

/-- **What is reported of a part is reported of the whole.** -/
theorem materializeBeforeCount_split (hroot : ctx.unit.root.kind.isSought = false)
    (hparts : ctx.SplitsInto parts) {part : RuleContext} (hpart : part ∈ parts)
    (h : materializeBeforeCount part ≠ []) : materializeBeforeCount ctx ≠ [] := by
  rw [materializeBeforeCount_ne_nil] at h ⊢
  have hkind : (ctx.unit.root.kind == .invocationExpression) = false := by
    cases hbeq : ctx.unit.root.kind == .invocationExpression with
    | false => rfl
    | true =>
        rw [isSought_of_beq rfl hbeq] at hroot
        cases hroot
  have htexts : invocationTexts ctx = parts.flatMap invocationTexts := by
    rw [invocationTexts_eq_gather]
    exact gather_split (fun _ => rfl) hkind hparts
  obtain ⟨before, after, rfl⟩ := List.append_of_mem hpart
  rw [htexts, List.flatMap_append, List.flatMap_cons]
  exact countsSoonAfter_append_left _ (countsSoonAfter_append_right _ h)

end Performance

/-! ## All built-in rules -/

namespace Registry

/-- The built-in rules that report every node they object to. -/
def everyOccurrence : List String :=
  ["long-method", "missing-doc", "async-naming", "large-class", "high-complexity",
    "swallowed-exception", "weak-random", "deferred-query-variable"]

/-- The built-in rules that report the first node they object to. -/
def oncePerUnit : List String :=
  ["sql-injection", "unsafe-file-operation", "string-concat-in-loop", "format-helper",
    "missing-configure-await", "excessive-chaining", "count-compared-to-zero",
    "where-then-count", "where-then-any", "where-then-first", "identity-select",
    "sort-then-first", "materialize-then-filter", "long-query-expression"]

theorem exists_reportsEvery {id : String} (h : id ∈ everyOccurrence) :
    ∃ rule, builtIn? id = some rule ∧ ReportsEvery rule.detect := by
  simp only [everyOccurrence, List.mem_cons, List.not_mem_nil, or_false] at h
  rcases h with rfl | rfl | rfl | rfl | rfl | rfl | rfl | rfl
  · exact ⟨_, rfl, reportsEvery_longMethods⟩
  · exact ⟨_, rfl, reportsEvery_missingDocs⟩
  · exact ⟨_, rfl, reportsEvery_asyncNaming⟩
  · exact ⟨_, rfl, reportsEvery_largeClasses⟩
  · exact ⟨_, rfl, reportsEvery_highComplexity⟩
  · exact ⟨_, rfl, reportsEvery_swallowedExceptions⟩
  · exact ⟨_, rfl, reportsEvery_weakRandom⟩
  · exact ⟨_, rfl, reportsEvery_deferredQueries⟩

theorem exists_reportsFirst {id : String} (h : id ∈ oncePerUnit) :
    ∃ rule, builtIn? id = some rule ∧ ReportsFirst rule.detect := by
  simp only [oncePerUnit, List.mem_cons, List.not_mem_nil, or_false] at h
  rcases h with rfl | rfl | rfl | rfl | rfl | rfl | rfl | rfl | rfl | rfl | rfl | rfl | rfl | rfl
  · exact ⟨_, rfl, reportsFirst_sqlInjection⟩
  · exact ⟨_, rfl, reportsFirst_unsafeFileOperations⟩
  · exact ⟨_, rfl, reportsFirst_concatInLoop⟩
  · exact ⟨_, rfl, reportsFirst_formatHelper⟩
  · exact ⟨_, rfl, reportsFirst_missingConfigureAwait⟩
  · exact ⟨_, rfl, reportsFirst_excessiveChaining⟩
  · exact ⟨_, rfl, reportsFirst_countComparedToZero⟩
  · exact ⟨_, rfl, reportsFirst_whereThenCount⟩
  · exact ⟨_, rfl, reportsFirst_whereThenAny⟩
  · exact ⟨_, rfl, reportsFirst_whereThenFirst⟩
  · exact ⟨_, rfl, reportsFirst_identitySelect⟩
  · exact ⟨_, rfl, reportsFirst_sortThenFirst⟩
  · exact ⟨_, rfl, reportsFirst_materializeThenFilter⟩
  · exact ⟨_, rfl, reportsFirst_longQueryExpression⟩

-- The two policies leave out two of the built-in rules.
example : (builtIn.rules.map (·.id)).Perm
    (everyOccurrence ++ oncePerUnit ++ ["hardcoded-secret", "materialize-before-count"]) := by
  decide

/-- **What the rules say of a unit, told from its parts.** For a root of a kind that no rule
seeks, and whatever its children are: the rules that report every node say of the whole what they
say of the parts, one after the other; those that report the first node say the first of that; the
rule on secrets says the first of what there is on declared secrets in the parts and all of what
there is on assigned ones; and lists that are built to be counted are reported of the whole if they
are reported of some part. -/
theorem detect_of_parts (hroot : ctx.unit.root.kind.isSought = false)
    (hparts : ctx.SplitsInto parts) :
    (∀ id ∈ everyOccurrence, ∃ rule, builtIn? id = some rule ∧
      rule.detect ctx = parts.flatMap rule.detect) ∧
    (∀ id ∈ oncePerUnit, ∃ rule, builtIn? id = some rule ∧
      rule.detect ctx = (parts.flatMap rule.detect).take 1) ∧
    (∃ rule, builtIn? "hardcoded-secret" = some rule ∧
      (∀ part, rule.detect part = Security.declaredSecrets part ++ Security.assignedSecrets part) ∧
      rule.detect ctx = (parts.flatMap Security.declaredSecrets).take 1 ++
        parts.flatMap Security.assignedSecrets) ∧
    (∃ rule, builtIn? "materialize-before-count" = some rule ∧
      ∀ part ∈ parts, rule.detect part ≠ [] → rule.detect ctx ≠ []) := by
  refine ⟨?_, ?_, ?_, ?_⟩
  · intro id hid
    obtain ⟨rule, hrule, hevery⟩ := exists_reportsEvery hid
    exact ⟨rule, hrule, hevery.split hroot hparts⟩
  · intro id hid
    obtain ⟨rule, hrule, hfirst⟩ := exists_reportsFirst hid
    exact ⟨rule, hrule, hfirst.split hroot hparts⟩
  · refine ⟨_, rfl, fun _ => rfl, ?_⟩
    show Security.declaredSecrets ctx ++ Security.assignedSecrets ctx = _
    rw [reportsFirst_declaredSecrets.split hroot hparts,
      reportsEvery_assignedSecrets.split hroot hparts]
  · exact ⟨_, rfl, fun part hpart => Performance.materializeBeforeCount_split hroot hparts hpart⟩

/-- Two statements, each a part: both weak generators are reported of the whole, but only the
first of the two bare awaits. -/
theorem detect_of_parts_twoAwaits :
    let whole := RuleContext.twoAwaits
    let parts := whole.unit.root.children.map fun n : Node =>
      (⟨⟨n, whole.unit.source, "part"⟩, []⟩ : RuleContext)
    (∃ rule, builtIn? "weak-random" = some rule ∧
      rule.detect whole = parts.flatMap rule.detect ∧ (rule.detect whole).length = 2) ∧
    (∃ rule, builtIn? "missing-configure-await" = some rule ∧
      rule.detect whole = (parts.flatMap rule.detect).take 1 ∧
      (parts.flatMap rule.detect).length = 2) := by
  intro whole parts
  have hroot : whole.unit.root.kind.isSought = false := rfl
  have hparts : whole.SplitsInto parts := by
    refine ⟨rfl, ?_⟩
    intro part hpart
    obtain ⟨n, -, rfl⟩ := List.mem_map.1 hpart
    rfl
  obtain ⟨hevery, hfirst, -, -⟩ := detect_of_parts hroot hparts
  constructor
  · obtain ⟨rule, hrule, hdetect⟩ := hevery "weak-random" (by decide)
    obtain rfl := Option.some.inj hrule
    exact ⟨_, rfl, hdetect, by decide +kernel⟩
  · obtain ⟨rule, hrule, hdetect⟩ := hfirst "missing-configure-await" (by decide)
    obtain rfl := Option.some.inj hrule
    exact ⟨_, rfl, hdetect, by decide +kernel⟩

end Registry

end UnitReview
