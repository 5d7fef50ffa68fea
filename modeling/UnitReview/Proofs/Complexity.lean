import Mathlib.Algebra.Order.BigOperators.Group.Finset
import Mathlib.Algebra.Order.BigOperators.Group.List
import Mathlib.Algebra.Order.Ring.Nat
import Mathlib.Order.Antichain
import Mathlib.Order.Lattice.Nat
import UnitReview.Proofs.Syntax.Walk
import UnitReview.Rule.Style

/-!
# The complexity of parts and of the whole

The counters of decision points are filled one node after another, in the order of a walk with an
explicit stack. What they amount to is compositional: the decision points of a node are its own and
those of its children. So complexity can only grow from a node to the nodes above it, and parts that
do not overlap share out the decision points of the whole. The limit of a method is therefore safe in
a unit that keeps within it as a whole.
-/

set_option autoImplicit false

namespace UnitReview

/-! ## Counting -/

namespace ControlFlow

/-- One node moves one counter at most. -/
theorem complexity_count (f : ControlFlow) (k : Kind) :
    (f.count k).complexity = f.complexity + k.isDecision.toNat := by
  unfold count Kind.isDecision
  split <;> simp_all [complexity] <;> omega

theorem complexity_foldl (ns : List Node) (f : ControlFlow) :
    (ns.foldl (fun f m => f.count m.kind) f).complexity =
      f.complexity + ns.countP (·.kind.isDecision) := by
  induction ns generalizing f with
  | nil => rfl
  | cons n ns ih =>
      rw [List.foldl_cons, ih, complexity_count, List.countP_cons]
      cases n.kind.isDecision with
      | false => simp
      | true =>
          simp only [Bool.toNat_true, if_true]
          omega

end ControlFlow

namespace Node

/-- The number of decision points among a node and the nodes below it. -/
def decisions (n : Node) : Nat := n.preorder.countP (·.kind.isDecision)

theorem complexity_eq (n : Node) : n.complexity = 1 + n.decisions := by
  rw [complexity, ControlFlow.collect, ControlFlow.complexity_foldl, descendants_eq_preorder]
  rfl

theorem complexity_sub_one (n : Node) : n.complexity - 1 = n.decisions := by
  rw [complexity_eq, Nat.add_sub_cancel_left]

theorem countP_preorderAll (ns : List Node) :
    (preorderAll ns).countP (·.kind.isDecision) = (ns.map decisions).sum := by
  induction ns with
  | nil => simp
  | cons n ns ih =>
      rw [preorderAll_cons, List.countP_append, ih, List.map_cons, List.sum_cons, decisions]

/-- **Decision points add up.** -/
theorem decisions_eq (n : Node) :
    n.decisions = n.kind.isDecision.toNat + (n.children.map decisions).sum := by
  rw [decisions, preorder_eq, List.countP_cons, countP_preorderAll]
  cases n.kind.isDecision <;> simp [Nat.add_comm]

/-! ## Places in a tree -/

theorem exists_at?_of_mem_preorder {n d : Node} (h : d ∈ n.preorder) : ∃ p, n.at? p = some d := by
  have hd : some d ∈ n.places.map n.at? := by
    rw [map_at?_places]
    exact List.mem_map_of_mem h
  obtain ⟨p, -, hp⟩ := List.mem_map.1 hd
  exact ⟨p, hp⟩

theorem decisions_le_of_mem_children {n c : Node} (h : c ∈ n.children) :
    c.decisions ≤ n.decisions := by
  have hsum : c.decisions ≤ (n.children.map decisions).sum :=
    List.single_le_sum (by simp) _ (List.mem_map_of_mem h)
  have hall := n.decisions_eq
  omega

theorem decisions_le_of_at? {n d : Node} {p : List Nat} (h : n.at? p = some d) :
    d.decisions ≤ n.decisions := by
  induction p generalizing n with
  | nil =>
      obtain rfl := Option.some.inj h
      exact le_rfl
  | cons i p ih =>
      obtain ⟨c, hc, hd⟩ := Option.bind_eq_some_iff.1 h
      exact (ih hd).trans (decisions_le_of_mem_children (List.mem_of_getElem? hc))

/-- The decision points at a place. -/
def decisionsAt (n : Node) (p : List Nat) : Nat := (n.at? p).elim 0 decisions

/-- The decision points of the children, counted by position. -/
theorem sum_range_decisions_le (ns : List Node) (m : Nat) :
    ∑ i ∈ Finset.range m, (ns[i]?).elim 0 decisions ≤ (ns.map decisions).sum := by
  induction ns generalizing m with
  | nil => simp
  | cons n ns ih =>
      cases m with
      | zero => simp
      | succ m =>
          rw [Finset.sum_range_succ', List.map_cons, List.sum_cons, Nat.add_comm n.decisions]
          exact Nat.add_le_add_right (ih m) n.decisions

/-- A set of places none of which is below another, and which has the top, has nothing else. -/
theorem eq_singleton_of_nil_mem {s : Finset (List Nat)}
    (hs : IsAntichain (· <+: ·) (s : Set (List Nat))) (h : [] ∈ s) : s = {[]} := by
  refine Finset.eq_singleton_iff_unique_mem.2 ⟨h, fun p hp => ?_⟩
  exact (hs.eq h hp (List.nil_prefix)).symm

/-- The places of a set that lead to the `i`-th child, as places in the child. -/
def placesIn (s : Finset (List Nat)) (i : Nat) : Finset (List Nat) :=
  (s.filter fun p => p.headD 0 = i).image List.tail

section Places

variable {s : Finset (List Nat)} (hroot : [] ∉ s)
include hroot

theorem exists_eq_cons {p : List Nat} (hp : p ∈ s) : ∃ i q, p = i :: q :=
  List.exists_cons_of_ne_nil fun h => hroot (h ▸ hp)

theorem mem_placesIn {i : Nat} {q : List Nat} : q ∈ placesIn s i ↔ i :: q ∈ s := by
  simp only [placesIn, Finset.mem_image, Finset.mem_filter]
  constructor
  · rintro ⟨p, ⟨hp, hi⟩, hq⟩
    obtain ⟨j, r, rfl⟩ := exists_eq_cons hroot hp
    obtain rfl : j = i := hi
    obtain rfl : r = q := hq
    exact hp
  · exact fun h => ⟨i :: q, ⟨h, rfl⟩, rfl⟩

theorem placesIn_antichain (hs : IsAntichain (· <+: ·) (s : Set (List Nat))) (i : Nat) :
    IsAntichain (· <+: ·) (placesIn s i : Set (List Nat)) := by
  intro q hq r hr hne hprefix
  have hq' : i :: q ∈ s := (mem_placesIn hroot).1 hq
  have hr' : i :: r ∈ s := (mem_placesIn hroot).1 hr
  exact hne (List.cons.inj (hs.eq hq' hr' ((List.prefix_cons_inj i).2 hprefix))).2

/-- The places in the children, child by child. -/
theorem sum_eq_sum_placesIn (f : List Nat → Nat) :
    ∑ p ∈ s, f p = ∑ i ∈ Finset.range (s.sup (·.headD 0) + 1), ∑ q ∈ placesIn s i, f (i :: q) := by
  have hmaps : ∀ p ∈ s, p.headD 0 ∈ Finset.range (s.sup (·.headD 0) + 1) := by
    intro p hp
    exact Finset.mem_range.2 (Nat.lt_succ_of_le (Finset.le_sup (f := fun p => p.headD 0) hp))
  rw [← Finset.sum_fiberwise_of_maps_to hmaps]
  refine Finset.sum_congr rfl fun i _ => ?_
  have htail : ∀ p ∈ s.filter fun p => p.headD 0 = i, i :: p.tail = p := by
    intro p hp
    obtain ⟨hp, hi⟩ := Finset.mem_filter.1 hp
    obtain ⟨j, q, rfl⟩ := exists_eq_cons hroot hp
    exact congrArg (· :: q) hi.symm
  rw [placesIn, Finset.sum_image fun p hp q hq h => by rw [← htail p hp, ← htail q hq, h]]
  exact Finset.sum_congr rfl fun p hp => by rw [htail p hp]

end Places

theorem decisionsAt_cons (n : Node) (i : Nat) (q : List Nat) :
    n.decisionsAt (i :: q) = n.children[i]?.elim 0 (·.decisionsAt q) := by
  rw [decisionsAt, at?]
  cases n.children[i]? <;> rfl

theorem sum_decisionsAt_le_of_length_le {k : Nat} {n : Node} {s : Finset (List Nat)}
    (hs : IsAntichain (· <+: ·) (s : Set (List Nat))) (hk : ∀ p ∈ s, p.length ≤ k) :
    ∑ p ∈ s, n.decisionsAt p ≤ n.decisions := by
  -- on the length of the places: one step down leads into the children
  induction k generalizing n s with
  | zero =>
      have hsub : s ⊆ {[]} := fun p hp => by
        rw [Finset.mem_singleton]
        exact List.eq_nil_of_length_eq_zero (Nat.le_zero.1 (hk p hp))
      refine (Finset.sum_le_sum_of_subset hsub).trans ?_
      rw [Finset.sum_singleton]
      exact le_rfl
  | succ k ih =>
      by_cases hroot : [] ∈ s
      · rw [eq_singleton_of_nil_mem hs hroot, Finset.sum_singleton]
        exact le_rfl
      · have hchild : ∀ i, ∑ q ∈ placesIn s i, n.decisionsAt (i :: q) ≤
            n.children[i]?.elim 0 decisions := by
          intro i
          simp only [decisionsAt_cons]
          cases n.children[i]? with
          | none => simp
          | some c =>
              refine ih (placesIn_antichain hroot hs i) fun q hq => ?_
              exact Nat.le_of_succ_le_succ (hk (i :: q) ((mem_placesIn hroot).1 hq))
        calc ∑ p ∈ s, n.decisionsAt p
            = ∑ i ∈ Finset.range (s.sup (·.headD 0) + 1),
                ∑ q ∈ placesIn s i, n.decisionsAt (i :: q) := sum_eq_sum_placesIn hroot _
          _ ≤ ∑ i ∈ Finset.range (s.sup (·.headD 0) + 1), n.children[i]?.elim 0 decisions :=
                Finset.sum_le_sum fun i _ => hchild i
          _ ≤ (n.children.map decisions).sum := sum_range_decisions_le _ _
          _ ≤ n.decisions := by rw [n.decisions_eq]; exact Nat.le_add_left _ _

/-- **Parts that do not overlap share out the decision points of the whole.** -/
theorem sum_decisionsAt_le (n : Node) {s : Finset (List Nat)}
    (hs : IsAntichain (· <+: ·) (s : Set (List Nat))) :
    ∑ p ∈ s, n.decisionsAt p ≤ n.decisions :=
  sum_decisionsAt_le_of_length_le hs fun _ hp => Finset.le_sup (f := List.length) hp

end Node

/-! ## Units and methods -/

/-- The kinds of nodes that are decision points. -/
def Kind.decisionKinds : List Kind :=
  [.ifStatement, .whileStatement, .forStatement, .forEachStatement, .caseSwitchLabel, .catchClause,
    .conditionalExpression, .logicalAndExpression, .logicalOrExpression]

theorem Kind.toNat_isDecision (k : Kind) :
    k.isDecision.toNat = if k ∈ Kind.decisionKinds then 1 else 0 := by
  cases k <;> rfl

theorem Node.complexity_le_of_mem {n d : Node} (h : d ∈ n.preorder) :
    d.complexity ≤ n.complexity := by
  obtain ⟨p, hp⟩ := exists_at?_of_mem_preorder h
  rw [complexity_eq, complexity_eq]
  exact Nat.add_le_add_left (decisions_le_of_at? hp) 1

theorem complexity_le_compute {ctx : RuleContext} {m : Node} {k : Kind}
    (h : m ∈ ctx.nodesOfKind k) : m.complexity ≤ (Metrics.compute ctx.unit).complexity :=
  Node.complexity_le_of_mem (List.mem_of_mem_filter h)

/-- **Complexity is compositional, and the values of units and methods are coherent.** The complexity
of a node is 1, and 1 more for a decision point, and what its children have beyond 1. So no node below
it is more complex. In a unit, what nodes at places none of which is below another have beyond 1, its
methods for example, comes to at most what the unit has beyond 1. No method is reported with a value
above that of its unit, and none at all if the unit keeps within the limit. -/
theorem complexity_compositional :
    (∀ n : Node, n.complexity = 1 + (if n.kind ∈ Kind.decisionKinds then 1 else 0) +
      (n.children.map fun c => c.complexity - 1).sum) ∧
    (∀ n d : Node, d ∈ n.descendants → d.complexity ≤ n.complexity) ∧
    (∀ (u : SourceUnit) (s : Finset (List Nat)), IsAntichain (· <+: ·) (s : Set (List Nat)) →
      ∑ p ∈ s, (u.root.at? p).elim 0 (fun m => m.complexity - 1) ≤
        (Metrics.compute u).complexity - 1) ∧
    (∀ (ctx : RuleContext) (reported : String), reported ∈ Style.highComplexity ctx →
      ∃ m ∈ ctx.nodesOfKind .methodDeclaration,
        reported = "Method '" ++ Style.declaredName ctx m ++ "' has high cyclomatic complexity ("
          ++ toString m.complexity ++ "). Consider simplifying it." ∧
        m.complexity ≤ (Metrics.compute ctx.unit).complexity) ∧
    ∀ ctx : RuleContext, (Metrics.compute ctx.unit).complexity ≤ 10 →
      Style.highComplexity ctx = [] := by
  refine ⟨fun n => ?_, fun n d hd => ?_, fun u s hs => ?_, fun ctx reported h => ?_,
    fun ctx hctx => ?_⟩
  · simp only [Node.complexity_sub_one]
    rw [n.complexity_eq, n.decisions_eq, Kind.toNat_isDecision, Nat.add_assoc]
  · rw [Node.descendants_eq_preorder] at hd
    exact Node.complexity_le_of_mem hd
  · have hunit : (Metrics.compute u).complexity - 1 = u.root.decisions := u.root.complexity_sub_one
    simp only [hunit, Node.complexity_sub_one]
    exact u.root.sum_decisionsAt_le hs
  · obtain ⟨m, hm, hreported⟩ := List.mem_filterMap.1 h
    refine ⟨m, hm, ?_, complexity_le_compute hm⟩
    unfold Style.highComplexity? at hreported
    split at hreported
    · exact (Option.some.inj hreported).symm
    · cases hreported
  · refine List.filterMap_eq_nil_iff.2 fun m hm => ?_
    have hm : ¬ Style.maxMethodComplexity < m.complexity :=
      Nat.not_lt.2 ((complexity_le_compute hm).trans hctx)
    exact if_neg hm

/-- A unit with two methods of `k` branches each, side by side. -/
def branchingUnit (k : Nat) : SourceUnit :=
  let branch : Node := ⟨.ifStatement, "if_statement", none, default, [], []⟩
  let method : Node :=
    ⟨.methodDeclaration, "method_declaration", none, default, List.replicate k branch, []⟩
  ⟨⟨.compilationUnit, "compilation_unit", none, default, [method, method], []⟩, [], "branches.cs"⟩

theorem complexity_compositional_branches :
    (∑ p ∈ {[0], [1]}, ((branchingUnit 3).root.at? p).elim 0 (fun m => m.complexity - 1) ≤
        (Metrics.compute (branchingUnit 3)).complexity - 1) ∧
      (∀ d ∈ (branchingUnit 3).root.children, d.complexity ≤ (branchingUnit 3).root.complexity) ∧
      (∃ m ∈ RuleContext.nodesOfKind ⟨branchingUnit 10, []⟩ .methodDeclaration,
        m.complexity ≤ (Metrics.compute (branchingUnit 10)).complexity) ∧
      Style.highComplexity ⟨branchingUnit 3, []⟩ = [] := by
  obtain ⟨-, hbelow, hparts, hreported, hlimit⟩ := complexity_compositional
  refine ⟨hparts _ _ ?_, fun d hd => hbelow _ d ?_, ?_, hlimit _ (by decide)⟩
  · intro p hp q hq hne
    simp only [Finset.coe_insert, Finset.coe_singleton, Set.mem_insert_iff,
      Set.mem_singleton_iff] at hp hq
    rcases hp with rfl | rfl <;> rcases hq with rfl | rfl <;> simp_all
  · rw [Node.descendants_eq_preorder, Node.preorder_eq]
    simp only [branchingUnit, List.mem_cons, List.not_mem_nil, or_false, or_self] at hd
    simp [branchingUnit, hd]
  · have hmem : "Method '<anonymous>' has high cyclomatic complexity (11). Consider simplifying it."
        ∈ Style.highComplexity ⟨branchingUnit 10, []⟩ := by decide
    obtain ⟨m, hm, -, hle⟩ := hreported _ _ hmem
    exact ⟨m, hm, hle⟩

end UnitReview
