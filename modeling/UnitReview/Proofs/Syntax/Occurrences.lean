import UnitReview.Proofs.Syntax.Branching

/-!
# First matches in the generic tree

The rules look for the first node in pre-order that satisfies a condition. Such a find is an
occurrence, and nothing of its kind above it is a match (`Node.exists_first_ofKind`). Right behind a
node stands everything that is below it (`Node.below_follows`).
-/

set_option autoImplicit false

namespace UnitReview

namespace Node

/-! ## Nodes below a node -/

theorem mem_preorderAll {ns : List Node} {d : Node} :
    d ∈ preorderAll ns ↔ ∃ n ∈ ns, d ∈ n.preorder := by
  induction ns with
  | nil => simp
  | cons n ns ih =>
      simp only [preorderAll_cons, List.mem_append, ih, List.mem_cons, exists_eq_or_imp]

theorem mem_preorder_of_below {n d : Node} (h : d ∈ preorderAll n.children) : d ∈ n.preorder := by
  rw [preorder_eq]
  exact List.mem_cons_of_mem n h

theorem mem_preorder_of_mem_children {n c d : Node} (hc : c ∈ n.children) (hd : d ∈ c.preorder) :
    d ∈ n.preorder :=
  mem_preorder_of_below (mem_preorderAll.2 ⟨c, hc, hd⟩)

theorem mem_preorder_of_child {n c : Node} (hc : c ∈ n.children) : c ∈ n.preorder :=
  mem_preorder_of_mem_children hc c.mem_preorder_self

mutual

/-- **What is handed down from nodes to their children** holds below every node it holds of. -/
theorem forall_mem_preorder {P : Node → Prop} : ∀ {n : Node}, P n →
    (∀ m ∈ n.preorder, P m → ∀ c ∈ m.children, P c) → ∀ d ∈ n.preorder, P d
  | ⟨k, g, f, s, cs, l⟩, hn, hdown, d, hd => by
      rw [preorder_eq, List.mem_cons] at hd
      rcases hd with rfl | hd
      · exact hn
      · exact forall_mem_preorderAll (hdown _ (mem_preorder_self _) hn)
          (fun m hm => hdown m (mem_preorder_of_below hm)) d hd

theorem forall_mem_preorderAll {P : Node → Prop} : ∀ {ns : List Node}, (∀ n ∈ ns, P n) →
    (∀ m ∈ preorderAll ns, P m → ∀ c ∈ m.children, P c) → ∀ d ∈ preorderAll ns, P d
  | [], _, _, d, hd => by
      rw [preorderAll_nil] at hd
      cases hd
  | n :: ns, hns, hdown, d, hd => by
      rw [preorderAll_cons] at hd hdown
      rcases List.mem_append.1 hd with hd | hd
      · exact forall_mem_preorder (hns n List.mem_cons_self)
          (fun m hm => hdown m (List.mem_append_left _ hm)) d hd
      · exact forall_mem_preorderAll (fun m hm => hns m (List.mem_cons_of_mem n hm))
          (fun m hm => hdown m (List.mem_append_right _ hm)) d hd

end

theorem preorder_subset_of_mem {n m : Node} (h : m ∈ n.preorder) : m.preorder ⊆ n.preorder := by
  refine forall_mem_preorder (P := fun m => m.preorder ⊆ n.preorder) (List.Subset.refl _) ?_ m h
  intro m _ hm c hc d hd
  exact hm (mem_preorder_of_mem_children hc hd)

mutual

/-- **Right behind a node stands all that is below it.** -/
theorem below_follows : ∀ {n m : Node} {before after : List Node},
    n.preorder = before ++ m :: after → preorderAll m.children <+: after
  | ⟨k, g, f, s, cs, l⟩, m, before, after, h => by
      rw [preorder_eq] at h
      cases before with
      | nil =>
          obtain ⟨rfl, rfl⟩ := List.cons.inj h
          exact List.prefix_refl _
      | cons b before => exact below_follows_all (List.cons.inj h).2

theorem below_follows_all : ∀ {ns : List Node} {m : Node} {before after : List Node},
    preorderAll ns = before ++ m :: after → preorderAll m.children <+: after
  | [], m, before, after, h => by simp at h
  | n :: ns, m, before, after, h => by
      rw [preorderAll_cons, List.append_eq_append_iff] at h
      rcases h with ⟨skipped, -, h⟩ | ⟨rest, hn, h⟩
      · exact below_follows_all h
      · -- either `m` is the first node of the others, or it is in the first tree
        cases rest with
        | nil =>
            have hfirst : preorderAll ns = [] ++ m :: after := h.symm
            exact below_follows_all hfirst
        | cons r rest =>
            obtain ⟨rfl, rfl⟩ := List.cons.inj h
            exact (below_follows hn).trans (List.prefix_append _ _)

end

/-! ## First matches -/

/-- A search of the pre-order finds the node of the first occurrence. -/
theorem find?_preorder (p : Node → Bool) (n : Node) :
    n.preorder.find? p = (n.firstWhere? p).map Occurrence.node := Branching.find?_preorder p n

theorem mem_ofKind {k : Kind} {n m : Node} : m ∈ n.ofKind k ↔ m ∈ n.preorder ∧ m.kind = k := by
  rw [ofKind, List.mem_filter, beq_iff_eq]

/-- A search among the nodes of a kind finds the node of the first such occurrence. -/
theorem find?_ofKind (k : Kind) (p : Node → Bool) (n : Node) :
    (n.ofKind k).find? p = (n.firstWhere? fun m => m.kind == k && p m).map Occurrence.node := by
  rw [ofKind, List.find?_filter, ← find?_preorder]
  simp only [Bool.decide_and, Bool.decide_eq_true]

/-- **The first match of a kind**: a search finds it, and no node of that kind above it matches. -/
theorem exists_first_ofKind {k : Kind} {p : Node → Bool} {n m : Node} (hm : m ∈ n.ofKind k)
    (hp : p m = true) : ∃ o : Occurrence Node,
      (n.firstWhere? fun m => m.kind == k && p m) = some o ∧ (n.ofKind k).find? p = some o.node ∧
      o.node.kind = k ∧ p o.node = true ∧
      ∀ a ∈ o.above, a ∈ n.preorder ∧ o.node ∈ a.preorder ∧ (a.kind = k → p a = false) := by
  obtain ⟨htree, hkind⟩ := mem_ofKind.1 hm
  have hmatch : (m.kind == k && p m) = true := by
    rw [hkind, hp, beq_self_eq_true, Bool.and_true]
  obtain ⟨o, ho⟩ : ∃ o, (n.firstWhere? fun m => m.kind == k && p m) = some o :=
    Branching.exists_firstWhere? htree hmatch
  have hfirst := Branching.firstWhere?_holds ho
  rw [Bool.and_eq_true, beq_iff_eq] at hfirst
  refine ⟨o, ho, ?_, hfirst.1, hfirst.2, fun a ha => ?_⟩
  · rw [find?_ofKind, ho, Option.map_some]
  · obtain ⟨hatree, hbelow⟩ := Branching.mem_of_firstWhere? ho ha
    refine ⟨hatree, hbelow, fun hakind => ?_⟩
    have hearlier := Branching.above_of_firstWhere? ho ha
    rwa [hakind, beq_self_eq_true, Bool.true_and] at hearlier

end Node

end UnitReview
