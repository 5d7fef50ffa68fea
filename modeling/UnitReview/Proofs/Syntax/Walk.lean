import UnitReview.Syntax.Node

/-!
# The walk with a stack

A walk gives out the nodes of a tree one after another and keeps the nodes that wait on a stack.
What a walk has still to give out (`Walk.remaining`) is read off its stack: the pre-orders of the
nodes on it, from the top to the bottom. A step gives out the first of these nodes and leaves the
others (`Walk.remaining_of_next?`), so that a walk ends after as many steps as there are nodes.

Equal nodes may stand at several places of a tree. A place is given by the positions of children on
the way down; the places of a tree in lexicographic order are those of its nodes in pre-order, so
that the walk comes to each place once.
-/

set_option autoImplicit false

namespace UnitReview

/-! ## Steps and runs -/

namespace Walk

/-- The nodes that a walk has still to give out. -/
def remaining (w : Walk) : List Node := Node.preorderAll w.stack.toList.reverse

/-- **A step** gives out the first of the nodes to come and leaves the others. -/
theorem remaining_of_next? {w rest : Walk} {n : Node} (h : w.next? = some (n, rest)) :
    w.remaining = n :: rest.remaining := by
  obtain ⟨m, hlast, hstep⟩ := Option.map_eq_some_iff.1 h
  obtain ⟨rfl, rfl⟩ := Prod.mk.inj hstep
  have htop : w.stack.toList.reverse.head? = some m := by
    rw [List.head?_reverse, Array.getLast?_toList, hlast]
  obtain ⟨below, hstack⟩ := List.head?_eq_some_iff.1 htop
  have hrest : (w.stack.pop ++ m.children.reverse).toList.reverse = m.children ++ below := by
    rw [Array.toList_appendList, Array.toList_pop, List.reverse_append, List.reverse_reverse,
      ← List.tail_reverse, hstack, List.tail_cons]
  rw [remaining, remaining, hstack, hrest, Node.preorderAll_cons, Node.preorderAll_append,
    Node.preorder_eq, List.cons_append]

/-- A walk ends when no node is left. -/
theorem remaining_of_next?_eq_none {w : Walk} (h : w.next? = none) : w.remaining = [] := by
  have hstack : w.stack = #[] := Array.back?_eq_none_iff.1 (Option.map_eq_none_iff.1 h)
  rw [remaining, hstack]
  exact Node.preorderAll_nil

/-- `w.Drains ns`: asked again and again, the walk gives out `ns` and has then ended. -/
inductive Drains : Walk → List Node → Prop
  | ended {w : Walk} : w.next? = none → Drains w []
  | given {w rest : Walk} {n : Node} {ns : List Node} :
      w.next? = some (n, rest) → Drains rest ns → Drains w (n :: ns)

theorem drains_remaining (w : Walk) : w.Drains w.remaining := by
  -- on the nodes to come: the stack itself may grow from step to step
  generalize hns : w.remaining = ns
  induction ns generalizing w with
  | nil =>
      cases hnext : w.next? with
      | none => exact .ended hnext
      | some step =>
          rw [remaining_of_next? hnext] at hns
          cases hns
  | cons n ns ih =>
      cases hnext : w.next? with
      | none =>
          rw [remaining_of_next?_eq_none hnext] at hns
          cases hns
      | some step =>
          rw [remaining_of_next? hnext] at hns
          obtain ⟨rfl, hrest⟩ := List.cons.inj hns
          exact .given hnext (ih step.2 hrest)

theorem Drains.eq_remaining {w : Walk} {ns : List Node} (h : w.Drains ns) : ns = w.remaining := by
  induction h with
  | ended hnext => exact (remaining_of_next?_eq_none hnext).symm
  | given hnext _ ih => rw [remaining_of_next? hnext, ih]

/-- **A run** gives out the nodes to come, and only one sequence of nodes is given out. -/
theorem drains_iff {w : Walk} {ns : List Node} : w.Drains ns ↔ ns = w.remaining :=
  ⟨Drains.eq_remaining, fun h => h ▸ w.drains_remaining⟩

theorem take_eq (limit : Nat) (w : Walk) : w.take limit = w.remaining.take limit := by
  induction limit generalizing w with
  | zero => rw [take, List.take_zero]
  | succ limit ih =>
      rw [take]
      cases hnext : w.next? with
      | none => rw [remaining_of_next?_eq_none hnext, List.take_nil]
      | some step =>
          show step.1 :: step.2.take limit = _
          rw [remaining_of_next? hnext, List.take_succ_cons, ih step.2]

end Walk

/-! ## The walk over a tree -/

namespace Node

@[simp] theorem size_eq (n : Node) : n.size = sizeAll n.children + 1 := by
  cases n; simp [size]

@[simp] theorem sizeAll_nil : sizeAll [] = 0 := by simp [sizeAll]

@[simp] theorem sizeAll_cons (n : Node) (ns : List Node) :
    sizeAll (n :: ns) = n.size + sizeAll ns := by simp [sizeAll]

mutual

theorem length_preorder : ∀ n : Node, n.preorder.length = n.size
  | ⟨k, g, f, s, cs, l⟩ => by rw [preorder_eq, List.length_cons, size_eq, length_preorderAll cs]

theorem length_preorderAll : ∀ ns : List Node, (preorderAll ns).length = sizeAll ns
  | [] => by rw [preorderAll_nil, sizeAll_nil, List.length_nil]
  | n :: ns => by
      rw [preorderAll_cons, List.length_append, sizeAll_cons, length_preorder n,
        length_preorderAll ns]

end

theorem remaining_walk (n : Node) : n.walk.remaining = n.preorder := by
  show preorderAll [n] = n.preorder
  rw [preorderAll_cons, preorderAll_nil, List.append_nil]

/-- **The walk is the pre-order.** -/
theorem descendants_eq_preorder (n : Node) : n.descendants = n.preorder := by
  rw [descendants, Walk.take_eq, remaining_walk, ← length_preorder, List.take_length]

/-! ## Places in a tree -/

/-- The node at a place, given by the positions of children on the way down. -/
def at? : Node → List Nat → Option Node
  | n, [] => some n
  | n, i :: p => n.children[i]?.bind fun c => c.at? p

end Node

mutual

/-- The places of a tree, in pre-order. -/
def Node.places : Node → List (List Nat)
  | ⟨_, _, _, _, cs, _⟩ => [] :: Node.placesFrom 0 cs

/-- The places in the children of a node, the first of the given ones being its `i`-th child. -/
def Node.placesFrom (i : Nat) : List Node → List (List Nat)
  | [] => []
  | n :: ns => n.places.map (i :: ·) ++ Node.placesFrom (i + 1) ns

end

namespace Node

theorem places_eq (n : Node) : n.places = [] :: placesFrom 0 n.children := by
  cases n; rw [places]

mutual

/-- **The nodes at the places of a tree are its nodes in pre-order.** -/
theorem map_at?_places : ∀ n : Node, n.places.map n.at? = n.preorder.map some
  | ⟨k, g, f, s, cs, l⟩ => by
      rw [places_eq, preorder_eq, List.map_cons, List.map_cons, map_at?_placesFrom cs rfl]
      rfl

theorem map_at?_placesFrom : ∀ {parent : Node} {i : Nat} (ns : List Node),
    parent.children.drop i = ns → (placesFrom i ns).map parent.at? = (preorderAll ns).map some
  | parent, i, [], _ => by rw [placesFrom, preorderAll_nil, List.map_nil, List.map_nil]
  | parent, i, n :: ns, h => by
      have hchild : parent.children[i]? = some n := by rw [← List.head?_drop, h, List.head?_cons]
      have hothers : parent.children.drop (i + 1) = ns := by
        rw [← List.tail_drop, h, List.tail_cons]
      have hbelow : (parent.at? ∘ (i :: ·)) = n.at? := by
        funext p
        rw [Function.comp_apply, at?, hchild, Option.bind_some]
      rw [placesFrom, preorderAll_cons, List.map_append, List.map_append, List.map_map, hbelow,
        map_at?_places n, map_at?_placesFrom ns hothers]

end

theorem mem_placesFrom {i : Nat} {ns : List Node} {p : List Nat} :
    p ∈ placesFrom i ns ↔ ∃ j c q, ns[j]? = some c ∧ q ∈ c.places ∧ p = (i + j) :: q := by
  induction ns generalizing i with
  | nil =>
      rw [placesFrom]
      simp
  | cons n ns ih =>
      rw [placesFrom, List.mem_append, List.mem_map, ih]
      constructor
      · rintro (⟨q, hq, rfl⟩ | ⟨j, c, q, hc, hq, rfl⟩)
        · exact ⟨0, n, q, rfl, hq, rfl⟩
        · exact ⟨j + 1, c, q, hc, hq, by rw [Nat.add_assoc, Nat.add_comm 1 j]⟩
      · rintro ⟨j, c, q, hc, hq, rfl⟩
        cases j with
        | zero =>
            obtain rfl := Option.some.inj hc
            exact Or.inl ⟨q, hq, rfl⟩
        | succ j => exact Or.inr ⟨j, c, q, hc, hq, by rw [Nat.add_assoc, Nat.add_comm 1 j]⟩

/-- The places of a tree are all the places at which it has a node. -/
theorem mem_places {n : Node} {p : List Nat} : p ∈ n.places ↔ (n.at? p).isSome := by
  induction p generalizing n with
  | nil =>
      rw [places_eq]
      exact ⟨fun _ => rfl, fun _ => List.mem_cons_self⟩
  | cons i p ih =>
      rw [places_eq, List.mem_cons, mem_placesFrom, at?]
      constructor
      · rintro (h | ⟨j, c, q, hc, hq, h⟩)
        · cases h
        · obtain ⟨rfl, rfl⟩ := List.cons.inj h
          rw [Nat.zero_add, hc]
          exact ih.1 hq
      · intro h
        obtain ⟨d, hd⟩ := Option.isSome_iff_exists.1 h
        obtain ⟨c, hc, hd⟩ := Option.bind_eq_some_iff.1 hd
        have hp : p ∈ c.places := ih.2 (Option.isSome_iff_exists.2 ⟨d, hd⟩)
        exact Or.inr ⟨i, c, p, hc, hp, by rw [Nat.zero_add]⟩

mutual

/-- **Pre-order is the lexicographic order of places.** -/
theorem pairwise_places : ∀ n : Node, n.places.Pairwise (· < ·)
  | ⟨k, g, f, s, cs, l⟩ => by
      rw [places_eq, List.pairwise_cons]
      refine ⟨fun p hp => ?_, pairwise_placesFrom 0 cs⟩
      obtain ⟨j, c, q, -, -, rfl⟩ := mem_placesFrom.1 hp
      exact List.nil_lt_cons _ _

theorem pairwise_placesFrom : ∀ (i : Nat) (ns : List Node), (placesFrom i ns).Pairwise (· < ·)
  | i, [] => by
      rw [placesFrom]
      exact List.Pairwise.nil
  | i, n :: ns => by
      rw [placesFrom, List.pairwise_append, List.pairwise_map]
      refine ⟨(pairwise_places n).imp fun h => List.cons_lt_cons_iff.2 (Or.inr ⟨rfl, h⟩),
        pairwise_placesFrom (i + 1) ns, fun p hp p' hp' => ?_⟩
      -- a place in an earlier child differs from one in a later child at the first step
      obtain ⟨q, -, rfl⟩ := List.mem_map.1 hp
      obtain ⟨j, c, q', -, -, rfl⟩ := mem_placesFrom.1 hp'
      exact List.cons_lt_cons_iff.2 (Or.inl (by omega))

end

/-- **The walk with a stack is the recursive pre-order.** From any stack, a walk gives out the
pre-orders of the nodes on it, from the top to the bottom, then ends, and gives out nothing else.
Over a tree it gives out the node and then the pre-orders of its children, one after the other; these
are as many nodes as the tree has, and the rules see them filtered by kind. The nodes come in the
lexicographic order of their places, each place of the tree once. -/
theorem drains_preorder :
    (∀ (w : Walk) (ns : List Node),
      w.Drains ns ↔ ns = w.stack.toList.reverse.flatMap preorder) ∧
    ∀ n : Node,
      n.walk.Drains n.descendants ∧
      n.descendants = n :: n.children.flatMap preorder ∧
      n.descendants.length = n.size ∧
      (∀ k : Kind, n.ofKind k = n.descendants.filter fun m => m.kind == k) ∧
      n.places.Pairwise (· < ·) ∧
      (∀ p : List Nat, p ∈ n.places ↔ (n.at? p).isSome) ∧
      n.places.map n.at? = n.descendants.map some := by
  refine ⟨fun w ns => ?_, fun n => ?_⟩
  · rw [Walk.drains_iff, Walk.remaining, preorderAll_eq_flatMap]
  · rw [descendants_eq_preorder]
    refine ⟨?_, ?_, n.length_preorder, fun k => rfl, n.pairwise_places, fun p => mem_places,
      n.map_at?_places⟩
    · rw [Walk.drains_iff, remaining_walk]
    · rw [preorder_eq, preorderAll_eq_flatMap]

end Node

end UnitReview
