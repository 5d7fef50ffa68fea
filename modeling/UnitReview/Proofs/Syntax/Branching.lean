import UnitReview.Csharp.Tree
import UnitReview.Syntax.Node

/-!
# Occurrences in trees

Equal nodes may stand at several places of a tree, and what becomes of a node may depend on what is
above it and on the siblings before it. An *occurrence* is a node together with these; the
occurrences of a tree are listed in pre-order. They are the same for the concrete trees of the
grammar and for the generic tree, and for whatever else has children and a finite pre-order
(`Branching`).

A node comes before the nodes below it. So nothing above the first node that satisfies a condition
satisfies it too: the first match is an outermost one (`Branching.above_of_firstWhere?`).
-/

set_option autoImplicit false

namespace UnitReview

/-- **Trees**: what has children of its own kind, and a pre-order of all that is below it. As the
pre-order is finite, going down from children to children comes to an end. -/
class Branching (τ : Type) where
  children : τ → List τ
  preorder : τ → List τ
  preorder_eq : ∀ t, preorder t = t :: (children t).flatMap preorder

/-- A node of a tree in its surroundings. -/
structure Occurrence (τ : Type) where
  /-- The nodes above it, the nearest first. -/
  above : List τ
  /-- The siblings before it, in source order. -/
  before : List τ
  node : τ

namespace Branching

variable {τ : Type} [Branching τ]

/-! ## Several trees -/

theorem length_children_lt (t : τ) (ts : List τ) :
    ((children t).flatMap preorder).length < ((t :: ts).flatMap preorder).length := by
  rw [List.flatMap_cons, preorder_eq t, List.length_append, List.length_cons]
  omega

theorem length_rest_lt (t : τ) (ts : List τ) :
    (ts.flatMap preorder).length < ((t :: ts).flatMap preorder).length := by
  rw [List.flatMap_cons, preorder_eq t, List.length_append, List.length_cons]
  omega

/-- Induction over several trees: down to the children of the first one, and on to the others. -/
theorem forest_induction {P : List τ → Prop} (nil : P [])
    (cons : ∀ t ts, P (children t) → P ts → P (t :: ts)) : ∀ ts, P ts
  | [] => nil
  | t :: ts => cons t ts (forest_induction nil cons (children t)) (forest_induction nil cons ts)
termination_by ts => (ts.flatMap preorder).length
decreasing_by
  · exact length_children_lt t ts
  · exact length_rest_lt t ts

/-! ## Occurrences -/

/-- The occurrences in several trees that stand below `above` and after `before`, one tree after the
other. -/
def occurrencesAll (above before : List τ) : List τ → List (Occurrence τ)
  | [] => []
  | t :: ts =>
      ⟨above, before, t⟩ ::
        (occurrencesAll (t :: above) [] (children t) ++ occurrencesAll above (before ++ [t]) ts)
termination_by ts => (ts.flatMap preorder).length
decreasing_by
  · exact length_children_lt t ts
  · exact length_rest_lt t ts

/-- The occurrences in one tree. -/
def occurrencesFrom (above before : List τ) (t : τ) : List (Occurrence τ) :=
  ⟨above, before, t⟩ :: occurrencesAll (t :: above) [] (children t)

/-- The nodes of a tree in pre-order, each in its surroundings. -/
def occurrences (t : τ) : List (Occurrence τ) := occurrencesAll [] [] [t]

theorem occurrencesAll_nil (above before : List τ) : occurrencesAll above before [] = [] := by
  rw [occurrencesAll]

theorem occurrencesAll_cons (above before : List τ) (t : τ) (ts : List τ) :
    occurrencesAll above before (t :: ts) =
      occurrencesFrom above before t ++ occurrencesAll above (before ++ [t]) ts := by
  rw [occurrencesAll]
  rfl

theorem occurrences_eq (t : τ) : occurrences t = occurrencesFrom [] [] t := by
  rw [occurrences, occurrencesAll_cons, occurrencesAll_nil, List.append_nil]

theorem map_node_occurrencesAll (ts above before : List τ) :
    (occurrencesAll above before ts).map Occurrence.node = ts.flatMap preorder := by
  induction ts using forest_induction generalizing above before with
  | nil => rw [occurrencesAll_nil, List.map_nil, List.flatMap_nil]
  | cons t ts below rest =>
      rw [occurrencesAll_cons, occurrencesFrom, List.map_append, List.map_cons, below, rest,
        List.flatMap_cons, preorder_eq t]

/-- **Every node occurs once**, in pre-order. -/
theorem map_node_occurrences (t : τ) : (occurrences t).map Occurrence.node = preorder t := by
  rw [occurrences, map_node_occurrencesAll, List.flatMap_singleton]

theorem node_mem_of_mem_occurrencesAll {ts above before : List τ} {o : Occurrence τ}
    (h : o ∈ occurrencesAll above before ts) : o.node ∈ ts.flatMap preorder := by
  rw [← map_node_occurrencesAll ts above before]
  exact List.mem_map_of_mem h

/-! ## What is above a node -/

/-- What is above trees is above all their nodes. -/
theorem above_suffix {ts above before : List τ} {o : Occurrence τ}
    (h : o ∈ occurrencesAll above before ts) : above <:+ o.above := by
  induction ts using forest_induction generalizing above before with
  | nil =>
      rw [occurrencesAll_nil] at h
      cases h
  | cons t ts below rest =>
      rw [occurrencesAll_cons, occurrencesFrom, List.mem_append, List.mem_cons] at h
      rcases h with (rfl | h) | h
      · exact List.suffix_refl above
      · exact (List.suffix_cons t above).trans (below h)
      · exact rest h

/-- What is above a node has it below. -/
theorem mem_above {ts above before : List τ} {o : Occurrence τ}
    (h : o ∈ occurrencesAll above before ts) {a : τ} (ha : a ∈ o.above) :
    a ∈ above ∨ a ∈ ts.flatMap preorder ∧ o.node ∈ (children a).flatMap preorder := by
  induction ts using forest_induction generalizing above before with
  | nil =>
      rw [occurrencesAll_nil] at h
      cases h
  | cons t ts below rest =>
      rw [occurrencesAll_cons, occurrencesFrom, List.mem_append, List.mem_cons] at h
      rw [List.flatMap_cons, preorder_eq t]
      rcases h with (rfl | h) | h
      · exact .inl ha
      · rcases below h with hmem | ⟨hmem, hbelow⟩
        · -- the root is new above its children: it is in the forest, and they are below it
          rcases List.mem_cons.1 hmem with rfl | hmem
          · exact .inr ⟨by simp, node_mem_of_mem_occurrencesAll h⟩
          · exact .inl hmem
        · exact .inr ⟨by simp [hmem], hbelow⟩
      · exact (rest h).imp_right fun hmem => ⟨List.mem_append_right _ hmem.1, hmem.2⟩

theorem mem_above_of_mem_occurrences {t : τ} {o : Occurrence τ} (h : o ∈ occurrences t) {a : τ}
    (ha : a ∈ o.above) : a ∈ preorder t ∧ o.node ∈ (children a).flatMap preorder := by
  have hmem := (mem_above h ha).resolve_left List.not_mem_nil
  rwa [List.flatMap_singleton] at hmem

/-- Only the root has nothing above it. -/
theorem node_eq_of_above_eq_nil {t : τ} {o : Occurrence τ} (h : o ∈ occurrences t)
    (habove : o.above = []) : o.node = t := by
  rw [occurrences_eq, occurrencesFrom, List.mem_cons] at h
  rcases h with rfl | h
  · rfl
  · have hsuffix := above_suffix h
    rw [habove, List.suffix_nil] at hsuffix
    cases hsuffix

/-! ## First matches -/

/-- The first occurrence, in pre-order, of a node that satisfies a condition. -/
def firstWhere? (p : τ → Bool) (t : τ) : Option (Occurrence τ) :=
  (occurrences t).find? fun o => p o.node

/-- A search of the pre-order finds the node of the first occurrence. -/
theorem find?_preorder (p : τ → Bool) (t : τ) :
    (preorder t).find? p = (firstWhere? p t).map Occurrence.node := by
  rw [← map_node_occurrences, List.find?_map]
  rfl

theorem above_of_find?_occurrencesAll {p : τ → Bool} {ts above before : List τ} {o : Occurrence τ}
    (h : (occurrencesAll above before ts).find? (fun o => p o.node) = some o) {a : τ}
    (ha : a ∈ o.above) : a ∈ above ∨ p a = false := by
  induction ts using forest_induction generalizing above before with
  | nil =>
      rw [occurrencesAll_nil] at h
      cases h
  | cons t ts below rest =>
      rw [occurrencesAll_cons, List.find?_append, occurrencesFrom, List.find?_cons,
        Option.or_eq_some_iff] at h
      rcases h with h | ⟨-, h⟩
      · split at h
        · obtain rfl := Option.some.inj h
          exact .inl ha
        · next hroot =>
            -- the search goes on below the root because the root is no match
            rcases below h with hmem | hp
            · rcases List.mem_cons.1 hmem with rfl | hmem
              · exact .inr hroot
              · exact .inl hmem
            · exact .inr hp
      · exact rest h

theorem exists_firstWhere? {p : τ → Bool} {t d : τ} (hd : d ∈ preorder t) (hp : p d = true) :
    ∃ o, firstWhere? p t = some o := by
  have hfound : ((preorder t).find? p).isSome := List.find?_isSome.2 ⟨d, hd, hp⟩
  rw [find?_preorder, Option.isSome_map] at hfound
  exact Option.isSome_iff_exists.1 hfound

section FirstMatch

variable {p : τ → Bool} {t : τ} {o : Occurrence τ} (h : firstWhere? p t = some o)

include h

theorem firstWhere?_holds : p o.node = true := by
  have hfound : (preorder t).find? p = some o.node := by rw [find?_preorder, h, Option.map_some]
  exact List.find?_some hfound

theorem node_mem_of_firstWhere? : o.node ∈ preorder t := by
  rw [← map_node_occurrences]
  exact List.mem_map_of_mem (List.mem_of_find?_eq_some h)

/-- **The first match is an outermost one.** -/
theorem above_of_firstWhere? {a : τ} (ha : a ∈ o.above) : p a = false :=
  (above_of_find?_occurrencesAll h ha).resolve_left List.not_mem_nil

/-- What is above the first match belongs to the tree and has the match below it. -/
theorem mem_of_firstWhere? {a : τ} (ha : a ∈ o.above) :
    a ∈ preorder t ∧ o.node ∈ preorder a := by
  obtain ⟨htree, hbelow⟩ := mem_above_of_mem_occurrences (List.mem_of_find?_eq_some h) ha
  rw [preorder_eq a]
  exact ⟨htree, List.mem_cons_of_mem a hbelow⟩

end FirstMatch

end Branching

/-! ## The generic tree -/

namespace Node

instance : Branching Node where
  children := children
  preorder := preorder
  preorder_eq n := by rw [preorder_eq, preorderAll_eq_flatMap]

/-- The nodes of the tree in pre-order, each in its surroundings. -/
abbrev occurrences (n : Node) : List (Occurrence Node) := Branching.occurrences n

/-- The first occurrence, in pre-order, of a node that satisfies a condition. -/
abbrev firstWhere? (p : Node → Bool) (n : Node) : Option (Occurrence Node) :=
  Branching.firstWhere? p n

end Node

/-! ## Concrete trees -/

namespace Csharp.Tree

theorem preorderAll_eq_flatMap (ts : List Tree) : preorderAll ts = ts.flatMap preorder := by
  induction ts with
  | nil => simp
  | cons t ts ih => rw [preorderAll_cons, ih, List.flatMap_cons]

instance : Branching Tree where
  children := children
  preorder := preorder
  preorder_eq t := by rw [preorder_eq, preorderAll_eq_flatMap]

/-- The nodes of a tree in pre-order, each in its surroundings. -/
abbrev occurrences (t : Tree) : List (Occurrence Tree) := Branching.occurrences t

theorem occurrencesFrom_eq (above before : List Tree) (t : Tree) :
    Branching.occurrencesFrom above before t =
      ⟨above, before, t⟩ :: Branching.occurrencesAll (t :: above) [] t.children := rfl

end Csharp.Tree

end UnitReview
