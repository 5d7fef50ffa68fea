import UnitReview.Proofs.Syntax.Occurrences

/-!
# Spans of nested nodes

In a tree that was read from a source, the span of a node lies inside that of its parent, and its
ends lie between characters. The text of a node is then a part of the text of every node above it
(`Node.SpansFit.text_part`).

If moreover siblings stand one after the other, pre-order is the order of the source: nodes come in
the order in which they start (`Node.LaidOut.pairwise_start`). A search that stops at the first
match has found the earliest one, and so has a search for the first match below certain nodes.
-/

set_option autoImplicit false

namespace UnitReview

/-! ## Stretches of a text -/

namespace Text

/-- An offset between two characters of a text, or at one of its ends. -/
def IsBoundary (src : Text) (k : Nat) : Prop :=
  ∃ before after : Text, src = before ++ after ∧ byteLength before = k

theorem exists_append_of_dropBytes? {k : Nat} {src after : Text}
    (h : dropBytes? k src = some after) :
    ∃ before : Text, src = before ++ after ∧ byteLength before = k := by
  induction src generalizing k with
  | nil =>
      cases k with
      | zero => exact ⟨[], Option.some.inj h, rfl⟩
      | succ k => cases h
  | cons c cs ih =>
      cases k with
      | zero => exact ⟨[], Option.some.inj h, rfl⟩
      | succ k =>
          rw [dropBytes?] at h
          split at h
          · next hle =>
              obtain ⟨before, rfl, hlength⟩ := ih h
              refine ⟨c :: before, rfl, ?_⟩
              rw [byteLength, hlength]
              omega
          · cases h

theorem isBoundary_iff {src : Text} {k : Nat} :
    src.IsBoundary k ↔ (dropBytes? k src).isSome = true := by
  constructor
  · rintro ⟨before, after, rfl, rfl⟩
    rw [dropBytes?_append]
    rfl
  · intro h
    obtain ⟨after, hafter⟩ := Option.isSome_iff_exists.1 h
    obtain ⟨before, hsrc, hlength⟩ := exists_append_of_dropBytes? hafter
    exact ⟨before, after, hsrc, hlength⟩

instance (src : Text) (k : Nat) : Decidable (src.IsBoundary k) :=
  decidable_of_iff _ isBoundary_iff.symm

theorem eq_nil_of_byteLength_eq_zero {cs : Text} (h : byteLength cs = 0) : cs = [] := by
  cases cs with
  | nil => rfl
  | cons c cs =>
      have hc : 0 < c.utf8Size := Char.utf8Size_pos c
      rw [byteLength] at h
      omega

/-- Of two beginnings of a text, the one with fewer bytes is a beginning of the other. -/
theorem beginning_of_byteLength_le {a b src : Text} (ha : a <+: src) (hb : b <+: src)
    (h : byteLength a ≤ byteLength b) : a <+: b := by
  rcases List.prefix_or_prefix_of_prefix ha hb with hab | ⟨rest, rfl⟩
  · exact hab
  · rw [byteLength_append] at h
    have hrest : rest = [] := eq_nil_of_byteLength_eq_zero (by omega)
    exact ⟨[], by rw [hrest, List.append_nil, List.append_nil]⟩

theorem slice?_append (a t b : Text) :
    slice? (byteLength a) (byteLength (a ++ t)) (a ++ t ++ b) = some t := by
  have hle : byteLength a ≤ byteLength (a ++ t) := by rw [byteLength_append]; omega
  have hlength : byteLength (a ++ t) - byteLength a = byteLength t := by
    rw [byteLength_append]; omega
  rw [slice?, if_pos hle, hlength, List.append_assoc, dropBytes?_append, Option.bind_some,
    takeBytes?_append]

/-- Between two boundaries there is a stretch of the text. -/
theorem exists_slice {src : Text} {i j : Nat} (hi : src.IsBoundary i) (hj : src.IsBoundary j)
    (h : i ≤ j) : ∃ a t b : Text, src = a ++ t ++ b ∧ byteLength a = i ∧ byteLength (a ++ t) = j ∧
      slice? i j src = some t := by
  obtain ⟨a, _, hsrc, rfl⟩ := hi
  obtain ⟨a', b, rfl, rfl⟩ := hj
  have ha : a <+: a' ++ b := ⟨_, hsrc.symm⟩
  obtain ⟨t, rfl⟩ := beginning_of_byteLength_le ha (List.prefix_append a' b) h
  exact ⟨a, t, b, rfl, rfl, rfl, slice?_append a t b⟩

/-- **A stretch inside another is a part of it.** -/
theorem slice_part {src : Text} {i j i' j' : Nat} (hi : src.IsBoundary i) (hj : src.IsBoundary j)
    (hi' : src.IsBoundary i') (hj' : src.IsBoundary j') (hstart : i' ≤ i) (hstop : j ≤ j') :
    (slice? i j src).getD [] <:+: (slice? i' j' src).getD [] := by
  by_cases h : i ≤ j
  · obtain ⟨a, t, b, hsrc, ha, hat, hslice⟩ := exists_slice hi hj h
    obtain ⟨a', t', b', hsrc', ha', hat', hslice'⟩ := exists_slice hi' hj' (by omega)
    rw [hslice, hslice', Option.getD_some, Option.getD_some]
    -- both ends are compared as beginnings of the source
    have hbegin : a <+: src := ⟨t ++ b, by rw [hsrc, List.append_assoc]⟩
    have hbegin' : a' <+: src := ⟨t' ++ b', by rw [hsrc', List.append_assoc]⟩
    have hhead : a' <+: a := beginning_of_byteLength_le hbegin' hbegin (by omega)
    have hends : a ++ t <+: a' ++ t' :=
      beginning_of_byteLength_le ⟨b, hsrc.symm⟩ ⟨b', hsrc'.symm⟩ (by omega)
    obtain ⟨lead, rfl⟩ := hhead
    rw [List.append_assoc, List.prefix_append_right_inj] at hends
    exact (List.suffix_append lead t).isInfix.trans hends.isInfix
  · rw [slice?, if_neg h, Option.getD_none]
    exact List.nil_infix

end Text

/-! ## Nested spans -/

namespace Span

/-- Both ends of a span lie between the ends of the other. -/
def Within (s outer : Span) : Prop :=
  (outer.startByte ≤ s.startByte ∧ s.startByte ≤ outer.endByte) ∧
    outer.startByte ≤ s.endByte ∧ s.endByte ≤ outer.endByte

instance (s outer : Span) : Decidable (s.Within outer) := inferInstanceAs (Decidable (_ ∧ _))

theorem Within.trans {s m outer : Span} (h : s.Within m) (hm : m.Within outer) :
    s.Within outer := by
  unfold Within at *
  omega

/-- Disjoint spans in order: the first one starts no later, and is over where the other starts. -/
def Before (s t : Span) : Prop := s.startByte ≤ t.startByte ∧ s.endByte ≤ t.startByte

instance (s t : Span) : Decidable (s.Before t) := inferInstanceAs (Decidable (_ ∧ _))

end Span

namespace Node

/-- In a tree with nested spans, the span of each node lies inside that of its parent. -/
def Nested (n : Node) : Prop := ∀ m ∈ n.preorder, ∀ c ∈ m.children, c.span.Within m.span

instance (n : Node) : Decidable n.Nested :=
  inferInstanceAs (Decidable (∀ m ∈ n.preorder, ∀ c ∈ m.children, c.span.Within m.span))

theorem Nested.of_mem {n m : Node} (h : n.Nested) (hm : m ∈ n.preorder) : m.Nested :=
  fun d hd => h d (preorder_subset_of_mem hm hd)

/-- Spans nest through all levels. -/
theorem Nested.within {n d : Node} (h : n.Nested) (hd : d ∈ preorderAll n.children) :
    d.span.Within n.span := by
  refine forall_mem_preorderAll (P := fun d => d.span.Within n.span) (h n n.mem_preorder_self)
    (fun m hm hwithin c hc => ?_) d hd
  exact (h m (mem_preorder_of_below hm) c hc).trans hwithin

/-- No node starts before a node above it. -/
theorem Nested.start_le {n d : Node} (h : n.Nested) (hd : d ∈ n.preorder) :
    n.span.startByte ≤ d.span.startByte := by
  rw [preorder_eq, List.mem_cons] at hd
  rcases hd with rfl | hd
  · exact Nat.le_refl _
  · exact (h.within hd).1.1

/-- **Spans that fit a source**: they nest, and their ends lie between characters. -/
structure SpansFit (src : Text) (n : Node) : Prop where
  boundaries : ∀ m ∈ n.preorder,
    src.IsBoundary m.span.startByte ∧ src.IsBoundary m.span.endByte
  nested : n.Nested

/-- **The text of a node is a part of the text of every node above it.** -/
theorem SpansFit.text_part {src : Text} {n m d : Node} (h : n.SpansFit src) (hm : m ∈ n.preorder)
    (hd : d ∈ m.preorder) : d.text src <:+: m.text src := by
  have hdn : d ∈ n.preorder := preorder_subset_of_mem hm hd
  rw [preorder_eq, List.mem_cons] at hd
  rcases hd with rfl | hd
  · exact List.infix_refl _
  · obtain ⟨hstart, -, hstop⟩ := (h.nested.of_mem hm).within hd
    exact Text.slice_part (h.boundaries d hdn).1 (h.boundaries d hdn).2 (h.boundaries m hm).1
      (h.boundaries m hm).2 hstart.1 hstop

/-! ## Order of the source -/

/-- **A tree laid out like its source**: spans nest, and siblings stand one after the other. -/
structure LaidOut (n : Node) : Prop where
  nested : n.Nested
  siblings : ∀ m ∈ n.preorder, m.children.Pairwise fun a b => a.span.Before b.span

theorem LaidOut.of_mem {n m : Node} (h : n.LaidOut) (hm : m ∈ n.preorder) : m.LaidOut :=
  ⟨h.nested.of_mem hm, fun d hd => h.siblings d (preorder_subset_of_mem hm hd)⟩

/-- Whatever is in a tree starts before whatever is in a later sibling. -/
theorem start_le_of_before {n n' a b : Node} (hn : n.Nested) (hn' : n'.Nested)
    (h : n.span.Before n'.span) (ha : a ∈ n.preorder) (hb : b ∈ n'.preorder) :
    a.span.startByte ≤ b.span.startByte := by
  have hafter := hn'.start_le hb
  rw [preorder_eq, List.mem_cons] at ha
  rcases ha with rfl | ha
  · exact Nat.le_trans h.1 hafter
  · calc a.span.startByte ≤ n.span.endByte := (hn.within ha).1.2
      _ ≤ n'.span.startByte := h.2
      _ ≤ b.span.startByte := hafter

mutual

/-- **Pre-order is the order of the source.** -/
theorem LaidOut.pairwise_start : ∀ {n : Node}, n.LaidOut →
    n.preorder.Pairwise fun a b => a.span.startByte ≤ b.span.startByte
  | ⟨k, g, f, s, cs, l⟩, h => by
      have hbelow : ∀ c ∈ cs, c.LaidOut := fun c hc =>
        h.of_mem (mem_preorder_of_child hc)
      rw [preorder_eq, List.pairwise_cons]
      refine ⟨fun d hd => (h.nested.within hd).1.1, ?_⟩
      exact pairwise_start_preorderAll hbelow (h.siblings _ (mem_preorder_self _))

theorem pairwise_start_preorderAll : ∀ {ns : List Node}, (∀ n ∈ ns, n.LaidOut) →
    (ns.Pairwise fun a b => a.span.Before b.span) →
    (preorderAll ns).Pairwise fun a b => a.span.startByte ≤ b.span.startByte
  | [], _, _ => by
      rw [preorderAll_nil]
      exact List.Pairwise.nil
  | n :: ns, hns, hbefore => by
      obtain ⟨hfirst, hrest⟩ := List.pairwise_cons.1 hbefore
      have hothers : ∀ m ∈ ns, m.LaidOut := fun m hm => hns m (List.mem_cons_of_mem n hm)
      have hn : n.LaidOut := hns n List.mem_cons_self
      rw [preorderAll_cons, List.pairwise_append]
      refine ⟨hn.pairwise_start, pairwise_start_preorderAll hothers hrest, fun a ha b hb => ?_⟩
      obtain ⟨m, hm, hb⟩ := mem_preorderAll.1 hb
      exact start_le_of_before hn.nested (hothers m hm).nested (hfirst m hm) ha hb

end

/-- The first match of a search starts no later than any other match. -/
theorem LaidOut.start_le_of_find? {n first m : Node} {p : Node → Bool} (h : n.LaidOut)
    (hfirst : n.preorder.find? p = some first) (hm : m ∈ n.preorder) (hp : p m = true) :
    first.span.startByte ≤ m.span.startByte := by
  obtain ⟨-, before, after, hsplit, hbefore⟩ := List.find?_eq_some_iff_append.1 hfirst
  have hsorted := h.pairwise_start
  rw [hsplit] at hm hsorted
  rcases List.mem_append.1 hm with hm | hm
  · have hnot := hbefore m hm
    rw [hp] at hnot
    cases hnot
  · rcases List.mem_cons.1 hm with rfl | hm
    · exact Nat.le_refl _
    · have htail := (List.pairwise_append.1 hsorted).2.1
      exact (List.pairwise_cons.1 htail).1 m hm

/-- **The first match below certain nodes is the earliest one.** The search goes through these nodes
in pre-order and stops at the first that has a match below it; it may be nested in another one, and
others may be nested in it. -/
theorem LaidOut.start_le_of_findSome? {n first outer m : Node} {q p : Node → Bool} (h : n.LaidOut)
    (hfirst : (n.preorder.filter q).findSome? (fun o => o.preorder.find? p) = some first)
    (houter : outer ∈ n.preorder) (hq : q outer = true) (hm : m ∈ outer.preorder)
    (hp : p m = true) : first.span.startByte ≤ m.span.startByte := by
  obtain ⟨skipped, found, later, hsplit, hfound, hskipped⟩ := List.findSome?_eq_some_iff.1 hfirst
  have hmem : outer ∈ skipped ++ found :: later := by
    rw [← hsplit]
    exact List.mem_filter.2 ⟨houter, hq⟩
  -- where the node that was found stands among all nodes
  obtain ⟨a, rest, htree, -, hrest⟩ := List.filter_eq_append_iff.1 hsplit
  obtain ⟨b, after, rfl, -, -, rfl⟩ := List.filter_eq_cons_iff.1 hrest
  rw [← List.append_assoc] at htree
  have hfoundMem : found ∈ n.preorder := by
    rw [htree]
    exact List.mem_append_right _ List.mem_cons_self
  have hinside : ∀ d ∈ found.preorder, p d = true → first.span.startByte ≤ d.span.startByte :=
    fun d => (h.of_mem hfoundMem).start_le_of_find? hfound
  rcases List.mem_append.1 hmem with hmem | hmem
  · -- a node that was skipped has no match below it
    have hnone := List.find?_eq_none.1 (hskipped outer hmem) m hm
    exact absurd hp hnone
  · rcases List.mem_cons.1 hmem with rfl | hmem
    · exact hinside m hm hp
    · obtain ⟨behind, rfl⟩ := below_follows htree
      rcases List.mem_append.1 (List.mem_filter.1 hmem).1 with hbelow | hbehind
      · -- a node below the one that was found
        exact hinside m (preorder_subset_of_mem (mem_preorder_of_below hbelow) hm) hp
      · -- a node behind everything that is below the one that was found
        have hsorted := h.pairwise_start
        rw [htree, ← List.cons_append, ← preorder_eq] at hsorted
        have hafter := (List.pairwise_append.1 (List.pairwise_append.1 hsorted).2.1).2.2
        have houterStart := hafter first (List.mem_of_find?_eq_some hfound) outer hbehind
        exact Nat.le_trans houterStart ((h.of_mem houter).nested.start_le hm)

/-- **A tree in the order of its source**: it is laid out like the source, and a node that starts no
earlier than another one starts on no earlier line. -/
structure InDocumentOrder (n : Node) : Prop extends LaidOut n where
  lines : ∀ a ∈ n.preorder, ∀ b ∈ n.preorder,
    a.span.startByte ≤ b.span.startByte → a.span.startLine ≤ b.span.startLine

end Node

end UnitReview
