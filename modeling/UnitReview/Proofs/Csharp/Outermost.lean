import UnitReview.Csharp.Defects
import UnitReview.Proofs.Syntax.Branching

/-!
# Which defects are reported

The search for defects goes down only where there are any, and no further than to the first one on
each way down. It is a full walk all the same: the defects reported are, in pre-order, those that no
other defect is above of.
-/

set_option autoImplicit false

namespace UnitReview.Csharp

namespace Tree

open Branching (above_suffix node_mem_of_mem_occurrencesAll occurrencesAll occurrencesAll_cons
  occurrencesAll_nil occurrencesFrom)

/-- A token that had to be inserted, or a stretch that the grammar cannot place. -/
def Defect (t : Tree) : Prop := t.missing = true ∨ t.kind = "ERROR"

instance : DecidablePred Defect := fun _ => inferInstanceAs (Decidable (_ ∨ _))

theorem isDefect_iff {t : Tree} : t.isDefect = true ↔ t.Defect := by
  simp [isDefect, isError, errorKind, Defect]

/-! ## Pruning -/

mutual

/-- **A subtree is searched exactly if there is something to find.** -/
theorem hasDefect_iff : ∀ t : Tree, t.hasDefect = true ↔ ∃ d ∈ t.preorder, d.Defect
  | ⟨k, n, m, f, e, cs⟩ => by
      rw [hasDefect_eq, Bool.or_eq_true, isDefect_iff, anyDefect_iff cs, preorder_eq]
      simp

theorem anyDefect_iff : ∀ ts : List Tree,
    anyDefect ts = true ↔ ∃ d ∈ preorderAll ts, d.Defect
  | [] => by simp
  | t :: ts => by
      rw [anyDefect_cons, Bool.or_eq_true, hasDefect_iff t, anyDefect_iff ts, preorderAll_cons]
      simp only [List.mem_append, or_and_right, exists_or]

end

/-- A defect that no other defect is above of. -/
def Outermost (o : Occurrence Tree) : Prop := o.node.Defect ∧ ∀ a ∈ o.above, ¬ a.Defect

instance : DecidablePred Outermost := fun _ => inferInstanceAs (Decidable (_ ∧ _))

/-- Nothing below a defect is outermost. -/
theorem filter_below_defect {t : Tree} (ht : t.Defect) (above before ts : List Tree) :
    ((occurrencesAll (t :: above) before ts).filter fun o => Outermost o) = [] := by
  rw [List.filter_eq_nil_iff]
  intro o ho
  have habove : t ∈ o.above := (above_suffix ho).subset List.mem_cons_self
  simpa using fun hout : Outermost o => hout.2 t habove ht

/-- Nothing is lost where the search does not go. -/
theorem filter_without_defect {ts : List Tree} (hts : anyDefect ts = false)
    (above before : List Tree) :
    ((occurrencesAll above before ts).filter fun o => Outermost o) = [] := by
  rw [List.filter_eq_nil_iff]
  intro o ho
  have hmem : o.node ∈ preorderAll ts := by
    rw [preorderAll_eq_flatMap]
    exact node_mem_of_mem_occurrencesAll ho
  have hnone : ¬ ∃ d ∈ preorderAll ts, d.Defect := by
    rw [← anyDefect_iff, hts]
    exact Bool.false_ne_true
  simpa using fun hout : Outermost o => hnone ⟨o.node, hmem, hout.1⟩

section Search

variable (src : Text) (name : String)

mutual

/-- Under nodes without defects the search finds what a full walk finds. -/
theorem defects_eq_filter : ∀ (t : Tree) {above : List Tree} (before : List Tree),
    (∀ a ∈ above, ¬ a.Defect) → t.defects src name =
      ((occurrencesFrom above before t).filter fun o => Outermost o).map fun o =>
        o.node.defectDiagnostic src name
  | ⟨k, n, m, f, e, cs⟩, above, before, habove => by
      let t : Tree := ⟨k, n, m, f, e, cs⟩
      show t.defects src name = _
      rw [defects, occurrencesFrom_eq]
      by_cases ht : t.Defect
      · have hout : Outermost ⟨above, before, t⟩ := ⟨ht, habove⟩
        rw [if_pos (isDefect_iff.2 ht), List.filter_cons_of_pos (by simpa using hout),
          filter_below_defect ht]
        rfl
      · have hout : ¬ Outermost ⟨above, before, t⟩ := fun h => ht h.1
        have hbelow : ∀ a ∈ t :: above, ¬ a.Defect := List.forall_mem_cons.2 ⟨ht, habove⟩
        rw [if_neg (mt isDefect_iff.1 ht), List.filter_cons_of_neg (by simpa using hout)]
        split
        next => exact defectsAll_eq_filter cs [] hbelow
        next hnone =>
          rw [hasDefect_eq, Bool.or_eq_true, not_or, Bool.not_eq_true, Bool.not_eq_true] at hnone
          rw [filter_without_defect hnone.2]
          rfl

theorem defectsAll_eq_filter : ∀ (ts : List Tree) {above : List Tree} (before : List Tree),
    (∀ a ∈ above, ¬ a.Defect) → defectsAll src name ts =
      ((occurrencesAll above before ts).filter fun o => Outermost o).map fun o =>
        o.node.defectDiagnostic src name
  | [], above, before, habove => by
      rw [defectsAll, occurrencesAll_nil]
      rfl
  | t :: ts, above, before, habove => by
      rw [defectsAll, occurrencesAll_cons, List.filter_append, List.map_append,
        defects_eq_filter t before habove, defectsAll_eq_filter ts (before ++ [t]) habove]

end

end Search

mutual

theorem defects_eq_nil_iff (src : Text) (name : String) : ∀ t : Tree,
    t.defects src name = [] ↔ t.hasDefect = false
  | ⟨k, n, m, f, e, cs⟩ => by
      rw [defects, hasDefect_eq]
      split
      next ht => simp [ht]
      next ht =>
        split
        next hsome =>
          rw [defectsAll_eq_nil_iff src name cs]
          simp [ht]
        next hnone => simpa using hnone

theorem defectsAll_eq_nil_iff (src : Text) (name : String) : ∀ ts : List Tree,
    defectsAll src name ts = [] ↔ anyDefect ts = false
  | [] => by simp [defectsAll]
  | t :: ts => by
      rw [defectsAll, List.append_eq_nil_iff, defects_eq_nil_iff src name t,
        defectsAll_eq_nil_iff src name ts, anyDefect_cons, Bool.or_eq_false_iff]

end

/-- **Exactly the outermost defects are reported.** A subtree is taken to have defects exactly if one
of its nodes is one. The search gives one diagnostic for each defect that no other defect is above
of, in pre-order: SC1002 for an inserted token and SC1001 for a stretch that the grammar cannot place,
an error of category `Syntax`, at the start of the node, lines and columns counted from 1. There is
none exactly if no node is a defect. -/
theorem defects_outermost (src : Text) (name : String) (t : Tree) :
    (∀ n : Tree, n.hasDefect = true ↔ ∃ d ∈ n.preorder, d.Defect) ∧
    t.occurrences.map Occurrence.node = t.preorder ∧
    (t.defects src name = (t.occurrences.filter fun o => Outermost o).map fun o =>
      { id := if o.node.missing then "SC1002" else "SC1001"
        severity := .error
        message :=
          if o.node.missing then "'" ++ o.node.kind ++ "' expected"
          else "unexpected syntax '" ++ snippet (o.node.text src) ++ "'"
        location := some
          { line := o.node.extent.start.row + 1
            column := o.node.extent.start.column + 1
            file := name }
        category := "Syntax" }) ∧
    (t.defects src name = [] ↔ ∀ d ∈ t.preorder, ¬ d.Defect) := by
  refine ⟨hasDefect_iff, Branching.map_node_occurrences t, ?_, ?_⟩
  · have htop : ∀ a ∈ ([] : List Tree), ¬ a.Defect := by simp
    rw [defects_eq_filter src name t [] htop, occurrences, Branching.occurrences_eq]
    refine List.map_congr_left fun o _ => ?_
    rw [defectDiagnostic]
    split <;> rfl
  · rw [defects_eq_nil_iff, ← Bool.not_eq_true, hasDefect_iff]
    simp

end Tree

end UnitReview.Csharp
