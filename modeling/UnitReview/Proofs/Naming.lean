import UnitReview.Proofs.Rule.Registry
import UnitReview.Review

/-!
# How far the name of a unit reaches

A unit is reviewed under a name. The name is handed to the reader, to the rules and to the
metrics, but only the places of diagnostics show it: under another name the result is the same, with
the other name in these places (`Csharp.assess_inFile`). The concrete tree may be any; that it does
not depend on the name is all that is used of it.
-/

set_option autoImplicit false

namespace UnitReview

/-! ## The same findings in another file -/

/-- The same place in another file. -/
def Location.inFile (file : String) (l : Location) : Location := { l with file := file }

/-- The same diagnostic in another file. -/
def Diagnostic.inFile (file : String) (d : Diagnostic) : Diagnostic :=
  { d with location := d.location.map (·.inFile file) }

/-- The same result for another file. -/
def ReviewResult.inFile (file : String) (r : ReviewResult) : ReviewResult :=
  { r with diagnostics := r.diagnostics.map (·.inFile file) }

/-- Diagnostics stay hidden or visible. -/
theorem ReviewResult.aggregate_inFile (file : String) (ds : List Diagnostic) (m : Metrics)
    (g : Groups) : aggregate (ds.map (·.inFile file)) m g = (aggregate ds m g).inFile file := by
  rw [aggregate, List.filter_map]
  rfl

/-! ## Defects -/

namespace Csharp

variable (src : Text) (name file : String)

theorem Tree.defectDiagnostic_inFile (t : Tree) :
    t.defectDiagnostic src file = (t.defectDiagnostic src name).inFile file := by
  unfold defectDiagnostic
  cases t.missing <;> rfl

mutual

/-- The defects of a tree are the same in every file. -/
theorem Tree.defects_inFile : ∀ t : Tree,
    t.defects src file = (t.defects src name).map (·.inFile file)
  | ⟨k, n, m, f, s, cs⟩ => by
      rw [Tree.defects, Tree.defects]
      split
      · rw [Tree.defectDiagnostic_inFile src name file]
        rfl
      · split
        · exact Tree.defectsAll_inFile cs
        · rfl

theorem Tree.defectsAll_inFile : ∀ ts : List Tree,
    Tree.defectsAll src file ts = (Tree.defectsAll src name ts).map (·.inFile file)
  | [] => rfl
  | t :: ts => by
      rw [Tree.defectsAll, Tree.defectsAll, List.map_append, Tree.defects_inFile t,
        Tree.defectsAll_inFile ts]

end

/-- What is wrong with a tree is said of places in the file that it is read from. -/
theorem Tree.file_of_mem_defects {t : Tree} {d : Diagnostic} (hd : d ∈ t.defects src name)
    {l : Location} (hl : l ∈ d.location) : l.file = name := by
  -- moving the defects to the file where they are changes nothing
  rw [Tree.defects_inFile src name name, List.mem_map] at hd
  obtain ⟨e, -, rfl⟩ := hd
  obtain ⟨k, -, rfl⟩ := Option.map_eq_some_iff.1 hl
  rfl

end Csharp

/-! ## Rules -/

/-- **Rules that see no names**: what they say depends on the tree and the source of a unit, neither
on its name nor on its diagnostics. -/
def Rule.SeesNoNames (rule : Rule) : Prop :=
  ∀ (root : Node) (source : Text) (name name' : String) (ds ds' : List Diagnostic),
    rule.detect ⟨⟨root, source, name⟩, ds⟩ = rule.detect ⟨⟨root, source, name'⟩, ds'⟩

/-- All built-in rules are such rules. -/
theorem Registry.seesNoNames_of_mem_builtIn {rule : Rule} (h : rule ∈ builtIn.rules) :
    rule.SeesNoNames := by
  intro root source name name' ds ds'
  have hall : builtIn.rules.map (·.detect ⟨⟨root, source, name⟩, ds⟩) =
      builtIn.rules.map (·.detect ⟨⟨root, source, name'⟩, ds'⟩) := rfl
  exact List.map_inj_left.1 hall rule h

/-- A run depends on what the rules say. -/
theorem Registry.run_congr {r : Registry} {ctx ctx' : RuleContext}
    (h : ∀ rule ∈ r.rules, rule.detect ctx = rule.detect ctx') : r.run ctx = r.run ctx' := by
  apply Groups.ext_get
  intro c
  rw [get_run, get_run, List.flatMap_def, List.flatMap_def]
  congr 1
  apply List.map_congr_left
  intro rule hrule
  exact h rule ((List.mem_filter.1 hrule).1)

/-! ## Reviews -/

/-- **The review of a tree under another name is the review in another file.** -/
theorem Csharp.assess_inFile {reviewer : Reviewer} (hrules : ∀ rule ∈ reviewer.registry.rules,
    rule.SeesNoNames) (tree : Tree) (source : Text) (name file : String) :
    reviewer.assess (tree.context source file (tree.defects source file)) =
      (reviewer.assess (tree.context source name (tree.defects source name))).inFile file := by
  have hrun : reviewer.registry.run (tree.context source file (tree.defects source file)) =
      reviewer.registry.run (tree.context source name (tree.defects source name)) :=
    Registry.run_congr fun rule hrule => hrules rule hrule _ _ _ _ _ _
  -- the metrics are those of the tree and the source
  have hmetrics : ∀ name ds, Metrics.compute (tree.context source name ds).unit =
      Metrics.compute ⟨tree.lower source, source, ""⟩ := fun _ _ => rfl
  rw [Reviewer.assess, Reviewer.assess, hrun, hmetrics, hmetrics]
  show ReviewResult.aggregate (tree.defects source file) _ _ = _
  rw [Tree.defects_inFile source name file, ReviewResult.aggregate_inFile]
  rfl

namespace Reviewer

variable {reader : Csharp.TreeReader} {source : Text} {name : String} {r : ReviewResult}

theorem reviewText_csharp_eq_ok_iff : (csharp reader).reviewText source (some name) = .ok r ↔
    ∃ tree, reader source = .ok tree ∧
      (csharp reader).assess (tree.context source name (tree.defects source name)) = r := by
  have hread : (csharp reader).provider.read source name =
      Csharp.readUnit reader source name := rfl
  rw [reviewText, Option.getD_some, hread, Csharp.readUnit]
  cases reader source <;> simp

/-- **The name of a unit reaches only the places of diagnostics.** Whatever makes the trees, whether
a source text has a review does not depend on its name. All places in a review are in the file of
that name, and under another name it is the same review with the other name in these places. -/
theorem reviewText_renamed (reader : Csharp.TreeReader) (source : Text) (name : String) :
    ((∃ r, (csharp reader).reviewText source (some name) = .ok r) ↔
        ∃ tree, reader source = .ok tree) ∧
      ∀ r, (csharp reader).reviewText source (some name) = .ok r →
        (∀ d ∈ r.diagnostics, ∀ l ∈ d.location, l.file = name) ∧
        ∀ file, ∃ r', (csharp reader).reviewText source (some file) = .ok r' ∧
          r' = r.inFile file ∧ r'.metrics = r.metrics ∧ r'.suggestions = r.suggestions ∧
          r'.diagnostics.map (fun d => (d.id, d.severity, d.message, d.category)) =
            r.diagnostics.map (fun d => (d.id, d.severity, d.message, d.category)) ∧
          r'.diagnostics.map (fun d => d.location.map fun l => (l.line, l.column)) =
            r.diagnostics.map (fun d => d.location.map fun l => (l.line, l.column)) := by
  refine ⟨?_, ?_⟩
  · simp only [reviewText_csharp_eq_ok_iff]
    exact ⟨fun ⟨_, tree, htree, _⟩ => ⟨tree, htree⟩, fun ⟨tree, htree⟩ => ⟨_, tree, htree, rfl⟩⟩
  · intro r hr
    obtain ⟨tree, htree, rfl⟩ := reviewText_csharp_eq_ok_iff.1 hr
    refine ⟨?_, ?_⟩
    · intro d hd l hl
      exact Csharp.Tree.file_of_mem_defects source name (List.mem_filter.1 hd).1 hl
    · intro file
      have hrules : ∀ rule ∈ (csharp reader).registry.rules, rule.SeesNoNames :=
        fun _ => Registry.seesNoNames_of_mem_builtIn
      refine ⟨_, reviewText_csharp_eq_ok_iff.2 ⟨tree, htree, rfl⟩, ?_⟩
      rw [Csharp.assess_inFile hrules tree source name file]
      refine ⟨rfl, rfl, rfl, ?_, ?_⟩
      · exact List.map_map
      · rw [ReviewResult.inFile, List.map_map]
        apply List.map_congr_left
        intro d _
        cases hd : d.location <;> simp [Diagnostic.inFile, hd, Location.inFile]

/-- There is something to rename: a class that is left open is reported in the file of its name. -/
theorem reviewText_renamed_unclosed :
    ∃ r, standard.reviewText "class A \x7b".toList (some "A.cs") = .ok r ∧
      r.diagnostics.map (·.location) = [some ⟨1, 1, "A.cs"⟩] ∧
      standard.reviewText "class A \x7b".toList (some "B.cs") = .ok (r.inFile "B.cs") := by
  obtain ⟨hread, hrenamed⟩ := reviewText_renamed Csharp.grammarReader "class A \x7b".toList "A.cs"
  obtain ⟨r, hr⟩ := hread.2 ⟨_, rfl⟩
  obtain ⟨r', hr', rfl, -⟩ := (hrenamed r hr).2 "B.cs"
  have hplaces : ∀ r ∈ (standard.reviewText "class A \x7b".toList (some "A.cs")).toOption,
      r.diagnostics.map (·.location) = [some ⟨1, 1, "A.cs"⟩] := by decide +kernel
  have hsome : r ∈ (standard.reviewText "class A \x7b".toList (some "A.cs")).toOption := by
    rw [standard, hr]
    rfl
  exact ⟨r, hr, hplaces r hsome, hr'⟩

end Reviewer

end UnitReview
