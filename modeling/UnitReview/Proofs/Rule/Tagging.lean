import UnitReview.Proofs.Rule.Registry
import UnitReview.Report

/-!
# Suggestions carry their category

A rule has a category, but a report tells the category of a suggestion from its words alone. The
two agree because of how suggestions are put together: each starts with fixed words, and what
follows, names and numbers and pieces of the source, cannot undo them. `Category.Announces` says
of some first words that they settle the category, and is kept when a text goes on
(`Announces.append`), so that for every rule it is enough to look at its first words.
-/

set_option autoImplicit false

namespace UnitReview

/-! ## First words -/

namespace Category

variable {c : Category} {t : Text} {s : String}

/-- What stands before the words of a suggestion: the mark of the category and one space. -/
def tag (c : Category) : Text :=
  match c.mark? with
  | some m => m.toList ++ [' ']
  | none => []

/-- Where the category stands in reports. -/
def position (c : Category) : Nat := all.idxOf c

/-- Whether a text goes on after a tag, and not with a blank. -/
def goesOn (tag : Text) (t : Text) : Bool :=
  tag.isPrefixOf t && (t.drop tag.length).head?.any (!isBlank ·)

theorem goesOn_iff {tag t : Text} :
    goesOn tag t = true ↔ ∃ x rest, t = tag ++ x :: rest ∧ isBlank x = false := by
  unfold goesOn
  rw [Bool.and_eq_true, List.isPrefixOf_iff_prefix]
  constructor
  · rintro ⟨⟨rest, rfl⟩, h⟩
    rw [List.drop_left] at h
    cases rest with
    | nil => cases h
    | cons x rest => exact ⟨x, rest, rfl, by simpa using h⟩
  · rintro ⟨x, rest, rfl, hx⟩
    refine ⟨List.prefix_append _ _, ?_⟩
    rw [List.drop_left]
    simpa using hx

/-- **First words that settle the category.** They hold the tag of the category and more, and
there is no other category whose mark they hold or could still grow into. -/
def Announces (c : Category) (t : Text) : Prop :=
  (c.mark?.isSome = true → goesOn c.tag t = true) ∧
    ∀ d ∈ all, d ≠ c → ∀ m ∈ d.mark?, ¬ m.toList <+: t ∧ ¬ t <+: m.toList

instance (c : Category) (t : Text) : Decidable (c.Announces t) :=
  inferInstanceAs (Decidable (_ ∧ _))

/-- A text that goes on still announces its category. -/
theorem Announces.append (h : c.Announces t) (u : Text) : c.Announces (t ++ u) := by
  obtain ⟨hown, hothers⟩ := h
  constructor
  · intro hmark
    obtain ⟨x, rest, ht, hx⟩ := goesOn_iff.1 (hown hmark)
    refine goesOn_iff.2 ⟨x, rest ++ u, ?_, hx⟩
    rw [ht, List.append_assoc, List.cons_append]
  · intro d hd hdc m hm
    obtain ⟨hholds, hgrows⟩ := hothers d hd hdc m hm
    constructor
    · -- of two beginnings of one text, one is a beginning of the other
      intro hprefix
      rcases List.prefix_or_prefix_of_prefix hprefix (List.prefix_append t u) with h | h
      · exact hholds h
      · exact hgrows h
    · intro hprefix
      exact hgrows ((List.prefix_append t u).trans hprefix)

/-- The words after the mark and the space. -/
theorem Announces.exists_words (h : c.Announces t) {m : String} (hm : c.mark? = some m) :
    ∃ x rest, t = m.toList ++ ' ' :: x :: rest ∧ isBlank x = false := by
  have hsome : c.mark?.isSome = true := by rw [hm]; rfl
  have htag : c.tag = m.toList ++ [' '] := by rw [tag, hm]
  obtain ⟨x, rest, ht, hx⟩ := goesOn_iff.1 (h.1 hsome)
  rw [htag, List.append_assoc, List.singleton_append] at ht
  exact ⟨x, rest, ht, hx⟩

theorem Announces.isPrefixOf_mark (h : c.Announces t) {m : String} (hm : c.mark? = some m) :
    m.toList.isPrefixOf t = true := by
  obtain ⟨x, rest, ht, -⟩ := h.exists_words hm
  rw [List.isPrefixOf_iff_prefix, ht]
  exact List.prefix_append _ _

/-- A suggestion carries the mark of a category if that is the one it announces. -/
theorem Announces.marks_eq (h : c.Announces s.toList) (d : Category) :
    d.marks s = decide (d = c ∧ c.mark?.isSome = true) := by
  unfold marks
  cases hm : d.mark? with
  | none =>
      by_cases hdc : d = c
      · subst hdc
        simp [hm]
      · simp [hdc]
  | some m =>
      by_cases hdc : d = c
      · subst hdc
        simp [h.isPrefixOf_mark hm, hm]
      · have hnot : m.toList.isPrefixOf s.toList = false := by
          rw [Bool.eq_false_iff, ne_eq, List.isPrefixOf_iff_prefix]
          exact (h.2 d (mem_all d) hdc m hm).1
        simp [hnot, hdc]

/-- **The category that first words announce is the one that a report tells.** -/
theorem Announces.ofSuggestion_eq (h : c.Announces s.toList) : ofSuggestion s = c := by
  unfold ofSuggestion
  simp only [h.marks_eq]
  cases c <;> rfl

/-- **Taking the mark off loses nothing**: the tag and what is left make up the suggestion. -/
theorem Announces.tag_append_withoutMark (h : c.Announces s.toList) :
    s.toList = c.tag ++ Report.withoutMark s c := by
  cases hm : c.mark? with
  | none => simp [Report.withoutMark, tag, hm]
  | some m =>
      obtain ⟨x, rest, hs, hx⟩ := h.exists_words hm
      -- only the one space of the tag is trimmed away
      have htrim : Text.trimStart (' ' :: x :: rest) = x :: rest := by
        have hspace : isBlank ' ' = true := by decide
        rw [Text.trimStart, List.dropWhile_cons_of_pos hspace, List.dropWhile_cons_of_neg]
        rw [hx]
        exact Bool.false_ne_true
      have hleft : Report.withoutMark s c = x :: rest := by
        simp only [Report.withoutMark, hm, h.isPrefixOf_mark hm, if_true]
        rw [hs, List.drop_left, htrim]
      rw [hleft, tag, hm, hs, List.append_assoc, List.singleton_append]

end Category

/-! ## The first words of the built-in rules -/

/-- All of some suggestions announce a category. -/
def Announced (c : Category) (found : List String) : Prop := ∀ s ∈ found, c.Announces s.toList

section

variable {α : Type} {c : Category}

theorem announced_map {tell : α → String} (h : ∀ a, c.Announces (tell a).toList) (l : List α) :
    Announced c (l.map tell) := by
  intro s hs
  obtain ⟨a, -, rfl⟩ := List.mem_map.1 hs
  exact h a

theorem announced_option {tell : α → String} (h : ∀ a, c.Announces (tell a).toList) (o : Option α) :
    Announced c (o.map tell).toList := by
  rw [Option.toList_map]
  exact announced_map h _

theorem announced_filterMap {say : α → Option String}
    (h : ∀ a s, say a = some s → c.Announces s.toList) (l : List α) :
    Announced c (l.filterMap say) := by
  intro s hs
  obtain ⟨a, -, ha⟩ := List.mem_filterMap.1 hs
  exact h a s ha

theorem announced_ite {message : String} (h : c.Announces message.toList) (b : Bool) :
    Announced c (if b then [message] else []) := by
  intro s hs
  cases b with
  | false => cases hs
  | true =>
      rw [List.mem_singleton.1 hs]
      exact h

end

/-- Fixed words announce what their characters do. -/
theorem Category.Announces.words {c : Category} {t : Text} (h : c.Announces t) :
    c.Announces (String.ofList t).toList := by
  rwa [String.toList_ofList]

/-- Words, then a name or a number, then more words. -/
theorem Category.Announces.between {c : Category} {words : String}
    (h : c.Announces words.toList) (x more : String) :
    c.Announces (words ++ x ++ more).toList := by
  rw [String.toList_append, String.toList_append]
  exact (h.append _).append _

section

variable {ctx : RuleContext} {n : Node} {s : String}

theorem announces_longMethod (h : Style.longMethod? ctx n = some s) :
    Category.basic.Announces s.toList := by
  simp only [Style.longMethod?, bind, Option.bind_eq_some_iff, Option.ite_none_right_eq_some,
    Option.some.injEq] at h
  obtain ⟨_, -, -, rfl⟩ := h
  have hwords : Category.basic.Announces "Method '".toList := .words (by decide)
  exact ((hwords.between _ _).between _ _).between _ _

theorem announces_missingDoc (h : Style.missingDoc? ctx n = some s) :
    Category.basic.Announces s.toList := by
  simp only [Style.missingDoc?, Option.ite_none_right_eq_some, Option.some.injEq] at h
  obtain ⟨-, rfl⟩ := h
  have hwords : Category.basic.Announces "Public method '".toList := .words (by decide)
  exact hwords.between _ _

theorem announces_asyncNaming (h : Style.asyncNaming? ctx n = some s) :
    Category.basic.Announces s.toList := by
  simp only [Style.asyncNaming?, Option.ite_none_right_eq_some, Option.some.injEq] at h
  obtain ⟨-, rfl⟩ := h
  have hwords : Category.basic.Announces "Async method '".toList := .words (by decide)
  exact hwords.between _ _

theorem announces_largeClass (h : Style.largeClass? ctx n = some s) :
    Category.basic.Announces s.toList := by
  simp only [Style.largeClass?, bind, Option.bind_eq_some_iff, Option.ite_none_right_eq_some,
    Option.some.injEq] at h
  obtain ⟨_, -, -, rfl⟩ := h
  have hwords : Category.basic.Announces "Class '".toList := .words (by decide)
  exact ((hwords.between _ _).between _ _).between _ _

theorem announces_highComplexity (h : Style.highComplexity? ctx n = some s) :
    Category.basic.Announces s.toList := by
  simp only [Style.highComplexity?, Option.ite_none_right_eq_some, Option.some.injEq] at h
  obtain ⟨-, rfl⟩ := h
  have hwords : Category.basic.Announces "Method '".toList := .words (by decide)
  exact (hwords.between _ _).between _ _

theorem announces_assignedSecret (h : Security.assignedSecret? ctx n = some s) :
    Category.security.Announces s.toList := by
  simp only [Security.assignedSecret?, bind, Option.bind_eq_some_iff,
    Option.ite_none_right_eq_some, Option.some.injEq] at h
  obtain ⟨_, -, _, -, -, rfl⟩ := h
  have hwords : Category.security.Announces
      "SECURITY: Possible hardcoded secret assigned to '".toList := .words (by decide)
  exact hwords.between _ _

theorem announces_deferredQuery (h : Performance.deferredQuery? ctx n = some s) :
    Category.performance.Announces s.toList := by
  simp only [Performance.deferredQuery?, bind, Option.bind_eq_some_iff,
    Option.ite_none_right_eq_some, Option.some.injEq] at h
  obtain ⟨_, -, -, rfl⟩ := h
  have hwords : Category.performance.Announces "PERFORMANCE: Query assigned to '".toList :=
    .words (by decide)
  exact hwords.between _ _

end

/-- What a query rule reports announces its category, if the message does so after the mark. -/
theorem announced_report {t : Text} (h : Category.linq.Announces ("LINQ: ".toList ++ t))
    (found : Option Node) : Announced .linq (Query.report found (String.ofList t)) := by
  refine announced_option (fun n => ?_) found
  have hmessage : Category.linq.Announces ("LINQ: " ++ String.ofList t).toList := by
    rwa [String.toList_append, String.toList_ofList (l := t)]
  rw [String.toList_append]
  exact (hmessage.between _ _).append _

theorem announced_style (ctx : RuleContext) :
    ∀ rule ∈ Style.rules, Announced rule.category (rule.detect ctx) := by
  simp only [Style.rules, List.forall_mem_cons, List.not_mem_nil, false_implies, implies_true,
    and_true]
  exact ⟨announced_filterMap (fun _ _ => announces_longMethod) _,
    announced_filterMap (fun _ _ => announces_missingDoc) _,
    announced_filterMap (fun _ _ => announces_asyncNaming) _,
    announced_filterMap (fun _ _ => announces_largeClass) _,
    announced_filterMap (fun _ _ => announces_highComplexity) _⟩

theorem announced_security (ctx : RuleContext) :
    ∀ rule ∈ Security.rules, Announced rule.category (rule.detect ctx) := by
  simp only [Security.rules, List.forall_mem_cons, List.not_mem_nil, false_implies, implies_true,
    and_true]
  refine ⟨announced_option (fun _ => .between (.words (by decide)) _ _) _, ?_,
    announced_map (fun _ => .between (.words (by decide)) _ _) _,
    announced_option (fun _ => .between (.words (by decide)) _ _) _,
    announced_map (fun _ => .between (.words (by decide)) _ _) _⟩
  -- secrets: those that are declared, then those that are assigned
  have hdeclared : Announced .security (Security.declaredSecrets ctx) :=
    announced_option (fun _ => .between (.words (by decide)) _ _) _
  have hassigned : Announced .security (Security.assignedSecrets ctx) :=
    announced_filterMap (fun _ _ => announces_assignedSecret) _
  exact List.forall_mem_append.2 ⟨hdeclared, hassigned⟩

theorem announced_performance (ctx : RuleContext) :
    ∀ rule ∈ Performance.rules, Announced rule.category (rule.detect ctx) := by
  simp only [Performance.rules, List.forall_mem_cons, List.not_mem_nil, false_implies,
    implies_true, and_true]
  exact ⟨announced_option (fun _ => .between (.words (by decide)) _ _) _,
    announced_ite (.words (by decide)) _,
    announced_filterMap (fun _ _ => announces_deferredQuery) _,
    announced_ite (.words (by decide)) _,
    announced_option (fun _ => .between (.words (by decide)) _ _) _,
    announced_map (fun _ => .between (.words (by decide)) _ _) _⟩

theorem announced_query (ctx : RuleContext) :
    ∀ rule ∈ Query.rules, Announced rule.category (rule.detect ctx) := by
  simp only [Query.rules, List.forall_mem_cons, List.not_mem_nil, false_implies, implies_true,
    and_true]
  exact ⟨announced_report (by decide) _, announced_report (by decide) _,
    announced_report (by decide) _, announced_report (by decide) _,
    announced_report (by decide) _, announced_report (by decide) _,
    announced_report (by decide) _,
    announced_option (fun _ => .between (.words (by decide)) _ _) _⟩

/-- **Every suggestion of a built-in rule announces the rule's category.** -/
theorem announced_builtIn {rule : Rule} (h : rule ∈ Registry.builtIn.rules) (ctx : RuleContext) :
    Announced rule.category (rule.detect ctx) := by
  simp only [Registry.builtIn, List.mem_append] at h
  rcases h with ((h | h) | h) | h
  · exact announced_style ctx rule h
  · exact announced_security ctx rule h
  · exact announced_performance ctx rule h
  · exact announced_query ctx rule h

/-! ## Groups that can be told apart again -/

namespace Groups

/-- Every suggestion stands in the group that its words tell. -/
def Tagged (g : Groups) : Prop := ∀ c, ∀ s ∈ g.get c, Category.ofSuggestion s = c

variable {g : Groups}

/-- Told from the words, the categories come in the order of reports. -/
theorem Tagged.pairwise_position (h : g.Tagged) :
    (g.ordered.map Category.ofSuggestion).Pairwise (fun a b => a.position ≤ b.position) := by
  rw [List.pairwise_map, ordered, List.pairwise_flatMap]
  constructor
  · -- within a group all categories are the same
    intro c _
    apply List.pairwise_of_forall_mem_list
    intro s hs u hu
    have hsame : Category.ofSuggestion s = Category.ofSuggestion u := by rw [h c s hs, h c u hu]
    exact Nat.le_of_eq (congrArg Category.position hsame)
  · -- between two groups they are those of the groups
    have hall : Category.all.Pairwise (fun c d => c.position ≤ d.position) := by decide
    refine hall.imp fun {c d} hcd => ?_
    intro s hs u hu
    rw [h c s hs, h d u hu]
    exact hcd

/-- Told from the words, the suggestions of a category are the group of the category. -/
theorem Tagged.filter_ordered (h : g.Tagged) (c : Category) :
    g.ordered.filter (fun s => Category.ofSuggestion s = c) = g.get c := by
  have hown : (g.get c).filter (fun s => Category.ofSuggestion s = c) = g.get c := by
    rw [List.filter_eq_self]
    intro s hs
    exact decide_eq_true (h c s hs)
  have hother : ∀ d, d ≠ c → (g.get d).filter (fun s => Category.ofSuggestion s = c) = [] := by
    intro d hdc
    rw [List.filter_eq_nil_iff]
    intro s hs hsc
    exact hdc ((h d s hs).symm.trans (of_decide_eq_true hsc))
  rw [ordered, List.filter_flatMap]
  cases c <;> simp [Category.all, hown, hother]

end Groups

namespace Registry

/-- Built-in rules, in whatever order and however often, file under what their words tell. -/
theorem tagged_run {r : Registry} (hrules : r.rules ⊆ builtIn.rules) (ctx : RuleContext) :
    (r.run ctx).Tagged := by
  intro c s hs
  obtain ⟨rule, hrule, rfl, hdetect⟩ := mem_get_run.1 hs
  exact (announced_builtIn (hrules hrule) ctx s hdetect).ofSuggestion_eq

/-- **The category of a suggestion can be told from its words.** For every unit, what a built-in
rule reports reads as a suggestion of the rule's category, and it is the tag of the category
followed by what is left when the mark is taken off. In a result of built-in rules, registered in
any order and with repetitions, the categories that the suggestions tell are therefore in the order
of reports, and sorting the suggestions by them gives back the groups of the run. -/
theorem suggestions_tagged :
    (∀ rule ∈ builtIn.rules, ∀ ctx, ∀ s ∈ rule.detect ctx,
        Category.ofSuggestion s = rule.category ∧
          s.toList = rule.category.tag ++ Report.withoutMark s rule.category) ∧
      ∀ registry : Registry, registry.rules ⊆ builtIn.rules →
        ∀ (ctx : RuleContext) (diagnostics : List Diagnostic) (metrics : Metrics),
          let found := (ReviewResult.aggregate diagnostics metrics (registry.run ctx)).suggestions
          (found.map Category.ofSuggestion).Pairwise (fun a b => a.position ≤ b.position) ∧
            ∀ c, found.filter (fun s => Category.ofSuggestion s = c) =
              (registry.run ctx).get c := by
  constructor
  · intro rule hrule ctx s hs
    have hannounces := announced_builtIn hrule ctx s hs
    exact ⟨hannounces.ofSuggestion_eq, hannounces.tag_append_withoutMark⟩
  · intro registry hrules ctx diagnostics metrics
    have htagged := tagged_run hrules ctx
    exact ⟨htagged.pairwise_position, htagged.filter_ordered⟩

/-- Performance rules before security rules, and these twice over: the suggestions are still found
by their categories, the two on weak generators twice. -/
theorem suggestions_tagged_repeated :
    let registry : Registry := ⟨Performance.rules ++ Security.rules ++ Security.rules⟩
    let found := (registry.run .twoAwaits).ordered
    (∃ s ∈ found, Category.ofSuggestion s = .security ∧
        s.toList = "SECURITY: ".toList ++ Report.withoutMark s .security) ∧
      (found.map Category.ofSuggestion).Pairwise (fun a b => a.position ≤ b.position) ∧
      found.filter (fun s => Category.ofSuggestion s = .security) =
        (registry.run .twoAwaits).get .security ∧
      ((registry.run .twoAwaits).get .security).length = 4 := by
  intro registry found
  have hrules : registry.rules ⊆ builtIn.rules := by
    intro rule hrule
    simp only [registry, builtIn, List.mem_append] at hrule ⊢
    rcases hrule with (h | h) | h
    · exact .inl (.inr h)
    · exact .inl (.inl (.inr h))
    · exact .inl (.inl (.inr h))
  obtain ⟨hsorted, hgroups⟩ := suggestions_tagged.2 registry hrules .twoAwaits [] ⟨0, 0, 0, 0⟩
  have hlength : ((registry.run .twoAwaits).get .security).length = 4 := by decide +kernel
  refine ⟨?_, hsorted, hgroups .security, hlength⟩
  obtain ⟨s, hs⟩ := List.exists_mem_of_length_pos (l := (registry.run .twoAwaits).get .security)
    (by rw [hlength]; decide)
  obtain ⟨rule, hrule, hcategory, hdetect⟩ := mem_get_run.1 hs
  have htagged := suggestions_tagged.1 rule (hrules hrule) .twoAwaits s hdetect
  rw [hcategory] at htagged
  refine ⟨s, ?_, htagged⟩
  rw [← hgroups .security] at hs
  exact (List.mem_filter.1 hs).1

end Registry

end UnitReview
