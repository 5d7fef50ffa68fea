import UnitReview.Rule.Registry

/-!
# The order of a registry's suggestions

A run asks the rules in the order of their registration and files each answer under its rule's
category. What comes out is the **stable partition** of the answers by category: categories in the
order of reports, and within a category the answers in the order of registration. The argument
is one step (`Groups.get_extend`, `Groups.size_extend`), the same for a whole list of rules
(`Groups.get_file`, `Groups.size_file`), and its readings for a run.

Since a group depends on the rules of its category alone, interleaving the categories in another
way changes nothing, and reordering all rules changes at most the order within the groups.
-/

set_option autoImplicit false

namespace UnitReview

/-! ## A unit to try rules on -/

/-- The expression `await new Random()`, at an offset and on a line of its own. -/
def Node.awaitedRandom (offset line : Nat) : Node :=
  let span (start stop : Nat) : Span :=
    ⟨offset + start, offset + stop, line, start + 1, line, stop + 1⟩
  let type : Node := ⟨.identifier, "identifier", some "type", span 10 16, [], []⟩
  let creation : Node :=
    ⟨.objectCreationExpression, "object_creation_expression", none, span 6 18, [type], []⟩
  ⟨.awaitExpression, "await_expression", none, span 0 18, [creation], []⟩

/-- A unit of two such expressions. -/
def RuleContext.twoAwaits : RuleContext where
  unit :=
    { root :=
        ⟨.compilationUnit, "compilation_unit", none, ⟨0, 39, 1, 1, 2, 20⟩,
          [.awaitedRandom 0 1, .awaitedRandom 20 2], []⟩
      source := "await new Random();\nawait new Random();".toList
      displayName := "Dice.cs" }
  diagnostics := []

/-! ## Filing answers -/

namespace Groups

/-- Groups that agree on every category are equal. -/
theorem ext_get {g h : Groups} (hget : ∀ c, g.get c = h.get c) : g = h := by
  obtain ⟨gb, gs, gp, gl⟩ := g
  obtain ⟨hb, hs, hp, hl⟩ := h
  have h₁ : gb = hb := hget .basic
  have h₂ : gs = hs := hget .security
  have h₃ : gp = hp := hget .performance
  have h₄ : gl = hl := hget .linq
  rw [h₁, h₂, h₃, h₄]

theorem size_extend (g : Groups) (c : Category) (items : List String) :
    (g.extend c items).size = g.size + items.length := by
  cases c <;> simp only [size, Category.all, List.foldr, extend, get, List.length_append] <;> omega

/-- The groups after filing the answers of several rules. -/
def file (ctx : RuleContext) (g : Groups) (rules : List Rule) : Groups :=
  rules.foldl (fun g rule => g.extend rule.category (rule.detect ctx)) g

/-- **What filing adds to a category**: the answers of its rules, in the order of the rules. -/
theorem get_file (ctx : RuleContext) (g : Groups) (rules : List Rule) (c : Category) :
    (g.file ctx rules).get c =
      g.get c ++ (rules.filter (·.category = c)).flatMap (·.detect ctx) := by
  induction rules generalizing g with
  | nil => simp [file]
  | cons rule rules ih =>
      have hstep : g.file ctx (rule :: rules) =
          (g.extend rule.category (rule.detect ctx)).file ctx rules := rfl
      rw [hstep, ih, get_extend]
      by_cases hc : rule.category = c
      · rw [if_pos hc, List.filter_cons_of_pos (by simpa using hc), List.flatMap_cons,
          List.append_assoc]
      · rw [if_neg hc, List.filter_cons_of_neg (by simpa using hc)]

/-- **Filing loses nothing and adds nothing.** -/
theorem size_file (ctx : RuleContext) (g : Groups) (rules : List Rule) :
    (g.file ctx rules).size =
      g.size + rules.foldr (fun rule n => (rule.detect ctx).length + n) 0 := by
  induction rules generalizing g with
  | nil => simp [file]
  | cons rule rules ih =>
      have hstep : g.file ctx (rule :: rules) =
          (g.extend rule.category (rule.detect ctx)).file ctx rules := rfl
      rw [hstep, ih, size_extend, List.foldr_cons]
      omega

end Groups

/-! ## Runs -/

namespace Registry

/-- The registry after registering rules one after the other. -/
def ofRules (rules : List Rule) : Registry := rules.foldl register empty

/-- Registering appends, whatever is registered already. -/
theorem rules_foldl_register (r : Registry) (rules : List Rule) :
    (rules.foldl register r).rules = r.rules ++ rules := by
  induction rules generalizing r with
  | nil => simp
  | cons rule rules ih =>
      rw [List.foldl_cons, ih, register, List.append_assoc]
      rfl

@[simp] theorem rules_ofRules (rules : List Rule) : (ofRules rules).rules = rules :=
  rules_foldl_register empty rules

/-- The group of a category holds the answers of its rules, in the order of registration. -/
theorem get_run (r : Registry) (ctx : RuleContext) (c : Category) :
    (r.run ctx).get c = (r.rules.filter (·.category = c)).flatMap (·.detect ctx) := by
  have h := Groups.get_file ctx .empty r.rules c
  rwa [Groups.get_empty, List.nil_append] at h

/-- A suggestion in a group comes from a rule of the category. -/
theorem mem_get_run {r : Registry} {ctx : RuleContext} {c : Category} {s : String} :
    s ∈ (r.run ctx).get c ↔ ∃ rule ∈ r.rules, rule.category = c ∧ s ∈ rule.detect ctx := by
  rw [get_run, List.mem_flatMap]
  constructor
  · rintro ⟨rule, hrule, hs⟩
    rw [List.mem_filter] at hrule
    exact ⟨rule, hrule.1, of_decide_eq_true hrule.2, hs⟩
  · rintro ⟨rule, hrule, hc, hs⟩
    exact ⟨rule, List.mem_filter.2 ⟨hrule, decide_eq_true hc⟩, hs⟩

theorem length_ordered_run (r : Registry) (ctx : RuleContext) :
    (r.run ctx).ordered.length =
      r.rules.foldr (fun rule n => (rule.detect ctx).length + n) 0 := by
  rw [Groups.length_ordered]
  have h := Groups.size_file ctx .empty r.rules
  have hempty : Groups.empty.size = 0 := rfl
  rwa [hempty, Nat.zero_add] at h

/-- The group of a category depends on the rules of that category alone. -/
theorem get_run_congr {r r' : Registry} {c : Category} (ctx : RuleContext)
    (h : r.rules.filter (·.category = c) = r'.rules.filter (·.category = c)) :
    (r.run ctx).get c = (r'.run ctx).get c := by
  rw [get_run, get_run, h]

/-- The order of registration decides at most the order within the groups. -/
theorem perm_get_run {r r' : Registry} (ctx : RuleContext) (h : r.rules.Perm r'.rules)
    (c : Category) : ((r.run ctx).get c).Perm ((r'.run ctx).get c) := by
  rw [get_run, get_run]
  exact (h.filter _).flatMap_right _

/-- **A run is the stable partition of the rules' answers by category.** For rules registered one
after the other, whatever their identifiers and categories, the suggestions are, category by
category, the answers of the category's rules in the order of registration, and none is lost or
merged. Rules that are the same within every category therefore lead to the same groups, and the
same rules in another order to the same suggestions, up to their order, in every group. -/
theorem ordered_run_partition (rules : List Rule) (ctx : RuleContext) :
    ((ofRules rules).run ctx).ordered =
        (Category.all.flatMap fun c =>
          (rules.filter (·.category = c)).flatMap (·.detect ctx)) ∧
      ((ofRules rules).run ctx).ordered.length =
        rules.foldr (fun rule n => (rule.detect ctx).length + n) 0 ∧
      (∀ rules' : List Rule,
        (∀ c, rules.filter (·.category = c) = rules'.filter (·.category = c)) →
          (ofRules rules).run ctx = (ofRules rules').run ctx) ∧
      (∀ rules' : List Rule, rules.Perm rules' →
        ∀ c, (((ofRules rules).run ctx).get c).Perm (((ofRules rules').run ctx).get c)) := by
  refine ⟨?_, ?_, ?_, ?_⟩
  · have hget : ((ofRules rules).run ctx).get = fun c =>
        (rules.filter (·.category = c)).flatMap (·.detect ctx) := by
      funext c
      rw [get_run, rules_ofRules]
    rw [Groups.ordered, hget]
  · rw [length_ordered_run, rules_ofRules]
  · intro rules' hsame
    apply Groups.ext_get
    intro c
    apply get_run_congr
    rw [rules_ofRules, rules_ofRules]
    exact hsame c
  · intro rules' hperm
    apply perm_get_run
    rw [rules_ofRules, rules_ofRules]
    exact hperm

/-- Three rules that share an identifier: moving one of them past a rule of another category
changes nothing, and turning the three around keeps what every group holds. -/
theorem ordered_run_partition_interleaved :
    let echo : Rule := ⟨"twin", .linq, fun _ => ["again", "again"]⟩
    let tail : Rule := ⟨"twin", .linq, fun _ => ["last"]⟩
    let name : Rule := ⟨"twin", .basic, fun ctx => [ctx.unit.displayName]⟩
    ((ofRules [echo, name, tail]).run .twoAwaits).ordered =
        ["Dice.cs", "again", "again", "last"] ∧
      (ofRules [echo, name, tail]).run .twoAwaits = (ofRules [name, echo, tail]).run .twoAwaits ∧
      ∀ c, (((ofRules [echo, name, tail]).run .twoAwaits).get c).Perm
        (((ofRules [tail, name, echo]).run .twoAwaits).get c) := by
  intro echo tail name
  obtain ⟨hordered, -, hsame, hperm⟩ := ordered_run_partition [echo, name, tail] .twoAwaits
  refine ⟨hordered, hsame _ ?_, hperm _ (List.reverse_perm [tail, name, echo])⟩
  intro c
  cases c <;> rfl

end Registry

end UnitReview
