import UnitReview.Proofs.Wire.Forms
import UnitReview.Proofs.Wire.RoundTrip

/-!
# Results as objects

The document of a result may be rewritten by other programs on its way. They may put the fields of
its objects in another order, lay the text out anew, add fields of their own and write an absent
place as null. None of this changes the result that is read. A field that occurs twice or is missing
is found out, and so is a number that is no machine word.
-/

set_option autoImplicit false

namespace UnitReview

open Json

namespace Wire

/-! ## Fields in any order, among others -/

/-- **The fields `ms` are those `given`, in any order, among others of unknown names.** -/
def Arranged (known : List String) (given ms : List (Text × Value)) : Prop :=
  ∃ extra named : List (Text × Value), (∀ e ∈ extra, ∀ k ∈ known, e.1 ≠ k.toList) ∧
    named.Perm (given ++ extra) ∧
    List.Forall₂ (fun n m => Spells n.1 m.1 ∧ m.2 = n.2) named ms

section Named

variable {k : Text} {named ms : List (Text × Value)}
  (h : List.Forall₂ (fun n m : Text × Value => Spells n.1 m.1 ∧ m.2 = n.2) named ms)
include h

theorem lacks_of_filter_eq_nil (hk : named.filter (·.1 == k) = []) : Lacks k ms := by
  induction h with
  | nil => exact fun _ hm => by cases hm
  | @cons n m ns ms hnm _ ih =>
      by_cases hn : n.1 = k
      · simp [hn] at hk
      · rw [List.filter_cons_of_neg (by simpa using hn)] at hk
        exact lacks_cons.2 ⟨fun hspells => hn (hnm.1.unique hspells), ih hk⟩

theorem once_of_filter_eq_singleton {v : Value} (hk : named.filter (·.1 == k) = [(k, v)]) :
    Once k v ms := by
  induction h with
  | nil => cases hk
  | @cons n m ns ms hnm hall ih =>
      obtain ⟨b, v'⟩ := m
      by_cases hn : n.1 = k
      · rw [List.filter_cons_of_pos (by simpa using hn)] at hk
        obtain ⟨rfl, hnil⟩ := List.cons.inj hk
        obtain ⟨hspells, rfl⟩ := hnm
        exact .here hspells (lacks_of_filter_eq_nil hall hnil)
      · rw [List.filter_cons_of_neg (by simpa using hn)] at hk
        exact .later (fun hspells => hn (hnm.1.unique hspells)) (ih hk)

end Named

namespace Arranged

variable {known : List String} {given ms : List (Text × Value)}

theorem named (h : Arranged known given ms) : ∀ m ∈ ms, ∃ k, Spells k m.1 := by
  obtain ⟨_, named, -, -, hall⟩ := h
  induction hall with
  | nil => exact fun _ hm => by cases hm
  | cons hnm _ ih => exact List.forall_mem_cons.2 ⟨⟨_, hnm.1⟩, ih⟩

/-- Only the given fields matter for a known name. -/
theorem exists_filter {k : String} (h : Arranged known given ms) (hk : k ∈ known) :
    ∃ named, List.Forall₂ (fun n m : Text × Value => Spells n.1 m.1 ∧ m.2 = n.2) named ms ∧
      (named.filter (·.1 == k.toList)).Perm (given.filter (·.1 == k.toList)) := by
  obtain ⟨extra, named, hextra, hperm, hall⟩ := h
  have hnone : extra.filter (·.1 == k.toList) = [] := by
    rw [List.filter_eq_nil_iff]
    intro e he
    simpa using hextra e he k hk
  refine ⟨named, hall, ?_⟩
  have hfilter := hperm.filter (·.1 == k.toList)
  rwa [List.filter_append, hnone, List.append_nil] at hfilter

theorem once {k : String} {v : Value} (h : Arranged known given ms) (hk : k ∈ known)
    (hgiven : given.filter (·.1 == k.toList) = [(k.toList, v)]) : Once k.toList v ms := by
  obtain ⟨named, hall, hperm⟩ := h.exists_filter hk
  rw [hgiven, List.perm_singleton] at hperm
  exact once_of_filter_eq_singleton hall hperm

theorem lacks {k : String} (h : Arranged known given ms) (hk : k ∈ known)
    (hgiven : given.filter (·.1 == k.toList) = []) : Lacks k.toList ms := by
  obtain ⟨named, hall, hperm⟩ := h.exists_filter hk
  rw [hgiven, List.perm_nil] at hperm
  exact lacks_of_filter_eq_nil hall hperm

end Arranged

theorem forall₂_valueFields (fs : List (Text × Json)) :
    List.Forall₂ (fun n m : Text × Value => Spells n.1 m.1 ∧ m.2 = n.2)
      (fs.map fun f => (f.1, f.2.value)) (valueFields fs) := by
  induction fs with
  | nil => exact .nil
  | cons f fs ih => exact .cons ⟨spells_escape f.1, rfl⟩ ih

/-- The fields of a document, as the writer writes them. -/
theorem arranged_valueFields (known : List String) (fs : List (Text × Json)) :
    Arranged known (fs.map fun f => (f.1, f.2.value)) (valueFields fs) :=
  ⟨[], _, by simp, by simp, forall₂_valueFields fs⟩

/-! ## Objects that stand for records

`N x n` says that the number text `x` is accepted for `n`. -/

section Forms

variable (N : Text → Nat → Prop)

/-- A number. -/
def CountForm (v : Value) (n : Nat) : Prop := ∃ x, v = .number x ∧ N x n

/-- The names of the fields of a place. -/
def locationNames : List String := ["line", "column", "file"]

/-- The names of the fields of metrics. -/
def metricsNames : List String := ["classes", "methods", "lines", "complexity"]

/-- The names of the fields of a diagnostic. -/
def diagnosticNames : List String := ["id", "severity", "message", "location", "category"]

/-- The names of the fields of a result. -/
def resultNames : List String := ["diagnostics", "metrics", "suggestions"]

/-- A place. -/
def LocationForm (v : Value) (l : Location) : Prop :=
  ∃ x y z ms, v = .object ms ∧
    CountForm N x l.line ∧ CountForm N y l.column ∧ IsText z l.file ∧
    Arranged locationNames
      [("line".toList, x), ("column".toList, y), ("file".toList, z)] ms

/-- Metrics. -/
def MetricsForm (v : Value) (m : Metrics) : Prop :=
  ∃ x y z w ms, v = .object ms ∧
    CountForm N x m.classes ∧ CountForm N y m.methods ∧ CountForm N z m.lines ∧
    CountForm N w m.complexity ∧
    Arranged metricsNames
      [("classes".toList, x), ("methods".toList, y), ("lines".toList, z), ("complexity".toList, w)]
      ms

/-- The field for the place of a diagnostic: an absent place is null or left out. -/
def PlaceFields : Option Location → List (Text × Value) → Prop
  | none, p => p = [] ∨ p = [("location".toList, .null)]
  | some l, p => ∃ v, p = [("location".toList, v)] ∧ LocationForm N v l

/-- A diagnostic. -/
def DiagnosticForm (v : Value) (d : Diagnostic) : Prop :=
  ∃ x y z w p ms, v = .object ms ∧
    IsText x d.id ∧ IsText y d.severity.name ∧ IsText z d.message ∧ IsText w d.category ∧
    PlaceFields N d.location p ∧
    Arranged diagnosticNames
      ([("id".toList, x), ("severity".toList, y), ("message".toList, z)] ++ p ++
        [("category".toList, w)]) ms

/-- A result. -/
def ResultForm (v : Value) (r : ReviewResult) : Prop :=
  ∃ x y z ms, v = .object ms ∧
    ListOf (DiagnosticForm N) x r.diagnostics ∧ MetricsForm N y r.metrics ∧
    ListOf IsText z r.suggestions ∧
    Arranged resultNames
      [("diagnostics".toList, x), ("metrics".toList, y), ("suggestions".toList, z)] ms

end Forms

/-! ## Objects of the right shape

An object of the right shape stands for a record if and only if its numbers are machine words. -/

theorem arranged_location {x y z : Value} {ms : List (Text × Value)}
    (h : Arranged locationNames
      [("line".toList, x), ("column".toList, y), ("file".toList, z)] ms) :
    Once "line".toList x ms ∧ Once "column".toList y ms ∧ Once "file".toList z ms :=
  ⟨h.once (k := "line") (by decide) rfl, h.once (k := "column") (by decide) rfl,
    h.once (k := "file") (by decide) rfl⟩

theorem LocationForm.locationOf {v : Value} {l : Location} (h : LocationForm WordText v l) :
    LocationOf v l := by
  obtain ⟨x, y, z, ms, rfl, hline, hcolumn, hfile, hms⟩ := h
  obtain ⟨hx, hy, hz⟩ := arranged_location hms
  refine Or.inr ⟨ms, rfl, hms.named, fun i => ?_⟩
  cases i with
  | line => exact ⟨x, hx, hline⟩
  | column => exact ⟨y, hy, hcolumn⟩
  | file => exact ⟨z, hz, hfile⟩

theorem LocationForm.of_locationOf {N : Text → Nat → Prop} {v : Value} {l₀ l : Location}
    (h : LocationForm N v l₀) (hl : LocationOf v l) : LocationForm WordText v l := by
  obtain ⟨x, y, z, ms, rfl, -, -, -, hms⟩ := h
  obtain ⟨hx, hy, hz⟩ := arranged_location hms
  obtain ⟨_, _, _, hv, -⟩ | ⟨_, hv, -, hfilled⟩ := hl
  · cases hv
  cases hv
  obtain ⟨_, hx', hline⟩ := hfilled .line
  obtain ⟨_, hy', hcolumn⟩ := hfilled .column
  obtain ⟨_, hz', hfile⟩ := hfilled .file
  obtain rfl := hx.unique hx'
  obtain rfl := hy.unique hy'
  obtain rfl := hz.unique hz'
  exact ⟨x, y, z, ms, rfl, hline, hcolumn, hfile, hms⟩

theorem arranged_metrics {x y z w : Value} {ms : List (Text × Value)}
    (h : Arranged metricsNames
      [("classes".toList, x), ("methods".toList, y), ("lines".toList, z), ("complexity".toList, w)]
      ms) :
    Once "classes".toList x ms ∧ Once "methods".toList y ms ∧ Once "lines".toList z ms ∧
      Once "complexity".toList w ms :=
  ⟨h.once (k := "classes") (by decide) rfl, h.once (k := "methods") (by decide) rfl,
    h.once (k := "lines") (by decide) rfl, h.once (k := "complexity") (by decide) rfl⟩

theorem MetricsForm.metricsOf {v : Value} {m : Metrics} (h : MetricsForm WordText v m) :
    MetricsOf v m := by
  obtain ⟨x, y, z, w, ms, rfl, hclasses, hmethods, hlines, hcomplexity, hms⟩ := h
  obtain ⟨hx, hy, hz, hw⟩ := arranged_metrics hms
  refine Or.inr ⟨ms, rfl, hms.named, fun i => ?_⟩
  cases i with
  | classes => exact ⟨x, hx, hclasses⟩
  | methods => exact ⟨y, hy, hmethods⟩
  | lines => exact ⟨z, hz, hlines⟩
  | complexity => exact ⟨w, hw, hcomplexity⟩

theorem MetricsForm.of_metricsOf {N : Text → Nat → Prop} {v : Value} {m₀ m : Metrics}
    (h : MetricsForm N v m₀) (hm : MetricsOf v m) : MetricsForm WordText v m := by
  obtain ⟨x, y, z, w, ms, rfl, -, -, -, -, hms⟩ := h
  obtain ⟨hx, hy, hz, hw⟩ := arranged_metrics hms
  obtain ⟨_, _, _, _, hv, -⟩ | ⟨_, hv, -, hfilled⟩ := hm
  · cases hv
  cases hv
  obtain ⟨_, hx', hclasses⟩ := hfilled .classes
  obtain ⟨_, hy', hmethods⟩ := hfilled .methods
  obtain ⟨_, hz', hlines⟩ := hfilled .lines
  obtain ⟨_, hw', hcomplexity⟩ := hfilled .complexity
  obtain rfl := hx.unique hx'
  obtain rfl := hy.unique hy'
  obtain rfl := hz.unique hz'
  obtain rfl := hw.unique hw'
  exact ⟨x, y, z, w, ms, rfl, hclasses, hmethods, hlines, hcomplexity, hms⟩

/-- The field for the place is left out, or there is one. -/
theorem PlaceFields.shape {N : Text → Nat → Prop} {o : Option Location} {p : List (Text × Value)}
    (h : PlaceFields N o p) : p = [] ∨ ∃ v, p = [("location".toList, v)] := by
  cases o with
  | none => exact h.imp_right fun hp => ⟨.null, hp⟩
  | some l => exact Or.inr (h.imp fun _ hp => hp.1)

theorem arranged_diagnostic {x y z w : Value} {p ms : List (Text × Value)}
    (hp : p = [] ∨ ∃ v, p = [("location".toList, v)])
    (h : Arranged diagnosticNames
      ([("id".toList, x), ("severity".toList, y), ("message".toList, z)] ++ p ++
        [("category".toList, w)]) ms) :
    Once "id".toList x ms ∧ Once "severity".toList y ms ∧ Once "message".toList z ms ∧
      Once "category".toList w ms ∧
      ((p = [] ∧ Lacks "location".toList ms) ∨
        ∃ v, p = [("location".toList, v)] ∧ Once "location".toList v ms) := by
  rcases hp with rfl | ⟨v, rfl⟩
  · exact ⟨h.once (k := "id") (by decide) rfl, h.once (k := "severity") (by decide) rfl,
      h.once (k := "message") (by decide) rfl, h.once (k := "category") (by decide) rfl,
      Or.inl ⟨rfl, h.lacks (k := "location") (by decide) rfl⟩⟩
  · exact ⟨h.once (k := "id") (by decide) rfl, h.once (k := "severity") (by decide) rfl,
      h.once (k := "message") (by decide) rfl, h.once (k := "category") (by decide) rfl,
      Or.inr ⟨v, rfl, h.once (k := "location") (by decide) rfl⟩⟩

/-- What the field for the place is read as. -/
theorem PlaceFields.filled {o : Option Location} {p ms : List (Text × Value)}
    (hp : PlaceFields WordText o p)
    (hms : (p = [] ∧ Lacks "location".toList ms) ∨
      ∃ v, p = [("location".toList, v)] ∧ Once "location".toList v ms) :
    ∃ seen : Option (Option Location), seen.getD none = o ∧
      Filled "location".toList (Optionally LocationOf) ms seen := by
  obtain ⟨rfl, hlacks⟩ | ⟨v, rfl, honce⟩ := hms
  · cases o with
    | none => exact ⟨none, rfl, hlacks⟩
    | some l =>
        obtain ⟨_, hnil, -⟩ := hp
        cases hnil
  · refine ⟨some o, rfl, v, honce, ?_⟩
    cases o with
    | none =>
        rcases hp with hnil | hnull
        · cases hnil
        · cases hnull
          exact Or.inl ⟨rfl, rfl⟩
    | some l =>
        obtain ⟨_, heq, hl⟩ := hp
        cases heq
        refine Or.inr ⟨?_, l, rfl, hl.locationOf⟩
        obtain ⟨_, _, _, ms', rfl, -⟩ := hl
        exact Value.noConfusion

theorem PlaceFields.of_filled {N : Text → Nat → Prop} {o₀ : Option Location}
    {p ms : List (Text × Value)} (hp : PlaceFields N o₀ p)
    (hms : (p = [] ∧ Lacks "location".toList ms) ∨
      ∃ v, p = [("location".toList, v)] ∧ Once "location".toList v ms)
    {seen : Option (Option Location)}
    (hseen : Filled "location".toList (Optionally LocationOf) ms seen) :
    PlaceFields WordText (seen.getD none) p := by
  obtain ⟨rfl, hlacks⟩ | ⟨v, rfl, honce⟩ := hms
  · cases seen with
    | none => exact Or.inl rfl
    | some o =>
        obtain ⟨_, honce, -⟩ := hseen
        exact absurd hlacks honce.not_lacks
  · cases seen with
    | none => exact absurd hseen honce.not_lacks
    | some o =>
        obtain ⟨_, honce', ho⟩ := hseen
        obtain rfl := honce.unique honce'
        obtain ⟨rfl, rfl⟩ | ⟨hnull, l, rfl, hl⟩ := ho
        · exact Or.inr rfl
        · -- there is a place, so the field has the shape of one
          cases o₀ with
          | none =>
              rcases hp with hnil | heq
              · cases hnil
              · cases heq
                exact absurd rfl hnull
          | some l₀ =>
              obtain ⟨_, heq, hl₀⟩ := hp
              cases heq
              exact ⟨v, rfl, hl₀.of_locationOf hl⟩

theorem DiagnosticForm.diagnosticOf {v : Value} {d : Diagnostic}
    (h : DiagnosticForm WordText v d) : DiagnosticOf v d := by
  obtain ⟨x, y, z, w, p, ms, rfl, hid, hseverity, hmessage, hcategory, hp, hms⟩ := h
  obtain ⟨hx, hy, hz, hw, hplace⟩ := arranged_diagnostic hp.shape hms
  obtain ⟨seen, hseen, hfilled⟩ := hp.filled hplace
  refine Or.inr ⟨ms, seen, rfl, hseen, hms.named, fun i => ?_⟩
  cases i with
  | id => exact ⟨x, hx, hid⟩
  | severity => exact ⟨y, hy, Or.inl hseverity⟩
  | message => exact ⟨z, hz, hmessage⟩
  | location => exact hfilled
  | category => exact ⟨w, hw, hcategory⟩

theorem DiagnosticForm.of_diagnosticOf {N : Text → Nat → Prop} {v : Value} {d₀ d : Diagnostic}
    (h : DiagnosticForm N v d₀) (hd : DiagnosticOf v d) : DiagnosticForm WordText v d := by
  obtain ⟨x, y, z, w, p, ms, rfl, -, hstring, -, -, hp, hms⟩ := h
  obtain ⟨hx, hy, hz, hw, hplace⟩ := arranged_diagnostic hp.shape hms
  obtain ⟨_, _, _, _, _, hv, -⟩ | ⟨_, seen, hv, hseen, -, hfilled⟩ := hd
  · cases hv
  cases hv
  obtain ⟨_, hx', hid⟩ := hfilled .id
  obtain ⟨_, hy', hseverity⟩ := hfilled .severity
  obtain ⟨_, hz', hmessage⟩ := hfilled .message
  obtain ⟨_, hw', hcategory⟩ := hfilled .category
  obtain rfl := hx.unique hx'
  obtain rfl := hy.unique hy'
  obtain rfl := hz.unique hz'
  obtain rfl := hw.unique hw'
  have hname : IsText y d.severity.name := by
    refine hseverity.resolve_right ?_
    rintro ⟨b, rfl, -⟩
    obtain ⟨_, hb, -⟩ := hstring
    cases hb
  have hlocation : PlaceFields WordText d.location p := hseen ▸ hp.of_filled hplace (hfilled .location)
  exact ⟨x, y, z, w, p, ms, rfl, hid, hname, hmessage, hcategory, hlocation, hms⟩

theorem diagnosticForms_of {N : Text → Nat → Prop} {vs : List Value} {ds₀ ds : List Diagnostic}
    (h₀ : List.Forall₂ (DiagnosticForm N) vs ds₀) (h : List.Forall₂ DiagnosticOf vs ds) :
    List.Forall₂ (DiagnosticForm WordText) vs ds := by
  induction h generalizing ds₀ with
  | nil => exact .nil
  | cons hd _ ih =>
      cases h₀ with
      | cons hd₀ h₀ => exact .cons (hd₀.of_diagnosticOf hd) (ih h₀)

theorem arranged_result {x y z : Value} {ms : List (Text × Value)}
    (h : Arranged resultNames
      [("diagnostics".toList, x), ("metrics".toList, y), ("suggestions".toList, z)] ms) :
    Once "diagnostics".toList x ms ∧ Once "metrics".toList y ms ∧ Once "suggestions".toList z ms :=
  ⟨h.once (k := "diagnostics") (by decide) rfl, h.once (k := "metrics") (by decide) rfl,
    h.once (k := "suggestions") (by decide) rfl⟩

theorem ResultForm.resultOf {v : Value} {r : ReviewResult} (h : ResultForm WordText v r) :
    ResultOf v r := by
  obtain ⟨x, y, z, ms, rfl, ⟨ds, rfl, hds⟩, hmetrics, hsuggestions, hms⟩ := h
  obtain ⟨hx, hy, hz⟩ := arranged_result hms
  refine Or.inr ⟨ms, rfl, hms.named, fun i => ?_⟩
  cases i with
  | diagnostics => exact ⟨_, hx, ds, rfl, hds.imp fun _ _ hd => hd.diagnosticOf⟩
  | metrics => exact ⟨y, hy, hmetrics.metricsOf⟩
  | suggestions => exact ⟨z, hz, hsuggestions⟩

theorem ResultForm.of_resultOf {N : Text → Nat → Prop} {v : Value} {r₀ r : ReviewResult}
    (h : ResultForm N v r₀) (hr : ResultOf v r) : ResultForm WordText v r := by
  obtain ⟨x, y, z, ms, rfl, ⟨ds, rfl, hds₀⟩, hmetrics₀, -, hms⟩ := h
  obtain ⟨hx, hy, hz⟩ := arranged_result hms
  obtain ⟨_, _, _, hv, -⟩ | ⟨_, hv, -, hfilled⟩ := hr
  · cases hv
  cases hv
  obtain ⟨_, hx', ds', heq, hds⟩ := hfilled .diagnostics
  obtain ⟨_, hy', hmetrics⟩ := hfilled .metrics
  obtain ⟨_, hz', hsuggestions⟩ := hfilled .suggestions
  obtain rfl := hx.unique hx'
  obtain rfl := hy.unique hy'
  obtain rfl := hz.unique hz'
  cases heq
  exact ⟨.list ds, y, z, ms, rfl, ⟨ds, rfl, diagnosticForms_of hds₀ hds⟩,
    hmetrics₀.of_metricsOf hmetrics, hsuggestions, hms⟩

/-! ## The document itself -/

theorem isText_value (s : String) : IsText (string s).value s :=
  ⟨_, rfl, spells_escape s.toList⟩

theorem countForm_value {n : Nat} (hn : n ≤ maxWord) : CountForm WordText (Json.num n).value n :=
  ⟨_, rfl, wordText_toString (Nat.lt_succ_of_le hn)⟩

theorem locationForm_value {l : Location} (hl : l.InWords) :
    LocationForm WordText (location l).value l :=
  ⟨_, _, _, _, rfl, countForm_value hl.1, countForm_value hl.2, isText_value l.file,
    arranged_valueFields locationNames (locationMembers l)⟩

theorem metricsForm_value {m : Metrics} (hm : m.InWords) :
    MetricsForm WordText (metrics m).value m := by
  obtain ⟨hclasses, hmethods, hlines, hcomplexity⟩ := hm
  exact ⟨_, _, _, _, _, rfl, countForm_value hclasses, countForm_value hmethods,
    countForm_value hlines, countForm_value hcomplexity,
    arranged_valueFields metricsNames (metricsMembers m)⟩

theorem diagnosticForm_value {d : Diagnostic} (hd : d.InWords) :
    DiagnosticForm WordText (diagnostic d).value d := by
  have hfields := arranged_valueFields diagnosticNames (diagnosticMembers d)
  rw [diagnosticMembers, List.map_append, List.map_append] at hfields
  refine ⟨_, _, _, _, _, _, rfl, isText_value d.id, isText_value d.severity.name,
    isText_value d.message, isText_value d.category, ?_, hfields⟩
  cases hplace : d.location with
  | none => exact Or.inl rfl
  | some l => exact ⟨_, rfl, locationForm_value (hd l hplace)⟩

theorem listOf_valueItems {α : Type} {D : Value → α → Prop} {f : α → Json} {xs : List α}
    (h : ∀ x ∈ xs, D (f x).value x) : ListOf D (Json.arr (xs.map f)).value xs := by
  refine ⟨_, rfl, ?_⟩
  induction xs with
  | nil => exact .nil
  | cons x xs ih => exact .cons (h x (by simp)) (ih fun y hy => h y (by simp [hy]))

/-- The document of a result is one of its forms. -/
theorem resultForm_value {r : ReviewResult} (hr : r.InWords) :
    ResultForm WordText (document r).value r :=
  ⟨_, _, _, _, rfl, listOf_valueItems fun d hd => diagnosticForm_value (hr.1 d hd),
    metricsForm_value hr.2, listOf_valueItems fun s _ => isText_value s,
    arranged_valueFields resultNames (resultMembers r)⟩

theorem textOf_pretty (j : Json) : TextOf j.value j.pretty := by
  have htext := TextOf.blanks blank_nil (written_prettyAt 0 j) blank_nil
  rwa [List.nil_append, List.append_nil] at htext

/-! ## Repeated and missing fields -/

/-- A known field occurs twice, or a required one is missing. -/
def FaultyFields (known required : List String) (ms : List (Text × Value)) : Prop :=
  (∃ k ∈ known, Repeats k.toList ms) ∨ ∃ k ∈ required, Lacks k.toList ms

/-- The fields of a place are faulty. -/
inductive FaultyLocation : Value → Prop where
  | fields {ms : List (Text × Value)} (h : FaultyFields locationNames locationNames ms) :
      FaultyLocation (.object ms)

/-- The fields of metrics are faulty. -/
inductive FaultyMetrics : Value → Prop where
  | fields {ms : List (Text × Value)} (h : FaultyFields metricsNames metricsNames ms) :
      FaultyMetrics (.object ms)

/-- The fields of a diagnostic are faulty, or those of its place; only the place may be missing. -/
inductive FaultyDiagnostic : Value → Prop where
  | fields {ms : List (Text × Value)}
      (h : FaultyFields diagnosticNames (diagnosticNames.erase "location") ms) :
      FaultyDiagnostic (.object ms)
  | location {ms : List (Text × Value)} {b : Text} {v : Value} (hmem : (b, v) ∈ ms)
      (hb : Spells "location".toList b) (hv : FaultyLocation v) : FaultyDiagnostic (.object ms)

/-- The fields of a result are faulty, or those of its metrics or of a diagnostic. -/
inductive FaultyResult : Value → Prop where
  | fields {ms : List (Text × Value)} (h : FaultyFields resultNames resultNames ms) :
      FaultyResult (.object ms)
  | metrics {ms : List (Text × Value)} {b : Text} {v : Value} (hmem : (b, v) ∈ ms)
      (hb : Spells "metrics".toList b) (hv : FaultyMetrics v) : FaultyResult (.object ms)
  | diagnostic {ms : List (Text × Value)} {b : Text} {v : Value} {vs : List Value}
      (hmem : (b, .list vs) ∈ ms) (hb : Spells "diagnostics".toList b) (hv : v ∈ vs)
      (hd : FaultyDiagnostic v) : FaultyResult (.object ms)

theorem Filled.not_repeats {α : Type} {k : Text} {E : Value → α → Prop}
    {ms : List (Text × Value)} {o : Option α} (h : Filled k E ms o) : ¬ Repeats k ms := by
  cases o with
  | none =>
      rintro ⟨m, _, hsub, hm, -⟩
      exact h m (hsub.subset (by simp)) hm
  | some a =>
      obtain ⟨v, honce, -⟩ := h
      exact honce.not_repeats

theorem Filled.not_lacks {α : Type} {k : Text} {E : Value → α → Prop}
    {ms : List (Text × Value)} {a : α} (h : Filled k E ms (some a)) : ¬ Lacks k ms := by
  obtain ⟨v, honce, -⟩ := h
  exact honce.not_lacks

theorem exists_of_forall₂_mem {α β : Type} {R : α → β → Prop} {xs : List α} {ys : List β}
    (h : List.Forall₂ R xs ys) {x : α} (hx : x ∈ xs) : ∃ y, R x y := by
  induction h with
  | nil => cases hx
  | cons hxy _ ih =>
      rcases List.mem_cons.1 hx with rfl | hx
      · exact ⟨_, hxy⟩
      · exact ih hx

/-- A field of a name is the one that the slot was filled from. -/
theorem Filled.entry {α : Type} {k b : Text} {E : Value → α → Prop} {v : Value}
    {ms : List (Text × Value)} {o : Option α} (h : Filled k E ms o) (hmem : (b, v) ∈ ms)
    (hb : Spells k b) : ∃ a, E v a := by
  cases o with
  | none => exact absurd hb (h _ hmem)
  | some a =>
      obtain ⟨v', honce, ha⟩ := h
      obtain rfl : v = v' := honce.eq_of_mem hmem hb
      exact ⟨a, ha⟩

/-- Fields that fill all slots that have to be filled are not faulty. -/
theorem Slots.Holds.not_faultyFields {σ ι : Type} {onField : σ → Text → Reader σ}
    {S : Slots ι onField} {D : (i : ι) → Value → S.Held i → Prop}
    {pick : (i : ι) → Option (S.Held i)} {ms : List (Text × Value)} (h : S.Holds D pick ms)
    {known required : List String} (hknown : ∀ k ∈ known, ∃ i, S.name i = k)
    (hrequired : ∀ k ∈ required, ∃ i, S.name i = k ∧ ∃ a, pick i = some a) :
    ¬ FaultyFields known required ms := by
  rintro (⟨k, hk, hrepeats⟩ | ⟨k, hk, hlacks⟩)
  · obtain ⟨i, rfl⟩ := hknown k hk
    exact (h.2 i).not_repeats hrepeats
  · obtain ⟨i, rfl, a, ha⟩ := hrequired k hk
    have hfilled := h.2 i
    rw [ha] at hfilled
    exact hfilled.not_lacks hlacks

theorem LocationOf.not_faulty {v : Value} {l : Location} (h : LocationOf v l) :
    ¬ FaultyLocation v := by
  rintro ⟨hfaulty⟩
  obtain ⟨_, _, _, hv, -⟩ | ⟨_, hv, hholds⟩ := h
  · cases hv
  cases hv
  refine hholds.not_faultyFields ?_ ?_ hfaulty
  · simp only [locationNames, List.forall_mem_cons]
    exact ⟨⟨.line, rfl⟩, ⟨.column, rfl⟩, ⟨.file, rfl⟩, by simp⟩
  · simp only [locationNames, List.forall_mem_cons]
    exact ⟨⟨.line, rfl, _, rfl⟩, ⟨.column, rfl, _, rfl⟩, ⟨.file, rfl, _, rfl⟩, by simp⟩

theorem MetricsOf.not_faulty {v : Value} {m : Metrics} (h : MetricsOf v m) :
    ¬ FaultyMetrics v := by
  rintro ⟨hfaulty⟩
  obtain ⟨_, _, _, _, hv, -⟩ | ⟨_, hv, hholds⟩ := h
  · cases hv
  cases hv
  refine hholds.not_faultyFields ?_ ?_ hfaulty
  · simp only [metricsNames, List.forall_mem_cons]
    exact ⟨⟨.classes, rfl⟩, ⟨.methods, rfl⟩, ⟨.lines, rfl⟩, ⟨.complexity, rfl⟩, by simp⟩
  · simp only [metricsNames, List.forall_mem_cons]
    exact ⟨⟨.classes, rfl, _, rfl⟩, ⟨.methods, rfl, _, rfl⟩, ⟨.lines, rfl, _, rfl⟩,
      ⟨.complexity, rfl, _, rfl⟩, by simp⟩

theorem DiagnosticOf.not_faulty {v : Value} {d : Diagnostic} (h : DiagnosticOf v d) :
    ¬ FaultyDiagnostic v := by
  intro hfaulty
  obtain ⟨_, _, _, _, _, rfl, -⟩ | ⟨ms, o, rfl, -, hholds⟩ := h
  · cases hfaulty
  cases hfaulty with
  | fields hfields =>
      refine hholds.not_faultyFields ?_ ?_ hfields
      · simp only [diagnosticNames, List.forall_mem_cons]
        exact ⟨⟨.id, rfl⟩, ⟨.severity, rfl⟩, ⟨.message, rfl⟩, ⟨.location, rfl⟩, ⟨.category, rfl⟩,
          by simp⟩
      · have hnames : diagnosticNames.erase "location" =
            ["id", "severity", "message", "category"] := by decide
        simp only [hnames, List.forall_mem_cons]
        exact ⟨⟨.id, rfl, _, rfl⟩, ⟨.severity, rfl, _, rfl⟩, ⟨.message, rfl, _, rfl⟩,
          ⟨.category, rfl, _, rfl⟩, by simp⟩
  | location hmem hb hv =>
      obtain ⟨place, hplace⟩ := (hholds.2 .location).entry hmem hb
      obtain ⟨rfl, -⟩ | ⟨-, l, -, hl⟩ := hplace
      · cases hv
      · exact hl.not_faulty hv

theorem ResultOf.not_faulty {v : Value} {r : ReviewResult} (h : ResultOf v r) :
    ¬ FaultyResult v := by
  intro hfaulty
  obtain ⟨_, _, _, rfl, -⟩ | ⟨ms, rfl, hholds⟩ := h
  · cases hfaulty
  cases hfaulty with
  | fields hfields =>
      refine hholds.not_faultyFields ?_ ?_ hfields
      · simp only [resultNames, List.forall_mem_cons]
        exact ⟨⟨.diagnostics, rfl⟩, ⟨.metrics, rfl⟩, ⟨.suggestions, rfl⟩, by simp⟩
      · simp only [resultNames, List.forall_mem_cons]
        exact ⟨⟨.diagnostics, rfl, _, rfl⟩, ⟨.metrics, rfl, _, rfl⟩, ⟨.suggestions, rfl, _, rfl⟩,
          by simp⟩
  | metrics hmem hb hv =>
      obtain ⟨m, hm⟩ := (hholds.2 .metrics).entry hmem hb
      exact MetricsOf.not_faulty hm hv
  | diagnostic hmem hb hv hd =>
      obtain ⟨ds, _, heq, hds⟩ := (hholds.2 .diagnostics).entry hmem hb
      cases heq
      obtain ⟨d, hd'⟩ := exists_of_forall₂_mem hds hv
      exact hd'.not_faulty hd

end Wire

/-! ## What is accepted -/

/-- **Forms of a result.** The document of a result is a form of it. Every text of a form of a result
is read as that result: the order of the fields, blanks, other fields and the way of writing an
absent place do not matter. A text with a repeated or a missing field is refused. A text that has the
form of a result, whatever its numbers, is read as a result if and only if all the numbers are machine
words written in digits without a leading zero, and then they are read as these words. -/
theorem object_forms_accepted :
    (∀ r : ReviewResult, r.InWords →
      ∃ v, Wire.ResultForm WordText v r ∧ TextOf v r.toJson) ∧
    (∀ (v : Value) (t : Text) (r : ReviewResult), Wire.ResultForm WordText v r → TextOf v t →
      ReviewResult.ofJson t = .ok r) ∧
    (∀ (v : Value) (t : Text), Wire.FaultyResult v → TextOf v t →
      ∃ f, ReviewResult.ofJson t = .error f) ∧
    ∀ (v : Value) (t : Text) (r₀ : ReviewResult), Wire.ResultForm (fun _ _ => True) v r₀ →
      TextOf v t → ∀ r, ReviewResult.ofJson t = .ok r ↔ Wire.ResultForm WordText v r := by
  refine ⟨fun r hr => ⟨_, Wire.resultForm_value hr, Wire.textOf_pretty _⟩, ?_, ?_, ?_⟩
  · intro v t r hv ht
    exact (ReviewResult.ofJson_eq_ok_iff ht).2 hv.resultOf
  · intro v t hv ht
    cases hread : ReviewResult.ofJson t with
    | error f => exact ⟨f, rfl⟩
    | ok r => exact absurd hv ((ReviewResult.ofJson_eq_ok_iff ht).1 hread).not_faulty
  · intro v t r₀ hv ht r
    rw [ReviewResult.ofJson_eq_ok_iff ht]
    exact ⟨hv.of_resultOf, Wire.ResultForm.resultOf⟩

/-- A document whose fields are in reverse order, with a note added, one without fields, and one with
a number that is too large. -/
theorem object_forms_accepted_reversed :
    ReviewResult.ofJson (Json.obj [("note".toList, .arr [.num 7]), ("suggestions".toList, .arr []),
        ("metrics".toList, .obj (Wire.metricsMembers ⟨1, 2, 3, 4⟩).reverse),
        ("diagnostics".toList, .arr [])]).pretty = .ok ⟨[], ⟨1, 2, 3, 4⟩, []⟩ ∧
      (∃ f, ReviewResult.ofJson (Json.obj []).pretty = .error f) ∧
      ∀ r, ReviewResult.ofJson (ReviewResult.toJson ⟨[], ⟨1, 2, 3, 2 ^ 64⟩, []⟩) = .ok r ↔
        Wire.ResultForm WordText (Wire.document ⟨[], ⟨1, 2, 3, 2 ^ 64⟩, []⟩).value r := by
  obtain ⟨-, haccepted, hrefused, hnumbers⟩ := object_forms_accepted
  have hmetrics : Wire.MetricsForm WordText
      (Json.obj (Wire.metricsMembers ⟨1, 2, 3, 4⟩).reverse).value ⟨1, 2, 3, 4⟩ :=
    ⟨_, _, _, _, _, rfl, Wire.countForm_value (by decide), Wire.countForm_value (by decide),
      Wire.countForm_value (by decide), Wire.countForm_value (by decide), [], _, by simp,
      (List.reverse_perm _).symm, Wire.forall₂_valueFields _⟩
  have hlarge : Wire.MetricsForm (fun _ _ => True) (Wire.metrics ⟨1, 2, 3, 2 ^ 64⟩).value
      ⟨1, 2, 3, 2 ^ 64⟩ :=
    ⟨_, _, _, _, _, rfl, ⟨_, rfl, trivial⟩, ⟨_, rfl, trivial⟩, ⟨_, rfl, trivial⟩,
      ⟨_, rfl, trivial⟩, Wire.arranged_valueFields _ (Wire.metricsMembers ⟨1, 2, 3, 2 ^ 64⟩)⟩
  refine ⟨haccepted _ _ _ ?_ (Wire.textOf_pretty _),
    hrefused (.object []) _ (.fields (Or.inr ⟨"metrics", by decide, by simp [Wire.Lacks]⟩))
      (Wire.textOf_pretty (.obj [])),
    hnumbers _ _ ⟨[], ⟨1, 2, 3, 2 ^ 64⟩, []⟩ ?_ (Wire.textOf_pretty _)⟩
  · exact ⟨_, _, _, _, rfl, ⟨[], rfl, .nil⟩, hmetrics, ⟨[], rfl, .nil⟩,
      [("note".toList, (Json.arr [.num 7]).value)], _, by simp [Wire.resultNames],
      (List.reverse_perm _).symm, Wire.forall₂_valueFields _⟩
  · exact ⟨_, _, _, _, rfl, ⟨[], rfl, .nil⟩, hlarge, ⟨[], rfl, .nil⟩,
      Wire.arranged_valueFields _ (Wire.resultMembers ⟨[], ⟨1, 2, 3, 2 ^ 64⟩, []⟩)⟩

end UnitReview
