import UnitReview.Proofs.Wire.RoundTrip

/-!
# Everything that is read is in words

Results are read from whatever another program has written. The numbers in them are machine words
all the same: a number that is too large is taken for a fraction, and a fraction is no count. So a
result that was read can be written and read again, whoever wrote it first.

`Yields read P` says that what the reader `read` gives has the property `P`. It is shown reader by
reader; a reader of records carries the property along in what it has seen so far.
-/

set_option autoImplicit false

namespace UnitReview

open Json

namespace Wire

/-! ## What a reader gives -/

/-- If a reading gives a value, the value has the property. -/
def Gives {α : Type} (x : Except Fault (α × Text)) (P : α → Prop) : Prop :=
  ∀ a rest, x = .ok (a, rest) → P a

/-- Whatever the reader gives has the property. -/
def Yields {α : Type} (read : Reader α) (P : α → Prop) : Prop := ∀ t, Gives (read t) P

namespace Gives

variable {α β γ : Type} {P : α → Prop}

theorem error (f : Fault) : Gives (.error f : Except Fault (α × Text)) P := by
  intro a rest h
  cases h

theorem ok {a : α} {rest : Text} (h : P a) : Gives (.ok (a, rest)) P := by
  intro b rest' hb
  cases hb
  exact h

/-- Nothing need be known of a value that no property is asked of. -/
theorem any (x : Except Fault (α × Text)) : Gives x fun _ => True := fun _ _ _ => trivial

/-- A reading that goes on after a first step. -/
theorem bind {x : Except Fault γ} {f : γ → Except Fault (α × Text)}
    (h : ∀ c, x = .ok c → Gives (f c) P) : Gives (x >>= f) P := by
  cases x with
  | error e => exact error e
  | ok c => exact h c rfl

/-- A value that is put into another one. -/
theorem map {Q : β → Prop} {x : Except Fault (β × Text)} (set : β → α) (hx : Gives x Q)
    (hset : ∀ b, Q b → P (set b)) : Gives (x.map fun p => (set p.1, p.2)) P := by
  cases x with
  | error e => exact error e
  | ok p => exact ok (hset p.1 (hx p.1 p.2 rfl))

end Gives

/-! ## Numbers -/

/-- Digits are taken only while the number is a machine word. -/
theorem absorb_lt {n : Nat} (ds : List Char) (hn : n < naturalLimit) :
    (absorb n ds).1 < naturalLimit := by
  induction ds generalizing n with
  | nil => exact hn
  | cons c cs ih =>
      rw [absorb]
      split
      next h => exact ih h
      next => exact hn

/-- A natural number is a machine word; nothing is asked of other numbers. -/
def InWord : Number → Prop
  | .natural n => n < naturalLimit
  | .negative _ | .fraction _ => True

section Fractions

variable {P : Number → Prop} (hP : ∀ f, P (.fraction f))

include hP

/-- A number with an exponent is a fraction. -/
theorem gives_exponentPart (positive : Bool) (significand : Nat) (exponent : Int) (t : Text) :
    Gives (exponentPart positive significand exponent t) P := by
  unfold exponentPart
  simp only
  split
  · exact .error _
  · split
    · exact .error _
    · split
      · split
        · exact .ok (hP _)
        · exact .error _
      · -- whatever the sign, an exponent that is too large makes a zero or a fault
        split
        all_goals
          split
          · exact .error _
          · exact .ok (hP _)

/-- A number with places is a fraction. -/
theorem gives_decimalPart (positive : Bool) (significand : Nat) (exponent : Int) (t : Text) :
    Gives (decimalPart positive significand exponent t) P := by
  unfold decimalPart
  simp only
  split
  · split <;> exact .error _
  · split
    · exact gives_exponentPart hP _ _ _ _
    · exact gives_exponentPart hP _ _ _ _
    · split
      · exact .ok (hP _)
      · exact .error _

end Fractions

/-- **A number is a natural number only if it is a machine word.** -/
theorem gives_number (positive : Bool) (t : Text) : Gives (number positive t) InWord := by
  have hfraction : ∀ f, InWord (.fraction f) := fun _ => trivial
  cases t with
  | nil => exact .error _
  | cons c r =>
      rw [number]
      split
      · exact .error _
      · split
        · exact .error _
        · simp only
          split
          · exact gives_decimalPart hfraction _ _ _ _
          · exact gives_exponentPart hfraction _ _ _ _
          · exact gives_exponentPart hfraction _ _ _ _
          · split
            · split
              · exact .ok trivial
              · exact .error _
            · split
              · exact .ok (absorb_lt _ (by decide))
              · split <;> exact .ok trivial

/-- A value of the wrong type is never taken. -/
theorem gives_wrongType {α : Type} {P : α → Prop} (expected : String) (t : Text) :
    Gives (wrongType expected t) P := by
  unfold wrongType
  split
  · exact .bind fun _ _ => .error _
  · exact .bind fun _ _ => .error _
  · exact .bind fun _ _ => .error _
  · exact .bind fun _ _ => .error _
  · exact .bind fun _ _ => .error _
  · exact .error _
  · exact .error _
  · exact .error _
  · split
    · exact .bind fun _ _ => .error _
    · exact .error _

theorem yields_natural : Yields natural (· ≤ maxWord) := by
  intro t
  unfold natural
  split
  · exact .error _
  · split
    · refine .bind fun n _ => ?_
      obtain ⟨n, r⟩ := n
      cases n <;> exact .error _
    · split
      · refine .bind fun n hn => ?_
        obtain ⟨n, r⟩ := n
        have hword := gives_number _ _ n r hn
        cases n with
        | natural k => exact .ok (Nat.le_of_lt_succ hword)
        | negative k => exact .error _
        | fraction f => exact .error _
      · exact gives_wrongType _ _

/-! ## Lists and records -/

section Composite

variable {α σ : Type} {read : Reader α} {P : α → Prop}

theorem yields_optional (h : Yields read P) :
    Yields (optional read) (fun o => ∀ a ∈ o, P a) := by
  intro t
  unfold optional
  split
  · exact .bind fun _ _ => .ok fun _ ha => by cases ha
  · refine .map some (h _) ?_
    rintro a ha b ⟨⟩
    exact ha

theorem gives_items (h : Yields read P) (fuel : Nat) (first : Bool) (t : Text) :
    Gives (items read fuel first t) (fun xs => ∀ x ∈ xs, P x) := by
  induction fuel generalizing first t with
  | zero => exact .error _
  | succ fuel ih =>
      rw [items]
      refine .bind ?_
      rintro ⟨more, t⟩ -
      dsimp only
      split
      · refine .bind fun item hitem => .bind fun others hothers => .ok ?_
        intro x hx
        rcases List.mem_cons.1 hx with rfl | hx
        · exact h _ _ _ hitem
        · exact ih _ _ _ _ hothers x hx
      · exact .ok fun _ hx => by cases hx

/-- Every item of a list has the property that the reader of items gives. -/
theorem yields_list (h : Yields read P) : Yields (list read) (fun xs => ∀ x ∈ xs, P x) := by
  intro t
  unfold list
  split
  · exact .error _
  · split
    · refine .bind fun xs hxs => ?_
      exact .bind fun _ _ => .ok (gives_items h _ _ _ _ _ hxs)
    · exact gives_wrongType _ _

theorem yields_element (record : String) (index : Nat) (h : Yields read P) :
    Yields (element record index read) P := by
  intro t
  unfold element
  refine .bind ?_
  rintro ⟨more, t⟩ -
  dsimp only
  split
  · exact h _
  · exact .error _

theorem yields_fieldValue (name : String) (seen : Option α) (h : Yields read P) :
    Yields (fieldValue name seen read) P := by
  intro t
  unfold fieldValue
  split
  · exact .error _
  · exact .bind fun _ _ => h _

/-- **What every single field keeps is kept by all fields of an object.** -/
theorem gives_fields {onField : σ → Text → Reader σ} {I : σ → Prop}
    (hfield : ∀ st key, I st → Yields (onField st key) I) (fuel : Nat) (first : Bool) {st : σ}
    (hst : I st) (t : Text) : Gives (fields onField fuel first st t) I := by
  induction fuel generalizing first st t with
  | zero => exact .error _
  | succ fuel ih =>
      rw [fields]
      refine .bind ?_
      rintro ⟨more, t⟩ -
      dsimp only
      split
      · refine .bind fun key _ => ?_
        exact .bind fun next hnext => ih _ (hfield st _ hst _ _ _ hnext) _
      · exact .ok hst

theorem required_eq_ok_iff {name : String} {seen : Option α} {t : Text} {a : α} :
    required name seen t = .ok a ↔ seen = some a := by
  cases seen <;> simp [required, fault]

theorem yields_record {name : String} {fromList fromObject : Reader α}
    (hlist : Yields fromList P) (hobject : Yields fromObject P) :
    Yields (record name fromList fromObject) P := by
  intro t
  unfold record
  split
  · exact .error _
  · split
    · exact .bind fun v hv => .bind fun _ _ => .ok (hlist _ _ _ hv)
    · split
      · exact .bind fun v hv => .bind fun _ _ => .ok (hobject _ _ _ hv)
      · exact gives_wrongType _ _

/-- A field of no interest changes nothing. -/
theorem gives_skipField {I : σ → Prop} {st : σ} (hst : I st) (t : Text) :
    Gives ((skipField t).map fun t => (st, t)) I := by
  cases skipField t with
  | error e => exact .error e
  | ok t => exact .ok hst

end Composite

/-! ## The records of a result -/

section Fields

variable {α σ : Type} {read : Reader α} {P : α → Prop} {I : σ → Prop}

/-- A field whose value has a property. -/
theorem gives_field (name : String) (seen : Option α) (set : α → σ) (h : Yields read P)
    (hset : ∀ a, P a → I (set a)) (t : Text) :
    Gives ((fieldValue name seen read t).map fun p => (set p.1, p.2)) I :=
  .map set (yields_fieldValue name seen h t) hset

/-- A field of whose value nothing is asked. -/
theorem gives_anyField (name : String) (seen : Option α) (set : α → σ) (hset : ∀ a, I (set a))
    (t : Text) : Gives ((fieldValue name seen read t).map fun p => (set p.1, p.2)) I :=
  .map set (.any _) fun a _ => hset a

end Fields

/-- What has been seen of a place is in words. -/
structure LocationFields.InWords (st : LocationFields) : Prop where
  line : ∀ n ∈ st.line, n ≤ maxWord
  column : ∀ n ∈ st.column, n ≤ maxWord

theorem yields_locationField (st : LocationFields) (key : Text) (h : st.InWords) :
    Yields (locationField st key) LocationFields.InWords := by
  intro t
  unfold locationField
  split
  · refine gives_field _ _ (fun n => { st with line := some n }) yields_natural ?_ t
    exact fun n hn => { h with line := by rintro k ⟨⟩; exact hn }
  · split
    · refine gives_field _ _ (fun n => { st with column := some n }) yields_natural ?_ t
      exact fun n hn => { h with column := by rintro k ⟨⟩; exact hn }
    · split
      · refine gives_anyField _ _ (fun s => { st with file := some s }) ?_ t
        exact fun _ => { h with }
      · exact gives_skipField h t

theorem yields_location : Yields readLocation Location.InWords := by
  refine yields_record ?_ ?_
  · intro t
    refine .bind fun line hline => .bind fun column hcolumn => .bind fun file _ => .ok ?_
    exact ⟨yields_element _ _ yields_natural _ _ _ hline,
      yields_element _ _ yields_natural _ _ _ hcolumn⟩
  · intro t
    refine .bind fun st hst => ?_
    have hwords : LocationFields.InWords st.1 :=
      gives_fields yields_locationField _ _ ⟨by simp, by simp⟩ _ _ _ hst
    refine .bind fun line hline => .bind fun column hcolumn => .bind fun file _ => .ok ?_
    exact ⟨hwords.line _ (required_eq_ok_iff.1 hline), hwords.column _ (required_eq_ok_iff.1 hcolumn)⟩

/-- What has been seen of metrics is in words. -/
structure MetricsFields.InWords (st : MetricsFields) : Prop where
  classes : ∀ n ∈ st.classes, n ≤ maxWord
  methods : ∀ n ∈ st.methods, n ≤ maxWord
  lines : ∀ n ∈ st.lines, n ≤ maxWord
  complexity : ∀ n ∈ st.complexity, n ≤ maxWord

theorem yields_metricsField (st : MetricsFields) (key : Text) (h : st.InWords) :
    Yields (metricsField st key) MetricsFields.InWords := by
  intro t
  unfold metricsField
  split
  · refine gives_field _ _ (fun n => { st with classes := some n }) yields_natural ?_ t
    exact fun n hn => { h with classes := by rintro k ⟨⟩; exact hn }
  · split
    · refine gives_field _ _ (fun n => { st with methods := some n }) yields_natural ?_ t
      exact fun n hn => { h with methods := by rintro k ⟨⟩; exact hn }
    · split
      · refine gives_field _ _ (fun n => { st with lines := some n }) yields_natural ?_ t
        exact fun n hn => { h with lines := by rintro k ⟨⟩; exact hn }
      · split
        · refine gives_field _ _ (fun n => { st with complexity := some n }) yields_natural ?_ t
          exact fun n hn => { h with complexity := by rintro k ⟨⟩; exact hn }
        · exact gives_skipField h t

theorem yields_metrics : Yields readMetrics Metrics.InWords := by
  refine yields_record ?_ ?_
  · intro t
    refine .bind fun classes hclasses => .bind fun methods hmethods => .bind fun lines hlines =>
      .bind fun complexity hcomplexity => .ok ?_
    exact ⟨yields_element _ _ yields_natural _ _ _ hclasses,
      yields_element _ _ yields_natural _ _ _ hmethods,
      yields_element _ _ yields_natural _ _ _ hlines,
      yields_element _ _ yields_natural _ _ _ hcomplexity⟩
  · intro t
    refine .bind fun st hst => ?_
    have hwords : MetricsFields.InWords st.1 :=
      gives_fields yields_metricsField _ _ ⟨by simp, by simp, by simp, by simp⟩ _ _ _ hst
    refine .bind fun classes hclasses => .bind fun methods hmethods => .bind fun lines hlines =>
      .bind fun complexity hcomplexity => .ok ?_
    exact ⟨hwords.classes _ (required_eq_ok_iff.1 hclasses), hwords.methods _ (required_eq_ok_iff.1 hmethods),
      hwords.lines _ (required_eq_ok_iff.1 hlines), hwords.complexity _ (required_eq_ok_iff.1 hcomplexity)⟩

/-- What has been seen of a diagnostic is in words. -/
def DiagnosticFields.InWords (st : DiagnosticFields) : Prop :=
  ∀ o ∈ st.location, ∀ l ∈ o, l.InWords

theorem yields_diagnosticField (st : DiagnosticFields) (key : Text) (h : st.InWords) :
    Yields (diagnosticField st key) DiagnosticFields.InWords := by
  intro t
  unfold diagnosticField
  split
  · refine gives_anyField _ _ (fun s => { st with id := some s }) ?_ t
    exact fun _ => h
  · split
    · refine gives_anyField _ _ (fun v => { st with severity := some v }) ?_ t
      exact fun _ => h
    · split
      · refine gives_anyField _ _ (fun s => { st with message := some s }) ?_ t
        exact fun _ => h
      · split
        · refine gives_field _ _ (fun o => { st with location := some o })
            (yields_optional yields_location) ?_ t
          rintro o ho o' ⟨⟩
          exact ho
        · split
          · refine gives_anyField _ _ (fun s => { st with category := some s }) ?_ t
            exact fun _ => h
          · exact gives_skipField h t

theorem yields_locationElement : Yields locationElement (fun o => ∀ l ∈ o, l.InWords) := by
  intro t
  unfold locationElement
  refine .bind ?_
  rintro ⟨more, t⟩ -
  dsimp only
  split
  · exact yields_optional yields_location _
  · exact .ok fun _ hl => by cases hl

theorem yields_diagnostic : Yields readDiagnostic Diagnostic.InWords := by
  refine yields_record ?_ ?_
  · intro t
    refine .bind fun _ _ => .bind fun _ _ => .bind fun _ _ => .bind fun location hlocation =>
      .bind fun _ _ => .ok ?_
    exact yields_locationElement _ _ _ hlocation
  · intro t
    refine .bind fun st hst => ?_
    have hwords : DiagnosticFields.InWords st.1 :=
      gives_fields yields_diagnosticField _ _ (by rintro o ⟨⟩) _ _ _ hst
    refine .bind fun _ _ => .bind fun _ _ => .bind fun _ _ => .bind fun _ _ => .ok ?_
    -- a place that was never seen is no place
    intro l hl
    cases hseen : st.1.location with
    | none =>
        rw [hseen] at hl
        cases hl
    | some o =>
        rw [hseen] at hl
        exact hwords o hseen l hl

/-- What has been seen of a result is in words. -/
structure ResultFields.InWords (st : ResultFields) : Prop where
  diagnostics : ∀ ds ∈ st.diagnostics, ∀ d ∈ ds, d.InWords
  metrics : ∀ m ∈ st.metrics, m.InWords

theorem yields_resultField (st : ResultFields) (key : Text) (h : st.InWords) :
    Yields (resultField st key) ResultFields.InWords := by
  intro t
  unfold resultField
  split
  · refine gives_field _ _ (fun ds => { st with diagnostics := some ds })
      (yields_list yields_diagnostic) ?_ t
    exact fun ds hds => { h with diagnostics := by rintro k ⟨⟩; exact hds }
  · split
    · refine gives_field _ _ (fun m => { st with metrics := some m }) yields_metrics ?_ t
      exact fun m hm => { h with metrics := by rintro k ⟨⟩; exact hm }
    · split
      · refine gives_anyField _ _ (fun ss => { st with suggestions := some ss }) ?_ t
        exact fun _ => { h with }
      · exact gives_skipField h t

/-- **A result that is read has machine words for numbers.** -/
theorem yields_result : Yields readResult ReviewResult.InWords := by
  refine yields_record ?_ ?_
  · intro t
    refine .bind fun ds hds => .bind fun m hm => .bind fun _ _ => .ok ?_
    exact ⟨yields_element _ _ (yields_list yields_diagnostic) _ _ _ hds,
      yields_element _ _ yields_metrics _ _ _ hm⟩
  · intro t
    refine .bind fun st hst => ?_
    have hwords : ResultFields.InWords st.1 :=
      gives_fields yields_resultField _ _ ⟨by simp, by simp⟩ _ _ _ hst
    refine .bind fun ds hds => .bind fun m hm => .bind fun _ _ => .ok ?_
    exact ⟨hwords.diagnostics _ (required_eq_ok_iff.1 hds), hwords.metrics _ (required_eq_ok_iff.1 hm)⟩

end Wire

namespace ReviewResult

/-! ## Whole texts -/

theorem inWords_of_ofJson {t : Text} {r : ReviewResult} (h : ofJson t = .ok r) : r.InWords := by
  unfold ofJson at h
  cases hread : Wire.readResult t with
  | error f =>
      rw [hread] at h
      cases h
  | ok p =>
      obtain ⟨r', rest⟩ := p
      simp only [hread, bind, Except.bind] at h
      split at h
      · cases h
        exact Wire.yields_result _ _ _ hread
      · cases h

/-- A text that starts like neither a list nor an object holds no result. -/
theorem parse_ne_ok_of_head {t : Text} {c : Char} (hhead : t.head? = some c)
    (hspace : isSpace c = false) (hlist : c ≠ '[') (hobject : c ≠ '\x7b') (r : ReviewResult) :
    parse t ≠ .ok r := by
  obtain ⟨rest, rfl⟩ := List.head?_eq_some_iff.1 hhead
  have hread : Wire.Gives (Wire.readResult (c :: rest)) fun _ => False := by
    unfold Wire.readResult Wire.record
    simp only [skipSpace_cons hspace, if_neg hlist, if_neg hobject]
    exact Wire.gives_wrongType _ _
  intro hparse
  have hresult := parse_eq_ok_iff.1 hparse
  unfold ofJson at hresult
  cases hfirst : Wire.readResult (c :: rest) with
  | error f =>
      rw [hfirst] at hresult
      cases hresult
  | ok p => exact hread _ _ hfirst

/-- **What was read once is read again** from its written form on a line of its own, whoever wrote
the text that it was read from. -/
theorem parse_line_of_parse {t : Text} {r : ReviewResult} (h : parse t = .ok r) :
    parse (r.toJson ++ ['\n']) = .ok r :=
  parse_line (inWords_of_ofJson (parse_eq_ok_iff.1 h))

end ReviewResult

end UnitReview
