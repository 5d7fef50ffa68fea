import UnitReview.Proofs.Wire.Members

/-!
# The forms of a result

Which values stand for a severity, a place, a diagnostic, metrics and a result. A record stands as a
list of its fields in order, or as an object in which each of its fields is found exactly once,
among any others; only the place of a diagnostic may be absent. The readers follow these forms, and
so a text is read as a result if and only if its value stands for it (`ofJson_eq_ok_iff`).
-/

set_option autoImplicit false

namespace UnitReview

open Json

namespace Wire

theorem Follows.congr {α : Type} {read : Reader α} {D E : Value → α → Prop} (h : Follows read D)
    (hDE : ∀ v a, D v a ↔ E v a) : Follows read E := by
  intro v t hv w rest hw hrest a u
  rw [h hv hw hrest, hDE]

/-! ## Severities -/

theorem severity_ofName?_eq_some_iff {s : String} {v : Severity} :
    Severity.ofName? s = some v ↔ s = v.name := by
  constructor
  · intro h
    have hname : (v.name == s) = true := List.find?_some (p := fun v : Severity => v.name == s) h
    exact (eq_of_beq hname).symm
  · rintro rfl
    exact Severity.ofName?_name v

theorem severityName_eq_ok_iff {b w rest u : Text} (hb : Body b) (hw : Blank w) {s : Severity} :
    severityName (w ++ '"' :: (b ++ '"' :: rest)) = .ok (s, u) ↔
      Spells s.name.toList b ∧ u = rest := by
  have hstring : ∀ {k r : Text}, stringAs "variant identifier" (w ++ '"' :: (b ++ '"' :: rest)) =
      .ok (k, r) ↔ Spells k b ∧ r = rest := by
    intro k r
    rw [stringAs, skipSpace_token hw rfl]
    exact stringTail_eq_ok_iff hb
  rw [severityName, bind_eq_ok]
  constructor
  · rintro ⟨⟨k, r⟩, hk, hread⟩
    obtain ⟨hspells, rfl⟩ := hstring.1 hk
    dsimp only at hread
    split at hread
    next s' hs' =>
      cases hread
      have hname : k = s.name.toList := by
        rw [← severity_ofName?_eq_some_iff.1 hs', String.toList_ofList]
      exact ⟨hname ▸ hspells, rfl⟩
    next => cases hread
  · rintro ⟨hspells, rfl⟩
    refine ⟨(s.name.toList, u), hstring.2 ⟨hspells, rfl⟩, ?_⟩
    simp only [String.ofList_toList, Severity.ofName?_name]

/-- A severity stands as its name, or as an object from its name to null. -/
def SeverityOf (v : Value) (s : Severity) : Prop :=
  IsText v s.name ∨ ∃ b, v = .object [(b, .null)] ∧ Spells s.name.toList b

/-- Behind the only field of an object stands its closing brace. -/
theorem brace_after_tail {us : List Text} {t : Text} (ht : Tail '\x7d' us t) {s s' : Severity}
    {rest u : Text} :
    (match skipSpace (t ++ rest) with
      | [] => fault .eofObject []
      | d :: r => if d = '\x7d' then .ok (s, r) else fault .expectedValue (d :: r)) = .ok (s', u) ↔
      (us = [] ∧ s = s') ∧ u = rest := by
  cases ht with
  | close hw =>
      rw [List.append_assoc, List.singleton_append, skipSpace_token hw rfl]
      simp [eq_comm]
  | next hw hw' ht =>
      rw [List.append_assoc, List.cons_append, skipSpace_token hw rfl]
      simp [fault]

/-- The only key of an object is read as a severity. -/
theorem severityKey_eq_ok_iff {ms : List (Text × Value)} {us : List Text} {t rest u : Text}
    (hms : WrittenFields ms us) (ht : Remaining '\x7d' true us t) {s : Severity} :
    severityKey (t ++ rest) = .ok (s, u) ↔
      (∃ b, ms = [(b, .null)] ∧ Spells s.name.toList b) ∧ u = rest := by
  cases ht with
  | @opened w hw =>
      -- no key at all
      cases hms
      have hname : ∀ r, severityName (w ++ '\x7d' :: rest) ≠ .ok r := by
        intro r
        rw [severityName, stringAs, skipSpace_token hw rfl]
        exact fun h => by cases h
      rw [List.append_assoc, List.singleton_append, severityKey, bind_eq_ok]
      constructor
      · rintro ⟨r, hr, -⟩
        exact absurd hr (hname r)
      · rintro ⟨⟨b, hb, -⟩, -⟩
        cases hb
  | @first w _ t us hw ht =>
      cases hms with
      | @cons b tv _ v ms _ hb hv hx hms =>
          cases hx with
          | @field w₁ w₂ hw₁ hw₂ =>
              have hends : EndsNumber (t ++ rest) := (ht.delimited (Or.inr rfl) rest).endsNumber
              have hnull : ∀ {u : Text}, unit (w₂ ++ (tv ++ (t ++ rest))) = .ok ((), u) ↔
                  v = .null ∧ u = t ++ rest := follows_unit hv hw₂ hends
              have hlast : us = [] ↔ ms = [] := by cases hms <;> simp
              rw [severityKey]
              simp only [List.append_assoc, List.cons_append]
              constructor
              · intro hread
                obtain ⟨⟨s', r⟩, hs', hread⟩ := bind_eq_ok.1 hread
                obtain ⟨hspells, rfl⟩ := (severityName_eq_ok_iff hb hw).1 hs'
                dsimp only at hread
                rw [colon_token hw₁, ok_bind] at hread
                obtain ⟨⟨⟨⟩, r⟩, hunit, hread⟩ := bind_eq_ok.1 hread
                obtain ⟨rfl, rfl⟩ := hnull.1 hunit
                obtain ⟨⟨hnil, rfl⟩, rfl⟩ := (brace_after_tail ht).1 hread
                exact ⟨⟨b, by rw [hlast.1 hnil], hspells⟩, rfl⟩
              · rintro ⟨⟨b', heq, hspells⟩, rfl⟩
                obtain ⟨hfield, hnil⟩ := List.cons.inj heq
                obtain ⟨rfl, rfl⟩ := Prod.mk.inj hfield
                rw [(severityName_eq_ok_iff hb hw).2 ⟨hspells, rfl⟩, ok_bind]
                dsimp only
                rw [colon_token hw₁, ok_bind, hnull.2 ⟨rfl, rfl⟩, ok_bind]
                exact (brace_after_tail ht).2 ⟨⟨hlast.2 hnil, rfl⟩, rfl⟩

/-- Severities are read from their names, in quotes or as the only key of an object. -/
theorem follows_severity : Follows severity SeverityOf := by
  intro v t hv w rest hw hrest s u
  rw [SeverityOf]
  by_cases hstring : ∃ b, v = .string b
  · obtain ⟨b, rfl⟩ := hstring
    simp only [IsText, Value.string.injEq, exists_eq_left', reduceCtorEq, false_and, exists_false,
      or_false]
    cases hv with
    | string hb =>
        rw [List.cons_append, severity, skipSpace_token hw rfl]
        simp only [if_true, List.append_assoc, List.singleton_append]
        exact severityName_eq_ok_iff hb (w := []) blank_nil
  by_cases hobject : ∃ ms, v = .object ms
  · obtain ⟨ms, rfl⟩ := hobject
    simp only [IsText, Value.object.injEq, reduceCtorEq, false_and, exists_false, false_or]
    cases hv with
    | object hms ht =>
        obtain ⟨t, rfl, hremaining⟩ := ht.remaining
        rw [List.cons_append, severity, skipSpace_token hw rfl]
        exact severityKey_eq_ok_iff hms hremaining
  · obtain ⟨c, t, rfl, hopens⟩ := hv.exists_cons
    have hc := (not_congr hopens.kind.2.2.1).2 hstring
    have hc' := (not_congr hopens.kind.2.2.2.2).2 hobject
    rw [List.cons_append, severity, skipSpace_token hw hopens.token.1]
    simp only [if_neg hc, if_neg hc']
    constructor
    · exact fun h => by cases h
    · rintro ⟨⟨b, hb, -⟩ | ⟨b, hb, -⟩, -⟩
      · exact absurd ⟨b, hb⟩ hstring
      · exact absurd ⟨_, hb⟩ hobject

/-! ## Places -/

/-- The fields of a place. -/
inductive LocationSlot where
  | line | column | file

/-- How the fields of a place are kept. -/
def locationSlots : Slots LocationSlot locationField where
  name
    | .line => "line"
    | .column => "column"
    | .file => "file"
  Held
    | .line | .column => Nat
    | .file => String
  read
    | .line | .column => natural
    | .file => text
  seen st
    | .line => st.line
    | .column => st.column
    | .file => st.file
  put st
    | .line, n => { st with line := some n }
    | .column, n => { st with column := some n }
    | .file, s => { st with file := some s }
  seen_put := by intro st i a; cases i <;> rfl
  seen_put_ne := by intro st i a j hj; cases i <;> cases j <;> simp_all
  name_injective := by intro i j h; cases i <;> cases j <;> simp_all
  eq_of_seen := by
    intro st st' h
    have hline : st.line = st'.line := h .line
    have hcolumn : st.column = st'.column := h .column
    have hfile : st.file = st'.file := h .file
    cases st
    simp_all
  known := by intro st i t; cases i <;> rfl
  unknown := by
    intro st key t h
    rw [locationField, if_neg (h .line), if_neg (h .column), if_neg (h .file)]

/-- What the value of a field of a place stands for. -/
def LocationSlot.Entry : (i : LocationSlot) → Value → locationSlots.Held i → Prop
  | .line | .column => IsWord
  | .file => IsText

/-- A place. -/
def LocationOf (v : Value) (l : Location) : Prop :=
  (∃ x y z, v = .list [x, y, z] ∧ IsWord x l.line ∧ IsWord y l.column ∧ IsText z l.file) ∨
    ∃ ms, v = .object ms ∧ locationSlots.Holds LocationSlot.Entry
      (locationSlots.seen ⟨some l.line, some l.column, some l.file⟩) ms

theorem LocationFields.complete_eq_ok_iff (st : LocationFields) (t : Text) (l : Location)
    (u : Text) : st.complete t = .ok (l, u) ↔
      st = ⟨some l.line, some l.column, some l.file⟩ ∧ u = t := by
  simp only [LocationFields.complete, bind_eq_ok, required_eq_ok_iff]
  constructor
  · rintro ⟨line, hline, column, hcolumn, file, hfile, heq⟩
    cases heq
    cases st
    simp_all
  · rintro ⟨rfl, rfl⟩
    exact ⟨_, rfl, _, rfl, _, rfl, rfl⟩

theorem follows_location : Follows readLocation LocationOf := by
  have hread : ∀ i, Follows (locationSlots.read i) i.Entry := by
    intro i
    cases i
    · exact follows_natural
    · exact follows_natural
    · exact follows_text
  have hlist := followsItems_element "struct Location with 3 elements" 0 follows_natural fun line =>
    followsItems_element "struct Location with 3 elements" 1 follows_natural fun column =>
      followsItems_element "struct Location with 3 elements" 2 follows_text fun file =>
        followsItems_done (⟨line, column, file⟩ : Location)
  have hobject := Slots.followsMembers hread {} (fun i => by cases i <;> rfl)
    LocationFields.complete_eq_ok_iff
  refine (follows_record hlist hobject).congr fun v l => ?_
  constructor
  · rintro (⟨_, rfl, x, _, line, rfl, hx, y, _, column, rfl, hy, z, _, file, rfl, hz, rfl, rfl⟩ |
      ⟨ms, rfl, _, rfl, hms⟩)
    · exact Or.inl ⟨x, y, z, rfl, hx, hy, hz⟩
    · exact Or.inr ⟨ms, rfl, hms⟩
  · rintro (⟨x, y, z, rfl, hx, hy, hz⟩ | ⟨ms, rfl, hms⟩)
    · exact Or.inl ⟨_, rfl, x, _, _, rfl, hx, y, _, _, rfl, hy, z, _, _, rfl, hz, rfl, rfl⟩
    · exact Or.inr ⟨ms, rfl, _, rfl, hms⟩

/-! ## Metrics -/

/-- The fields of metrics. -/
inductive MetricsSlot where
  | classes | methods | lines | complexity

/-- How the metrics are kept. -/
def metricsSlots : Slots MetricsSlot metricsField where
  name
    | .classes => "classes"
    | .methods => "methods"
    | .lines => "lines"
    | .complexity => "complexity"
  Held _ := Nat
  read _ := natural
  seen st
    | .classes => st.classes
    | .methods => st.methods
    | .lines => st.lines
    | .complexity => st.complexity
  put st
    | .classes, n => { st with classes := some n }
    | .methods, n => { st with methods := some n }
    | .lines, n => { st with lines := some n }
    | .complexity, n => { st with complexity := some n }
  seen_put := by intro st i a; cases i <;> rfl
  seen_put_ne := by intro st i a j hj; cases i <;> cases j <;> simp_all
  name_injective := by intro i j h; cases i <;> cases j <;> simp_all
  eq_of_seen := by
    intro st st' h
    have hclasses : st.classes = st'.classes := h .classes
    have hmethods : st.methods = st'.methods := h .methods
    have hlines : st.lines = st'.lines := h .lines
    have hcomplexity : st.complexity = st'.complexity := h .complexity
    cases st
    simp_all
  known := by intro st i t; cases i <;> rfl
  unknown := by
    intro st key t h
    rw [metricsField, if_neg (h .classes), if_neg (h .methods), if_neg (h .lines),
      if_neg (h .complexity)]

/-- Metrics. -/
def MetricsOf (v : Value) (m : Metrics) : Prop :=
  (∃ x y z w, v = .list [x, y, z, w] ∧ IsWord x m.classes ∧ IsWord y m.methods ∧
      IsWord z m.lines ∧ IsWord w m.complexity) ∨
    ∃ ms, v = .object ms ∧ metricsSlots.Holds (fun _ => IsWord)
      (metricsSlots.seen ⟨some m.classes, some m.methods, some m.lines, some m.complexity⟩) ms

theorem MetricsFields.complete_eq_ok_iff (st : MetricsFields) (t : Text) (m : Metrics)
    (u : Text) : st.complete t = .ok (m, u) ↔
      st = ⟨some m.classes, some m.methods, some m.lines, some m.complexity⟩ ∧ u = t := by
  simp only [MetricsFields.complete, bind_eq_ok, required_eq_ok_iff]
  constructor
  · rintro ⟨classes, hclasses, methods, hmethods, lines, hlines, complexity, hcomplexity, heq⟩
    cases heq
    cases st
    simp_all
  · rintro ⟨rfl, rfl⟩
    exact ⟨_, rfl, _, rfl, _, rfl, _, rfl, rfl⟩

theorem follows_metrics : Follows readMetrics MetricsOf := by
  have hlist := followsItems_element "struct Metrics with 4 elements" 0 follows_natural fun classes =>
    followsItems_element "struct Metrics with 4 elements" 1 follows_natural fun methods =>
      followsItems_element "struct Metrics with 4 elements" 2 follows_natural fun lines =>
        followsItems_element "struct Metrics with 4 elements" 3 follows_natural fun complexity =>
          followsItems_done (⟨classes, methods, lines, complexity⟩ : Metrics)
  have hobject := Slots.followsMembers (S := metricsSlots) (fun _ => follows_natural) {}
    (fun i => by cases i <;> rfl) MetricsFields.complete_eq_ok_iff
  refine (follows_record hlist hobject).congr fun v m => ?_
  constructor
  · rintro (⟨_, rfl, x, _, _, rfl, hx, y, _, _, rfl, hy, z, _, _, rfl, hz, w, _, _, rfl, hw, rfl,
      rfl⟩ | ⟨ms, rfl, _, rfl, hms⟩)
    · exact Or.inl ⟨x, y, z, w, rfl, hx, hy, hz, hw⟩
    · exact Or.inr ⟨ms, rfl, hms⟩
  · rintro (⟨x, y, z, w, rfl, hx, hy, hz, hw⟩ | ⟨ms, rfl, hms⟩)
    · exact Or.inl ⟨_, rfl, x, _, _, rfl, hx, y, _, _, rfl, hy, z, _, _, rfl, hz, w, _, _, rfl, hw,
        rfl, rfl⟩
    · exact Or.inr ⟨ms, rfl, _, rfl, hms⟩

/-! ## Diagnostics -/

/-- The fields of a diagnostic. -/
inductive DiagnosticSlot where
  | id | severity | message | location | category

/-- How the fields of a diagnostic are kept. -/
def diagnosticSlots : Slots DiagnosticSlot diagnosticField where
  name
    | .id => "id"
    | .severity => "severity"
    | .message => "message"
    | .location => "location"
    | .category => "category"
  Held
    | .id | .message | .category => String
    | .severity => Severity
    | .location => Option Location
  read
    | .id | .message | .category => text
    | .severity => severity
    | .location => optional readLocation
  seen st
    | .id => st.id
    | .severity => st.severity
    | .message => st.message
    | .location => st.location
    | .category => st.category
  put st
    | .id, s => { st with id := some s }
    | .severity, v => { st with severity := some v }
    | .message, s => { st with message := some s }
    | .location, o => { st with location := some o }
    | .category, s => { st with category := some s }
  seen_put := by intro st i a; cases i <;> rfl
  seen_put_ne := by intro st i a j hj; cases i <;> cases j <;> simp_all
  name_injective := by intro i j h; cases i <;> cases j <;> simp_all
  eq_of_seen := by
    intro st st' h
    have hid : st.id = st'.id := h .id
    have hseverity : st.severity = st'.severity := h .severity
    have hmessage : st.message = st'.message := h .message
    have hlocation : st.location = st'.location := h .location
    have hcategory : st.category = st'.category := h .category
    cases st
    simp_all
  known := by intro st i t; cases i <;> rfl
  unknown := by
    intro st key t h
    rw [diagnosticField, if_neg (h .id), if_neg (h .severity), if_neg (h .message),
      if_neg (h .location), if_neg (h .category)]

/-- What the value of a field of a diagnostic stands for. -/
def DiagnosticSlot.Entry : (i : DiagnosticSlot) → Value → diagnosticSlots.Held i → Prop
  | .id | .message | .category => IsText
  | .severity => SeverityOf
  | .location => Optionally LocationOf

/-- A diagnostic. In an object the place may be left out, which is the same as null. -/
def DiagnosticOf (v : Value) (d : Diagnostic) : Prop :=
  (∃ x y z p w, v = .list [x, y, z, p, w] ∧ IsText x d.id ∧ SeverityOf y d.severity ∧
      IsText z d.message ∧ Optionally LocationOf p d.location ∧ IsText w d.category) ∨
    ∃ ms o, v = .object ms ∧ o.getD none = d.location ∧
      diagnosticSlots.Holds DiagnosticSlot.Entry
        (diagnosticSlots.seen ⟨some d.id, some d.severity, some d.message, o, some d.category⟩) ms

theorem DiagnosticFields.complete_eq_ok_iff (st : DiagnosticFields) (t : Text) (d : Diagnostic)
    (u : Text) : st.complete t = .ok (d, u) ↔
      (∃ o : Option (Option Location), o.getD none = d.location ∧
        st = ⟨some d.id, some d.severity, some d.message, o, some d.category⟩) ∧ u = t := by
  simp only [DiagnosticFields.complete, bind_eq_ok, required_eq_ok_iff]
  constructor
  · rintro ⟨id, hid, severity, hseverity, message, hmessage, category, hcategory, heq⟩
    cases heq
    refine ⟨⟨st.location, rfl, ?_⟩, rfl⟩
    cases st
    simp_all
  · rintro ⟨⟨o, ho, rfl⟩, rfl⟩
    refine ⟨_, rfl, _, rfl, _, rfl, _, rfl, ?_⟩
    dsimp only
    rw [ho]

/-- The place in a diagnostic written as a list. -/
theorem followsItems_locationElement {β : Type} {next : Option Location → Reader β}
    {E : Option Location → List Value → β → Prop}
    (hnext : ∀ o, FollowsItems false (next o) (E o)) :
    FollowsItems false (fun t => do let (o, t) ← locationElement t; next o t) fun vs b =>
      (vs = [] ∧ E none [] b) ∨
        ∃ v vs' o, vs = v :: vs' ∧ Optionally LocationOf v o ∧ E o vs' b := by
  intro vs ts t hvs ht rest b u
  cases hvs with
  | nil =>
      have hstep : locationElement (t ++ rest) = .ok (none, ']' :: rest) := by
        rw [locationElement, nextItem?_nil ht, ok_bind]
        rfl
      -- the place is left out, and what follows reads on at the closing bracket
      have hclose := @hnext none [] [] [']'] .nil (.further (.close blank_nil)) rest b u
      dsimp only
      rw [hstep, ok_bind]
      refine hclose.trans (and_congr_left' ?_)
      simp
  | @cons v x vs ts hv hvs =>
      obtain ⟨t', ht', hitem⟩ := nextItem?_cons ht (startsValue_written hv)
      have hstep : locationElement (t ++ rest) = optional readLocation (x ++ (t' ++ rest)) := by
        rw [locationElement, hitem rest, ok_bind]
        rfl
      refine (followsItems_cons (follows_optional follows_location) hnext hv hvs ht' hstep).trans
        (and_congr_left' ?_)
      constructor
      · rintro ⟨o, ho, hE⟩
        exact Or.inr ⟨v, vs, o, rfl, ho, hE⟩
      · rintro (⟨hnil, -⟩ | ⟨_, _, o, hcons, ho, hE⟩)
        · cases hnil
        · obtain ⟨rfl, rfl⟩ := List.cons.inj hcons
          exact ⟨o, ho, hE⟩

theorem follows_diagnostic : Follows readDiagnostic DiagnosticOf := by
  have hread : ∀ i, Follows (diagnosticSlots.read i) i.Entry := by
    intro i
    cases i
    · exact follows_text
    · exact follows_severity
    · exact follows_text
    · exact follows_optional follows_location
    · exact follows_text
  have hlist := followsItems_element "struct Diagnostic with 5 elements" 0 follows_text fun id =>
    followsItems_element "struct Diagnostic with 5 elements" 1 follows_severity fun severity =>
      followsItems_element "struct Diagnostic with 5 elements" 2 follows_text fun message =>
        followsItems_locationElement fun location =>
          followsItems_element "struct Diagnostic with 5 elements" 4 follows_text fun category =>
            followsItems_done (⟨id, severity, message, location, category⟩ : Diagnostic)
  have hobject := Slots.followsMembers hread {} (fun i => by cases i <;> rfl)
    DiagnosticFields.complete_eq_ok_iff
  refine (follows_record hlist hobject).congr fun v d => ?_
  constructor
  · rintro (⟨_, rfl, x, _, _, rfl, hx, y, _, _, rfl, hy, z, _, _, rfl, hz, hend | hend⟩ |
      ⟨ms, rfl, _, ⟨o, ho, rfl⟩, hms⟩)
    · obtain ⟨-, w, _, _, hnil, -⟩ := hend
      cases hnil
    · obtain ⟨p, _, _, rfl, hp, w, _, _, rfl, hw, rfl, rfl⟩ := hend
      exact Or.inl ⟨x, y, z, p, w, rfl, hx, hy, hz, hp, hw⟩
    · exact Or.inr ⟨ms, o, rfl, ho, hms⟩
  · rintro (⟨x, y, z, p, w, rfl, hx, hy, hz, hp, hw⟩ | ⟨ms, o, rfl, ho, hms⟩)
    · exact Or.inl ⟨_, rfl, x, _, _, rfl, hx, y, _, _, rfl, hy, z, _, _, rfl, hz,
        Or.inr ⟨p, _, _, rfl, hp, w, _, _, rfl, hw, rfl, rfl⟩⟩
    · exact Or.inr ⟨ms, rfl, _, ⟨o, ho, rfl⟩, hms⟩

/-! ## Results -/

/-- The fields of a result. -/
inductive ResultSlot where
  | diagnostics | metrics | suggestions

/-- How the fields of a result are kept. -/
def resultSlots : Slots ResultSlot resultField where
  name
    | .diagnostics => "diagnostics"
    | .metrics => "metrics"
    | .suggestions => "suggestions"
  Held
    | .diagnostics => List Diagnostic
    | .metrics => Metrics
    | .suggestions => List String
  read
    | .diagnostics => list readDiagnostic
    | .metrics => readMetrics
    | .suggestions => list text
  seen st
    | .diagnostics => st.diagnostics
    | .metrics => st.metrics
    | .suggestions => st.suggestions
  put st
    | .diagnostics, ds => { st with diagnostics := some ds }
    | .metrics, m => { st with metrics := some m }
    | .suggestions, ss => { st with suggestions := some ss }
  seen_put := by intro st i a; cases i <;> rfl
  seen_put_ne := by intro st i a j hj; cases i <;> cases j <;> simp_all
  name_injective := by intro i j h; cases i <;> cases j <;> simp_all
  eq_of_seen := by
    intro st st' h
    have hdiagnostics : st.diagnostics = st'.diagnostics := h .diagnostics
    have hmetrics : st.metrics = st'.metrics := h .metrics
    have hsuggestions : st.suggestions = st'.suggestions := h .suggestions
    cases st
    simp_all
  known := by intro st i t; cases i <;> rfl
  unknown := by
    intro st key t h
    rw [resultField, if_neg (h .diagnostics), if_neg (h .metrics), if_neg (h .suggestions)]

/-- The value is a list, item by item of what is given. -/
def ListOf {α : Type} (D : Value → α → Prop) (v : Value) (xs : List α) : Prop :=
  ∃ vs, v = .list vs ∧ List.Forall₂ D vs xs

/-- What the value of a field of a result stands for. -/
def ResultSlot.Entry : (i : ResultSlot) → Value → resultSlots.Held i → Prop
  | .diagnostics => ListOf DiagnosticOf
  | .metrics => MetricsOf
  | .suggestions => ListOf IsText

/-- A result. -/
def ResultOf (v : Value) (r : ReviewResult) : Prop :=
  (∃ x y z, v = .list [x, y, z] ∧ ListOf DiagnosticOf x r.diagnostics ∧ MetricsOf y r.metrics ∧
      ListOf IsText z r.suggestions) ∨
    ∃ ms, v = .object ms ∧ resultSlots.Holds ResultSlot.Entry
      (resultSlots.seen ⟨some r.diagnostics, some r.metrics, some r.suggestions⟩) ms

theorem ResultFields.complete_eq_ok_iff (st : ResultFields) (t : Text) (r : ReviewResult)
    (u : Text) : st.complete t = .ok (r, u) ↔
      st = ⟨some r.diagnostics, some r.metrics, some r.suggestions⟩ ∧ u = t := by
  simp only [ResultFields.complete, bind_eq_ok, required_eq_ok_iff]
  constructor
  · rintro ⟨diagnostics, hdiagnostics, metrics, hmetrics, suggestions, hsuggestions, heq⟩
    cases heq
    cases st
    simp_all
  · rintro ⟨rfl, rfl⟩
    exact ⟨_, rfl, _, rfl, _, rfl, rfl⟩

theorem follows_result : Follows readResult ResultOf := by
  have hread : ∀ i, Follows (resultSlots.read i) i.Entry := by
    intro i
    cases i
    · exact follows_list follows_diagnostic
    · exact follows_metrics
    · exact follows_list follows_text
  have hlist := followsItems_element "struct AnalysisResult with 3 elements" 0
      (follows_list follows_diagnostic) fun diagnostics =>
    followsItems_element "struct AnalysisResult with 3 elements" 1 follows_metrics fun metrics =>
      followsItems_element "struct AnalysisResult with 3 elements" 2 (follows_list follows_text)
        fun suggestions => followsItems_done (⟨diagnostics, metrics, suggestions⟩ : ReviewResult)
  have hobject := Slots.followsMembers hread {} (fun i => by cases i <;> rfl)
    ResultFields.complete_eq_ok_iff
  refine (follows_record hlist hobject).congr fun v r => ?_
  constructor
  · rintro (⟨_, rfl, x, _, _, rfl, hx, y, _, _, rfl, hy, z, _, _, rfl, hz, rfl, rfl⟩ |
      ⟨ms, rfl, _, rfl, hms⟩)
    · exact Or.inl ⟨x, y, z, rfl, hx, hy, hz⟩
    · exact Or.inr ⟨ms, rfl, hms⟩
  · rintro (⟨x, y, z, rfl, hx, hy, hz⟩ | ⟨ms, rfl, hms⟩)
    · exact Or.inl ⟨_, rfl, x, _, _, rfl, hx, y, _, _, rfl, hy, z, _, _, rfl, hz, rfl, rfl⟩
    · exact Or.inr ⟨ms, rfl, _, rfl, hms⟩

end Wire

/-- **Which texts are results.** A text of a value is read as a result if and only if the value is a
form of it. -/
theorem ReviewResult.ofJson_eq_ok_iff {v : Value} {t : Text} (ht : TextOf v t) {r : ReviewResult} :
    ofJson t = .ok r ↔ Wire.ResultOf v r := by
  cases ht with
  | @blanks w t w' hw ht hw' =>
      have hread : ∀ {r : ReviewResult} {u : Text},
          Wire.readResult (w ++ (t ++ w')) = .ok (r, u) ↔ Wire.ResultOf v r ∧ u = w' :=
        Wire.follows_result ht hw (endsNumber_blank hw')
      rw [ofJson, bind_eq_ok]
      constructor
      · rintro ⟨⟨r', rest⟩, hr', hend⟩
        obtain ⟨hr, rfl⟩ := hread.1 hr'
        dsimp only at hend
        rw [skipSpace_blank hw'] at hend
        cases hend
        exact hr
      · intro hr
        refine ⟨(r, w'), hread.2 ⟨hr, rfl⟩, ?_⟩
        dsimp only
        rw [skipSpace_blank hw']

end UnitReview
