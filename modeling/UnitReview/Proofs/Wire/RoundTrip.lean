import UnitReview.Proofs.Wire.Reads
import UnitReview.Wire.Writer

/-!
# Results survive the wire

A result is written by one program and read by another. The two agree: whatever a result holds,
its written form is read back as that result, with any blanks around it, and with anything else
behind it it is refused. Numbers are machine words; the reader takes a larger one for a fraction.
-/

set_option autoImplicit false

namespace UnitReview

open Json

/-! ## Numbers that fit

All numbers of a result are counts and places, held in machine words. -/

/-- The greatest machine word, `2 ^ 64 - 1`. -/
def maxWord : Nat := 0xFFFFFFFFFFFFFFFF

/-- Line and column are machine words. -/
def Location.InWords (l : Location) : Prop := l.line ≤ maxWord ∧ l.column ≤ maxWord

/-- The place of a diagnostic, if there is one, is given in machine words. -/
def Diagnostic.InWords (d : Diagnostic) : Prop := ∀ l ∈ d.location, l.InWords

/-- All metrics are machine words. -/
def Metrics.InWords (m : Metrics) : Prop :=
  m.classes ≤ maxWord ∧ m.methods ≤ maxWord ∧ m.lines ≤ maxWord ∧ m.complexity ≤ maxWord

/-- All numbers of a result are machine words. -/
def ReviewResult.InWords (r : ReviewResult) : Prop :=
  (∀ d ∈ r.diagnostics, d.InWords) ∧ r.metrics.InWords

instance (l : Location) : Decidable l.InWords :=
  inferInstanceAs (Decidable (_ ∧ _))

instance (d : Diagnostic) : Decidable d.InWords :=
  inferInstanceAs (Decidable (∀ l ∈ d.location, l.InWords))

instance (m : Metrics) : Decidable m.InWords :=
  inferInstanceAs (Decidable (_ ∧ _))

instance (r : ReviewResult) : Decidable r.InWords :=
  inferInstanceAs (Decidable (_ ∧ _))

namespace Wire

/-! ## Records -/

/-- The fields of a document as keys and the texts of their values. -/
def members (level : Nat) (fs : List (Text × Json)) : List (Text × Text) :=
  fs.map fun f => (f.1, prettyAt level f.2)

theorem forall₂_members (level : Nat) (fs : List (Text × Json)) :
    List.Forall₂ MemberText (members level fs) (fs.map (prettyMember level)) := by
  induction fs with
  | nil => exact List.Forall₂.nil
  | cons f fs ih => exact List.Forall₂.cons (memberText_prettyMember level f) ih

/-- An object in its pretty form is read field by field. -/
theorem fields_pretty {σ : Type} {onField : σ → Text → Reader σ} {st st' : σ} {level : Nat}
    {fs : List (Text × Json)} (h : TakesAll onField st (members (level + 1) fs) st') :
    ∃ t, prettyAt level (.obj fs) = '\x7b' :: t ∧
      ∀ rest, fields onField ((t ++ rest).length + 1) true st (t ++ rest)
        = .ok (st', '\x7d' :: rest) := by
  have hlay := bracketed_obj level fs
  obtain ⟨t, ht⟩ := hlay.starts
  rw [ht] at hlay
  exact ⟨t, ht, fun rest => fields_bracketed (forall₂_members (level + 1) fs) h hlay rest⟩

theorem takes_natural {σ : Type} {onField : σ → Text → Reader σ} {st : σ} {k : Text}
    {name : String} {level n : Nat} (set : Nat → σ) (hn : n ≤ maxWord)
    (hfield : ∀ t, onField st k t
      = (fieldValue name none natural t).map fun p => (set p.1, p.2)) :
    Takes onField st (k, prettyAt level (.num n)) (set n) := by
  have hlimit : n < naturalLimit := Nat.lt_succ_of_le hn
  rw [prettyAt]
  exact takes_fieldValue set hfield (reads_natural hlimit)

theorem takes_text {σ : Type} {onField : σ → Text → Reader σ} {st : σ} {k : Text}
    {name : String} {level : Nat} {s : String} (set : String → σ)
    (hfield : ∀ t, onField st k t
      = (fieldValue name none text t).map fun p => (set p.1, p.2)) :
    Takes onField st (k, prettyAt level (string s)) (set s) := by
  rw [string, prettyAt]
  exact takes_fieldValue set hfield (readsFreely_text s).reads

/-- Places are read back. -/
theorem readsFreely_location {l : Location} (hl : l.InWords) (level : Nat) :
    ReadsFreely readLocation (prettyAt level (location l)) l := by
  have hline : Takes locationField {} ("line".toList, prettyAt (level + 1) (.num l.line))
      ⟨some l.line, none, none⟩ :=
    takes_natural (fun n => (⟨some n, none, none⟩ : LocationFields)) hl.1 fun _ => rfl
  have hcolumn : Takes locationField ⟨some l.line, none, none⟩
      ("column".toList, prettyAt (level + 1) (.num l.column))
      ⟨some l.line, some l.column, none⟩ :=
    takes_natural (fun n => (⟨some l.line, some n, none⟩ : LocationFields)) hl.2 fun _ => rfl
  have hfile : Takes locationField ⟨some l.line, some l.column, none⟩
      ("file".toList, prettyAt (level + 1) (string l.file))
      ⟨some l.line, some l.column, some l.file⟩ :=
    takes_text (fun s => (⟨some l.line, some l.column, some s⟩ : LocationFields)) fun _ => rfl
  have hall : TakesAll locationField {} (members (level + 1) (locationMembers l)) _ :=
    .cons hline (.cons hcolumn (.cons hfile (.nil _)))
  obtain ⟨t, ht, hfields⟩ := fields_pretty hall
  rw [location, ht]
  refine readsFreely_record fun rest => ?_
  simp only [hfields, bind, Except.bind, LocationFields.complete, required]

/-- Metrics are read back. -/
theorem readsFreely_metrics {m : Metrics} (hm : m.InWords) (level : Nat) :
    ReadsFreely readMetrics (prettyAt level (metrics m)) m := by
  obtain ⟨h₁, h₂, h₃, h₄⟩ := hm
  have hclasses : Takes metricsField {} ("classes".toList, prettyAt (level + 1) (.num m.classes))
      ⟨some m.classes, none, none, none⟩ :=
    takes_natural (fun n => (⟨some n, none, none, none⟩ : MetricsFields)) h₁ fun _ => rfl
  have hmethods : Takes metricsField ⟨some m.classes, none, none, none⟩
      ("methods".toList, prettyAt (level + 1) (.num m.methods))
      ⟨some m.classes, some m.methods, none, none⟩ :=
    takes_natural (fun n => (⟨some m.classes, some n, none, none⟩ : MetricsFields)) h₂ fun _ => rfl
  have hlines : Takes metricsField ⟨some m.classes, some m.methods, none, none⟩
      ("lines".toList, prettyAt (level + 1) (.num m.lines))
      ⟨some m.classes, some m.methods, some m.lines, none⟩ :=
    takes_natural
      (fun n => (⟨some m.classes, some m.methods, some n, none⟩ : MetricsFields)) h₃ fun _ => rfl
  have hcomplexity : Takes metricsField ⟨some m.classes, some m.methods, some m.lines, none⟩
      ("complexity".toList, prettyAt (level + 1) (.num m.complexity))
      ⟨some m.classes, some m.methods, some m.lines, some m.complexity⟩ :=
    takes_natural
      (fun n => (⟨some m.classes, some m.methods, some m.lines, some n⟩ : MetricsFields)) h₄
      fun _ => rfl
  have hall : TakesAll metricsField {} (members (level + 1) (metricsMembers m)) _ :=
    .cons hclasses (.cons hmethods (.cons hlines (.cons hcomplexity (.nil _))))
  obtain ⟨t, ht, hfields⟩ := fields_pretty hall
  rw [metrics, ht]
  refine readsFreely_record fun rest => ?_
  simp only [hfields, bind, Except.bind, MetricsFields.complete, required]

theorem prettyAt_location (level : Nat) (l : Location) :
    ∃ t, prettyAt level (location l) = '\x7b' :: t :=
  (bracketed_obj level (locationMembers l)).starts

/-- The field for the place: there is one only if there is a place. -/
theorem takesAll_location {id message : String} {v : Severity} {o : Option Location}
    (ho : ∀ l ∈ o, l.InWords) (level : Nat) :
    TakesAll diagnosticField ⟨some id, some v, some message, none, none⟩
      (members level (o.map fun l => ("location".toList, location l)).toList)
      ⟨some id, some v, some message, o.map some, none⟩ := by
  cases o with
  | none => exact .nil _
  | some l =>
      have hread : Reads (optional readLocation) (prettyAt level (location l)) (some l) := by
        obtain ⟨t, ht⟩ := prettyAt_location level l
        have h := (readsFreely_location (ho l rfl) level).reads
        rw [ht] at h ⊢
        exact reads_optional rfl (by decide) h
      have hlocation : Takes diagnosticField ⟨some id, some v, some message, none, none⟩
          ("location".toList, prettyAt level (location l))
          ⟨some id, some v, some message, some (some l), none⟩ :=
        takes_fieldValue
          (fun p => (⟨some id, some v, some message, some p, none⟩ : DiagnosticFields))
          (fun _ => rfl) hread
      exact .cons hlocation (.nil _)

theorem TakesAll.append {σ : Type} {onField : σ → Text → Reader σ} {st st' st'' : σ}
    {ms ms' : List (Text × Text)} (h : TakesAll onField st ms st')
    (h' : TakesAll onField st' ms' st'') : TakesAll onField st (ms ++ ms') st'' := by
  induction h with
  | nil st => exact h'
  | cons hm _ ih => exact .cons hm (ih h')

/-- Diagnostics are read back, with a place or without one. -/
theorem readsFreely_diagnostic {d : Diagnostic} (hd : d.InWords) (level : Nat) :
    ReadsFreely readDiagnostic (prettyAt level (diagnostic d)) d := by
  obtain ⟨id, v, message, o, category⟩ := d
  have hid : Takes diagnosticField {} ("id".toList, prettyAt (level + 1) (string id))
      ⟨some id, none, none, none, none⟩ :=
    takes_text (fun s => (⟨some s, none, none, none, none⟩ : DiagnosticFields)) fun _ => rfl
  have hseverity : Takes diagnosticField ⟨some id, none, none, none, none⟩
      ("severity".toList, prettyAt (level + 1) (string v.name))
      ⟨some id, some v, none, none, none⟩ := by
    rw [string, prettyAt]
    exact takes_fieldValue (fun u => (⟨some id, some u, none, none, none⟩ : DiagnosticFields))
      (fun _ => rfl) (readsFreely_severity v).reads
  have hmessage : Takes diagnosticField ⟨some id, some v, none, none, none⟩
      ("message".toList, prettyAt (level + 1) (string message))
      ⟨some id, some v, some message, none, none⟩ :=
    takes_text (fun s => (⟨some id, some v, some s, none, none⟩ : DiagnosticFields)) fun _ => rfl
  have hcategory : Takes diagnosticField ⟨some id, some v, some message, o.map some, none⟩
      ("category".toList, prettyAt (level + 1) (string category))
      ⟨some id, some v, some message, o.map some, some category⟩ :=
    takes_text (fun s => (⟨some id, some v, some message, o.map some, some s⟩ : DiagnosticFields))
      fun _ => rfl
  have hall : TakesAll diagnosticField {}
      (members (level + 1) (diagnosticMembers ⟨id, v, message, o, category⟩))
      ⟨some id, some v, some message, o.map some, some category⟩ := by
    rw [diagnosticMembers, members, List.map_append, List.map_append]
    exact ((TakesAll.cons hid (.cons hseverity (.cons hmessage (.nil _)))).append
      (takesAll_location hd (level + 1))).append (.cons hcategory (.nil _))
  obtain ⟨t, ht, hfields⟩ := fields_pretty hall
  rw [diagnostic, ht]
  refine readsFreely_record fun rest => ?_
  simp only [hfields, bind, Except.bind, DiagnosticFields.complete, required]
  -- a field that was never seen and one that was seen without a place come to the same
  cases o <;> rfl

/-- A list of documents is read back if every one of them is. -/
theorem readsFreely_arr {α : Type} {read : Reader α} {write : α → Json} {level : Nat}
    {xs : List α} (hread : ∀ x ∈ xs, Reads read (prettyAt (level + 1) (write x)) x)
    (hstart : ∀ x ∈ xs, StartsValue (prettyAt (level + 1) (write x))) :
    ReadsFreely (list read) (prettyAt level (.arr (xs.map write))) xs := by
  have hlay := bracketed_arr level (xs.map write)
  rw [List.map_map] at hlay
  refine readsFreely_list ?_ ?_ hlay
  · rw [List.forall₂_map_left_iff, List.forall₂_same]
    exact hread
  · intro t ht
    obtain ⟨x, hx, rfl⟩ := List.mem_map.mp ht
    exact hstart x hx

theorem startsValue_obj (level : Nat) (fs : List (Text × Json)) :
    StartsValue (prettyAt level (.obj fs)) := by
  obtain ⟨t, ht⟩ := (bracketed_obj level fs).starts
  exact ⟨'\x7b', t, ht, rfl, by decide⟩

/-- Results are read back, whatever stands behind them. -/
theorem readsFreely_document {r : ReviewResult} (hr : r.InWords) (level : Nat) :
    ReadsFreely readResult (prettyAt level (document r)) r := by
  obtain ⟨ds, m, ss⟩ := r
  have hdiagnostics : Takes resultField {}
      ("diagnostics".toList, prettyAt (level + 1) (.arr (ds.map diagnostic)))
      ⟨some ds, none, none⟩ :=
    takes_fieldValue (fun xs => (⟨some xs, none, none⟩ : ResultFields)) (fun _ => rfl)
      (readsFreely_arr (fun d hd => (readsFreely_diagnostic (hr.1 d hd) _).reads)
        (fun d _ => startsValue_obj _ _)).reads
  have hmetrics : Takes resultField ⟨some ds, none, none⟩
      ("metrics".toList, prettyAt (level + 1) (metrics m)) ⟨some ds, some m, none⟩ :=
    takes_fieldValue (fun x => (⟨some ds, some x, none⟩ : ResultFields)) (fun _ => rfl)
      (readsFreely_metrics hr.2 _).reads
  have hsuggestion : ∀ s : String, prettyAt (level + 2) (string s) = quote s.toList := by
    intro s
    rw [string, prettyAt]
  have hsuggestions : Takes resultField ⟨some ds, some m, none⟩
      ("suggestions".toList, prettyAt (level + 1) (.arr (ss.map string)))
      ⟨some ds, some m, some ss⟩ := by
    refine takes_fieldValue (fun xs => (⟨some ds, some m, some xs⟩ : ResultFields))
      (fun _ => rfl) (readsFreely_arr ?_ ?_).reads
    · intro s _
      rw [hsuggestion]
      exact (readsFreely_text s).reads
    · intro s _
      rw [hsuggestion]
      exact startsValue_quote s.toList
  have hall : TakesAll resultField {} (members (level + 1) (resultMembers ⟨ds, m, ss⟩)) _ :=
    .cons hdiagnostics (.cons hmetrics (.cons hsuggestions (.nil _)))
  obtain ⟨t, ht, hfields⟩ := fields_pretty hall
  rw [document, ht]
  refine readsFreely_record fun rest => ?_
  simp only [hfields, bind, Except.bind, ResultFields.complete, required]

end Wire

namespace ReviewResult

/-! ## Whole texts -/

/-- A result in blanks is read back. -/
theorem ofJson_blank {r : ReviewResult} (hr : r.InWords) {w w' : Text} (hw : Blank w)
    (hw' : Blank w') : ofJson (w ++ r.toJson ++ w') = .ok r := by
  have hread := Wire.readsFreely_document hr 0 w w' hw
  rw [ofJson, toJson, pretty, List.append_assoc, hread]
  simp only [bind, Except.bind, skipSpace_blank hw']

theorem parse_eq_ok_iff {t : Text} {r : ReviewResult} : parse t = .ok r ↔ ofJson t = .ok r := by
  unfold parse
  cases ofJson t <;> simp [Except.mapError]

/-- A result on a line of its own is read back. -/
theorem parse_line {r : ReviewResult} (hr : r.InWords) : parse (r.toJson ++ ['\n']) = .ok r := by
  have hline : Blank ['\n'] := by decide
  have hread := ofJson_blank hr blank_nil hline
  rw [List.nil_append] at hread
  exact parse_eq_ok_iff.2 hread

/-- A result with anything but blanks behind it is refused. -/
theorem ofJson_trailing {r : ReviewResult} (hr : r.InWords) {t : Text} {c : Char} (hc : c ∈ t)
    (hspace : isSpace c = false) : ∃ f, ofJson (r.toJson ++ t) = .error f := by
  have hread := Wire.readsFreely_document hr 0 [] t blank_nil
  rw [List.nil_append] at hread
  rw [ofJson, toJson, pretty, hread]
  cases hskip : skipSpace t with
  | nil => exact absurd hskip (skipSpace_ne_nil hc hspace)
  | cons d u => exact ⟨_, by simp only [bind, Except.bind, hskip]; rfl⟩

/-- The characters that may stand between the tokens of a JSON text. -/
def jsonBlanks : List Char := [' ', '\t', '\n', '\r']

/-- They are the ones that the reader steps over. -/
theorem isSpace_iff_mem {c : Char} : isSpace c = true ↔ c ∈ jsonBlanks := by
  rw [isSpace_iff]
  simp only [jsonBlanks, List.mem_cons, List.not_mem_nil, or_false]
  constructor
  · rintro (h | h | h | h) <;> simp [h]
  · rintro (h | h | h | h) <;> simp [h]

/-- **The written form of a result stands for that result alone.** In blanks of any kind it is
read back as the result, and a text that goes on after it is no result at all. -/
theorem ofJson_toJson (r : ReviewResult) (hr : r.InWords) :
    (∀ w w' : Text, (∀ c ∈ w, c ∈ jsonBlanks) → (∀ c ∈ w', c ∈ jsonBlanks) →
      ofJson (w ++ r.toJson ++ w') = .ok r) ∧
    (∀ t : Text, (∃ c ∈ t, c ∉ jsonBlanks) → ∃ f, ofJson (r.toJson ++ t) = .error f) := by
  refine ⟨?_, ?_⟩
  · intro w w' hw hw'
    exact ofJson_blank hr (fun c hc => isSpace_iff_mem.2 (hw c hc))
      (fun c hc => isSpace_iff_mem.2 (hw' c hc))
  · rintro t ⟨c, hc, hblank⟩
    have hspace : isSpace c = false := Bool.eq_false_iff.2 (mt isSpace_iff_mem.1 hblank)
    exact ofJson_trailing hr hc hspace

/-- A result with escapes of every kind, the largest word and a hidden diagnostic. -/
theorem ofJson_toJson_hidden :
    let r : ReviewResult :=
      ⟨[⟨"CS\"1\\", .hidden, "\x01\té\n", some ⟨0xFFFFFFFFFFFFFFFF, 0, "a.cs"⟩, ""⟩],
        ⟨0, 1, 10, 0xFFFFFFFFFFFFFFFF⟩, ["", "/\x7f"]⟩
    r.InWords ∧ ofJson ([' ', '\t'] ++ r.toJson ++ ['\n']) = .ok r ∧
      ∃ f, ofJson (r.toJson ++ [' ', '0']) = .error f := by
  intro r
  have hr : r.InWords := by decide
  have h := ofJson_toJson r hr
  refine ⟨hr, h.1 _ _ ?_ ?_, h.2 _ ⟨'0', ?_, ?_⟩⟩
  all_goals simp [jsonBlanks]

end ReviewResult

end UnitReview
