import UnitReview.Json.Reader
import UnitReview.Result

/-!
# Reading result documents

Records are read from objects, in any order of their fields, or from lists with the fields in
order. Unknown fields are stepped over, a repeated field is a fault, and so is a missing one,
`location` apart. A severity is its name, or an object with the name as its only key and null
as its value.
-/

set_option autoImplicit false

namespace UnitReview

namespace Wire

open Json

/-- A reader takes the unread text and gives back a value and what is left. -/
abbrev Reader (α : Type) := Text → Except Fault (α × Text)

/-! ## Simple values -/

/-- A natural number below `2 ^ 64`. -/
def natural : Reader Nat := fun t =>
  match skipSpace t with
  | [] => faultAhead .eofValue []
  | c :: r => do
      if c = '-' then
        let (n, r) ← number false r
        match n with
        | .negative k => fault (.invalidValue (.negative k) "usize") r
        | other => fault (.invalidType other.found "usize") r
      else if isDigit c then
        let (n, r) ← number true (c :: r)
        match n with
        | .natural k => .ok (k, r)
        | other => fault (.invalidType other.found "usize") r
      else wrongType "usize" (c :: r)

/-- A string; `expected` is what the message for anything else asks for. -/
def stringAs (expected : String) : Reader Text := fun t =>
  match skipSpace t with
  | [] => faultAhead .eofValue []
  | c :: r => if c = '"' then stringTail r else wrongType expected (c :: r)

/-- A string. -/
def text : Reader String := fun t =>
  (stringAs "a string" t).map fun p => (String.ofList p.1, p.2)

/-- Null. -/
def unit : Reader Unit := fun t =>
  match skipSpace t with
  | [] => faultAhead .eofValue []
  | c :: r =>
      if c = 'n' then (wordTail "ull".toList r).map fun r => ((), r) else wrongType "unit" (c :: r)

/-- Null, or a value. -/
def optional {α : Type} (read : Reader α) : Reader (Option α) := fun t =>
  match skipSpace t with
  | 'n' :: r => (wordTail "ull".toList r).map fun r => (none, r)
  | r => (read r).map fun p => (some p.1, p.2)

/-- The colon after a key. -/
def colon (t : Text) : Except Fault Text :=
  match skipSpace t with
  | [] => faultAhead .eofObject []
  | c :: r => if c = ':' then .ok r else faultAhead .expectedColon (c :: r)

/-- The name of a severity. -/
def severityName : Reader Severity := fun t => do
  let (s, r) ← stringAs "variant identifier" t
  match Severity.ofName? (String.ofList s) with
  | some v => .ok (v, r)
  | none => fault (.unknownVariant s (Severity.all.map Severity.name)) r

/-- A severity as the only key of an object, with null as its value; the text starts after the
opening brace. -/
def severityKey : Reader Severity := fun r => do
  let (v, r) ← severityName r
  let r ← colon r
  let (_, r) ← unit r
  match skipSpace r with
  | [] => fault .eofObject []
  | d :: r' => if d = '\x7d' then .ok (v, r') else fault .expectedValue (d :: r')

/-- A severity: its name, or an object from its name to null. -/
def severity : Reader Severity := fun t =>
  match skipSpace t with
  | [] => faultAhead .eofValue []
  | c :: r =>
      if c = '"' then severityName (c :: r)
      else if c = '\x7b' then severityKey r
      else faultAhead .expectedValue (c :: r)

/-! ## Lists -/

/-- What comes next in a list: the text of the next item, or `none` before the closing bracket.
The result also holds the text with the blanks stepped over. -/
def nextItem? (first : Bool) (t : Text) : Except Fault (Bool × Text) :=
  match skipSpace t with
  | [] => faultAhead .eofList []
  | c :: r =>
      if c = ']' then .ok (false, c :: r)
      else if first then .ok (true, c :: r)
      else if c = ',' then
        match skipSpace r with
        | [] => faultAhead .eofValue []
        | d :: r' => if d = ']' then faultAhead .trailingComma (d :: r') else .ok (true, d :: r')
      else faultAhead .expectedListEnd (c :: r)

/-- The end of a list. -/
def endList (t : Text) : Except Fault Text :=
  match skipSpace t with
  | [] => faultAhead .eofList []
  | c :: r =>
      if c = ']' then .ok r
      else if c = ',' then
        match skipSpace r with
        | ']' :: r' => faultAhead .trailingComma (']' :: r')
        | r' => faultAhead .trailingCharacters r'
      else faultAhead .trailingCharacters (c :: r)

/-- How far the end of a list is read where its items are at fault. -/
def afterList (t : Text) : Text :=
  match skipSpace t with
  | ']' :: r => r
  | ',' :: r => skipSpace r
  | r => r

/-- The items of a list, up to its closing bracket. -/
def items {α : Type} (read : Reader α) : Nat → Bool → Reader (List α)
  | 0, _, t => fault .eofList t
  | fuel + 1, first, t => do
      let (more, t) ← nextItem? first t
      if more then
        let (x, t) ← read t
        let (xs, t) ← items read fuel false t
        .ok (x :: xs, t)
      else .ok ([], t)

/-- A list of values. -/
def list {α : Type} (read : Reader α) : Reader (List α) := fun t =>
  match skipSpace t with
  | [] => faultAhead .eofValue []
  | c :: r =>
      if c = '[' then do
        let (xs, r) ← items read (r.length + 1) true r
        let r ← endList r
        .ok (xs, r)
      else wrongType "a sequence" (c :: r)

/-! ## Records -/

/-- The next field of a record written as a list, the `index`-th from 0. -/
def element {α : Type} (record : String) (index : Nat) (read : Reader α) : Reader α := fun t => do
  let (more, t) ← nextItem? (index == 0) t
  if more then read t else fault (.invalidLength index record) (afterList t)

/-- Whether another field comes in an object; the text then starts with its key. -/
def nextKey? (first : Bool) (t : Text) : Except Fault (Bool × Text) :=
  match skipSpace t with
  | [] => faultAhead .eofObject []
  | c :: r =>
      if c = '\x7d' then .ok (false, c :: r)
      else if first then
        if c = '"' then .ok (true, c :: r) else faultAhead .keyNotString (c :: r)
      else if c = ',' then
        match skipSpace r with
        | [] => faultAhead .eofValue []
        | d :: r' =>
            if d = '"' then .ok (true, d :: r')
            else if d = '\x7d' then faultAhead .trailingComma (d :: r')
            else faultAhead .keyNotString (d :: r')
      else faultAhead .expectedObjectEnd (c :: r)

/-- The end of an object. -/
def endObject (t : Text) : Except Fault Text :=
  match skipSpace t with
  | [] => faultAhead .eofObject []
  | c :: r =>
      if c = '\x7d' then .ok r
      else if c = ',' then faultAhead .trailingComma (c :: r)
      else faultAhead .trailingCharacters (c :: r)

/-- How far the end of an object is read where its fields are at fault. -/
def afterObject (t : Text) : Text :=
  match skipSpace t with
  | '\x7d' :: r => r
  | r => r

/-- The value of a field seen for the first time; `t` is the text after the key. -/
def fieldValue {α : Type} (name : String) (seen : Option α) (read : Reader α) : Reader α := fun t =>
  if seen.isSome then fault (.duplicateField name) (afterObject t)
  else do
    let t ← colon t
    read t

/-- Steps over the value of a field of no interest; `t` is the text after the key. -/
def skipField (t : Text) : Except Fault Text := do
  let t ← colon t
  skipValue t

/-- The fields of an object, up to its closing brace. `onField` is given what was read so far,
the key and the text after it. -/
def fields {σ : Type} (onField : σ → Text → Reader σ) : Nat → Bool → σ → Reader σ
  | 0, _, _, t => fault .eofObject t
  | fuel + 1, first, st, t => do
      let (more, t) ← nextKey? first t
      if more then
        let (key, t) ← stringTail (t.drop 1)
        let (st, t) ← onField st key t
        fields onField fuel false st t
      else .ok (st, t)

/-- A field that has to be there; `t` is the text before the closing brace. -/
def required {α : Type} (name : String) (seen : Option α) (t : Text) : Except Fault α :=
  match seen with
  | some v => .ok v
  | none => fault (.missingField name) (afterObject t)

/-- A record: an object or a list. -/
def record {α : Type} (name : String) (fromList fromObject : Reader α) : Reader α := fun t =>
  match skipSpace t with
  | [] => faultAhead .eofValue []
  | c :: r =>
      if c = '[' then do
        let (v, r) ← fromList r
        let r ← endList r
        .ok (v, r)
      else if c = '\x7b' then do
        let (v, r) ← fromObject r
        let r ← endObject r
        .ok (v, r)
      else wrongType ("struct " ++ name) (c :: r)

/-! ## The records of a result -/

/-- The fields of a place seen so far. -/
structure LocationFields where
  line : Option Nat := none
  column : Option Nat := none
  file : Option String := none

/-- A field of a place. -/
def locationField (st : LocationFields) (key : Text) : Reader LocationFields := fun t =>
  if key = "line".toList then
    (fieldValue "line" st.line natural t).map fun p => ({ st with line := some p.1 }, p.2)
  else if key = "column".toList then
    (fieldValue "column" st.column natural t).map fun p => ({ st with column := some p.1 }, p.2)
  else if key = "file".toList then
    (fieldValue "file" st.file text t).map fun p => ({ st with file := some p.1 }, p.2)
  else (skipField t).map fun t => (st, t)

/-- The place that the fields make; the text starts before the closing brace. -/
def LocationFields.complete (st : LocationFields) : Reader Location := fun t => do
  let line ← required "line" st.line t
  let column ← required "column" st.column t
  let file ← required "file" st.file t
  .ok (⟨line, column, file⟩, t)

/-- A place. -/
def readLocation : Reader Location :=
  let shape := "struct Location with 3 elements"
  record "Location"
    (fun t => do
      let (line, t) ← element shape 0 natural t
      let (column, t) ← element shape 1 natural t
      let (file, t) ← element shape 2 text t
      .ok (⟨line, column, file⟩, t))
    (fun t => do
      let (st, t) ← fields locationField (t.length + 1) true {} t
      st.complete t)

/-- The fields of a diagnostic seen so far. -/
structure DiagnosticFields where
  id : Option String := none
  severity : Option Severity := none
  message : Option String := none
  location : Option (Option Location) := none
  category : Option String := none

/-- A field of a diagnostic. -/
def diagnosticField (st : DiagnosticFields) (key : Text) : Reader DiagnosticFields := fun t =>
  if key = "id".toList then
    (fieldValue "id" st.id text t).map fun p => ({ st with id := some p.1 }, p.2)
  else if key = "severity".toList then
    (fieldValue "severity" st.severity severity t).map fun p =>
      ({ st with severity := some p.1 }, p.2)
  else if key = "message".toList then
    (fieldValue "message" st.message text t).map fun p => ({ st with message := some p.1 }, p.2)
  else if key = "location".toList then
    (fieldValue "location" st.location (optional readLocation) t).map fun p =>
      ({ st with location := some p.1 }, p.2)
  else if key = "category".toList then
    (fieldValue "category" st.category text t).map fun p => ({ st with category := some p.1 }, p.2)
  else (skipField t).map fun t => (st, t)

/-- The diagnostic that the fields make; the text starts before the closing brace. -/
def DiagnosticFields.complete (st : DiagnosticFields) : Reader Diagnostic := fun t => do
  let id ← required "id" st.id t
  let severity ← required "severity" st.severity t
  let message ← required "message" st.message t
  let category ← required "category" st.category t
  .ok (⟨id, severity, message, st.location.getD none, category⟩, t)

/-- The place in a diagnostic written as a list; a list that ends before it has none. -/
def locationElement : Reader (Option Location) := fun t => do
  let (more, t) ← nextItem? false t
  if more then optional readLocation t else .ok (none, t)

/-- A diagnostic. -/
def readDiagnostic : Reader Diagnostic :=
  let shape := "struct Diagnostic with 5 elements"
  record "Diagnostic"
    (fun t => do
      let (id, t) ← element shape 0 text t
      let (severity, t) ← element shape 1 severity t
      let (message, t) ← element shape 2 text t
      let (location, t) ← locationElement t
      let (category, t) ← element shape 4 text t
      .ok (⟨id, severity, message, location, category⟩, t))
    (fun t => do
      let (st, t) ← fields diagnosticField (t.length + 1) true {} t
      st.complete t)

/-- The metrics seen so far. -/
structure MetricsFields where
  classes : Option Nat := none
  methods : Option Nat := none
  lines : Option Nat := none
  complexity : Option Nat := none

/-- One of the metrics. -/
def metricsField (st : MetricsFields) (key : Text) : Reader MetricsFields := fun t =>
  if key = "classes".toList then
    (fieldValue "classes" st.classes natural t).map fun p => ({ st with classes := some p.1 }, p.2)
  else if key = "methods".toList then
    (fieldValue "methods" st.methods natural t).map fun p => ({ st with methods := some p.1 }, p.2)
  else if key = "lines".toList then
    (fieldValue "lines" st.lines natural t).map fun p => ({ st with lines := some p.1 }, p.2)
  else if key = "complexity".toList then
    (fieldValue "complexity" st.complexity natural t).map fun p =>
      ({ st with complexity := some p.1 }, p.2)
  else (skipField t).map fun t => (st, t)

/-- The metrics that the fields make; the text starts before the closing brace. -/
def MetricsFields.complete (st : MetricsFields) : Reader Metrics := fun t => do
  let classes ← required "classes" st.classes t
  let methods ← required "methods" st.methods t
  let lines ← required "lines" st.lines t
  let complexity ← required "complexity" st.complexity t
  .ok (⟨classes, methods, lines, complexity⟩, t)

/-- Metrics. -/
def readMetrics : Reader Metrics :=
  let shape := "struct Metrics with 4 elements"
  record "Metrics"
    (fun t => do
      let (classes, t) ← element shape 0 natural t
      let (methods, t) ← element shape 1 natural t
      let (lines, t) ← element shape 2 natural t
      let (complexity, t) ← element shape 3 natural t
      .ok (⟨classes, methods, lines, complexity⟩, t))
    (fun t => do
      let (st, t) ← fields metricsField (t.length + 1) true {} t
      st.complete t)

/-- The fields of a result seen so far. -/
structure ResultFields where
  diagnostics : Option (List Diagnostic) := none
  metrics : Option Metrics := none
  suggestions : Option (List String) := none

/-- A field of a result. -/
def resultField (st : ResultFields) (key : Text) : Reader ResultFields := fun t =>
  if key = "diagnostics".toList then
    (fieldValue "diagnostics" st.diagnostics (list readDiagnostic) t).map fun p =>
      ({ st with diagnostics := some p.1 }, p.2)
  else if key = "metrics".toList then
    (fieldValue "metrics" st.metrics readMetrics t).map fun p =>
      ({ st with metrics := some p.1 }, p.2)
  else if key = "suggestions".toList then
    (fieldValue "suggestions" st.suggestions (list text) t).map fun p =>
      ({ st with suggestions := some p.1 }, p.2)
  else (skipField t).map fun t => (st, t)

/-- The result that the fields make; the text starts before the closing brace. -/
def ResultFields.complete (st : ResultFields) : Reader ReviewResult := fun t => do
  let diagnostics ← required "diagnostics" st.diagnostics t
  let metrics ← required "metrics" st.metrics t
  let suggestions ← required "suggestions" st.suggestions t
  .ok (⟨diagnostics, metrics, suggestions⟩, t)

/-- A result. -/
def readResult : Reader ReviewResult :=
  let shape := "struct AnalysisResult with 3 elements"
  record "AnalysisResult"
    (fun t => do
      let (diagnostics, t) ← element shape 0 (list readDiagnostic) t
      let (metrics, t) ← element shape 1 readMetrics t
      let (suggestions, t) ← element shape 2 (list text) t
      .ok (⟨diagnostics, metrics, suggestions⟩, t))
    (fun t => do
      let (st, t) ← fields resultField (t.length + 1) true {} t
      st.complete t)

end Wire

namespace ReviewResult

/-- Reads a whole text as a result. -/
def ofJson (t : Text) : Except Json.Fault ReviewResult := do
  let (r, rest) ← Wire.readResult t
  match Json.skipSpace rest with
  | [] => .ok r
  | rest => Json.faultAhead .trailingCharacters rest

/-- Reads a whole text as a result; the error is the message for the user. -/
def parse (t : Text) : Except String ReviewResult := (ofJson t).mapError (·.message t)

end ReviewResult

end UnitReview
