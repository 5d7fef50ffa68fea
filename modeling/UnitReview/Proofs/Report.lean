import UnitReview.Proofs.Terminal.Visible
import UnitReview.Proofs.Text.Lines
import UnitReview.Proofs.Text.Trimming
import UnitReview.Report

/-!
# Colours and what is seen of reports

Reports are put together from fixed words, from numbers and from foreign texts: names of files,
messages, suggestions, what a build or a failing process has written. Fixed words and numbers have
no escape character in them, so that a report has one only if a foreign text has one. Of all other
reports the same is seen with colours and without.
-/

set_option autoImplicit false

namespace UnitReview

open Text

/-! ## Foreign texts -/

/-- The texts of a diagnostic. -/
def Diagnostic.texts (d : Diagnostic) : List String :=
  d.id :: d.message :: d.category :: (d.location.map Location.file).toList

/-- The texts of a result. -/
def ReviewResult.texts (r : ReviewResult) : List String :=
  r.diagnostics.flatMap Diagnostic.texts ++ r.suggestions

/-- The texts of a system error; those for error numbers are fixed. -/
def SystemError.texts : SystemError → List String
  | .os _ => []
  | .other text => [text]

/-- The texts of a failure. -/
def Failure.texts : Failure → List String
  | .notBuilt artifact => [artifact.display]
  | .spawn artifact e => artifact.display :: e.texts
  | .processExit _ stderr => [stderr]
  | .resultParse rawOutput problem => [rawOutput, problem]
  | .validation problem => [problem]
  | .staging dir e => dir.display :: e.texts

/-! ## Numbers and fixed words -/

/-- The escape character is a byte of its own, so that the bytes of a string tell. -/
theorem unescaped_of_bytes {s : String} (h : 27 ∉ s.toByteArray.data.toList) :
    Unescaped s.toList := by
  intro hmem
  have hbyte : 27 ∈ s.toList.flatMap String.utf8EncodeChar :=
    List.mem_flatMap.2 ⟨escapeChar, hmem, by decide⟩
  rw [← String.utf8Encode_toList, List.utf8Encode, List.data_toByteArray] at h
  exact h hbyte

@[simp] theorem unescaped_toDigits (n : Nat) : Unescaped (Nat.toDigits 10 n) := by
  intro h
  have hdigit : escapeChar.isDigit = true :=
    Nat.isDigit_of_mem_toDigits (by decide) (by decide) h
  exact absurd hdigit (by decide)

@[simp] theorem unescaped_repr_int (n : Int) : Unescaped n.repr.toList := by
  cases n with
  | ofNat m =>
      show Unescaped m.repr.toList
      simp
  | negSucc m =>
      show Unescaped ("-" ++ (m + 1).repr).toList
      simp

/-- No text for an error number has an escape character. -/
theorem unescaped_systemErrorTexts : ∀ row ∈ systemErrorTexts, Unescaped row.2.toList := by
  -- bytes and not characters: a string is stored as its bytes, and there are many rows
  have hbytes : ∀ row ∈ systemErrorTexts, 27 ∉ row.2.toByteArray.data.toList := by decide +kernel
  exact fun row hrow => unescaped_of_bytes (hbytes row hrow)

@[simp] theorem unescaped_systemErrorText (n : Int) : Unescaped (systemErrorText n).toList := by
  rw [systemErrorText]
  cases hfound : systemErrorTexts.lookup n with
  | none =>
      rw [Option.getD_none, String.toList_append, unescaped_append]
      exact ⟨by decide, unescaped_repr_int n⟩
  | some text =>
      obtain ⟨before, after, hrow, -⟩ := List.lookup_eq_some_iff.1 hfound
      have hmem : (n, text) ∈ systemErrorTexts := by
        rw [hrow]
        exact List.mem_append_right before List.mem_cons_self
      exact unescaped_systemErrorTexts (n, text) hmem

theorem SystemError.unescaped_message {e : SystemError} (h : ∀ s ∈ e.texts, Unescaped s.toList) :
    Unescaped e.message.toList := by
  cases e with
  | os n => simp [SystemError.message]
  | other text => exact h text List.mem_cons_self

namespace Failure

@[simp] theorem unescaped_exitLabel (code : Option Int) : Unescaped (exitLabel code).toList := by
  cases code <;> simp [exitLabel]

theorem unescaped_trim {t : Text} (h : t.Unescaped) : t.trim.Unescaped := by
  obtain ⟨before, after, -, -, ht⟩ := exists_trim t
  refine h.subset fun c hc => ?_
  rw [ht]
  exact List.mem_append_left after (List.mem_append_right before hc)

theorem unescaped_message {f : Failure} (h : ∀ s ∈ f.texts, Unescaped s.toList) :
    Unescaped f.message.toList := by
  -- opened before the cases, each of which is then a single concatenation
  unfold message
  cases f with
  | notBuilt artifact =>
      have hartifact := h artifact.display List.mem_cons_self
      simp [hartifact]
  | spawn artifact e =>
      obtain ⟨hartifact, he⟩ := List.forall_mem_cons.1 h
      simp [hartifact, SystemError.unescaped_message he]
  | processExit code stderr =>
      have hstderr := h stderr List.mem_cons_self
      simp [unescaped_trim hstderr]
  | resultParse rawOutput problem =>
      have hproblem := h problem (List.mem_cons_of_mem _ List.mem_cons_self)
      simp [hproblem]
  | validation problem =>
      have hproblem := h problem List.mem_cons_self
      simp [hproblem]
  | staging dir e =>
      obtain ⟨hdir, he⟩ := List.forall_mem_cons.1 h
      simp [hdir, SystemError.unescaped_message he]

@[simp] theorem unescaped_hint (f : Failure) : Unescaped f.hint.toList := by
  unfold hint
  split <;> exact unescaped_of_bytes (by decide)

end Failure

namespace Report

open Styled

/-! ## Results -/

@[simp] theorem unescaped_header : header.Unescaped := by decide

@[simp] theorem unescaped_metricsLine (m : Metrics) : (metricsLine m).Unescaped := by
  simp [metricsLine, count]

@[simp] theorem unescaped_severityTag (s : Severity) : (severityTag s).Unescaped := by
  cases s <;> decide

theorem unescaped_place {l : Location} (h : Text.Unescaped l.file.toList) :
    (place l).Unescaped := by
  simp [place, h]

theorem unescaped_diagnostic {d : Diagnostic} (h : ∀ s ∈ d.texts, Text.Unescaped s.toList) :
    (diagnostic d).Unescaped := by
  have hid : Text.Unescaped d.id.toList := h d.id (by simp [Diagnostic.texts])
  have hmessage : Text.Unescaped d.message.toList := h d.message (by simp [Diagnostic.texts])
  cases hlocation : d.location with
  | none => simp [diagnostic, hlocation, hid, hmessage]
  | some l =>
      have hplace : (place l).Unescaped :=
        unescaped_place (h l.file (by simp [Diagnostic.texts, hlocation]))
      simp [diagnostic, hlocation, hid, hmessage, hplace]

theorem unescaped_heading {title : String} (h : Text.Unescaped title.toList) (n : Nat) :
    (heading title n).Unescaped := by
  simp [heading, h]

theorem unescaped_withoutMark {s : String} (h : Text.Unescaped s.toList) (c : Category) :
    (withoutMark s c).Unescaped := by
  unfold withoutMark
  split
  · next m _ =>
      split
      · exact h.subset fun x hx =>
          List.mem_of_mem_drop ((List.dropWhile_suffix isBlank).subset hx)
      · exact h
  · exact h

theorem unescaped_suggestion {s : String} (h : Text.Unescaped s.toList) :
    (suggestion s).Unescaped := by
  have htag : ∀ c : Category, Text.Unescaped (Piece.fill 12 c.name.toList) := fun c =>
    Piece.unescaped_fill.2 (by cases c <;> decide)
  simp [suggestion, htag, unescaped_withoutMark h]

/-- Entries under a heading, which are left out with it if there are none. -/
theorem unescaped_entries {α : Type} {entry : α → Styled} {entries : List α} {title : String}
    (htitle : Text.Unescaped title.toList) (h : ∀ x ∈ entries, (entry x).Unescaped) :
    Styled.Unescaped (if entries.isEmpty then []
      else heading title entries.length ++ entries.flatMap entry ++ newLine) := by
  split
  · exact unescaped_nil
  · have hall : Styled.Unescaped (entries.flatMap entry) := unescaped_flatMap.2 h
    simp [unescaped_heading htitle, hall]

theorem unescaped_diagnostics {ds : List Diagnostic}
    (h : ∀ d ∈ ds, ∀ s ∈ d.texts, Text.Unescaped s.toList) : (diagnostics ds).Unescaped :=
  unescaped_entries (by decide) fun d hd => unescaped_diagnostic (h d hd)

theorem unescaped_suggestions {ss : List String} (h : ∀ s ∈ ss, Text.Unescaped s.toList) :
    (suggestions ss).Unescaped :=
  unescaped_entries (by decide) fun s hs => unescaped_suggestion (h s hs)

@[simp] theorem unescaped_noFindings (r : ReviewResult) : (noFindings r).Unescaped := by
  unfold noFindings
  split
  · decide +kernel
  · exact unescaped_nil

theorem unescaped_pretty {target : String} {r : ReviewResult}
    (h : ∀ s ∈ target :: r.texts, Text.Unescaped s.toList) : (pretty target r).Unescaped := by
  obtain ⟨htarget, hr⟩ := List.forall_mem_cons.1 h
  obtain ⟨hdiagnostics, hsuggestions⟩ := List.forall_mem_append.1 hr
  have hfound := unescaped_diagnostics (List.forall_mem_flatMap.1 hdiagnostics)
  simp [pretty, htarget, hfound, unescaped_suggestions hsuggestions]

/-! ## The analyzer, builds and failures -/

theorem unescaped_status {a : Availability} {artifact : String}
    (h : Text.Unescaped artifact.toList) : (status a artifact).Unescaped := by
  cases a <;> simp [status, h]

theorem unescaped_quotedLines {t : Text} (h : t.Unescaped) : (quotedLines t).Unescaped := by
  refine unescaped_flatMap.2 fun line hline => ?_
  simp [h.subset (subset_of_mem_lines hline)]

theorem unescaped_build {o : BuildOutcome} (h : Text.Unescaped o.output.toList) :
    (build o).Unescaped := by
  have houtput : Styled.Unescaped (if isBlankText o.output.toList then []
      else quotedLines o.output.toList ++ newLine) := by
    split
    · exact unescaped_nil
    · exact Styled.unescaped_append.2 ⟨unescaped_quotedLines h, unescaped_newLine⟩
  have hverdict : Styled.Unescaped (if o.success then styled (.of .green) "✓ Build succeeded".toList
      else styled (.of .red) "✗ Build failed".toList) := by
    split <;> decide
  simp only [build, Styled.unescaped_append]
  exact ⟨⟨⟨houtput, by decide⟩, hverdict⟩, unescaped_newLine⟩

theorem unescaped_failureDetail {f : Failure} (h : ∀ s ∈ f.texts, Text.Unescaped s.toList) :
    (failureDetail f).Unescaped := by
  cases f with
  | processExit code stderr =>
      have hstderr : Text.Unescaped stderr.toList := h stderr List.mem_cons_self
      show Styled.Unescaped (if isBlankText stderr.toList then []
        else newLine ++ quotedLines stderr.toList)
      split
      · exact unescaped_nil
      · exact Styled.unescaped_append.2 ⟨unescaped_newLine, unescaped_quotedLines hstderr⟩
  | resultParse rawOutput problem =>
      have hraw : Text.Unescaped rawOutput.toList := h rawOutput List.mem_cons_self
      simp [failureDetail, unescaped_quotedLines hraw]
  | notBuilt | spawn | validation | staging => exact unescaped_nil

theorem unescaped_failure {f : Failure} (h : ∀ s ∈ f.texts, Text.Unescaped s.toList) :
    (failure f).Unescaped := by
  simp [failure, unescaped_failureDetail h, Failure.unescaped_message h]

/-- **Colours never change what is seen.** If no foreign text in a report has an escape character,
then deleting the style escapes from what is printed with colours on gives exactly what is printed
with colours off. This holds of results, of the state of the analyzer, of builds and of failures. -/
theorem visible_coloured :
    (∀ (target : String) (r : ReviewResult),
      (∀ s ∈ target :: r.texts, Text.Unescaped s.toList) →
      visible ((pretty target r).render true) = (pretty target r).render false) ∧
    (∀ (a : Availability) (artifact : String), Text.Unescaped artifact.toList →
      visible ((status a artifact).render true) = (status a artifact).render false) ∧
    (∀ o : BuildOutcome, Text.Unescaped o.output.toList →
      visible ((build o).render true) = (build o).render false) ∧
    ∀ f : Failure, (∀ s ∈ f.texts, Text.Unescaped s.toList) →
      visible ((failure f).render true) = (failure f).render false :=
  ⟨fun _ _ h => visible_render (unescaped_pretty h),
    fun _ _ h => visible_render (unescaped_status h),
    fun _ h => visible_render (unescaped_build h),
    fun _ h => visible_render (unescaped_failure h)⟩

/-- A result with a diagnostic at a place, one without a place and suggestions of two categories. -/
def mixedResult : ReviewResult where
  diagnostics :=
    [⟨"SC1001", .error, "unexpected syntax '%'", some ⟨3, 9, "Ä.cs"⟩, "Syntax"⟩,
      ⟨"", .hidden, "", none, ""⟩]
  metrics := ⟨1, 2, 30, 11⟩
  suggestions := ["SECURITY: weak random", "Method 'M' is long"]

/-- A process that has written two lines and a blank one before it failed. -/
def failedProcess : Failure := .processExit (some (-9)) "Error: boom\r\n\n  at M\n"

/-- With colours on there are escapes in the report of the result, and none of them is seen. -/
theorem visible_coloured_mixed :
    (∀ s ∈ "Ä.cs" :: mixedResult.texts, Text.Unescaped s.toList) ∧
    ¬ Text.Unescaped ((pretty "Ä.cs" mixedResult).render true) ∧
    visible ((pretty "Ä.cs" mixedResult).render true) =
      (pretty "Ä.cs" mixedResult).render false ∧
    visible ((status .notBuilt "an").render true) = (status .notBuilt "an").render false ∧
    visible ((build ⟨false, "a\n\nb"⟩).render true) = (build ⟨false, "a\n\nb"⟩).render false ∧
    (∀ s ∈ failedProcess.texts, Text.Unescaped s.toList) ∧
    visible ((failure failedProcess).render true) = (failure failedProcess).render false := by
  obtain ⟨hpretty, hstatus, hbuild, hfailure⟩ := visible_coloured
  have hresult : ∀ s ∈ "Ä.cs" :: mixedResult.texts, Text.Unescaped s.toList := by decide +kernel
  have hprocess : ∀ s ∈ failedProcess.texts, Text.Unescaped s.toList := by decide +kernel
  exact ⟨hresult, by decide +kernel, hpretty _ _ hresult, hstatus _ _ (by decide),
    hbuild _ (by decide), hprocess, hfailure _ hprocess⟩

end Report

end UnitReview
