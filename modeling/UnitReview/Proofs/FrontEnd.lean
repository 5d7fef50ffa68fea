import UnitReview.FrontEnd
import UnitReview.Proofs.Orchestrator.Served
import UnitReview.Proofs.Text.Utf8
import UnitReview.Proofs.Wire.Words

/-!
# What scripts can rely on

A script that calls the front end sees an exit code and what was printed. An analysis is prevented
by an unknown form, an invalid request, settings that cannot be loaded or a request that fails; then
the code is 2 and nothing is printed. Otherwise the analyzer has ended well and has written a
result, the code says whether there are errors in it, and in the form of a document it is printed
so that it can be read again.

What the analyzer says besides is of no account: its error output if it ends well, and its output if
it does not (`analyze_heard`).
-/

set_option autoImplicit false

namespace UnitReview

open Host CommandLine

/-! ## What is heard of the analyzer -/

namespace Orchestrator

theorem readResult_heard (artifact : OsText) (out : Except SystemError Finished) :
    readResult artifact (out.map Finished.heard) = readResult artifact out := by
  cases out with
  | error e => rfl
  | ok f =>
      have hsuccess : f.heard.success = f.success := by rw [Finished.success, f.code_heard]; rfl
      simp only [Except.map, readResult, hsuccess, f.code_heard]
      cases h : f.success <;> simp [Finished.heard, h]

/-- A request comes to the same on a machine of whose programs less is heard. -/
theorem analyze_heard (s : Settings) (m : Machine) (fs : FileSystem) (r : Request) :
    (Orchestrator.mk s m.heard).analyze fs r = (Orchestrator.mk s m).analyze fs r := by
  cases hstatus : (Orchestrator.mk s m).status fs with
  | notBuilt => rw [analyze_of_notBuilt hstatus, analyze_of_notBuilt (o := ⟨s, m.heard⟩) hstatus]
  | built =>
      cases hstage : (Orchestrator.mk s m).stage fs r with
      | mk staged fs₁ =>
          cases staged with
          | error f =>
              rw [analyze_of_stage_error hstatus hstage,
                analyze_of_stage_error (o := ⟨s, m.heard⟩) hstatus hstage]
          | ok staged =>
              rw [analyze_of_stage_ok hstatus hstage rfl,
                analyze_of_stage_ok (o := ⟨s, m.heard⟩) hstatus hstage (Process.run_heard _),
                readResult_heard]
              rfl

end Orchestrator

/-! ## Documents -/

/-- A document is printed as it is, with colours or without. -/
theorem Report.render_json (colored : Bool) (r : ReviewResult) :
    (Report.json r).render colored = r.toJson ++ ['\n'] := by
  simp [Report.json, Styled.render, Styled.styled, Styled.newLine, Styled.plain, Piece.render,
    Style.plain, Style.codes, Piece.fill]

theorem ReviewResult.errorCount_pos_iff (r : ReviewResult) :
    0 < r.errorCount ↔ ∃ d ∈ r.diagnostics, d.severity = .error := by
  simp [errorCount, List.countP_pos_iff]

/-! ## Analyses -/

namespace FrontEnd

variable {m : Machine} {colored : Bool} {fs : FileSystem} {g : GlobalArguments}
  {a : AnalyzeArguments} {format : OutputFormat} {request : Request} {s : Settings}
  {r : ReviewResult}

/-- **Why an analysis comes to no result.** -/
inductive Prevented (m : Machine) (fs : FileSystem) (g : GlobalArguments) (a : AnalyzeArguments) :
    Prop
  /-- The form is unknown. -/
  | format {e : String} (unknown : OutputFormat.parse a.format = .error e) : Prevented m fs g a
  /-- The request is invalid. -/
  | request {f : Failure} (invalid : Request.ofParts a.source a.path a.displayName = .error f) :
      Prevented m fs g a
  /-- There are no settings. -/
  | settings {e : SettingsError} (unloaded : settings m fs g = .error e) : Prevented m fs g a
  /-- The request fails. -/
  | analysis {request : Request} {s : Settings} {f : Failure}
      (valid : Request.ofParts a.source a.path a.displayName = .ok request)
      (loaded : FrontEnd.settings m fs g = .ok s)
      (failed : ((Orchestrator.mk s m).analyze fs request).1 = .error f) : Prevented m fs g a

/-- An analysis that comes to a result. -/
structure Answered (m : Machine) (fs : FileSystem) (g : GlobalArguments) (a : AnalyzeArguments)
    (format : OutputFormat) (request : Request) (s : Settings) (r : ReviewResult) : Prop where
  known : OutputFormat.parse a.format = .ok format
  valid : Request.ofParts a.source a.path a.displayName = .ok request
  loaded : settings m fs g = .ok s
  result : ((Orchestrator.mk s m).analyze fs request).1 = .ok r

/-- What a script sees of an analysis, and the files after it. -/
def analysis (m : Machine) (colored : Bool) (fs : FileSystem) (g : GlobalArguments)
    (a : AnalyzeArguments) : Finished × FileSystem :=
  (finish colored (analyze m fs g a).1, (analyze m fs g a).2)

theorem program_eq_analysis {args : List OsText} (h : parse args = .ok ⟨g, .analyze a⟩) :
    program m colored args fs = analysis m colored fs g a := by
  unfold program
  rw [h]
  rfl

/-- **An analysis comes to a result, or it is prevented and ends with 2 and without output.** -/
theorem answered_or_prevented (m : Machine) (colored : Bool) (fs : FileSystem)
    (g : GlobalArguments) (a : AnalyzeArguments) :
    (∃ format request s r, Answered m fs g a format request s r) ∨
      (Prevented m fs g a ∧ (analysis m colored fs g a).1.code = some 2 ∧
        (analysis m colored fs g a).1.stdout = []) := by
  unfold analysis analyze
  cases hformat : OutputFormat.parse a.format with
  | error e => exact .inr ⟨.format hformat, rfl, rfl⟩
  | ok format =>
      cases hrequest : Request.ofParts a.source a.path a.displayName with
      | error f => exact .inr ⟨.request hrequest, rfl, rfl⟩
      | ok request =>
          cases hsettings : settings m fs g with
          | error e => exact .inr ⟨.settings hsettings, rfl, rfl⟩
          | ok s =>
              simp only
              cases hresult : (Orchestrator.mk s m).analyze fs request with
              | mk res fs' =>
                  have hfirst := congrArg Prod.fst hresult
                  cases res with
                  | error f => exact .inr ⟨.analysis hrequest hsettings hfirst, rfl, rfl⟩
                  | ok r => exact .inl ⟨format, request, s, r, hformat, hrequest, hsettings, hfirst⟩

namespace Answered

variable (h : Answered m fs g a format request s r)

include h

/-- What comes to a result was not prevented. -/
theorem not_prevented : ¬ Prevented m fs g a := by
  rintro (hformat | hrequest | hsettings | ⟨hvalid, hloaded, hfailed⟩)
  · cases h.known.symm.trans hformat
  · cases h.valid.symm.trans hrequest
  · cases h.loaded.symm.trans hsettings
  · cases h.valid.symm.trans hvalid
    cases h.loaded.symm.trans hloaded
    cases h.result.symm.trans hfailed

/-- The result is shown. -/
theorem analysis_eq : (analysis m colored fs g a).1 = finish colored (present a format r) := by
  unfold analysis analyze
  simp only [h.known, h.valid, h.loaded]
  cases hresult : (Orchestrator.mk s m).analyze fs request with
  | mk res fs' =>
      have hfirst := h.result
      rw [hresult] at hfirst
      cases hfirst
      rfl

/-- The code says whether there are errors. -/
theorem code_analysis : (analysis m colored fs g a).1.code =
    some (if ∃ d ∈ r.diagnostics, d.severity = .error then 1 else 0) := by
  rw [h.analysis_eq]
  simp only [finish, present, shown, gt_iff_lt, r.errorCount_pos_iff]
  split <;> rfl

theorem code_analysis_le_one : (analysis m colored fs g a).1.code = some 0 ∨
    (analysis m colored fs g a).1.code = some 1 := by
  rw [h.code_analysis]
  split
  · exact .inr rfl
  · exact .inl rfl

/-- A document is printed so that it can be read again. -/
theorem stdout_analysis (hjson : format = .json) :
    (analysis m colored fs g a).1.stdout = Text.encode (r.toJson ++ ['\n']) ∧
      ReviewResult.parse (Text.decodeLossy (analysis m colored fs g a).1.stdout) = .ok r := by
  have hstdout : (analysis m colored fs g a).1.stdout = Text.encode (r.toJson ++ ['\n']) := by
    rw [h.analysis_eq, hjson, ← Report.render_json colored r]
    rfl
  obtain ⟨-, -, -, f, -, -, -, hparse⟩ := Orchestrator.analyze_eq_ok_iff.1 h.result
  rw [hstdout, Text.decodeLossy_encode]
  exact ⟨rfl, ReviewResult.parse_line_of_parse hparse⟩

end Answered

theorem analysis_heard : analysis m.heard colored fs g a = analysis m colored fs g a := by
  have hsettings : settings m.heard fs g = settings m fs g := rfl
  unfold analysis analyze
  simp only [hsettings, Orchestrator.analyze_heard]

/-- An unknown form or an invalid request is answered first: neither settings nor files nor programs
have a part in the answer. -/
theorem analysis_of_invalid
    (h : (∃ e, OutputFormat.parse a.format = .error e) ∨
      ∃ f, Request.ofParts a.source a.path a.displayName = .error f)
    (colored : Bool) (m m' : Machine) (fs fs' : FileSystem) (g g' : GlobalArguments) :
    analysis m' colored fs' g' a = ((analysis m colored fs g a).1, fs') := by
  unfold analysis analyze
  cases hformat : OutputFormat.parse a.format with
  | error e => rfl
  | ok format =>
      rcases h with ⟨e, he⟩ | ⟨f, hf⟩
      · cases he.symm.trans hformat
      · simp only [hf]

/-- **The contract of an analysis with scripts.** Whatever the arguments, the files, the settings
and the programs of the machine are:

* the exit code is 0, 1 or 2, and it is 2 without output exactly if the form is unknown, the request
  is invalid, the settings cannot be loaded or the request fails;
* otherwise the analyzer has ended well and has written a result. The code is 1 if there are errors
  in it and 0 if not, and as a document it is printed so that it can be read again;
* the error output of an analyzer that ends well and the output of one that does not are of no
  account;
* an unknown form and an invalid request are answered before anything else is looked at. -/
theorem analysis_contract (m : Machine) (colored : Bool) (fs : FileSystem) (g : GlobalArguments)
    (a : AnalyzeArguments) :
    let ended := (analysis m colored fs g a).1
    (∀ args, parse args = .ok ⟨g, .analyze a⟩ →
      program m colored args fs = analysis m colored fs g a) ∧
    (ended.code = some 0 ∨ ended.code = some 1 ∨ ended.code = some 2) ∧
    (ended.code = some 2 ∧ ended.stdout = [] ↔ Prevented m fs g a) ∧
    (¬ Prevented m fs g a → ∃ format request s r, Answered m fs g a format request s r) ∧
    (∀ format request s r, Answered m fs g a format request s r →
      (∃ staged fs₁ f, (Orchestrator.mk s m).stage fs request = (.ok staged, fs₁) ∧
        (Process.run m fs₁ ((Orchestrator.mk s m).analyzeCommand staged.path
          (Orchestrator.nameFor request))).1 = .ok f ∧
        f.success = true ∧ ReviewResult.parse (Orchestrator.lossy f.stdout).toList = .ok r) ∧
      ended.code = some (if ∃ d ∈ r.diagnostics, d.severity = .error then 1 else 0) ∧
      (format = .json → ended.stdout = Text.encode (r.toJson ++ ['\n']) ∧
        ReviewResult.parse (Text.decodeLossy ended.stdout) = .ok r)) ∧
    (∀ m' : Machine, m'.heard = m.heard →
      analysis m' colored fs g a = analysis m colored fs g a) ∧
    ((∃ e, OutputFormat.parse a.format = .error e) ∨
        (∃ f, Request.ofParts a.source a.path a.displayName = .error f) →
      ∀ m' fs' g', analysis m' colored fs' g' a = (ended, fs')) := by
  intro ended
  have hheard : ∀ m' : Machine, m'.heard = m.heard →
      analysis m' colored fs g a = analysis m colored fs g a := by
    intro m' hm
    rw [← analysis_heard, hm, analysis_heard]
  have hcases := answered_or_prevented m colored fs g a
  refine ⟨fun _ => program_eq_analysis, ?_, ⟨?_, ?_⟩, ?_, ?_, hheard, fun h m' fs' g' =>
    analysis_of_invalid h colored m m' fs fs' g g'⟩
  · rcases hcases with ⟨_, _, _, _, hanswered⟩ | ⟨-, hcode, -⟩
    · exact hanswered.code_analysis_le_one.imp_right .inl
    · exact .inr (.inr hcode)
  · rintro ⟨hcode, -⟩
    rcases hcases with ⟨_, _, _, _, hanswered⟩ | ⟨hprevented, -⟩
    · rcases hanswered.code_analysis_le_one with h | h
      · cases h.symm.trans hcode
      · cases h.symm.trans hcode
    · exact hprevented
  · intro hprevented
    rcases hcases with ⟨_, _, _, _, hanswered⟩ | ⟨-, hended⟩
    · exact absurd hprevented hanswered.not_prevented
    · exact hended
  · exact fun h => hcases.resolve_right fun hp => h hp.1
  · intro format request s r hanswered
    obtain ⟨-, hwritten⟩ := Orchestrator.analyze_eq_ok_iff.1 hanswered.result
    exact ⟨hwritten, hanswered.code_analysis, hanswered.stdout_analysis⟩

open Orchestrator (bench benchFiles ends)

/-- The same document, with an error in it and a word on the error output: if the analyzer ends
well, the document is printed and the code is 1. If the analyzer ends with 3, nothing is printed
and the code is 2. -/
theorem analysis_contract_noisy :
    let r : ReviewResult := ⟨[⟨"SC1002", .error, "';' expected", none, "Syntax"⟩], ⟨0, 0, 1, 1⟩, []⟩
    let child (code : Int) : Finished := ⟨some code, Text.encode (r.toJson ++ ['\n']), [0x21]⟩
    let files : FileSystem :=
      ⟨(["w", "sharpcheck.yaml"], .file (Text.encode "artifact: analyzer".toList) .plain) ::
        benchFiles.entries⟩
    let m (code : Int) : Machine := (bench (ends (child code))).machine
    let a : AnalyzeArguments := ⟨some "/A", none, none, "JSON"⟩
    ((analysis (m 0) false files ⟨none, 0⟩ a).1.code = some 1 ∧
        (analysis (m 0) false files ⟨none, 0⟩ a).1.stdout = Text.encode (r.toJson ++ ['\n'])) ∧
      (analysis (m 3) false files ⟨none, 0⟩ a).1.code = some 2 ∧
        (analysis (m 3) false files ⟨none, 0⟩ a).1.stdout = [] := by
  intro r child files m a
  have hartifact : files.find ["w"] "./analyzer" =
      .ok (["w", "analyzer"], .file [] (.provided "analyzer")) := by decide +kernel
  have hunit : files.isFile ["w"] "/A" = true := by decide +kernel
  have hloaded : settings (bench (ends default)).machine files ⟨none, 0⟩ =
      .ok ⟨none, some "analyzer", none, none⟩ := by decide +kernel
  have hserved := fun code => Orchestrator.analyze_bench (child code) hartifact hunit
  refine ⟨?_, ?_⟩
  · have hwords : r.InWords := by decide
    have hresult : ((bench (ends (child 0))).analyze files (.ofFile "/A")).1 = .ok r := by
      rw [hserved]
      refine Orchestrator.readResult_eq_ok_iff.2 ⟨_, rfl, rfl, ?_⟩
      rw [Orchestrator.lossy, Text.decodeLossy_encode, String.toList_ofList]
      exact ReviewResult.parse_line hwords
    have hanswered : Answered (m 0) files ⟨none, 0⟩ a .json (.ofFile "/A")
        ⟨none, some "analyzer", none, none⟩ r := ⟨by decide, rfl, hloaded, hresult⟩
    obtain ⟨-, -, -, -, hanswer, -⟩ := analysis_contract (m 0) false files ⟨none, 0⟩ a
    obtain ⟨-, hcode, hjson⟩ := hanswer _ _ _ _ hanswered
    exact ⟨hcode.trans (by decide), (hjson rfl).1⟩
  · have hfailed : ((bench (ends (child 3))).analyze files (.ofFile "/A")).1 =
        .error (.processExit (some 3) "!") := by
      rw [hserved]
      rfl
    obtain ⟨-, -, hprevented, -⟩ := analysis_contract (m 3) false files ⟨none, 0⟩ a
    exact hprevented.2 (.analysis rfl hloaded hfailed)

end FrontEnd

end UnitReview
