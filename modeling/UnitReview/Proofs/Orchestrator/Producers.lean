import UnitReview.Proofs.CommandLine.Requests
import UnitReview.Proofs.Host.Launch
import UnitReview.Proofs.Orchestrator.Arguments
import UnitReview.Proofs.Wire.Words

/-!
# Who sees to it that results are sound

A result is sound if it holds no hidden diagnostic and the complexity in it is at least 1. A
reviewer makes sound results, whatever its provider reads and whichever rules it runs. An
orchestrator makes none: it passes on what another program has written, and looks no further than
that it is the document of a result. So its results are as sound as that program:

* the analyzer writes sound results, and what it writes instead of a result is not taken for one;
* of any other program nothing is known. Every result that can be written at all is passed on,
  sound or not.
-/

set_option autoImplicit false

namespace UnitReview

open CommandLine Host Host.FileSystem

/-- **Sound results**: what is hidden is left out, and there is one way through every unit. -/
structure ReviewResult.Sound (r : ReviewResult) : Prop where
  visible : ∀ d ∈ r.diagnostics, d.isHidden = false
  complexity : 1 ≤ r.metrics.complexity

/-! ## Reviewers -/

namespace Reviewer

variable {reviewer : Reviewer} {fs : FileSystem} {cwd : Host.Location} {r : ReviewResult}
  {name : Option String}

theorem sound_assess (reviewer : Reviewer) (ctx : RuleContext) : (reviewer.assess ctx).Sound where
  visible _ hd := ReviewResult.isHidden_eq_false_of_mem_aggregate hd
  complexity := Metrics.one_le_complexity_compute ctx.unit

theorem sound_of_reviewText {source : Text} (h : reviewer.reviewText source name = .ok r) :
    r.Sound := by
  unfold reviewText at h
  simp only at h
  split at h
  · cases h
    exact sound_assess _ _
  · cases h

theorem sound_of_reviewFile {path : OsText} (h : reviewer.reviewFile fs cwd path name = .ok r) :
    r.Sound := by
  unfold reviewFile at h
  split at h
  · exact sound_of_reviewText h
  · cases h

theorem sound_of_reviewInput {input : String}
    (h : reviewer.reviewInput fs cwd input name = .ok r) : r.Sound := by
  unfold reviewInput at h
  split at h
  · exact sound_of_reviewFile h
  · exact sound_of_reviewText h

end Reviewer

/-! ## The analyzer -/

theorem CommandLine.toList_helpText (p : ProgramSpec) (c : CommandSpec) :
    ∃ rest, (helpText p c).toList = c.about.toList ++ rest := by
  unfold helpText
  simp only [String.toList_append, List.append_assoc]
  exact ⟨_, rfl⟩

namespace Analyzer

open Orchestrator (lossy)

variable {reviewer : Reviewer} {args : List OsText} {e : UsageError} {r : ReviewResult}

/-- **What is said about the use of the analyzer is not taken for a result.** -/
theorem parse_explain_ne_ok (h : parse args = .error e)
    (hsuccess : (explain spec e).success = true) :
    ReviewResult.parse (lossy (explain spec e).stdout).toList ≠ .ok r := by
  have hread : read spec args = .error e := by
    unfold parse at h
    cases hread : read spec args with
    | error e' =>
        rw [hread] at h
        cases h
        rfl
    | ok p =>
        rw [hread] at h
        cases h
  cases hrequest : e.isRequest with
  | false =>
      rw [explain, hrequest] at hsuccess
      cases hsuccess
  | true =>
      rw [explain, hrequest, if_pos rfl, lossy_bytes]
      cases e with
      | help d =>
          obtain rfl := asksFor_read rfl args d hread
          refine ReviewResult.parse_ne_ok_of_head (c := 'S') ?_ rfl (by decide) (by decide) r
          obtain ⟨rest, hrest⟩ := toList_helpText spec spec.main
          show (helpText spec spec.main).toList.head? = some 'S'
          rw [hrest, List.head?_append]
          rfl
      | version =>
          refine ReviewResult.parse_ne_ok_of_head (c := 's') ?_ rfl (by decide) (by decide) r
          show (versionText spec).toList.head? = some 's'
          rw [versionText, String.toList_append, String.toList_append, List.append_assoc,
            List.head?_append]
          rfl
      | _ => cases hrequest

/-- **The analyzer writes sound results**, and nothing else that could be taken for a result,
whoever reviews and however it is called. -/
theorem sound_of_written {call : Call} {fs : FileSystem}
    (hwords : ∀ a r, parse call.args = .ok a →
      reviewer.reviewInput fs call.cwd a.input a.displayName = .ok r → r.InWords)
    (hsuccess : (programOf reviewer call fs).1.success = true)
    (hr : ReviewResult.parse (lossy (programOf reviewer call fs).1.stdout).toList = .ok r) :
    r.Sound := by
  unfold programOf at hsuccess hr
  cases hparse : parse call.args with
  | error e =>
      simp only [hparse] at hsuccess hr
      exact absurd hr (parse_explain_ne_ok hparse hsuccess)
  | ok a =>
      simp only [hparse] at hsuccess hr
      -- the document is read as the result that it was written from
      have hread := Orchestrator.readResult_report (fun r' => hwords a r' hparse) ""
      rw [Orchestrator.readResult_eq_ok_iff.2 ⟨_, rfl, hsuccess, hr⟩] at hread
      cases hreview : reviewer.reviewInput fs call.cwd a.input a.displayName with
      | error e =>
          rw [hreview] at hread
          cases hread
      | ok r' =>
          rw [hreview] at hread
          cases hread
          exact Reviewer.sound_of_reviewInput hreview

end Analyzer

/-! ## Orchestrators -/

namespace Orchestrator

variable {o : Orchestrator} {reviewer : Reviewer} {fs fs₁ : FileSystem} {req : Request}
  {staged : StagedInput} {res : ReviewResult}

/-- With the analyzer as the artifact, what is passed on is sound. -/
theorem sound_of_startsAnalyzer (hstage : o.stage fs req = (.ok staged, fs₁))
    (hstarts : o.StartsAnalyzer reviewer fs₁)
    (hwords : ∀ p : String, staged.path = p → ∀ r,
      reviewer.reviewInput fs₁ o.cwd p (nameFor req) = .ok r → r.InWords)
    (hres : (o.analyze fs req).1 = .ok res) : res.Sound := by
  obtain ⟨-, staged', fs', f, hstage', hrun, hsuccess, hparse⟩ := analyze_eq_ok_iff.1 hres
  cases hstage.symm.trans hstage'
  obtain ⟨l, hnul, -⟩ := Process.exists_starts_iff.2 ⟨f, hrun⟩
  have hnul' : (o.settings.artifactPath :: arguments staged.path (nameFor req)).any
      OsText.hasNul = false := by
    simpa [analyzeCommand] using hnul
  obtain ⟨call, hargs, hcwd, hcall⟩ := hstarts.run_eq hnul'
  rw [hcall] at hrun
  cases hrun
  refine Analyzer.sound_of_written ?_ hsuccess hparse
  -- the analyzer has read the path and the name, if it has read anything
  intro a r ha hreview
  rw [hargs] at ha
  rcases Analyzer.parse_arguments_cases staged.path (nameFor req) with
    ⟨p, hp, hok, -⟩ | ⟨⟨e, he⟩, -⟩
  · cases hok.symm.trans ha
    rw [hcwd] at hreview
    exact hwords p hp r hreview
  · cases he.symm.trans ha

/-- **A result that can be written is passed on**, whatever it says. -/
theorem analyze_report (hr : res.InWords) :
    ((bench (ends (Analyzer.report (.ok res)))).analyze benchFiles (.ofFile "/A")).1 = .ok res := by
  have hartifact : benchFiles.find ["w"] "./analyzer" =
      .ok (["w", "analyzer"], .file [] (.provided "analyzer")) := by decide +kernel
  have hunit : benchFiles.isFile ["w"] "/A" = true := by decide +kernel
  rw [analyze_bench _ hartifact hunit, readResult_report (by rintro r ⟨⟩; exact hr)]
  rfl

/-- **Whose results are sound.** Whatever is read and whichever rules are run, a reviewer's result
of a text or a file is sound. An orchestrator's result is what the started program has written, no
more and no less: it is sound with the reviewer's program as the artifact, and apart from that every
result whose numbers are machine words comes back from some program, sound or not, and no other
result does. -/
theorem results_sound_of_producer (reviewer : Reviewer) (o : Orchestrator) (fs : FileSystem)
    (req : Request) (r : ReviewResult) :
    (∀ source name, reviewer.reviewText source name = .ok r → r.Sound) ∧
    (∀ cwd path name, reviewer.reviewFile fs cwd path name = .ok r → r.Sound) ∧
    ((o.analyze fs req).1 = .ok r ↔ o.status fs = .built ∧ ∃ staged fs₁ f,
      o.stage fs req = (.ok staged, fs₁) ∧
        (Process.run o.machine fs₁ (o.analyzeCommand staged.path (nameFor req))).1 = .ok f ∧
        f.success = true ∧ ReviewResult.parse (lossy f.stdout).toList = .ok r) ∧
    (∀ staged fs₁, o.stage fs req = (.ok staged, fs₁) → o.StartsAnalyzer reviewer fs₁ →
      (∀ p : String, staged.path = p → ∀ r,
        reviewer.reviewInput fs₁ o.cwd p (nameFor req) = .ok r → r.InWords) →
      (o.analyze fs req).1 = .ok r → r.Sound) ∧
    ((∃ (o : Orchestrator) (fs : FileSystem) (req : Request), (o.analyze fs req).1 = .ok r) ↔
      r.InWords) := by
  refine ⟨fun _ _ => Reviewer.sound_of_reviewText, fun _ _ _ => Reviewer.sound_of_reviewFile,
    analyze_eq_ok_iff, fun _ _ => sound_of_startsAnalyzer, ?_, ?_⟩
  · rintro ⟨o, fs, req, hres⟩
    obtain ⟨-, _, _, f, -, -, -, hparse⟩ := analyze_eq_ok_iff.1 hres
    exact ReviewResult.inWords_of_ofJson (ReviewResult.parse_eq_ok_iff.1 hparse)
  · intro hr
    exact ⟨_, benchFiles, .ofFile "/A", analyze_report hr⟩

/-- A result with a hidden diagnostic and without a way through its unit is passed on. A broken
unit is reviewed soundly in place, and so is the unit at `/A` by the analyzer. -/
theorem results_sound_of_producer_hidden :
    let r : ReviewResult :=
      ⟨[⟨"CS8019", .hidden, "Unnecessary using", none, "Style"⟩], ⟨0, 0, 0, 0⟩, []⟩
    (∃ (o : Orchestrator) (fs : FileSystem) (req : Request), (o.analyze fs req).1 = .ok r) ∧
      ¬ r.Sound ∧
      (∃ r', Reviewer.standard.reviewText "class A \x7b".toList none = .ok r' ∧
        r'.diagnostics ≠ [] ∧ r'.Sound) ∧
      ∃ r', ((bench Analyzer.program).analyze benchFiles (.ofFile "/A")).1 = .ok r' ∧ r'.Sound := by
  intro r
  have hproducer := results_sound_of_producer Reviewer.standard (bench Analyzer.program)
    benchFiles (.ofFile "/A")
  refine ⟨?_, fun h => absurd h.complexity (by decide), ?_, ?_⟩
  · obtain ⟨-, -, -, -, hpassed⟩ := hproducer r
    exact hpassed.2 (by decide)
  · cases hreview : Reviewer.standard.reviewText "class A \x7b".toList none with
    | error e => cases hreview
    | ok r' =>
        have hbroken : ∀ r ∈ (Reviewer.standard.reviewText "class A \x7b".toList none).toOption,
            r.diagnostics ≠ [] := by decide +kernel
        exact ⟨r', rfl, hbroken r' (by rw [hreview]; rfl), (hproducer r').1 _ _ hreview⟩
  · have hfind : benchFiles.find (bench Analyzer.program).cwd "/A" =
        .ok (["A"], .file [0x22, 0x41] .plain) := by decide +kernel
    have hbuilt : (bench Analyzer.program).status benchFiles = .built := by decide +kernel
    have hartifact : benchFiles.find ["w"] "./analyzer" =
        .ok (["w", "analyzer"], .file [] (.provided "analyzer")) := by decide +kernel
    have hstarts : (bench Analyzer.program).StartsAnalyzer .standard benchFiles :=
      startsAnalyzer_bench hartifact
    have hwords : ∀ r ∈ (Reviewer.standard.reviewInput benchFiles (bench Analyzer.program).cwd
        "/A" none).toOption, r.InWords := by decide +kernel
    have hwords' := forall_ok_of_forall_mem_toOption hwords
    have hstage := stage_ofFile (isFile_iff.2 ⟨_, _, _, hfind⟩)
    have hres := analyze_of_absolute hbuilt hstage hstarts rfl rfl hfind (by rintro n ⟨⟩) hwords'
    obtain ⟨-, -, -, hanalyzer, -⟩ := hproducer _
    refine ⟨_, hres, hanalyzer _ _ hstage hstarts ?_ hres⟩
    intro p hp
    obtain rfl := OsText.ofString_inj.1 hp
    exact hwords'

end Orchestrator

end UnitReview
