import UnitReview.Proofs.CommandLine.Refusal
import UnitReview.Proofs.Orchestrator.Transparency

/-!
# Which requests get through to the analyzer

The orchestrator writes a command line, and the analyzer reads it by a description of its own. The
path and the name of a request are put on it as they are, with nothing that keeps them from being
taken for options, and the analyzer takes only texts. So the two agree exactly where the path is a
text and neither looks like an option; everywhere else the analyzer reads nothing at all, rather
than something else (`parse_arguments_cases`).

The path of a staged source text never looks like an option. The path of a file and a name are the
caller's, and may.
-/

set_option autoImplicit false

namespace UnitReview

open CommandLine Host

/-! ## One command line, written and read -/

namespace Analyzer

variable {path : OsText} {name : Option String}

theorem refused_parse {args : List OsText} (h : Refused (readRest spec .start args)) :
    Refused (parse args) := (refused_read h).bind _

/-- A path that looks like an option is not taken for the input. -/
theorem refused_path (hpath : LooksLikeOption path) (name : Option String) :
    Refused (parse (Orchestrator.arguments path name)) := by
  apply refused_parse
  by_cases hescape : path = "--"
  · -- now the option for the name is the input, and there is no place for the name
    subst hescape
    cases name with
    | none => exact ⟨_, rfl⟩
    | some n => exact ⟨.unknownArgument spec.main (OsText.ofString n).display, rfl⟩
  · have hstart := Reading.onlyOptions_start inputArgument.name
    have hoptions : ∀ o ∈ spec.main.options, o.name ≠ inputArgument.name := by decide
    apply hstart.refused_text rfl hoptions hpath hescape
    intro r hr
    cases name with
    | none => exact hr.refused_finish rfl rfl
    | some n =>
        exact hr.refused_option (o := displayNameOption 0) rfl rfl rfl rfl rfl (by decide) rfl n

/-- A name that looks like an option is not taken for the name. -/
theorem refused_name {path n : String} (hpath : ¬ LooksLikeOption path) (hn : LooksLikeOption n) :
    Refused (parse (Orchestrator.arguments path (some n))) := by
  apply refused_parse
  have hword := Shape.of_eq_word_iff.2 hpath
  have htext : (OsText.ofString path).isText = true := OsText.isText_iff.2 ⟨path, rfl⟩
  rw [Orchestrator.arguments, readRest_congr (readArguments_input hword ["--display-name", n]),
    readRest_congr (readArguments_option (o := displayNameOption 0) rfl rfl rfl rfl rfl
      (settle_text rfl rfl htext))]
  exact refused_of_unfilled rfl rfl ⟨_, rfl, rfl⟩ hn

/-- **The analyzer reads what it is given, or it reads nothing.** -/
theorem parse_arguments_cases (path : OsText) (name : Option String) :
    (∃ p : String, path = p ∧ parse (Orchestrator.arguments path name) = .ok ⟨p, name, 0⟩ ∧
        ¬ LooksLikeOption path ∧ ∀ n ∈ name, ¬ LooksLikeOption n) ∨
      (Refused (parse (Orchestrator.arguments path name)) ∧
        (path.isText = false ∨ LooksLikeOption path ∨ ∃ n ∈ name, LooksLikeOption n)) := by
  by_cases hpath : LooksLikeOption path
  · exact .inr ⟨refused_path hpath name, .inr (.inl hpath)⟩
  have hword := Shape.of_eq_word_iff.2 hpath
  by_cases htext : path.isText = true
  · obtain ⟨p, rfl⟩ := OsText.isText_iff.1 htext
    by_cases hname : ∃ n ∈ name, LooksLikeOption n
    · obtain ⟨n, rfl, hn⟩ := hname
      exact .inr ⟨refused_name hpath hn, .inr (.inr ⟨n, rfl, hn⟩)⟩
    · have hname' : ∀ n ∈ name, ¬ LooksLikeOption n := fun n hn h => hname ⟨n, hn, h⟩
      refine .inl ⟨p, rfl, parse_arguments hword ?_, hpath, hname'⟩
      intro n hn
      exact Shape.of_eq_word_iff.2 (hname' n hn)
  · have htext' : path.isText = false := Bool.eq_false_iff.2 htext
    exact .inr ⟨⟨_, parse_arguments_invalid hword htext' name⟩, .inl htext'⟩

end Analyzer

/-! ## The command lines of requests -/

namespace Orchestrator

variable {o : Orchestrator} {fs fs' : FileSystem} {staged : StagedInput}

/-- A staged source text has a path from the root, and such a path does not look like an option. It
is a text if the paths that it is made from are. -/
theorem path_of_stage_source {r : Request} {s : String} (hinput : r.input = .source s)
    (h : o.stage fs r = (.ok staged, fs')) :
    ¬ LooksLikeOption staged.path ∧
      ((∀ n ∈ o.cwd, n.isText = true) → o.settings.stagingPath.isText = true →
        staged.path.isText = true) := by
  rw [stage_source hinput] at h
  obtain ⟨l, path, fs₁, -, rfl, hstaged⟩ := StagedInput.ofSource_ok h
  obtain ⟨d, rfl⟩ := hstaged.drawn
  refine ⟨?_, ?_⟩
  · have habsolute := Path.isAbsolute_join (StagedInput.nameOf d)
      (StagedInput.isAbsolute_fullPath o.cwd o.settings.stagingPath)
    exact Shape.of_eq_word_iff.1 (shape_of_isAbsolute habsolute)
  · intro hcwd hdir
    have hname := OsText.isText_iff.2 ⟨StagedInput.nameOf d, rfl⟩
    exact Path.isText_join (Path.isText_join (Location.isText_path hcwd) hdir) hname

/-- A file is staged where it is. -/
theorem path_of_stage_file {r : Request} {p : OsText} (hinput : r.input = .file p)
    (h : o.stage fs r = (.ok staged, fs')) : staged.path = p := by
  rw [stage_file hinput] at h
  split at h
  · cases h
    rfl
  · cases h

/-- **When the analyzer reads what a request says.** For every request that is staged, it reads the
staged path and the name from the command line exactly if the path is a text and neither looks like
an option, and it never reads anything else. A source text is only at the mercy of its name, where
the directories are texts, and goes by `input.cs` without one; a file is at the mercy of its path
and its name, which are passed on as they are. -/
theorem parse_analyzeCommand {source displayName : Option String} {file : Option OsText}
    {r : Request} (hrequest : Request.ofParts source file displayName = .ok r)
    (hstage : o.stage fs r = (.ok staged, fs')) :
    let args := (o.analyzeCommand staged.path (nameFor r)).args
    (∀ p : String, Analyzer.parse args = .ok ⟨p, nameFor r, 0⟩ ↔
        staged.path = p ∧ ¬ LooksLikeOption staged.path ∧ ∀ n ∈ nameFor r, ¬ LooksLikeOption n) ∧
      (∀ a, Analyzer.parse args = .ok a → staged.path = a.input ∧ a = ⟨a.input, nameFor r, 0⟩) ∧
      (∀ s, source = some s → ¬ LooksLikeOption staged.path ∧
        ((∀ n ∈ o.cwd, n.isText = true) → o.settings.stagingPath.isText = true →
          staged.path.isText = true) ∧
        nameFor r = some (displayName.getD "input.cs")) ∧
      (∀ p, file = some p → staged.path = p ∧ nameFor r = displayName) := by
  intro args
  have hcases := Analyzer.parse_arguments_cases staged.path (nameFor r)
  have honly : ∀ a, Analyzer.parse args = .ok a →
      staged.path = a.input ∧ a = ⟨a.input, nameFor r, 0⟩ := by
    intro a ha
    rcases hcases with ⟨p, hp, hok, -⟩ | ⟨⟨e, herror⟩, -⟩
    · cases hok.symm.trans ha
      exact ⟨hp, rfl⟩
    · cases herror.symm.trans ha
  refine ⟨?_, honly, ?_, ?_⟩
  · intro p
    constructor
    · intro hok
      refine ⟨(honly _ hok).1, ?_⟩
      rcases hcases with ⟨p', -, -, hfits⟩ | ⟨⟨e, herror⟩, -⟩
      · exact hfits
      · cases herror.symm.trans hok
    · rintro ⟨hp, hpath, hname⟩
      rcases hcases with ⟨p', hp', hok, -⟩ | ⟨-, hinvalid | hlooks | ⟨n, hn, hlooks⟩⟩
      · obtain rfl := OsText.ofString_inj.1 (hp.symm.trans hp')
        exact hok
      · rw [OsText.isText_iff.2 ⟨p, hp⟩] at hinvalid
        cases hinvalid
      · exact absurd hlooks hpath
      · exact absurd hlooks (hname n hn)
  · rintro s rfl
    cases file with
    | some p => cases hrequest
    | none =>
        cases hrequest
        obtain ⟨hoption, htext⟩ := path_of_stage_source rfl hstage
        exact ⟨hoption, htext, rfl⟩
  · rintro p rfl
    cases source with
    | some s => cases hrequest
    | none =>
        cases hrequest
        exact ⟨path_of_stage_file rfl hstage, rfl⟩

/-- The text `/A` gets through without a name, but not under the name `-draft.cs`; nor does the
file `-A.cs`, nor one whose name is no text. -/
theorem parse_analyzeCommand_hyphens :
    let o := bench Analyzer.program
    let path := "/w/./.sharpcheck/staging/sharpcheck-000000.cs"
    let odd : OsText := ⟨[0xFF]⟩
    let files : FileSystem :=
      ⟨(["w", "-A.cs"], .file [] .plain) :: (["w", odd], .file [] .plain) :: benchFiles.entries⟩
    (o.stage files ⟨.source "/A", none⟩).1 = .ok (.ephemeral path) ∧
      Analyzer.parse (o.analyzeCommand path (some "input.cs")).args =
        .ok ⟨path, some "input.cs", 0⟩ ∧
      (o.stage files ⟨.source "/A", some "-draft.cs"⟩).1 = .ok (.ephemeral path) ∧
      (∀ a, Analyzer.parse (o.analyzeCommand path (some "-draft.cs")).args ≠ .ok a) ∧
      (o.stage files ⟨.file "-A.cs", none⟩).1 = .ok (.persistent "-A.cs") ∧
      (∀ a, Analyzer.parse (o.analyzeCommand "-A.cs" none).args ≠ .ok a) ∧
      (o.stage files ⟨.file odd, none⟩).1 = .ok (.persistent odd) ∧
      ∀ a, Analyzer.parse (o.analyzeCommand odd none).args ≠ .ok a := by
  intro o path odd files
  have hplain : (o.stage files ⟨.source "/A", none⟩).1 = .ok (.ephemeral path) := by
    decide +kernel
  -- the name plays no part in staging
  have hdraft : (o.stage files ⟨.source "/A", some "-draft.cs"⟩).1 = .ok (.ephemeral path) :=
    hplain
  have hfile : (o.stage files ⟨.file "-A.cs", none⟩).1 = .ok (.persistent "-A.cs") := by
    decide +kernel
  have hodd : (o.stage files ⟨.file odd, none⟩).1 = .ok (.persistent odd) := by
    decide +kernel
  refine ⟨hplain, ?_, hdraft, ?_, hfile, ?_, hodd, ?_⟩
  · have hrequest : Request.ofParts (some "/A") none none = .ok ⟨.source "/A", none⟩ := rfl
    obtain ⟨hiff, -⟩ := parse_analyzeCommand hrequest (stage_eq_of_fst hplain)
    exact (hiff path).2 (by decide)
  · have hrequest : Request.ofParts (some "/A") none (some "-draft.cs") =
        .ok ⟨.source "/A", some "-draft.cs"⟩ := rfl
    obtain ⟨hiff, honly, -⟩ := parse_analyzeCommand hrequest (stage_eq_of_fst hdraft)
    intro a ha
    obtain ⟨hpath, hdef⟩ := honly a ha
    exact absurd ((hiff a.input).1 (hdef ▸ ha)).2 (by decide)
  · have hrequest : Request.ofParts none (some "-A.cs") none = .ok ⟨.file "-A.cs", none⟩ := rfl
    obtain ⟨hiff, honly, -⟩ := parse_analyzeCommand hrequest (stage_eq_of_fst hfile)
    intro a ha
    obtain ⟨hpath, hdef⟩ := honly a ha
    exact absurd ((hiff a.input).1 (hdef ▸ ha)).2 (by decide)
  · have hrequest : Request.ofParts none (some odd) none = .ok ⟨.file odd, none⟩ := rfl
    obtain ⟨-, honly, -⟩ := parse_analyzeCommand hrequest (stage_eq_of_fst hodd)
    intro a ha
    have htext : odd.isText = true := OsText.isText_iff.2 ⟨a.input, (honly a ha).1⟩
    exact absurd htext (by decide)

end Orchestrator

end UnitReview
