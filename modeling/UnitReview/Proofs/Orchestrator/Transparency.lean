import UnitReview.Proofs.Analyzer
import UnitReview.Proofs.Orchestrator.Served
import UnitReview.Proofs.Wire.RoundTrip

/-!
# Serving a request is reviewing in place

Between the caller of `analyze` and the reviewer there are a staged file, a command line, a
process and a document. None of them shows: with a reviewer's program as the artifact, a request
comes to exactly what the reviewer gives for the same input, whatever the reviewer is. The argument
follows the way of the input there and the way of the result back:

* the staged file holds the bytes of the source, and they are read as the source;
* its path starts at the root, so that the analyzer cannot take it for an option;
* the path leads to the file, so that the analyzer does not take it for source text;
* the document that the analyzer writes is read as the result that it was written from.

Two kinds of files do not go this way. A device can be read, but is not passed on. A path that is no
text is passed on, but the analyzer does not accept it.
-/

set_option autoImplicit false

namespace UnitReview

open Host Host.FileSystem

theorem Analyzer.lossy_bytes (s : String) : Orchestrator.lossy (bytes s) = s := by
  rw [Orchestrator.lossy, bytes, Text.decodeLossy_encode, String.ofList_toList]

namespace Orchestrator

variable {o : Orchestrator} {reviewer : Reviewer} {fs fs' : FileSystem} {name : Option String}

/-- The configured artifact is the program of a reviewer: what starting it leads to is a file that
stands for this program. -/
def StartsAnalyzer (o : Orchestrator) (reviewer : Reviewer) (fs : FileSystem) : Prop :=
  ∃ path l content program,
    Process.lookUp o.machine.environment fs o.cwd o.settings.artifactPath = .ok path ∧
      fs.find o.cwd path = .ok (l, .file content (.provided program)) ∧
        o.machine.programs program = some (Analyzer.programOf reviewer)

/-! ## There -/

/-- A path from the root is no option. -/
theorem shape_of_isAbsolute {path : OsText} (h : Path.isAbsolute path = true) :
    CommandLine.Shape.of path = .word := by
  apply CommandLine.Shape.of_eq_word
  have hhead : path.bytes.head? = some Path.slash := by simpa [Path.isAbsolute] using h
  rw [hhead]
  decide

/-- The artifact that is there has a path that can be started. -/
theorem hasNul_artifactPath (h : o.status fs = .built) :
    o.settings.artifactPath.hasNul = false := by
  unfold status at h
  split at h
  next hfile =>
    obtain ⟨l, content, mode, hfind⟩ := isFile_iff.1 hfile
    exact not_hasNul_of_find hfind
  next => cases h

/-- The analyzer is called with what the orchestrator has written on the command line. -/
theorem StartsAnalyzer.run_eq (hstarts : o.StartsAnalyzer reviewer fs) {path : OsText}
    (hnul : (o.settings.artifactPath :: arguments path name).any OsText.hasNul = false) :
    ∃ call, call.args = arguments path name ∧ call.cwd = o.cwd ∧
      Process.run o.machine fs (o.analyzeCommand path name) =
        (.ok (Analyzer.programOf reviewer call fs).1, (Analyzer.programOf reviewer call fs).2) := by
  obtain ⟨program, l, content, provided, hlook, hfind, hprogram⟩ := hstarts
  exact Process.run_of_provided hnul hlook hfind hprogram

/-- **A started analyzer reviews the input that it is given**, and changes no file. -/
theorem StartsAnalyzer.run_text (hstarts : o.StartsAnalyzer reviewer fs) {path : String}
    (hnul : (o.settings.artifactPath :: arguments path name).any OsText.hasNul = false)
    (hpath : CommandLine.Shape.of path = .word)
    (hname : ∀ n, name = some n → CommandLine.Shape.of (OsText.ofString n) = .word) :
    Process.run o.machine fs (o.analyzeCommand path name) =
      (.ok (Analyzer.report (reviewer.reviewInput fs o.cwd path name)), fs) := by
  obtain ⟨call, hcall, hcwd, hrun⟩ := hstarts.run_eq hnul
  rw [hrun, Analyzer.programOf, hcall, Analyzer.parse_arguments hpath hname, hcwd]

/-- **What becomes of a review on its way through a process**: a result stays what it is, and the
words for a failure are what the process says before it ends with 2. -/
def relay : Except ReviewError ReviewResult → Except Failure ReviewResult
  | .ok r => .ok r
  | .error e => .error (.processExit (some 2) ("Error: " ++ e.message ++ "\n"))

/-- **What was written is what is read.** The numbers of a result are to be machine words, since no
other number can be passed on. -/
theorem readResult_report {review : Except ReviewError ReviewResult}
    (hwords : ∀ r, review = .ok r → r.InWords) (artifact : OsText) :
    readResult artifact (.ok (Analyzer.report review)) = relay review := by
  cases review with
  | error e =>
      simp only [Analyzer.report, readResult, Finished.success, Analyzer.lossy_bytes]
      rfl
  | ok r =>
      simp only [readResult, Analyzer.report, Finished.success, beq_self_eq_true, if_true, lossy,
        Text.decodeLossy_encode, String.toList_ofList, ReviewResult.parse_line (hwords r rfl)]
      rfl

/-! ## Both ways -/

/-- A name that is given with the input can neither be taken for an option nor cut short. -/
def NameFits (name : Option String) : Prop :=
  ∀ n, name = some n →
    CommandLine.Shape.of (OsText.ofString n) = .word ∧ (OsText.ofString n).hasNul = false

theorem hasNul_command {path : OsText} (hartifact : o.settings.artifactPath.hasNul = false)
    (hpath : path.hasNul = false) (hname : NameFits name) :
    (o.settings.artifactPath :: arguments path name).any OsText.hasNul = false := by
  cases name with
  | none => simp only [arguments, List.any_cons, List.any_nil, hartifact, hpath, Bool.or_self]
  | some n =>
      have hoption : (OsText.ofString "--display-name").hasNul = false := by decide
      simp only [arguments, List.any_cons, List.any_nil, hartifact, hpath, hoption,
        (hname n rfl).2, Bool.or_self]

/-- **A staged input at a path from the root comes to what the reviewer says of it.** -/
theorem analyze_of_absolute {req : Request} {staged : StagedInput} {path : String}
    {e : Host.Location × Entry} (hbuilt : o.status fs = .built)
    (hstage : o.stage fs req = (.ok staged, fs')) (hstarts : o.StartsAnalyzer reviewer fs')
    (hpath : staged.path = path) (habsolute : Path.isAbsolute path = true)
    (hfind : fs'.find o.cwd path = .ok e) (hname : NameFits (nameFor req))
    (hwords : ∀ r, reviewer.reviewInput fs' o.cwd path (nameFor req) = .ok r → r.InWords) :
    (o.analyze fs req).1 = relay (reviewer.reviewInput fs' o.cwd path (nameFor req)) := by
  have hnul := hasNul_command (hasNul_artifactPath hbuilt) (not_hasNul_of_find hfind) hname
  have hrun := hstarts.run_text hnul (shape_of_isAbsolute habsolute) fun n hn => (hname n hn).1
  rw [← hpath] at hrun
  rw [analyze_of_stage_ok hbuilt hstage hrun, readResult_report hwords]

/-- On the bench, a file for the analyzer at `./analyzer` is what is started. -/
theorem startsAnalyzer_bench {l : Host.Location} {content : Text.Bytes}
    (h : fs.find ["w"] "./analyzer" = .ok (l, .file content (.provided "analyzer"))) :
    (bench (Analyzer.programOf reviewer)).StartsAnalyzer reviewer fs := by
  refine ⟨"./analyzer", l, content, "analyzer", ?_, h, rfl⟩
  rw [artifactPath_bench]
  rfl

theorem forall_ok_of_forall_mem_toOption {ε α : Type} {x : Except ε α} {P : α → Prop}
    (h : ∀ a ∈ x.toOption, P a) : ∀ a, x = .ok a → P a := by
  rintro a rfl
  exact h a rfl

end Orchestrator

end UnitReview
