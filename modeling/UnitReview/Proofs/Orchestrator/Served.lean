import UnitReview.Orchestrator
import UnitReview.Proofs.Host.Process
import UnitReview.Proofs.Staging

/-!
# The ways of a request

A request for a source text makes a file and removes it again, on ways that are easy to get wrong:
it may fail before the file is made, between making and filling it, and in several ways after
that. `Served` lists the ways, with what is known about the files on each; laws about requests are
read off it.
-/

set_option autoImplicit false

namespace UnitReview

open Host Host.FileSystem

namespace Orchestrator

variable {o : Orchestrator} {fs fs' fs₁ fs₂ : FileSystem} {r : Request}

/-! ## One equation for each branch -/

theorem analyze_of_notBuilt (h : o.status fs = .notBuilt) :
    o.analyze fs r = (.error (.notBuilt o.settings.artifactPath), fs) := by
  unfold analyze
  rw [h]

theorem analyze_of_stage_error {f : Failure} (hbuilt : o.status fs = .built)
    (hstage : o.stage fs r = (.error f, fs')) : o.analyze fs r = (.error f, fs') := by
  unfold analyze
  rw [hbuilt, hstage]

theorem analyze_of_stage_ok {staged : StagedInput} {out : Except SystemError Finished}
    (hbuilt : o.status fs = .built) (hstage : o.stage fs r = (.ok staged, fs₁))
    (hrun : Process.run o.machine fs₁ (o.analyzeCommand staged.path (nameFor r)) = (out, fs₂)) :
    o.analyze fs r = (readResult o.settings.artifactPath out, staged.release fs₂ o.cwd) := by
  unfold analyze
  simp only [hbuilt, hstage, hrun]

theorem stage_source {s : String} (h : r.input = .source s) :
    o.stage fs r =
      StagedInput.ofSource o.machine.storage fs o.cwd o.settings.stagingPath s := by
  unfold stage
  rw [h]

theorem stage_file {p : OsText} (h : r.input = .file p) :
    o.stage fs r =
      if fs.isFile o.cwd p then (.ok (.persistent p), fs)
      else (.error (.validation (p.display ++ " is not an existing file")), fs) := by
  unfold stage
  rw [h]

theorem stage_ofFile {p : OsText} (h : fs.isFile o.cwd p = true) :
    o.stage fs (.ofFile p) = (.ok (.persistent p), fs) := by
  rw [stage_file rfl, h, if_pos rfl]

theorem stage_eq_of_fst {staged : StagedInput} (h : (o.stage fs r).1 = .ok staged) :
    o.stage fs r = (.ok staged, (o.stage fs r).2) := Prod.ext h rfl

/-! ## Results

A result is read from what the analyzer has written, and from nothing else. -/

theorem readResult_eq_ok_iff {artifact : OsText} {out : Except SystemError Finished}
    {res : ReviewResult} :
    readResult artifact out = .ok res ↔
      ∃ f, out = .ok f ∧ f.success = true ∧
        ReviewResult.parse (lossy f.stdout).toList = .ok res := by
  cases out with
  | error e => simp [readResult]
  | ok f =>
      simp only [readResult, Except.ok.injEq, exists_eq_left']
      cases f.success with
      | false => simp
      | true =>
          simp only [if_true, true_and]
          split <;> simp [*]

/-- **When a request comes to a result**: the artifact is there, the input is staged, and the
analyzer ends well and has written that result. -/
theorem analyze_eq_ok_iff {res : ReviewResult} :
    (o.analyze fs r).1 = .ok res ↔
      o.status fs = .built ∧ ∃ staged fs₁ f, o.stage fs r = (.ok staged, fs₁) ∧
        (Process.run o.machine fs₁ (o.analyzeCommand staged.path (nameFor r))).1 = .ok f ∧
        f.success = true ∧ ReviewResult.parse (lossy f.stdout).toList = .ok res := by
  cases hstatus : o.status fs with
  | notBuilt => simp [analyze_of_notBuilt hstatus]
  | built =>
      cases hstage : o.stage fs r with
      | mk staged fs₁ =>
          cases staged with
          | error f => simp [analyze_of_stage_error hstatus hstage]
          | ok staged =>
              cases hrun : Process.run o.machine fs₁
                  (o.analyzeCommand staged.path (nameFor r)) with
              | mk out fs₂ =>
                  rw [analyze_of_stage_ok hstatus hstage hrun]
                  constructor
                  · intro h
                    obtain ⟨f, rfl, hf⟩ := readResult_eq_ok_iff.1 h
                    exact ⟨rfl, staged, fs₁, f, rfl, by rw [hrun], hf⟩
                  · rintro ⟨-, staged', fs', f, hsame, hout, hf⟩
                    cases hsame
                    rw [hrun] at hout
                    exact readResult_eq_ok_iff.2 ⟨f, hout, hf⟩

/-! ## All branches -/

/-- Where the file is that a request makes for its source text, also if it is never filled. -/
def created? (o : Orchestrator) (fs : FileSystem) (r : Request) : Option Host.Location :=
  match o.status fs, r.input with
  | .built, .source _ =>
      (StagedInput.create o.machine.storage fs o.cwd o.settings.stagingPath).1.toOption.map (·.1)
  | _, _ => none

theorem created?_of_notBuilt (h : o.status fs = .notBuilt) : o.created? fs r = none := by
  unfold created?
  rw [h]

theorem created?_of_file (o : Orchestrator) (fs : FileSystem) {p : OsText}
    (h : r.input = .file p) : o.created? fs r = none := by
  unfold created?
  rw [h]
  cases o.status fs <;> rfl

theorem created?_of_source {s : String} {l : Host.Location} (hbuilt : o.status fs = .built)
    (hinput : r.input = .source s) :
    o.created? fs r = some l ↔
      ∃ path fs', StagedInput.create o.machine.storage fs o.cwd o.settings.stagingPath =
        (.ok (l, path), fs') := by
  unfold created?
  rw [hbuilt, hinput]
  show Option.map _ (Except.toOption (StagedInput.create _ _ _ _).1) = _ ↔ _
  cases StagedInput.create o.machine.storage fs o.cwd o.settings.stagingPath with
  | mk made fs' =>
      cases made with
      | error e => simp [Except.toOption]
      | ok m =>
          obtain ⟨m, path⟩ := m
          simp [Except.toOption]

/-- **Everything that a request can come to**, with the files after it. -/
inductive Served (o : Orchestrator) (fs : FileSystem) (r : Request) :
    Except Failure ReviewResult × FileSystem → Prop
  /-- The artifact is not there. -/
  | notBuilt (created : o.created? fs r = none) :
      Served o fs r (.error (.notBuilt o.settings.artifactPath), fs)
  /-- The file to be reviewed is not there. -/
  | invalid (problem : String) (created : o.created? fs r = none) :
      Served o fs r (.error (.validation problem), fs)
  /-- The source text cannot be staged. -/
  | unstaged {fs' : FileSystem} (e : SystemError) (dirs : OnlyAddsDirectories fs fs')
      (created : ∀ l, o.created? fs r = some l → fs.get? l = none ∧ fs'.get? l = none) :
      Served o fs r (.error (.staging o.settings.stagingPath e), fs')
  /-- The analyzer is to be started on a file of the caller. -/
  | file {path : OsText} {out : Except SystemError Finished} {fs' : FileSystem}
      (built : o.status fs = .built) (created : o.created? fs r = none)
      (stage : o.stage fs r = (.ok (.persistent path), fs))
      (run : Process.run o.machine fs (o.analyzeCommand path (nameFor r)) = (out, fs')) :
      Served o fs r (readResult o.settings.artifactPath out, fs')
  /-- The analyzer is to be started on the staged source text. -/
  | source {base path : OsText} {text : String} {l : Host.Location} {fs₁ fs₂ : FileSystem}
      {out : Except SystemError Finished} (built : o.status fs = .built)
      (created : o.created? fs r = some l)
      (stage : o.stage fs r = (.ok (.ephemeral path), fs₁))
      (staged : StagedInput.Staged fs fs₁ o.cwd base text l path)
      (run : Process.run o.machine fs₁ (o.analyzeCommand path (nameFor r)) = (out, fs₂)) :
      Served o fs r
        (readResult o.settings.artifactPath out, (StagedInput.ephemeral path).release fs₂ o.cwd)

/-- A file that is there is used as it is. -/
theorem served_file {p : OsText} (hbuilt : o.status fs = .built) (hinput : r.input = .file p) :
    Served o fs r (o.analyze fs r) := by
  have hcreated := created?_of_file o fs hinput
  cases hfile : fs.isFile o.cwd p with
  | false =>
      have hstage : o.stage fs r =
          (.error (.validation (p.display ++ " is not an existing file")), fs) := by
        rw [stage_file hinput, hfile, if_neg Bool.false_ne_true]
      rw [analyze_of_stage_error hbuilt hstage]
      exact .invalid _ hcreated
  | true =>
      have hstage : o.stage fs r = (.ok (.persistent p), fs) := by
        rw [stage_file hinput, hfile, if_pos rfl]
      rw [analyze_of_stage_ok hbuilt hstage rfl]
      exact .file hbuilt hcreated hstage rfl

/-- A source text is staged first. -/
theorem served_source {s : String} (hbuilt : o.status fs = .built) (hinput : r.input = .source s) :
    Served o fs r (o.analyze fs r) := by
  cases hstage : o.stage fs r with
  | mk res fs₁ =>
      have hsource := hstage
      rw [stage_source hinput] at hsource
      cases res with
      | error f =>
          obtain ⟨hdirs, ⟨e, rfl⟩, hgone⟩ := StagedInput.ofSource_error hsource
          rw [analyze_of_stage_error hbuilt hstage]
          refine .unstaged e hdirs ?_
          -- the file may have been made before the failure
          intro l hl
          obtain ⟨path, fs₂, hcreate⟩ := (created?_of_source hbuilt hinput).1 hl
          have hnone := hgone _ _ _ hcreate
          exact ⟨hdirs.get?_eq_none hnone, hnone⟩
      | ok staged =>
          obtain ⟨l, path, fs₂, hcreate, rfl, hstaged⟩ := StagedInput.ofSource_ok hsource
          rw [analyze_of_stage_ok hbuilt hstage rfl]
          have hcreated := (created?_of_source hbuilt hinput).2 ⟨_, _, hcreate⟩
          exact .source hbuilt hcreated hstage hstaged rfl

theorem served (o : Orchestrator) (fs : FileSystem) (r : Request) :
    Served o fs r (o.analyze fs r) := by
  cases hstatus : o.status fs with
  | notBuilt =>
      rw [analyze_of_notBuilt hstatus]
      exact .notBuilt (created?_of_notBuilt hstatus)
  | built =>
      cases hinput : r.input with
      | file p => exact served_file hstatus hinput
      | source s => exact served_source hstatus hinput

/-! ## A machine to try things on -/

/-- An orchestrator at work in the directory `/w`, on a machine with one program. -/
def bench (analyzer : Program) : Orchestrator where
  settings := ⟨none, some "analyzer", none, none⟩
  machine :=
    { environment := ⟨["w"], none, [], []⟩
      programs := fun name => if name = "analyzer" then some analyzer else none
      storage := .unlimited }

/-- The files of that machine: the artifact, which stands for the program, and a unit at `/A`. -/
def benchFiles : FileSystem :=
  ⟨[(["w"], .directory), (["w", "analyzer"], .file [] (.provided "analyzer")),
    (["A"], .file [0x22, 0x41] .plain)]⟩

/-- A program that only ends. -/
def ends (f : Finished) : Program := fun _ fs => (f, fs)

theorem artifactPath_bench (p : Program) : (bench p).settings.artifactPath = "./analyzer" := by
  have h : (bench (ends default)).settings.artifactPath = "./analyzer" := by decide +kernel
  exact h

/-- With such a program as the artifact, a request for the file `/A` comes to what is read from the
program's end. -/
theorem analyze_bench {l : Host.Location} {content : Text.Bytes} (f : Finished)
    (hartifact : fs.find ["w"] "./analyzer" = .ok (l, .file content (.provided "analyzer")))
    (hunit : fs.isFile ["w"] "/A" = true) :
    ((bench (ends f)).analyze fs (.ofFile "/A")).1 = readResult "./analyzer" (.ok f) := by
  have hbuilt : (bench (ends f)).status fs = .built := by
    rw [status, artifactPath_bench]
    exact if_pos (isFile_iff.2 ⟨l, content, _, hartifact⟩)
  have hstage : (bench (ends f)).stage fs (.ofFile "/A") = (.ok (.persistent "/A"), fs) :=
    stage_ofFile hunit
  have hprogram : (bench (ends f)).machine.programs "analyzer" = some (ends f) := rfl
  have hnul : [OsText.ofString "./analyzer", OsText.ofString "/A"].any OsText.hasNul = false := by
    decide
  obtain ⟨call, -, -, hrun⟩ := Process.run_of_provided (m := (bench (ends f)).machine) hnul rfl
    hartifact hprogram
  rw [← artifactPath_bench (ends f)] at hrun
  rw [analyze_of_stage_ok hbuilt hstage hrun, artifactPath_bench]
  rfl

end Orchestrator

end UnitReview
