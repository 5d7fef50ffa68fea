import UnitReview.Proofs.Host.Launch
import UnitReview.Proofs.Orchestrator.Transparency

/-!
# What the status vouches for

The status follows the artifact's path from the working directory. A request starts the artifact by
the same text, but as the program of a command, and a command follows a text only if there is a
slash in it. The two part where the artifact is a bare name, which takes an empty project path and
an artifact without a slash (`slash_mem_artifactPath`): then the status vouches for the file in the
working directory, and what is started is whatever the search path has under that name.
-/

set_option autoImplicit false

namespace UnitReview

open Host Host.FileSystem

/-! ## Settings with a bare artifact -/

/-- A joined path has a slash unless it is a name without one after nothing. -/
theorem Host.Path.slash_mem_join {a b : OsText} :
    slash ∈ (join a b).bytes ↔ a ≠ "" ∨ slash ∈ b.bytes := by
  have happend : ∀ c d : OsText, (c ++ d).bytes = c.bytes ++ d.bytes := fun _ _ => rfl
  have hempty : a = "" ↔ a.bytes = [] := OsText.ext_iff
  unfold join
  split
  next habsolute =>
    have hb : slash ∈ b.bytes := List.mem_of_mem_head? (by simpa [isAbsolute] using habsolute)
    simp only [hb, or_true]
  next =>
    rw [ne_eq, hempty, OsText.isEmpty]
    simp only [Bool.or_eq_true, List.isEmpty_iff, beq_iff_eq]
    split
    next hend =>
      rw [happend, List.mem_append]
      rcases hend with hnil | hlast
      · simp [hnil]
      · simp [List.mem_of_getLast? hlast, List.ne_nil_of_mem (List.mem_of_getLast? hlast)]
    next hend => simp [happend, not_or.1 hend]

namespace Settings

/-- The artifact is a bare name: the path of the project is empty, and the artifact is set to a
text without a slash. -/
def BareArtifact (s : Settings) : Prop :=
  s.projectDir = some (OsText.ofString "") ∧ ∃ a, s.artifact = some a ∧ Path.slash ∉ a.bytes

/-- **Which settings make the artifact's path a name without a slash.** -/
theorem slash_mem_artifactPath {s : Settings} :
    Path.slash ∈ s.artifactPath.bytes ↔ ¬ s.BareArtifact := by
  obtain ⟨dir, artifact, _, _⟩ := s
  rw [artifactPath, inProject, Path.slash_mem_join]
  cases artifact with
  | none =>
      -- the default has slashes of its own
      have hdefault : Path.slash ∈ (OsText.ofString ("target/release/" ++ analyzerName)).bytes := by
        decide
      simp only [Option.getD_none, hdefault, or_true, BareArtifact, reduceCtorEq, false_and,
        exists_false, and_false, not_false_eq_true]
  | some a =>
      cases dir with
      | none =>
          have hdot : OsText.ofString "." ≠ "" := by decide
          simp [BareArtifact, projectPath, hdot]
      | some d =>
          simp only [BareArtifact, projectPath, Option.getD_some, Option.some.injEq,
            exists_eq_left']
          tauto

end Settings

namespace Orchestrator

variable {o : Orchestrator} {fs fs₁ : FileSystem} {r : Request} {staged : StagedInput}

/-! ## The command of a staged request -/

/-- Staging takes nothing away. -/
theorem keepsEntries_of_stage (h : o.stage fs r = (.ok staged, fs₁)) : KeepsEntries fs fs₁ := by
  cases hinput : r.input with
  | source s =>
      rw [stage_source hinput] at h
      obtain ⟨_, _, _, -, -, hstaged⟩ := StagedInput.ofSource_ok h
      exact hstaged.keepsEntries
  | file p =>
      rw [stage_file hinput] at h
      split at h
      · cases h
        exact .refl fs
      · cases h

/-- A staged input has a path that can be passed on. -/
theorem hasNul_of_stage (h : o.stage fs r = (.ok staged, fs₁)) :
    staged.path.hasNul = false := by
  cases hinput : r.input with
  | source s =>
      rw [stage_source hinput] at h
      obtain ⟨_, _, _, -, rfl, hstaged⟩ := StagedInput.ofSource_ok h
      exact not_hasNul_of_find (find_eq_ok.2 ⟨hstaged.resolves, hstaged.holds⟩)
  | file p =>
      rw [stage_file hinput] at h
      split at h
      next hfile =>
        cases h
        obtain ⟨_, _, _, hfind⟩ := isFile_iff.1 hfile
        exact not_hasNul_of_find hfind
      next => cases h

/-- Of what a command is made of, only the name may hold a character that ends texts. -/
theorem any_hasNul_analyzeCommand (hbuilt : o.status fs = .built)
    (hstage : o.stage fs r = (.ok staged, fs₁)) :
    let c := o.analyzeCommand staged.path (nameFor r)
    (c.program :: c.args ++ c.directory.toList).any OsText.hasNul =
      (nameFor r).any (fun n : String => OsText.hasNul n) := by
  have hoption : (OsText.ofString "--display-name").hasNul = false := by decide
  cases nameFor r <;>
    simp [analyzeCommand, arguments, hasNul_artifactPath hbuilt, hasNul_of_stage hstage, hoption]

/-- What the command of a request starts is what its artifact is looked up as. -/
theorem starts_analyzeCommand_iff (hbuilt : o.status fs = .built)
    (hstage : o.stage fs r = (.ok staged, fs₁)) {k : Host.Location} :
    Process.Starts o.machine fs₁ (o.analyzeCommand staged.path (nameFor r)) k ↔
      (nameFor r).any (fun n : String => OsText.hasNul n) = false ∧ ∃ path content mode,
        Process.lookUp o.machine.environment fs₁ o.cwd o.settings.artifactPath = .ok path ∧
        fs₁.find o.cwd path = .ok (k, .file content mode) ∧
        Process.Runnable o.machine fs₁ o.cwd Process.scriptDepth path := by
  unfold Process.Starts
  rw [any_hasNul_analyzeCommand hbuilt hstage]
  refine and_congr_right fun _ => ⟨?_, ?_⟩
  · rintro ⟨cwd, path, content, mode, henter, hrest⟩
    cases henter
    exact ⟨path, content, mode, hrest⟩
  · rintro ⟨path, content, mode, hrest⟩
    exact ⟨o.cwd, path, content, mode, rfl, hrest⟩

/-! ## Failing to start -/

/-- Only a command that was not started is reported as such. -/
theorem readResult_eq_spawn_iff {artifact a : OsText} {e : SystemError}
    {out : Except SystemError Finished} :
    readResult artifact out = .error (.spawn a e) ↔ a = artifact ∧ out = .error e := by
  cases out with
  | error e' =>
      simp only [readResult, Except.error.injEq, Failure.spawn.injEq]
      tauto
  | ok f =>
      simp only [readResult, reduceCtorEq, and_false, iff_false]
      split
      · split <;> simp
      · simp

/-- A request fails for want of a program exactly if its command starts no file. -/
theorem analyze_eq_spawn_iff (hbuilt : o.status fs = .built)
    (hstage : o.stage fs r = (.ok staged, fs₁)) :
    (∃ a e, (o.analyze fs r).1 = .error (.spawn a e)) ↔
      ∀ k, ¬ Process.Starts o.machine fs₁ (o.analyzeCommand staged.path (nameFor r)) k := by
  rw [← not_exists, Process.exists_starts_iff]
  cases hout : Process.run o.machine fs₁ (o.analyzeCommand staged.path (nameFor r)) with
  | mk out fs₂ =>
      rw [analyze_of_stage_ok hbuilt hstage hout]
      simp only [readResult_eq_spawn_iff]
      cases out <;> simp

/-! ## The status and the start -/

/-- **What the status vouches for is what a request starts, unless the artifact is a bare name.**
Let the artifact be there and be a file that can be run, and let the request be staged. With a slash
in the artifact's path, the command starts the file that the status has found and no other. Without
one it starts what the first directory of the search path that offers the name has under it. A name
with a character that ends texts cannot be passed on, and nothing is started. The request fails for
want of a program exactly if nothing is started. -/
theorem analyze_starts_artifact (hbuilt : o.status fs = .built)
    (hrun : Process.Runnable o.machine fs o.cwd Process.scriptDepth o.settings.artifactPath)
    (hstage : o.stage fs r = (.ok staged, fs₁)) :
    let name := o.settings.artifactPath
    let starts := Process.Starts o.machine fs₁ (o.analyzeCommand staged.path (nameFor r))
    ∃ l content mode, fs.find o.cwd name = .ok (l, .file content mode) ∧
      (¬ o.settings.BareArtifact →
        ∀ k, starts k ↔ (nameFor r).any (fun n : String => OsText.hasNul n) = false ∧ k = l) ∧
      (o.settings.BareArtifact →
        ∀ k, starts k ↔ (nameFor r).any (fun n : String => OsText.hasNul n) = false ∧
          ∃ dir content mode,
          o.machine.environment.searchPath.find? (Process.offers fs₁ o.cwd name) = some dir ∧
          fs₁.find o.cwd (Path.join dir name) = .ok (k, .file content mode) ∧
          Process.Runnable o.machine fs₁ o.cwd Process.scriptDepth (Path.join dir name)) ∧
      ((∃ a e, (o.analyze fs r).1 = .error (.spawn a e)) ↔ ∀ k, ¬ starts k) := by
  intro name starts
  have hkeep := keepsEntries_of_stage hstage
  obtain ⟨l, content, mode, hfind, -⟩ := hrun.exists_find
  refine ⟨l, content, mode, hfind, ?_, ?_, analyze_eq_spawn_iff hbuilt hstage⟩
  · intro hbare k
    have hslash := Settings.slash_mem_artifactPath.2 hbare
    refine (starts_analyzeCommand_iff hbuilt hstage).trans (and_congr_right fun _ => ?_)
    rw [Process.lookUp_of_slash hslash]
    constructor
    · rintro ⟨path, content', mode', hpath, hfound, -⟩
      cases hpath
      rw [hkeep.find hfind] at hfound
      cases hfound
      rfl
    · rintro rfl
      exact ⟨_, content, mode, rfl, hkeep.find hfind, hrun.mono hkeep⟩
  · intro hbare k
    have hslash := mt Settings.slash_mem_artifactPath.1 (not_not_intro hbare)
    have hempty : o.settings.artifactPath.isEmpty = false :=
      (resolve_eq_ok.1 (find_eq_ok.1 hfind).1).2.1
    refine (starts_analyzeCommand_iff hbuilt hstage).trans (and_congr_right fun _ => ?_)
    simp only [Process.lookUp_of_not_slash hempty hslash, Process.search_eq_ok_iff]
    constructor
    · rintro ⟨path, content', mode', ⟨dir, hdir, rfl⟩, hrest⟩
      exact ⟨dir, content', mode', hdir, hrest⟩
    · rintro ⟨dir, content', mode', hdir, hrest⟩
      exact ⟨_, content', mode', ⟨dir, hdir, rfl⟩, hrest⟩

/-- The bench with its artifact as a bare name, and with a search path. -/
def bareBench (dirs : List OsText) : Orchestrator where
  settings := ⟨some "", some "analyzer", none, none⟩
  machine :=
    { (bench Analyzer.program).machine with environment := ⟨["w"], none, dirs, []⟩ }

/-- The artifact `./analyzer` is started as the file in the working directory. As the bare name
`analyzer` it is vouched for all the same, but nothing is started without a search path, and with
one the file `/bin/analyzer`. -/
theorem analyze_starts_artifact_bare :
    let files : FileSystem :=
      ⟨(["bin"], .directory) :: (["bin", "analyzer"], .file [] (.provided "analyzer")) ::
        benchFiles.entries⟩
    let starts := fun (o : Orchestrator) =>
      Process.Starts o.machine files (o.analyzeCommand "/A" none)
    ((bench Analyzer.program).status files = .built ∧
        starts (bench Analyzer.program) ["w", "analyzer"]) ∧
      ((bareBench []).status files = .built ∧
        ∃ a e, ((bareBench []).analyze files (.ofFile "/A")).1 = .error (.spawn a e)) ∧
      ((bareBench ["/bin"]).status files = .built ∧
        starts (bareBench ["/bin"]) ["bin", "analyzer"] ∧
        ¬ starts (bareBench ["/bin"]) ["w", "analyzer"]) := by
  intro files starts
  let w : Host.Location := ["w"]
  have hstage : ∀ o : Orchestrator, o.cwd = w →
      o.stage files (.ofFile "/A") = (.ok (.persistent "/A"), files) := by
    intro o ho
    have hfile : files.isFile w "/A" = true := by decide +kernel
    rw [stage_file rfl, ho, hfile, if_pos rfl]
  have hdot : files.find ["w"] "./analyzer" =
      .ok (["w", "analyzer"], .file [] (.provided "analyzer")) := by decide +kernel
  have hname : files.find ["w"] "analyzer" =
      .ok (["w", "analyzer"], .file [] (.provided "analyzer")) := by decide +kernel
  have hbin : files.find ["w"] "/bin/analyzer" =
      .ok (["bin", "analyzer"], .file [] (.provided "analyzer")) := by decide +kernel
  have hbare : ∀ dirs, (bareBench dirs).settings.BareArtifact :=
    fun _ => ⟨rfl, "analyzer", rfl, by decide⟩
  refine ⟨⟨by decide +kernel, ?_⟩, ⟨by decide +kernel, ?_⟩, by decide +kernel, ?_⟩
  · obtain ⟨l, content, mode, hfind, hslash, -⟩ :=
      analyze_starts_artifact (o := bench Analyzer.program) (r := .ofFile "/A") (by decide +kernel)
        (.provided hdot rfl) (hstage _ rfl)
    cases hfind.symm.trans hdot
    refine (hslash ?_ _).2 ⟨rfl, rfl⟩
    rintro ⟨hproject, -⟩
    cases hproject
  · obtain ⟨-, -, -, -, -, hsearch, hspawn⟩ :=
      analyze_starts_artifact (o := bareBench []) (r := .ofFile "/A") (by decide +kernel)
        (.provided hname rfl) (hstage _ rfl)
    refine hspawn.2 fun k hk => ?_
    obtain ⟨-, dir, -, -, hdir, -⟩ := (hsearch (hbare []) k).1 hk
    cases hdir
  · obtain ⟨-, -, -, -, -, hsearch, -⟩ :=
      analyze_starts_artifact (o := bareBench ["/bin"]) (r := .ofFile "/A") (by decide +kernel)
        (.provided hname rfl) (hstage _ rfl)
    refine ⟨?_, ?_⟩
    · exact (hsearch (hbare _) _).2
        ⟨rfl, "/bin", _, _, by decide +kernel, hbin, .provided hbin rfl⟩
    · intro hk
      obtain ⟨-, dir, _, _, hdir, hfind, -⟩ := (hsearch (hbare _) _).1 hk
      -- there is only one directory to look in, and it has another file
      have hmem : dir ∈ [OsText.ofString "/bin"] := List.mem_of_find?_eq_some hdir
      rw [List.mem_singleton.1 hmem] at hfind
      have hother : OsText.ofString "w" ≠ "bin" := by decide
      exact absurd (hfind.symm.trans hbin) (by simp [hother])

end Orchestrator

end UnitReview
