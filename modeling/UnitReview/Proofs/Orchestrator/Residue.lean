import UnitReview.Proofs.Orchestrator.Served

/-!
# Nothing of a request stays behind

What a request does to the files is said first for one call, in each of the ways it may go, and
then for runs of any length. The calls of a run may come with settings and machines of their own,
and their programs may do anything: be impossible to start, be killed, end with any code and any
output, and change any file, as long as what they leave of the staged file can be removed. What is
asked of a program is only asked of the runs that are made of it.
-/

set_option autoImplicit false

namespace UnitReview

open Host Host.FileSystem

/-- Whether a request has failed before the analyzer was to be started. -/
def Failure.isEarly : Failure → Bool
  | .notBuilt _ | .validation _ | .staging _ _ => true
  | .spawn _ _ | .processExit _ _ | .resultParse _ _ => false

namespace Orchestrator

variable {o : Orchestrator} {fs fs' : FileSystem} {r : Request}

/-! ## One call -/

/-- What the analyzer leaves of the staged file can be removed by its path. -/
def CanRelease (o : Orchestrator) (fs : FileSystem) (r : Request) : Prop :=
  o.status fs = .built → ∀ path fs₁ l, o.stage fs r = (.ok (.ephemeral path), fs₁) →
    fs₁.resolve o.cwd path = .ok l →
      let fs₂ := (Process.run o.machine fs₁ (o.analyzeCommand path (nameFor r))).2
      fs₂.get? l ≠ none → ∃ fs₃, fs₂.removeFile o.cwd path = .ok fs₃

/-- **A request leaves no file of its own**, whatever it comes to. Its file was new, too. -/
theorem Served.get?_created {res : Except Failure ReviewResult × FileSystem}
    (h : Served o fs r res) (hrelease : o.CanRelease fs r) {l : Host.Location}
    (hl : o.created? fs r = some l) : fs.get? l = none ∧ res.2.get? l = none := by
  cases h with
  | notBuilt hnone | invalid _ hnone | file _ hnone =>
      rw [hnone] at hl
      cases hl
  | unstaged e hdirs hgone => exact hgone l hl
  | @source _ path _ m fs₁ fs₂ out hbuilt hm hstage hstaged hrun =>
      rw [hm] at hl
      cases hl
      refine ⟨hstaged.free, ?_⟩
      have hremove := hrelease hbuilt path fs₁ l hstage hstaged.resolves
      rw [hrun] at hremove
      by_cases hleft : fs₂.get? l = none
      · -- the analyzer itself has taken the file away
        exact StagedInput.get?_release_eq_none _ _ hleft
      · obtain ⟨fs₃, hfs₃⟩ := hremove hleft
        obtain ⟨herase, hroot⟩ := StagedInput.release_eq_erase hstaged.resolves hfs₃
        show ((StagedInput.ephemeral path).release fs₂ o.cwd).get? l = none
        rw [herase]
        exact get?_erase_self fs₂ hroot

/-- What comes of a started analyzer is no early failure. -/
theorem isEarly_readResult {artifact : OsText} {out : Except SystemError Finished} {f : Failure}
    (h : readResult artifact out = .error f) : f.isEarly = false := by
  unfold readResult at h
  split at h
  next =>
    cases h
    rfl
  next =>
    split at h
    next =>
      simp only at h
      split at h
      · cases h
      · cases h
        rfl
    next =>
      cases h
      rfl

/-- **A request that is refused at once changes nothing**: no directory is made for it. -/
theorem Served.refused {res : Except Failure ReviewResult × FileSystem} (h : Served o fs r res)
    {f : Failure} (hres : res.1 = .error f)
    (hf : (∃ artifact, f = .notBuilt artifact) ∨ ∃ problem, f = .validation problem) :
    res.2 = fs := by
  have hlate : ∀ {artifact : OsText} {out : Except SystemError Finished},
      readResult artifact out ≠ .error f := by
    intro artifact out hout
    have hearly := isEarly_readResult hout
    rcases hf with ⟨_, rfl⟩ | ⟨_, rfl⟩ <;> cases hearly
  cases h with
  | notBuilt | invalid => rfl
  | unstaged =>
      cases hres
      rcases hf with ⟨_, hf⟩ | ⟨_, hf⟩ <;> cases hf
  | file | source => exact absurd hres hlate

/-- The same settings on a machine with other programs. -/
def withPrograms (o : Orchestrator) (programs : String → Option Program) : Orchestrator :=
  { o with machine := { o.machine with programs := programs } }

/-- **An early failure starts nothing**: it is the same, with the same files after it, whatever
programs the machine has. -/
theorem analyze_withPrograms {f : Failure} (h : (o.analyze fs r).1 = .error f)
    (hf : f.isEarly = true) (programs : String → Option Program) :
    (o.withPrograms programs).analyze fs r = o.analyze fs r := by
  have hstatus : (o.withPrograms programs).status fs = o.status fs := rfl
  have hstage : (o.withPrograms programs).stage fs r = o.stage fs r := rfl
  -- status and staging do not look at the programs, and later failures are not early
  cases hs : o.status fs with
  | notBuilt =>
      rw [analyze_of_notBuilt hs, analyze_of_notBuilt (hstatus.trans hs)]
      rfl
  | built =>
      cases hst : o.stage fs r with
      | mk res fs₁ =>
          cases res with
          | error f' =>
              rw [analyze_of_stage_error hs hst,
                analyze_of_stage_error (hstatus.trans hs) (hstage.trans hst)]
          | ok staged =>
              rw [analyze_of_stage_ok hs hst rfl] at h
              rw [isEarly_readResult h] at hf
              cases hf

/-! ## Children that change no file -/

/-- What holds of the files before and after the run of the analyzer that is made for a request. -/
def AcrossRun (o : Orchestrator) (fs : FileSystem) (r : Request)
    (P : FileSystem → FileSystem → Prop) : Prop :=
  o.status fs = .built → ∀ staged fs₁, o.stage fs r = (.ok staged, fs₁) →
    P fs₁ (Process.run o.machine fs₁ (o.analyzeCommand staged.path (nameFor r))).2

/-- The analyzer that is started for a request changes no file. It may make and remove
directories. -/
def KeepsFiles (o : Orchestrator) (fs : FileSystem) (r : Request) : Prop :=
  o.AcrossRun fs r SameFiles

/-- **A request changes no file** if the analyzer does not. -/
theorem Served.sameFiles {res : Except Failure ReviewResult × FileSystem} (h : Served o fs r res)
    (hrelease : o.CanRelease fs r) (hkeep : o.KeepsFiles fs r) : SameFiles fs res.2 := by
  cases h with
  | notBuilt | invalid => exact .refl fs
  | unstaged e hdirs _ => exact hdirs.sameFiles
  | @file path out _ hbuilt _ hstage hrun =>
      have hsame := hkeep hbuilt _ fs hstage
      rw [StagedInput.path, hrun] at hsame
      exact hsame
  | @source _ path _ l fs₁ fs₂ out hbuilt hl hstage hstaged hrun =>
      have hsame := hkeep hbuilt _ fs₁ hstage
      have hremove := hrelease hbuilt path fs₁ l hstage hstaged.resolves
      rw [StagedInput.path, hrun] at hsame
      rw [hrun] at hremove
      -- the staged file is still there, so that it is what the release removes
      have hthere : fs₂.get? l = some (.file _ _) :=
        fileAt?_eq_some.1 ((hsame l).trans (fileAt?_eq_some.2 hstaged.holds))
      obtain ⟨fs₃, hfs₃⟩ := hremove (by rw [hthere]; simp)
      obtain ⟨herase, hroot⟩ := StagedInput.release_eq_erase hstaged.resolves hfs₃
      show SameFiles fs ((StagedInput.ephemeral path).release fs₂ o.cwd)
      rw [herase]
      intro k
      by_cases hk : k = l
      · subst hk
        rw [fileAt?_eq_none (get?_erase_self fs₂ hroot), fileAt?_eq_none hstaged.free]
      · calc (fs₂.erase l).fileAt? k
            = fs₂.fileAt? k := fileAt?_congr (get?_erase_ne fs₂ hk)
          _ = fs₁.fileAt? k := hsame k
          _ = fs.fileAt? k := hstaged.fileAt?_of_ne hk

/-- What an analyzer leaves that changes no file and removes no directory can be removed. -/
theorem canRelease_of_keeps (hkeep : o.KeepsFiles fs r)
    (hdirs : o.AcrossRun fs r KeepsDirectories) : o.CanRelease fs r := by
  intro hbuilt path fs₁ l hstage hres fs₂ _
  have hfile : ∃ content mode, fs₁.get? l = some (.file content mode) := by
    cases hinput : r.input with
    | file p =>
        rw [stage_file hinput] at hstage
        split at hstage <;> cases hstage
    | source s =>
        rw [stage_source hinput] at hstage
        obtain ⟨m, path', fs', -, hpath, hstaged⟩ := StagedInput.ofSource_ok hstage
        cases hpath
        have hm : m = l := resolve_unique hstaged.resolves hres
        subst hm
        exact ⟨_, _, hstaged.holds⟩
  obtain ⟨content, mode, hget⟩ := hfile
  have hget₂ : fs₂.get? l = some (.file content mode) :=
    fileAt?_eq_some.1 ((hkeep hbuilt _ fs₁ hstage l).trans (fileAt?_eq_some.2 hget))
  exact ⟨_, removeFile_eq_ok
    (find_eq_ok.2 ⟨resolve_mono (hdirs hbuilt _ fs₁ hstage) hres, hget₂⟩)⟩

/-! ## Runs -/

/-- What is asked of an orchestrator. -/
inductive Action where
  | status (o : Orchestrator)
  | analyze (o : Orchestrator) (r : Request)

namespace Action

/-- The files after an action. Asking for the status leaves them as they are. -/
def perform (fs : FileSystem) : Action → FileSystem
  | .status _ => fs
  | .analyze o r => (o.analyze fs r).2

/-- The files after a run. -/
def run (fs : FileSystem) : List Action → FileSystem
  | [] => fs
  | a :: rest => run (a.perform fs) rest

/-- The actions of a run, each with the files when it begins. -/
def moments (fs : FileSystem) : List Action → List (FileSystem × Action)
  | [] => []
  | a :: rest => (fs, a) :: moments (a.perform fs) rest

/-- What the analyzer leaves of a staged file can be removed. -/
def CanRelease (fs : FileSystem) : Action → Prop
  | .status _ => True
  | .analyze o r => o.CanRelease fs r

/-- The analyzer, if the action starts it, changes no file. -/
def KeepsFiles (fs : FileSystem) : Action → Prop
  | .status _ => True
  | .analyze o r => o.KeepsFiles fs r

theorem sameFiles_perform {a : Action} (hrelease : a.CanRelease fs) (hkeep : a.KeepsFiles fs) :
    SameFiles fs (a.perform fs) := by
  cases a with
  | status o => exact .refl fs
  | analyze o r => exact (served o fs r).sameFiles hrelease hkeep

/-- A run changes no file if no analyzer does that is started in it. -/
theorem sameFiles_run {actions : List Action}
    (hrelease : ∀ e ∈ moments fs actions, e.2.CanRelease e.1)
    (hkeep : ∀ e ∈ moments fs actions, e.2.KeepsFiles e.1) : SameFiles fs (run fs actions) := by
  induction actions generalizing fs with
  | nil => exact .refl fs
  | cons a rest ih =>
      have hfirst : SameFiles fs (a.perform fs) :=
        sameFiles_perform (hrelease (fs, a) (by simp [moments])) (hkeep (fs, a) (by simp [moments]))
      have hrest : SameFiles (a.perform fs) (run (a.perform fs) rest) :=
        ih (fun e he => hrelease e (by simp [moments, he]))
          (fun e he => hkeep e (by simp [moments, he]))
      exact hfirst.trans hrest

/-- **No staging residue.** In every run in which what the programs leave of a staged file can be
removed: after each request the file that was made for it is gone; a request that is refused at
once leaves the files as they are; one that fails before the analyzer is to be started starts no
program. If the analyzers that are started change no file, each at its moment, the run changes
none. -/
theorem run_leaves_nothing (fs : FileSystem) (actions : List Action)
    (hrelease : ∀ e ∈ moments fs actions, e.2.CanRelease e.1) :
    (∀ fs₀ o r, (fs₀, Action.analyze o r) ∈ moments fs actions →
      (∀ l, o.created? fs₀ r = some l →
        fs₀.get? l = none ∧ (o.analyze fs₀ r).2.get? l = none) ∧
      (∀ f, (o.analyze fs₀ r).1 = .error f →
        (∃ artifact, f = .notBuilt artifact) ∨ (∃ problem, f = .validation problem) →
        (o.analyze fs₀ r).2 = fs₀) ∧
      (∀ f, (o.analyze fs₀ r).1 = .error f →
        (∃ artifact, f = .notBuilt artifact) ∨ (∃ problem, f = .validation problem) ∨
          (∃ dir e, f = .staging dir e) →
        ∀ programs, (o.withPrograms programs).analyze fs₀ r = o.analyze fs₀ r)) ∧
    ((∀ e ∈ moments fs actions, e.2.KeepsFiles e.1) → SameFiles fs (run fs actions)) := by
  refine ⟨?_, sameFiles_run hrelease⟩
  intro fs₀ o r hmoment
  refine ⟨?_, ?_, ?_⟩
  · intro l hl
    exact (served o fs₀ r).get?_created (hrelease _ hmoment) hl
  · intro f hf hrefused
    exact (served o fs₀ r).refused hf hrefused
  · intro f hf hearly programs
    refine analyze_withPrograms hf ?_ programs
    rcases hearly with ⟨_, rfl⟩ | ⟨_, rfl⟩ | ⟨_, _, rfl⟩ <;> rfl

/-- An analyzer that is killed whenever it is started. -/
def killed : Program := fun _ fs => (⟨none, [], []⟩, fs)

theorem run_killed (fs : FileSystem) (c : Command) :
    (Process.run (bench killed).machine fs c).2 = fs := by
  rcases Process.run_cases (bench killed).machine fs c with ⟨e, h⟩ | ⟨name, p, call, hp, h⟩
  · rw [h]
  · have hkilled : p = killed := by
      simp only [bench] at hp
      split at hp <;> cases hp
      rfl
    rw [h, hkilled]
    rfl

/-- The file that is made for a text is gone after the analyzer was killed on it, and a run with a
killed analyzer changes no file. -/
theorem run_leaves_nothing_killed :
    let l : Host.Location := ["w", ".sharpcheck", "staging", "sharpcheck-000000.cs"]
    (bench killed).created? benchFiles (.ofSource "/A") = some l ∧
      ((bench killed).analyze benchFiles (.ofSource "/A")).2.get? l = none ∧
      SameFiles benchFiles (run benchFiles
        [.status (bench killed), .analyze (bench killed) (.ofSource "/A"),
          .analyze (bench killed) (.ofFile "/A")]) := by
  intro l
  have hkeep : ∀ fs r, (bench killed).KeepsFiles fs r := by
    intro fs r _ staged fs₁ _
    rw [run_killed]
    exact .refl fs₁
  have hdirs : ∀ fs r, (bench killed).AcrossRun fs r KeepsDirectories := by
    intro fs r _ staged fs₁ _
    rw [run_killed]
    exact .refl fs₁
  have h := run_leaves_nothing benchFiles
    [.status (bench killed), .analyze (bench killed) (.ofSource "/A"),
      .analyze (bench killed) (.ofFile "/A")]
    (by
      intro e he
      simp only [moments, List.mem_cons, List.not_mem_nil, or_false] at he
      rcases he with rfl | rfl | rfl
      · trivial
      · exact canRelease_of_keeps (hkeep _ _) (hdirs _ _)
      · exact canRelease_of_keeps (hkeep _ _) (hdirs _ _))
  have hcreated : (bench killed).created? benchFiles (.ofSource "/A") = some l := by
    decide +kernel
  refine ⟨hcreated, ((h.1 benchFiles (bench killed) (.ofSource "/A") ?_).1 _ hcreated).2, h.2 ?_⟩
  · simp [moments, perform]
  · intro e he
    simp only [moments, List.mem_cons, List.not_mem_nil, or_false] at he
    rcases he with rfl | rfl | rfl
    · trivial
    · exact hkeep _ _
    · exact hkeep _ _

end Action

end Orchestrator

end UnitReview
