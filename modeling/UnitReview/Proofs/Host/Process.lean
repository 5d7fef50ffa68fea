import UnitReview.Host.Process
import UnitReview.Proofs.Host.FileSystem

/-!
# What starting a command can come to

A command either cannot be started, and then nothing has changed, or exactly one program of the
machine runs (`run_cases`). Which one it is can be told where the command leads straight to a
program of the host (`run_of_provided`). How a program is found does not depend on what it does, so
a machine whose programs are cut down to a part of what they say runs them all the same
(`run_heard`).
-/

set_option autoImplicit false

namespace UnitReview.Host.Process

open FileSystem

variable {m : Machine} {fs : FileSystem} {cwd : Location}

theorem check_of_provided {path : OsText} {name : String} {l : Location} {content : Text.Bytes}
    (h : fs.find cwd path = .ok (l, .file content (.provided name))) :
    check fs cwd path = .ok () := by
  unfold check
  rw [h]
  rfl

/-- A file that stands for a program of the host is run as that program. -/
theorem program_of_provided {path : OsText} {name : String} {l : Location} {content : Text.Bytes}
    {p : Program} {fuel : Nat} {args : List OsText}
    (hfind : fs.find cwd path = .ok (l, .file content (.provided name)))
    (hp : m.programs name = some p) :
    program m fs cwd (fuel + 1) path args = .ok (p, path, args) := by
  simp only [program, check_of_provided hfind, hfind, hp, bind, Except.bind]

/-- The program that is found is one of the machine's, also at the end of a chain of scripts. -/
theorem program_mem {fuel : Nat} {path : OsText} {args : List OsText}
    {r : Program × OsText × List OsText} (h : program m fs cwd fuel path args = .ok r) :
    ∃ name, m.programs name = some r.1 := by
  induction fuel generalizing path args with
  | zero =>
      rw [program] at h
      cases h
  | succ fuel ih =>
      rw [program] at h
      cases hcheck : check fs cwd path with
      | error e =>
          rw [hcheck] at h
          cases h
      | ok u =>
          cases hfind : fs.find cwd path with
          | error e =>
              rw [hcheck, hfind] at h
              cases h
          | ok found =>
              simp only [hcheck, hfind, bind, Except.bind] at h
              split at h
              · -- a program of the host
                split at h
                · cases h
                  exact ⟨_, by assumption⟩
                · cases h
              · -- a script: the program is that of its interpreter
                split at h
                · exact ih h
                · cases h
              · cases h

/-- What is known of a command that is ready to be started: every step before the start has
succeeded. -/
theorem steps_of_prepare {c : Command} {stdin : Text.Bytes} {r : Program × Call}
    (h : prepare m fs c stdin = .ok r) :
    (c.program :: c.args ++ c.directory.toList).any OsText.hasNul = false ∧
      ∃ cwd path name args, enter fs m.environment.cwd c.directory = .ok cwd ∧
        lookUp m.environment fs cwd c.program = .ok path ∧
        program m fs cwd scriptDepth path c.args = .ok (r.1, name, args) := by
  unfold prepare at h
  simp only [bind, Except.bind] at h
  split at h
  · cases h
  · next hnul =>
    split at h
    · cases h
    · next henter =>
      split at h
      · cases h
      · next hlook =>
        split at h
        · cases h
        · next hprogram =>
          cases h
          exact ⟨Bool.eq_false_iff.2 hnul, _, _, _, _, henter, hlook, hprogram⟩

/-- **A command that is not started changes nothing; one that is started runs one program of the
machine.** -/
theorem run_cases (m : Machine) (fs : FileSystem) (c : Command) :
    (∃ e, run m fs c = (.error e, fs)) ∨
      ∃ name p call, m.programs name = some p ∧
        run m fs c = (.ok (p call fs).1, (p call fs).2) := by
  unfold run runWith
  cases hprep : prepare m fs c [] with
  | error e => exact .inl ⟨e, rfl⟩
  | ok r =>
      obtain ⟨p, call⟩ := r
      obtain ⟨-, cwd, path, _, _, -, -, hprogram⟩ := steps_of_prepare hprep
      obtain ⟨name, hname⟩ := program_mem hprogram
      exact .inr ⟨name, p, call, hname, rfl⟩

/-- A command whose program leads to a program of the host runs it on the arguments as they
are. -/
theorem run_of_provided {program path : OsText} {name : String} {args : List OsText} {l : Location}
    {content : Text.Bytes} {p : Program}
    (hnul : (program :: args).any OsText.hasNul = false)
    (hlook : lookUp m.environment fs m.environment.cwd program = .ok path)
    (hfind : fs.find m.environment.cwd path = .ok (l, .file content (.provided name)))
    (hp : m.programs name = some p) :
    ∃ call, call.args = args ∧ call.cwd = m.environment.cwd ∧
      run m fs ⟨program, args, none⟩ = (.ok (p call fs).1, (p call fs).2) := by
  have hclean : ((⟨program, args, none⟩ : Command).program ::
      (⟨program, args, none⟩ : Command).args ++
        (⟨program, args, none⟩ : Command).directory.toList).any OsText.hasNul = false := by
    simpa using hnul
  refine ⟨⟨path, args, m.environment.cwd, [], m.environment.bindings⟩, rfl, rfl, ?_⟩
  unfold run runWith prepare
  rw [hclean]
  simp only [enter, hlook, scriptDepth, program_of_provided hfind hp, bind, Except.bind, pure,
    Except.pure, Bool.false_eq_true, if_false]

end UnitReview.Host.Process

namespace UnitReview.Host

/-! ## What is heard of a process

Of a process that ends well only the output is of interest, of any other one only what it says of
its failure. Programs can be cut down to that without changing how they are found and started. -/

/-- A process without the part of its output that is of no interest. -/
def Finished.heard (f : Finished) : Finished :=
  if f.success then { f with stderr := [] } else { f with stdout := [] }

/-- A program of which no more than that is heard. -/
def Program.heard (p : Program) : Program := fun call fs => ((p call fs).1.heard, (p call fs).2)

/-- A machine of whose programs no more than that is heard. -/
def Machine.heard (m : Machine) : Machine :=
  { m with programs := fun name => (m.programs name).map Program.heard }

theorem Machine.environment_heard (m : Machine) : m.heard.environment = m.environment := rfl

theorem Finished.code_heard (f : Finished) : f.heard.code = f.code := by
  unfold heard
  split <;> rfl

namespace Process

variable {m : Machine} {fs : FileSystem} {cwd : Location}

theorem program_heard (fuel : Nat) (path : OsText) (args : List OsText) :
    program m.heard fs cwd fuel path args =
      (program m fs cwd fuel path args).map fun r => (r.1.heard, r.2) := by
  induction fuel generalizing path args with
  | zero => rfl
  | succ fuel ih =>
      rw [program, program]
      cases check fs cwd path with
      | error e => rfl
      | ok u =>
          cases fs.find cwd path with
          | error e => rfl
          | ok found =>
              simp only [bind, Except.bind]
              split
              · simp only [Machine.heard]
                cases m.programs _ <;> rfl
              · split
                · exact ih _ _
                · rfl
              · rfl

/-- **What is heard of a process is all that is heard of the program that it runs.** -/
theorem run_heard (c : Command) :
    run m.heard fs c = ((run m fs c).1.map Finished.heard, (run m fs c).2) := by
  have hprepare : prepare m.heard fs c [] =
      (prepare m fs c []).map fun r => (r.1.heard, r.2) := by
    unfold prepare
    simp only [bind, Except.bind, program_heard, Machine.environment_heard]
    split
    · rfl
    · cases enter fs m.environment.cwd c.directory with
      | error e => rfl
      | ok cwd =>
          simp only
          cases lookUp m.environment fs cwd c.program with
          | error e => rfl
          | ok path =>
              simp only
              cases program m fs cwd scriptDepth path c.args <;> rfl
  unfold run runWith
  rw [hprepare]
  cases prepare m fs c [] <;> rfl

end Process

end UnitReview.Host
