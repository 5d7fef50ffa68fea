import UnitReview.Proofs.Host.Process

/-!
# Which file a command starts

Whether a path leads to a file and whether a command starts that file are different questions: a
name with a slash is used as a path, and a name without one is looked up in the directories of the
search path. `Starts` says which file a command starts, in terms of the look-up and of what it takes
to run a file (`Runnable`); a command that starts no file fails, and one that starts a file does not
(`exists_starts_iff`).
-/

set_option autoImplicit false

namespace UnitReview.Host.Process

open FileSystem

variable {m : Machine} {fs fs' : FileSystem} {cwd l : Location} {path name : OsText}

/-! ## Looking up -/

/-- What it takes for a file to be one that may be run. -/
theorem check_eq_ok_iff :
    check fs cwd path = .ok () ↔
      ∃ l content mode, fs.find cwd path = .ok (l, .file content mode) ∧ mode ≠ .plain := by
  unfold check
  constructor
  · intro h
    cases hfind : fs.find cwd path with
    | error e =>
        rw [hfind] at h
        cases h
    | ok r =>
        rw [hfind] at h
        obtain ⟨l, _ | ⟨content, mode⟩ | _⟩ := r
        · cases h
        · refine ⟨l, content, mode, rfl, ?_⟩
          rintro rfl
          cases h
        · cases h
  · rintro ⟨l, content, mode, hfind, hplain⟩
    rw [hfind]
    cases mode with
    | plain => exact absurd rfl hplain
    | executable => rfl
    | provided program => rfl

/-- One step of a search. The proof is in parentheses, as the equation is no rule for `dsimp`. -/
theorem search_cons (fs : FileSystem) (cwd : Location) (name dir : OsText) (dirs : List OsText)
    (e : SystemError) :
    search fs cwd name (dir :: dirs) e =
      match check fs cwd (Path.join dir name) with
      | .ok () => .ok (Path.join dir name)
      | .error e' => search fs cwd name dirs (if e' == .denied then .denied else e) := (rfl)

/-- Whether a directory has a file of a name that may be run. -/
def offers (fs : FileSystem) (cwd : Location) (name dir : OsText) : Bool :=
  (check fs cwd (Path.join dir name)).isOk

/-- **The first directory that offers a name is the one it is found in.** -/
theorem search_eq_ok_iff {dirs : List OsText} {e : SystemError} :
    search fs cwd name dirs e = .ok path ↔
      ∃ dir, dirs.find? (offers fs cwd name) = some dir ∧ path = Path.join dir name := by
  induction dirs generalizing e with
  | nil =>
      constructor
      · intro h
        cases h
      · rintro ⟨dir, hdir, -⟩
        cases hdir
  | cons d dirs ih =>
      rw [search_cons, List.find?_cons]
      cases hcheck : check fs cwd (Path.join d name) with
      | ok u =>
          have hoffers : offers fs cwd name d = true := by rw [offers, hcheck]; rfl
          simp only [hoffers, Except.ok.injEq, Option.some.injEq, exists_eq_left']
          exact eq_comm
      | error e' =>
          have hoffers : offers fs cwd name d = false := by rw [offers, hcheck]; rfl
          simp only [hoffers, ih]

/-- A name with a slash is used as it is. -/
theorem lookUp_of_slash {env : Environment} (h : Path.slash ∈ name.bytes) :
    lookUp env fs cwd name = .ok name := by
  have hne : name.isEmpty = false := List.isEmpty_eq_false_iff.2 (List.ne_nil_of_mem h)
  unfold lookUp
  rw [hne, if_neg Bool.false_ne_true, if_pos (List.contains_iff_mem.2 h)]

/-- Any other name is looked up in the directories of the search path. -/
theorem lookUp_of_not_slash {env : Environment} (hne : name.isEmpty = false)
    (h : Path.slash ∉ name.bytes) :
    lookUp env fs cwd name = search fs cwd name env.searchPath .notFound := by
  have hslash : ¬ name.bytes.contains Path.slash = true := mt List.contains_iff_mem.1 h
  unfold lookUp
  rw [hne, if_neg Bool.false_ne_true, if_neg hslash]

/-! ## Running -/

/-- The file at a path can be run: it is a program of the host, or a script whose program can be
run. The number bounds the scripts that run each other. -/
inductive Runnable (m : Machine) (fs : FileSystem) (cwd : Location) : Nat → OsText → Prop
  | provided {fuel : Nat} {path : OsText} {l : Location} {content : Text.Bytes} {name : String}
      {p : Program} (find : fs.find cwd path = .ok (l, .file content (.provided name)))
      (known : m.programs name = some p) : Runnable m fs cwd (fuel + 1) path
  | script {fuel : Nat} {path : OsText} {l : Location} {content : Text.Bytes}
      {interpreter : OsText} {arg : Option OsText}
      (find : fs.find cwd path = .ok (l, .file content .executable))
      (line : interpreter? content = some (interpreter, arg))
      (rest : Runnable m fs cwd fuel interpreter) : Runnable m fs cwd (fuel + 1) path

namespace Runnable

variable {fuel : Nat}

/-- There is a file. -/
theorem exists_find (h : Runnable m fs cwd fuel path) :
    ∃ l content mode, fs.find cwd path = .ok (l, .file content mode) ∧ mode ≠ .plain := by
  cases h with
  | provided hfind _ => exact ⟨_, _, _, hfind, by simp⟩
  | script hfind _ _ => exact ⟨_, _, _, hfind, by simp⟩

/-- A file that can be run can be run where nothing is taken away. -/
theorem mono (hk : KeepsEntries fs fs') (h : Runnable m fs cwd fuel path) :
    Runnable m fs' cwd fuel path := by
  induction h with
  | provided hfind hknown => exact .provided (hk.find hfind) hknown
  | script hfind hline _ ih => exact .script (hk.find hfind) hline ih

/-- **A file that can be run has a program**, whatever it is called with. -/
theorem exists_program (h : Runnable m fs cwd fuel path) (args : List OsText) :
    ∃ r, program m fs cwd fuel path args = .ok r := by
  induction h generalizing args with
  | provided hfind hknown => exact ⟨_, program_of_provided hfind hknown⟩
  | @script fuel path l content interpreter arg hfind hline _ ih =>
      obtain ⟨r, hr⟩ := ih (arg.toList ++ path :: args)
      have hcheck : check fs cwd path = .ok () := check_eq_ok_iff.2 ⟨_, _, _, hfind, by simp⟩
      refine ⟨r, ?_⟩
      simp only [program, hcheck, hfind, hline, hr, bind, Except.bind]

/-- Only a file that can be run has one. -/
theorem of_program {args : List OsText} {r : Program × OsText × List OsText}
    (h : program m fs cwd fuel path args = .ok r) : Runnable m fs cwd fuel path := by
  induction fuel generalizing path args with
  | zero =>
      rw [program] at h
      cases h
  | succ fuel ih =>
      rw [program] at h
      cases hcheck : check fs cwd path with
      | error e =>
          rw [hcheck] at h
          cases h
      | ok u =>
          obtain ⟨l, content, mode, hfind, hplain⟩ := check_eq_ok_iff.1 hcheck
          simp only [hcheck, hfind, bind, Except.bind] at h
          cases mode with
          | plain => exact absurd rfl hplain
          | provided program =>
              simp only at h
              split at h
              next hknown => exact .provided hfind hknown
              next => cases h
          | executable =>
              simp only at h
              split at h
              next hline => exact .script hfind hline (ih h)
              next => cases h

end Runnable

/-! ## Starting -/

/-- **A command starts the file at a location**: its look-up leads there, and the file can be
run. -/
def Starts (m : Machine) (fs : FileSystem) (c : Command) (l : Location) : Prop :=
  (c.program :: c.args ++ c.directory.toList).any OsText.hasNul = false ∧
    ∃ cwd path content mode, enter fs m.environment.cwd c.directory = .ok cwd ∧
      lookUp m.environment fs cwd c.program = .ok path ∧
      fs.find cwd path = .ok (l, .file content mode) ∧ Runnable m fs cwd scriptDepth path

/-- A command fails exactly if it starts no file. -/
theorem exists_starts_iff {c : Command} :
    (∃ l, Starts m fs c l) ↔ ∃ f, (run m fs c).1 = .ok f := by
  constructor
  · rintro ⟨l, hnul, cwd, path, content, mode, henter, hlook, hfind, hrun⟩
    obtain ⟨⟨p, name, args⟩, hprogram⟩ := hrun.exists_program c.args
    refine ⟨(p ⟨name, args, cwd, [], m.environment.bindings⟩ fs).1, ?_⟩
    unfold run runWith prepare
    simp only [hnul, henter, hlook, hprogram, bind, Except.bind, pure, Except.pure,
      Bool.false_eq_true, if_false]
  · rintro ⟨f, hf⟩
    unfold run runWith at hf
    cases hprep : prepare m fs c [] with
    | error e =>
        rw [hprep] at hf
        cases hf
    | ok r =>
        obtain ⟨hnul, cwd, path, name, args, henter, hlook, hprogram⟩ := steps_of_prepare hprep
        have hrun := Runnable.of_program hprogram
        obtain ⟨l, content, mode, hfind, -⟩ := hrun.exists_find
        exact ⟨l, hnul, cwd, path, content, mode, henter, hlook, hfind, hrun⟩

end UnitReview.Host.Process
