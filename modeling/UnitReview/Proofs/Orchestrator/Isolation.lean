import Mathlib.Logic.Function.Basic
import Mathlib.Logic.Relation
import UnitReview.Proofs.Orchestrator.Served

/-!
# Requests at the same time do not disturb each other

Any number of requests for source texts may be served at once with one staging directory and
without a lock. Each goes through the same steps: the directory is made, a file is made under a
drawn name or the next name is tried, the file is filled, the analyzer runs on its path and ends,
the file is released. The steps of different requests may come in any order, and analyzers change
files while they run.

The invariant is `Apart`: what a request holds is in place, and no two requests hold the same
location. Names come back into use after a release, so that it is about moments and not about all
time. It is kept because each step changes files at one location at most, which is either free or
held by the request that takes the step.
-/

set_option autoImplicit false

namespace UnitReview

open Host Host.FileSystem StagedInput

namespace Concurrent

/-! ## Requests in progress -/

/-- The staging directory that the requests share, as they see it. -/
structure Site where
  cwd : Host.Location
  dir : OsText

/-- The path of the directory from the root. -/
def Site.base (site : Site) : OsText := fullPath site.cwd site.dir

/-- A request for a source text, with the storage of the process that serves it. -/
structure Job where
  storage : Storage
  source : String

/-- The file of a request: where it is and its path. -/
structure Hold where
  location : Host.Location
  path : OsText
  deriving DecidableEq

/-- How far a request has come. -/
inductive Phase where
  | requested
  /-- The directory is made, and the names from a number on are to be tried. -/
  | drawing (n : Nat)
  /-- The file is made, and still empty. -/
  | created (h : Hold)
  | filled (h : Hold)
  /-- The analyzer has been started on the file and has not ended. -/
  | running (h : Hold)
  | exited (h : Hold)
  | finished
  deriving DecidableEq

namespace Phase

/-- What a request holds between making its file and releasing it. -/
def held? : Phase → Option Hold
  | .created h | .filled h | .running h | .exited h => some h
  | .requested | .drawing _ | .finished => none

/-- What is in the file of a request for a source text. -/
def content (source : String) : Phase → Text.Bytes
  | .created _ => []
  | _ => Text.encode source.toList

end Phase

/-- Makes the staging directory. -/
def prepare (site : Site) (fs : FileSystem) : Phase × FileSystem :=
  match fs.createDirectories site.cwd site.dir with
  | (.ok (), fs) => (.drawing 0, fs)
  | (.error _, fs) => (.finished, fs)

/-- Tries one path: if it is in use, the next one is to be tried. -/
def attempt (site : Site) (fs : FileSystem) (path : OsText) (n : Nat) : Phase × FileSystem :=
  match fs.createNew site.cwd path with
  | .ok (l, fs) => (.created ⟨l, path⟩, fs)
  | .error e => if e = .alreadyExists then (.drawing (n + 1), fs) else (.finished, fs)

/-- Fills the file; if that fails, the file is removed again. -/
def fill (job : Job) (fs : FileSystem) (h : Hold) : Phase × FileSystem :=
  match write job.storage fs h.location h.path job.source with
  | (.ok (), fs) => (.filled h, fs)
  | (.error _, fs) => (.finished, fs)

/-- The next step of a request. -/
def advance (site : Site) (job : Job) (fs : FileSystem) : Phase → Phase × FileSystem
  | .requested => prepare site fs
  | .drawing n =>
      if n < maxDraws then attempt site fs (drawnPath job.storage site.base n) n
      else (.finished, fs)
  | .created h => fill job fs h
  | .filled h => (.running h, fs)
  | .running h => (.exited h, fs)
  | .exited h => (.finished, (StagedInput.ephemeral h.path).release fs site.cwd)
  | .finished => (.finished, fs)

/-- What analyzers may do to the files: the path of a staged file leads where it led, and to what
was there. All else is theirs to change. -/
def LeavesStaged (site : Site) (fs fs' : FileSystem) : Prop :=
  ∀ d l, fs.resolve site.cwd (Path.join site.base (nameOf d)) = .ok l →
    fs'.resolve site.cwd (Path.join site.base (nameOf d)) = .ok l ∧ fs'.get? l = fs.get? l

variable {ι : Type} [DecidableEq ι]

/-- The files, and how far each request has come. -/
structure State (ι : Type) where
  files : FileSystem
  phase : ι → Phase

/-- A request goes on, and the files change. -/
def State.set (s : State ι) (i : ι) (r : Phase × FileSystem) : State ι :=
  ⟨r.2, Function.update s.phase i r.1⟩

/-- One step of the whole system. -/
inductive Step (site : Site) (jobs : ι → Job) : State ι → State ι → Prop
  /-- A request goes on. -/
  | advance (s : State ι) (i : ι) :
      Step site jobs s (s.set i (advance site (jobs i) s.files (s.phase i)))
  /-- An analyzer cannot be started. -/
  | unstarted (s : State ι) (i : ι) (h : Hold) (filled : s.phase i = .filled h) :
      Step site jobs s (s.set i (.exited h, s.files))
  /-- An analyzer that runs changes files. -/
  | child (s : State ι) (i : ι) (h : Hold) (fs : FileSystem) (running : s.phase i = .running h)
      (leaves : LeavesStaged site s.files fs) : Step site jobs s ⟨fs, s.phase⟩

/-- The moments of all interleavings, from any files on. -/
def Reachable (site : Site) (jobs : ι → Job) (s : State ι) : Prop :=
  ∃ fs, Relation.ReflTransGen (Step site jobs) ⟨fs, fun _ => .requested⟩ s

/-! ## The invariant -/

/-- A file that is held is where its path leads, under a drawn name, with the given content. -/
structure InPlace (site : Site) (fs : FileSystem) (h : Hold) (content : Text.Bytes) : Prop where
  drawn : ∃ d, h.path = Path.join site.base (nameOf d)
  resolves : fs.resolve site.cwd h.path = .ok h.location
  holds : fs.get? h.location = some (.file content .plain)

/-- **Requests are apart**: each has its file in place, at a location of its own. -/
structure Apart (site : Site) (jobs : ι → Job) (s : State ι) : Prop where
  inPlace : ∀ i h, (s.phase i).held? = some h →
    InPlace site s.files h ((s.phase i).content (jobs i).source)
  distinct : ∀ i j h k, i ≠ j → (s.phase i).held? = some h → (s.phase j).held? = some k →
    h.location ≠ k.location

variable {site : Site} {jobs : ι → Job} {s s' : State ι} {fs fs' : FileSystem} {h : Hold}
  {content : Text.Bytes}

theorem InPlace.find (hp : InPlace site fs h content) :
    fs.find site.cwd h.path = .ok (h.location, .file content .plain) :=
  find_eq_ok.2 ⟨hp.resolves, hp.holds⟩

theorem InPlace.not_directory (hp : InPlace site fs h content) :
    fs.get? h.location ≠ some .directory := by
  rw [hp.holds]
  simp

/-- A file that is held stays in place under changes that leave directories and its location. -/
theorem InPlace.frame (hp : InPlace site fs h content) (hdirs : KeepsDirectories fs fs')
    (hsame : fs'.get? h.location = fs.get? h.location) : InPlace site fs' h content :=
  ⟨hp.drawn, resolve_mono hdirs hp.resolves, hsame.trans hp.holds⟩

/-- Analyzers leave it in place, too. -/
theorem InPlace.leaves (hp : InPlace site fs h content) (hl : LeavesStaged site fs fs') :
    InPlace site fs' h content := by
  obtain ⟨d, hd⟩ := hp.drawn
  have hres := hp.resolves
  rw [hd] at hres
  obtain ⟨hres', hsame⟩ := hl d h.location hres
  exact ⟨⟨d, hd⟩, by rw [hd]; exact hres', hsame.trans hp.holds⟩

/-- **What a step has to keep.** The invariant goes on to hold if directories are left, what the
other requests hold is left, and what the request itself holds now is in place and its own. -/
theorem Apart.set (ha : Apart site jobs s) (i : ι) {phase : Phase}
    (hdirs : KeepsDirectories s.files fs)
    (hothers : ∀ j k, j ≠ i → (s.phase j).held? = some k →
      fs.get? k.location = s.files.get? k.location)
    (hown : ∀ h, phase.held? = some h → InPlace site fs h (phase.content (jobs i).source) ∧
      ∀ j k, j ≠ i → (s.phase j).held? = some k → h.location ≠ k.location) :
    Apart site jobs (s.set i (phase, fs)) := by
  constructor
  · intro j h hj
    by_cases hji : j = i
    · subst hji
      simp only [State.set, Function.update_self] at hj ⊢
      exact (hown h hj).1
    · simp only [State.set, Function.update_of_ne hji] at hj ⊢
      exact (ha.inPlace j h hj).frame hdirs (hothers j h hji hj)
  · -- of two requests at most one has taken the step
    intro j k h h' hjk hj hk
    by_cases hji : j = i
    · subst hji
      have hkj : k ≠ j := fun e => hjk e.symm
      simp only [State.set, Function.update_self] at hj
      simp only [State.set, Function.update_of_ne hkj] at hk
      exact (hown h hj).2 k h' hkj hk
    · simp only [State.set, Function.update_of_ne hji] at hj
      by_cases hki : k = i
      · subst hki
        simp only [State.set, Function.update_self] at hk
        exact fun e => (hown h' hk).2 j h hji hj e.symm
      · simp only [State.set, Function.update_of_ne hki] at hk
        exact ha.distinct j k h h' hjk hj hk

/-- A step that changes no file and makes nothing new be held. -/
theorem Apart.setPhase (ha : Apart site jobs s) (i : ι) {phase : Phase}
    (hheld : ∀ h, phase.held? = some h → (s.phase i).held? = some h ∧
      phase.content (jobs i).source = (s.phase i).content (jobs i).source) :
    Apart site jobs (s.set i (phase, s.files)) := by
  refine ha.set i (.refl _) (fun _ _ _ _ => rfl) ?_
  intro h hh
  obtain ⟨hi, hcontent⟩ := hheld h hh
  refine ⟨?_, ?_⟩
  · rw [hcontent]
    exact ha.inPlace i h hi
  · intro j k hji hk
    exact ha.distinct i j h k (fun e => hji e.symm) hi hk

/-! ## The steps keep it -/

/-- Making directories disturbs no file that is held. -/
theorem Apart.addDirectories (ha : Apart site jobs s) (i : ι) {phase : Phase}
    (hdirs : OnlyAddsDirectories s.files fs) (hphase : phase.held? = none) :
    Apart site jobs (s.set i (phase, fs)) := by
  refine ha.set i hdirs.keepsDirectories ?_ ?_
  · intro j k _ hk
    have hholds := (ha.inPlace j k hk).holds
    rw [hdirs.get?_eq_some hholds, hholds]
  · intro h hh
    rw [hphase] at hh
    cases hh

theorem Apart.prepare (ha : Apart site jobs s) (i : ι) :
    Apart site jobs (s.set i (prepare site s.files)) := by
  have hdirs := onlyAddsDirectories_createDirectories s.files site.cwd site.dir
  unfold Concurrent.prepare
  split
  next hmade =>
    rw [hmade] at hdirs
    exact ha.addDirectories i hdirs rfl
  next hfailed =>
    rw [hfailed] at hdirs
    exact ha.addDirectories i hdirs rfl

/-- **A name that is free is nobody's**: making a file takes nothing away from the others. -/
theorem Apart.attempt (ha : Apart site jobs s) (i : ι) {path : OsText} {n : Nat} {d : Draw}
    (hpath : path = Path.join site.base (nameOf d)) :
    Apart site jobs (s.set i (attempt site s.files path n)) := by
  unfold Concurrent.attempt
  split
  next l fs hmade =>
    obtain ⟨hres, hnone, rfl⟩ := createNew_eq_ok.1 hmade
    have hdirs : KeepsDirectories s.files (s.files.put l (.file [] .plain)) :=
      keepsDirectories_put (ne_directory_of_none hnone)
    -- what is held is there, and nothing was where the file is made
    have hfree : ∀ j k, (s.phase j).held? = some k → k.location ≠ l := by
      rintro j k hk rfl
      rw [(ha.inPlace j k hk).holds] at hnone
      cases hnone
    refine ha.set i hdirs ?_ ?_
    · intro j k _ hk
      exact get?_put_ne _ _ (hfree j k hk)
    · intro h hh
      cases hh
      have hroot : l ≠ [] := ne_nil_of_get? (ne_directory_of_none hnone)
      exact ⟨⟨⟨d, hpath⟩, resolve_mono hdirs hres, get?_put_self _ _ hroot⟩,
        fun j k _ hk e => hfree j k hk e.symm⟩
  next =>
    -- nothing is made: the next name is tried, or the request ends
    split
    all_goals
      apply ha.setPhase
      intro h hh
      cases hh

omit [DecidableEq ι] in
/-- A request that changes what it holds disturbs no other one. -/
theorem Apart.others (ha : Apart site jobs s) {i : ι} (hi : (s.phase i).held? = some h)
    (hsame : ∀ l, l ≠ h.location → fs.get? l = s.files.get? l) :
    ∀ j k, j ≠ i → (s.phase j).held? = some k → fs.get? k.location = s.files.get? k.location := by
  intro j k hji hk
  exact hsame _ (ha.distinct j i k h hji hk hi)

/-- Filling the file, or taking it away where it cannot be filled. -/
theorem Apart.fill (ha : Apart site jobs s) {i : ι} (hi : s.phase i = .created h) :
    Apart site jobs (s.set i (fill (jobs i) s.files h)) := by
  have hheld : (s.phase i).held? = some h := by rw [hi]; rfl
  have hp := ha.inPlace i h hheld
  have hroot : h.location ≠ [] := ne_nil_of_get? hp.not_directory
  unfold Concurrent.fill
  split
  next fs hwrite =>
    unfold write at hwrite
    split at hwrite
    next =>
      cases hwrite
      have hdirs := keepsDirectories_put
        (e := .file (Text.encode (jobs i).source.toList) .plain) hp.not_directory
      refine ha.set i hdirs (ha.others hheld fun l hl => get?_put_ne _ _ hl) ?_
      intro k hk
      cases hk
      exact ⟨⟨hp.drawn, resolve_mono hdirs hp.resolves, get?_put_self _ _ hroot⟩,
        fun j k hji hk => ha.distinct i j h k (fun e => hji e.symm) hheld hk⟩
    next => cases hwrite
  next fs hwrite =>
    -- the storage is full: the file goes, and with it what the request holds
    unfold write at hwrite
    split at hwrite
    next => cases hwrite
    next =>
      cases hwrite
      refine ha.set i (keepsDirectories_erase hp.not_directory)
        (ha.others hheld fun l hl => get?_erase_ne _ hl) ?_
      intro k hk
      cases hk

/-- **Releasing removes what the path leads to, and that is the file itself.** -/
theorem InPlace.release (hp : InPlace site fs h content) :
    (StagedInput.ephemeral h.path).release fs site.cwd = fs.erase h.location :=
  release_of_removeFile (removeFile_eq_ok hp.find)

theorem Apart.release (ha : Apart site jobs s) {i : ι} (hi : s.phase i = .exited h) :
    Apart site jobs
      (s.set i (.finished, (StagedInput.ephemeral h.path).release s.files site.cwd)) := by
  have hheld : (s.phase i).held? = some h := by rw [hi]; rfl
  have hp := ha.inPlace i h hheld
  rw [hp.release]
  refine ha.set i (keepsDirectories_erase hp.not_directory)
    (ha.others hheld fun l hl => get?_erase_ne _ hl) ?_
  intro k hk
  cases hk

/-- Every step of a request keeps requests apart: one case for each phase. -/
theorem Apart.advance (ha : Apart site jobs s) (i : ι) :
    Apart site jobs (s.set i (advance site (jobs i) s.files (s.phase i))) := by
  cases hi : s.phase i with
  | requested => exact ha.prepare i
  | drawing n =>
      show Apart site jobs (s.set i (if n < maxDraws then
        Concurrent.attempt site s.files (drawnPath (jobs i).storage site.base n) n
        else (.finished, s.files)))
      split
      · exact ha.attempt i (d := (jobs i).storage.draw n) rfl
      · exact ha.setPhase i (by intro h hh; cases hh)
  | created h => exact ha.fill hi
  | filled h | running h =>
      refine ha.setPhase i ?_
      rintro k ⟨⟩
      rw [hi]
      exact ⟨rfl, rfl⟩
  | exited h => exact ha.release hi
  | finished => exact ha.setPhase i (by intro h hh; cases hh)

/-- **Every step keeps requests apart.** -/
theorem Apart.step (ha : Apart site jobs s) (hstep : Step site jobs s s') :
    Apart site jobs s' := by
  cases hstep with
  | advance i => exact ha.advance i
  | unstarted i h hi =>
      refine ha.setPhase i ?_
      rintro k ⟨⟩
      rw [hi]
      exact ⟨rfl, rfl⟩
  | child i h fs hi hleaves =>
      exact ⟨fun j k hk => (ha.inPlace j k hk).leaves hleaves, ha.distinct⟩

/-- **Requests are apart at every moment of every interleaving.** -/
theorem Reachable.apart (hs : Reachable site jobs s) : Apart site jobs s := by
  obtain ⟨fs, hsteps⟩ := hs
  induction hsteps with
  | refl =>
      -- at first nothing is held
      constructor
      · intro i h hh
        cases hh
      · intro i j h k _ hh
        cases hh
  | tail _ hstep ih => exact ih.step hstep

/-! ## One request alone

The steps are those of serving a request: a request that is served without interruption is one of
the interleavings. -/

theorem State.set_set (s : State ι) (i : ι) (r r' : Phase × FileSystem) :
    (s.set i r).set i r' = s.set i r' := by
  unfold State.set
  rw [Function.update_idem]

theorem State.phase_set (s : State ι) (i : ι) (r : Phase × FileSystem) :
    (s.set i r).phase i = r.1 := by
  unfold State.set
  exact Function.update_self i r.1 s.phase

/-- The request goes on from where it stands. -/
theorem Step.next (site : Site) (jobs : ι → Job) (s : State ι) (i : ι) (r : Phase × FileSystem) :
    Step site jobs (s.set i r) (s.set i (Concurrent.advance site (jobs i) r.2 r.1)) := by
  have hstep : Step site jobs (s.set i r) _ := .advance (s.set i r) i
  rwa [State.phase_set, State.set_set] at hstep

/-- Where a request stands once a file was to be made for it. -/
def Phase.ofCreated : Except SystemError (Host.Location × OsText) → Phase
  | .ok (l, path) => .created ⟨l, path⟩
  | .error _ => .finished

/-- The loop over drawn names is a row of attempts. -/
theorem steps_createIn (s : State ι) (i : ι) (fs : FileSystem) {fuel n : Nat}
    (hn : fuel + n = maxDraws) :
    Relation.ReflTransGen (Step site jobs) (s.set i (.drawing n, fs))
      (s.set i
        (.ofCreated
          (createIn (drawnPath (jobs i).storage site.base) fs site.cwd site.base fuel n).1,
          (createIn (drawnPath (jobs i).storage site.base) fs site.cwd site.base fuel n).2)) := by
  induction fuel generalizing n with
  | zero =>
      have hfull : ¬ n < maxDraws := by omega
      have hstep := Step.next site jobs s i (.drawing n, fs)
      rw [Concurrent.advance, if_neg hfull] at hstep
      rw [createIn]
      exact .single hstep
  | succ fuel ih =>
      have hleft : n < maxDraws := by omega
      have hstep := Step.next site jobs s i (.drawing n, fs)
      rw [Concurrent.advance, if_pos hleft, Concurrent.attempt] at hstep
      rw [createIn]
      split at hstep
      next hmade =>
        rw [hmade]
        exact .single hstep
      next e hfailed =>
        replace hfailed : fs.createNew site.cwd _ = .error e := hfailed
        by_cases he : e = .alreadyExists
        · -- the name is in use: the next one is tried from the same files
          rw [if_pos he] at hstep
          simp only [hfailed, if_pos he]
          exact .head hstep (ih (by omega))
        · rw [if_neg he] at hstep
          simp only [hfailed, if_neg he]
          exact .single hstep

/-- Making the directory and the file. -/
theorem steps_create (s : State ι) (i : ι) (fs : FileSystem) :
    Relation.ReflTransGen (Step site jobs) (s.set i (.requested, fs))
      (s.set i (.ofCreated (create (jobs i).storage fs site.cwd site.dir).1,
        (create (jobs i).storage fs site.cwd site.dir).2)) := by
  have hstep := Step.next site jobs s i (.requested, fs)
  rw [Concurrent.advance, Concurrent.prepare] at hstep
  unfold create
  split at hstep
  next fs₁ hmade =>
    rw [hmade]
    exact .head hstep (steps_createIn s i fs₁ rfl)
  next hfailed =>
    rw [hfailed]
    exact .single hstep

/-- Staging that fails ends the request. -/
theorem steps_ofSource_error (s : State ι) (i : ι) {f : Failure}
    (h : ofSource (jobs i).storage fs site.cwd site.dir (jobs i).source = (.error f, fs')) :
    Relation.ReflTransGen (Step site jobs) (s.set i (.requested, fs))
      (s.set i (.finished, fs')) := by
  have hcreate : Relation.ReflTransGen (Step site jobs) _ _ := steps_create s i fs
  unfold ofSource at h
  split at h
  next fs₂ hfailed =>
    cases h
    rwa [hfailed] at hcreate
  next l path fs₂ hmade =>
    rw [hmade] at hcreate
    have hstep := Step.next site jobs s i (.created ⟨l, path⟩, fs₂)
    rw [Concurrent.advance, Concurrent.fill] at hstep
    split at h
    next => cases h
    next fs₃ hwrite =>
      cases h
      rw [hwrite] at hstep
      exact hcreate.tail hstep

/-- Staging that succeeds leaves the request with a filled file. -/
theorem steps_ofSource_ok (s : State ι) (i : ι) {staged : StagedInput}
    (h : ofSource (jobs i).storage fs site.cwd site.dir (jobs i).source = (.ok staged, fs')) :
    ∃ l path, staged = .ephemeral path ∧
      Relation.ReflTransGen (Step site jobs) (s.set i (.requested, fs))
        (s.set i (.filled ⟨l, path⟩, fs')) := by
  have hcreate : Relation.ReflTransGen (Step site jobs) _ _ := steps_create s i fs
  unfold ofSource at h
  split at h
  next => cases h
  next l path fs₂ hmade =>
    rw [hmade] at hcreate
    have hstep := Step.next site jobs s i (.created ⟨l, path⟩, fs₂)
    rw [Concurrent.advance, Concurrent.fill] at hstep
    split at h
    next fs₃ hwrite =>
      cases h
      rw [hwrite] at hstep
      exact ⟨l, path, rfl, hcreate.tail hstep⟩
    next => cases h

/-- The staging directory of an orchestrator. -/
def Site.of (o : Orchestrator) : Site := ⟨o.cwd, o.settings.stagingPath⟩

/-- From a filled file on: an analyzer that runs takes one step of its own. -/
theorem steps_run (s : State ι) (i : ι) (m : Machine) (c : Command)
    (hleaves : LeavesStaged site fs (Process.run m fs c).2) :
    Relation.ReflTransGen (Step site jobs) (s.set i (.filled h, fs))
      (s.set i (.exited h, (Process.run m fs c).2)) := by
  rcases Process.run_cases m fs c with ⟨e, hrun⟩ | ⟨name, p, call, -, hrun⟩
  · have hstep : Step site jobs (s.set i (.filled h, fs)) _ :=
      .unstarted _ i h (State.phase_set s i _)
    rw [State.set_set] at hstep
    rw [hrun]
    exact .single hstep
  · have hstart := Step.next site jobs s i (.filled h, fs)
    have hchild : Step site jobs (s.set i (.running h, fs)) _ :=
      .child _ i h (Process.run m fs c).2 (State.phase_set s i _) hleaves
    have hend := Step.next site jobs s i (.running h, (Process.run m fs c).2)
    exact .head hstart (.head hchild (.single hend))

/-- **Serving a request is a row of steps**: those of the request itself and, between start and
end of the analyzer, one of the analyzer. -/
theorem steps_analyze (o : Orchestrator) (fs : FileSystem) (r : Request) {text : String}
    (hbuilt : o.status fs = .built) (hinput : r.input = .source text)
    (s : State ι) (i : ι) (hjob : jobs i = ⟨o.machine.storage, text⟩)
    (hleaves : ∀ path fs₁, o.stage fs r = (.ok (.ephemeral path), fs₁) →
      LeavesStaged (.of o) fs₁
        (Process.run o.machine fs₁ (o.analyzeCommand path (Orchestrator.nameFor r))).2) :
    Relation.ReflTransGen (Step (.of o) jobs)
      (s.set i (.requested, fs)) (s.set i (.finished, (o.analyze fs r).2)) := by
  cases hstage : o.stage fs r with
  | mk res fs₁ =>
      have hsource : ofSource (jobs i).storage fs (Site.of o).cwd (Site.of o).dir (jobs i).source =
          (res, fs₁) := by
        rw [hjob, ← hstage, Orchestrator.stage_source hinput]
        rfl
      cases res with
      | error f =>
          rw [Orchestrator.analyze_of_stage_error hbuilt hstage]
          exact steps_ofSource_error s i hsource
      | ok staged =>
          obtain ⟨l, path, rfl, hfilled⟩ := steps_ofSource_ok s i hsource
          rw [Orchestrator.analyze_of_stage_ok hbuilt hstage rfl]
          have hexited : Relation.ReflTransGen (Step (.of o) jobs)
              (s.set i (.filled ⟨l, path⟩, fs₁)) _ := steps_run s i _ _ (hleaves path fs₁ hstage)
          exact (hfilled.trans hexited).tail (Step.next _ jobs s i (.exited ⟨l, path⟩, _))

/-! ## What requests may rely on -/

omit [DecidableEq ι] in
/-- What a release does at a moment at which requests are apart. -/
theorem Apart.find_release (ha : Apart site jobs s) {i : ι} (hi : (s.phase i).held? = some h)
    {j : ι} {k : Hold} (hji : j ≠ i) (hj : (s.phase j).held? = some k) :
    ((StagedInput.ephemeral h.path).release s.files site.cwd).find site.cwd k.path =
      s.files.find site.cwd k.path := by
  have hp := ha.inPlace i h hi
  have hq := ha.inPlace j k hj
  have hsame : (s.files.erase h.location).get? k.location = s.files.get? k.location :=
    get?_erase_ne _ (ha.distinct j i k h hji hj hi)
  rw [hp.release, hq.find, (hq.frame (keepsDirectories_erase hp.not_directory) hsame).find]

/-- **Isolation of requests at the same time.** At every moment of every interleaving: what two
requests hold has different paths, each under a drawn name; while an analyzer runs, the file that it
was given holds the source text of its own request; and a release takes away the file of its own
request, which is there, and nothing else. -/
theorem requests_isolated (site : Site) (jobs : ι → Job) (s : State ι)
    (hs : Reachable site jobs s) :
    (∀ i h, (s.phase i).held? = some h → ∃ d, h.path = Path.join site.base (nameOf d)) ∧
    (∀ i j h k, i ≠ j → (s.phase i).held? = some h → (s.phase j).held? = some k →
      h.path ≠ k.path ∧ h.location ≠ k.location) ∧
    (∀ i h, s.phase i = .running h →
      s.files.readFile site.cwd h.path = .ok (Text.encode (jobs i).source.toList)) ∧
    (∀ i h, s.phase i = .exited h →
      s.files.find site.cwd h.path =
        .ok (h.location, .file (Text.encode (jobs i).source.toList) .plain) ∧
      ((StagedInput.ephemeral h.path).release s.files site.cwd).get? h.location = none ∧
      (∀ l, l ≠ h.location →
        ((StagedInput.ephemeral h.path).release s.files site.cwd).get? l = s.files.get? l) ∧
      ∀ j k, j ≠ i → (s.phase j).held? = some k →
        ((StagedInput.ephemeral h.path).release s.files site.cwd).find site.cwd k.path =
          s.files.find site.cwd k.path) := by
  have ha := hs.apart
  refine ⟨?_, ?_, ?_, ?_⟩
  · intro i h hi
    exact (ha.inPlace i h hi).drawn
  · intro i j h k hij hi hj
    have hlocation := ha.distinct i j h k hij hi hj
    refine ⟨?_, hlocation⟩
    intro hpath
    -- one path leads to one location
    apply hlocation
    have hk := (ha.inPlace j k hj).resolves
    rw [← hpath] at hk
    exact resolve_unique (ha.inPlace i h hi).resolves hk
  · intro i h hi
    have hp := ha.inPlace i h (by rw [hi]; rfl)
    rw [hi] at hp
    exact readFile_eq_ok hp.find
  · intro i h hi
    have hheld : (s.phase i).held? = some h := by rw [hi]; rfl
    have hp := ha.inPlace i h hheld
    refine ⟨?_, ?_, ?_, ?_⟩
    · rw [hi] at hp
      exact hp.find
    · rw [hp.release]
      exact get?_erase_self _ (ne_nil_of_get? hp.not_directory)
    · intro l hl
      rw [hp.release]
      exact get?_erase_ne _ hl
    · intro j k hji hj
      exact ha.find_release hheld hji hj

/-- The state after requests have taken steps in a given order. -/
def schedule (site : Site) (jobs : ι → Job) (s : State ι) : List ι → State ι
  | [] => s
  | i :: rest => schedule site jobs (s.set i (advance site (jobs i) s.files (s.phase i))) rest

theorem reachable_schedule (hs : Reachable site jobs s) (order : List ι) :
    Reachable site jobs (schedule site jobs s order) := by
  induction order generalizing s with
  | nil => exact hs
  | cons i rest ih =>
      obtain ⟨fs, hsteps⟩ := hs
      exact ih ⟨fs, hsteps.tail (.advance s i)⟩

/-- Two requests that draw the same names in the same order. -/
def twins : Bool → Job := fun b => ⟨.unlimited, if b then "class A" else ""⟩

/-- A moment of the two: the first one's analyzer runs and the second one's has ended. -/
def twinsMoment : State Bool :=
  schedule ⟨["w"], "s"⟩ twins ⟨Orchestrator.benchFiles, fun _ => .requested⟩
    [true, false, true, false, false, true, false, true, false, false]

/-- The second of two requests that draw the same name takes the next one, and the file that the
first one's analyzer reads is the first one's. -/
theorem requests_isolated_twins :
    twinsMoment.phase true =
        .running ⟨["w", "s", "sharpcheck-000000.cs"], "/w/s/sharpcheck-000000.cs"⟩ ∧
      twinsMoment.phase false =
        .exited ⟨["w", "s", "sharpcheck-000001.cs"], "/w/s/sharpcheck-000001.cs"⟩ ∧
      twinsMoment.files.readFile ["w"] "/w/s/sharpcheck-000000.cs" =
        .ok (Text.encode "class A".toList) ∧
      ((StagedInput.ephemeral "/w/s/sharpcheck-000001.cs").release twinsMoment.files ["w"]).find
          ["w"] "/w/s/sharpcheck-000000.cs" =
        twinsMoment.files.find ["w"] "/w/s/sharpcheck-000000.cs" := by
  have htrue : twinsMoment.phase true =
      .running ⟨["w", "s", "sharpcheck-000000.cs"], "/w/s/sharpcheck-000000.cs"⟩ := by
    decide +kernel
  have hfalse : twinsMoment.phase false =
      .exited ⟨["w", "s", "sharpcheck-000001.cs"], "/w/s/sharpcheck-000001.cs"⟩ := by
    decide +kernel
  obtain ⟨-, -, hread, hrelease⟩ := requests_isolated ⟨["w"], "s"⟩ twins twinsMoment
    (reachable_schedule ⟨_, .refl⟩ _)
  have hheld : (twinsMoment.phase true).held? =
      some ⟨["w", "s", "sharpcheck-000000.cs"], "/w/s/sharpcheck-000000.cs"⟩ := by
    rw [htrue]
    rfl
  refine ⟨htrue, hfalse, ?_, ?_⟩
  · have hsource : (twins true).source = "class A" := rfl
    have hfile := hread true _ htrue
    rwa [hsource] at hfile
  · obtain ⟨-, -, -, hothers⟩ := hrelease false _ hfalse
    have hfirst := hothers true _ (by decide) hheld
    dsimp only at hfirst
    exact hfirst

end Concurrent

end UnitReview
