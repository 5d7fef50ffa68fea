import UnitReview.Proofs.Host.FileSystem
import UnitReview.Proofs.Host.OsText
import UnitReview.Staging

/-!
# What staging does to the files

One lemma for each step of staging says how the files have changed, for each way in which the step
may end. `Staged` collects what holds once a source text has been staged; a failure, at whichever
step, leaves at most new directories behind (`ofSource_error`).
-/

set_option autoImplicit false

namespace UnitReview

open Host Host.FileSystem

/-! ## Paths from the root -/

namespace Host.Path

theorem isAbsolute_append {a : OsText} (b : OsText) (h : isAbsolute a = true) :
    isAbsolute (a ++ b) = true := by
  have hbytes : (a ++ b).bytes = a.bytes ++ b.bytes := rfl
  unfold isAbsolute at h ⊢
  cases ha : a.bytes with
  | nil => simp [ha] at h
  | cons c cs =>
      rw [ha] at h
      rw [hbytes, ha]
      exact h

/-- A path after one from the root is one from the root. -/
theorem isAbsolute_join {a : OsText} (b : OsText) (h : isAbsolute a = true) :
    isAbsolute (join a b) = true := by
  unfold join
  split
  · assumption
  · split
    · exact isAbsolute_append b h
    · exact isAbsolute_append b (isAbsolute_append _ h)

/-! ## Paths that are texts -/

theorem isText_slash : (OsText.mk [slash]).isText = true := by decide

theorem isText_join {a b : OsText} (ha : a.isText = true) (hb : b.isText = true) :
    (join a b).isText = true := by
  unfold join
  split
  · exact hb
  · split
    · exact OsText.isText_append ha hb
    · exact OsText.isText_append (OsText.isText_append ha isText_slash) hb

end Host.Path

theorem Host.Location.isText_names {l : Host.Location} (h : ∀ n ∈ l, n.isText = true) :
    (OsText.mk ([Path.slash].intercalate (l.map OsText.bytes))).isText = true := by
  induction l with
  | nil => rfl
  | cons n rest ih =>
      obtain ⟨hn, hrest⟩ := List.forall_mem_cons.1 h
      cases rest with
      | nil => simpa [List.intercalate] using hn
      | cons n' rest =>
          have hcons : ([Path.slash] : Text.Bytes).intercalate
              ((n :: n' :: rest).map OsText.bytes) = n.bytes ++ ([Path.slash] ++
                [Path.slash].intercalate ((n' :: rest).map OsText.bytes)) := by
            simp [List.intercalate]
          rw [hcons]
          exact OsText.isText_append hn (OsText.isText_append Path.isText_slash (ih hrest))

theorem Host.Location.isText_path {l : Host.Location} (h : ∀ n ∈ l, n.isText = true) :
    (Host.Location.path l).isText = true :=
  OsText.isText_append Path.isText_slash (isText_names h)

namespace StagedInput

theorem isAbsolute_fullPath (cwd : Host.Location) (dir : OsText) :
    Path.isAbsolute (fullPath cwd dir) = true :=
  Path.isAbsolute_join dir rfl

variable {storage : Storage} {fs fs' : FileSystem} {cwd l : Host.Location}
  {base dir path : OsText} {source : String} {e : SystemError}

/-! ## Making the file -/

/-- The loop over the paths drawn ends at a free one. -/
theorem createIn_ok {paths : Nat → OsText} {fuel n : Nat}
    (h : createIn paths fs cwd base fuel n = (.ok (l, path), fs')) :
    (∃ k, path = paths k) ∧ fs.resolve cwd path = .ok l ∧ fs.get? l = none ∧
      fs' = fs.put l (.file [] .plain) := by
  induction fuel generalizing n with
  | zero => simp only [createIn, Prod.mk.injEq, reduceCtorEq, false_and] at h
  | succ fuel ih =>
      rw [createIn] at h
      split at h
      next m fs₁ hmade =>
        simp only [Prod.mk.injEq, Except.ok.injEq] at h
        obtain ⟨⟨rfl, rfl⟩, rfl⟩ := h
        exact ⟨⟨n, rfl⟩, createNew_eq_ok.1 hmade⟩
      next =>
        -- a path in use: the loop goes on with the files as they are
        split at h
        · exact ih h
        · simp only [Prod.mk.injEq, reduceCtorEq, false_and] at h

/-- Paths that are in use are passed over without a change. -/
theorem createIn_error {paths : Nat → OsText} {fuel n : Nat}
    (h : createIn paths fs cwd base fuel n = (.error e, fs')) : fs' = fs := by
  induction fuel generalizing n with
  | zero =>
      simp only [createIn, Prod.mk.injEq] at h
      exact h.2.symm
  | succ fuel ih =>
      rw [createIn] at h
      split at h
      next => simp only [Prod.mk.injEq, reduceCtorEq, false_and] at h
      next =>
        split at h
        · exact ih h
        · simp only [Prod.mk.injEq] at h
          exact h.2.symm

/-- The directory is made first, and the file in the files that come of it. -/
theorem create_ok (h : create storage fs cwd dir = (.ok (l, path), fs')) :
    ∃ fs₁, OnlyAddsDirectories fs fs₁ ∧ (∃ d, path = Path.join (fullPath cwd dir) (nameOf d)) ∧
      fs₁.resolve cwd path = .ok l ∧ fs₁.get? l = none ∧ fs' = fs₁.put l (.file [] .plain) := by
  unfold create at h
  have hdirs := onlyAddsDirectories_createDirectories fs cwd dir
  split at h
  next => cases h
  next fs₁ hmade =>
    rw [hmade] at hdirs
    obtain ⟨⟨k, hk⟩, hfree⟩ := createIn_ok h
    exact ⟨fs₁, hdirs, ⟨storage.draw k, hk⟩, hfree⟩

theorem create_error (h : create storage fs cwd dir = (.error e, fs')) :
    OnlyAddsDirectories fs fs' := by
  unfold create at h
  have hdirs := onlyAddsDirectories_createDirectories fs cwd dir
  split at h
  next hfailed =>
    rw [hfailed] at hdirs
    cases h
    exact hdirs
  next hmade =>
    rw [hmade] at hdirs
    rw [createIn_error h]
    exact hdirs

/-! ## Staging a source text -/

/-- **What has changed once a source text is staged**: directories may have been made, and a file
under a drawn name, where nothing was, holds the text. -/
structure Staged (fs fs' : FileSystem) (cwd : Host.Location) (base : OsText) (source : String)
    (l : Host.Location) (path : OsText) : Prop where
  drawn : ∃ d, path = Path.join base (nameOf d)
  free : fs.get? l = none
  resolves : fs'.resolve cwd path = .ok l
  holds : fs'.get? l = some (.file (Text.encode source.toList) .plain)
  others : ∀ m, m ≠ l →
    fs'.get? m = fs.get? m ∨ (fs.get? m = none ∧ fs'.get? m = some .directory)

/-- No other file has changed. -/
theorem Staged.fileAt?_of_ne (h : Staged fs fs' cwd base source l path) {m : Host.Location}
    (hm : m ≠ l) : fs'.fileAt? m = fs.fileAt? m := by
  rcases h.others m hm with heq | ⟨hnone, hdir⟩
  · exact fileAt?_congr heq
  · unfold fileAt?
    rw [hnone, hdir]

/-- Nothing that was there is lost. -/
theorem Staged.keepsEntries (h : Staged fs fs' cwd base source l path) : KeepsEntries fs fs' := by
  intro m e hm
  have hne : m ≠ l := by
    rintro rfl
    rw [h.free] at hm
    cases hm
  rcases h.others m hne with heq | ⟨hnone, -⟩
  · rw [heq, hm]
  · rw [hnone] at hm
    cases hm

theorem ofSource_ok {staged : StagedInput}
    (h : ofSource storage fs cwd dir source = (.ok staged, fs')) :
    ∃ l path fs₂, create storage fs cwd dir = (.ok (l, path), fs₂) ∧ staged = .ephemeral path ∧
      Staged fs fs' cwd (fullPath cwd dir) source l path := by
  unfold ofSource at h
  split at h
  next => cases h
  next l path fs₂ hcreate =>
    obtain ⟨fs₁, hdirs, hdrawn, hres, hnone, rfl⟩ := create_ok hcreate
    have hroot : l ≠ [] := ne_nil_of_get? (ne_directory_of_none hnone)
    unfold write at h
    split at h
    next hwrite =>
      split at hwrite
      next =>
        cases hwrite
        cases h
        refine ⟨l, path, _, hcreate, rfl, hdrawn, hdirs.get?_eq_none hnone, ?_, ?_, ?_⟩
        · -- the way to the file has not changed: nothing was a directory at its place
          have hempty : (fs₁.put l (.file [] .plain)).get? l ≠ some .directory := by
            rw [get?_put_self _ _ hroot]
            simp
          have hmade : KeepsDirectories fs₁ (fs₁.put l (.file [] .plain)) :=
            keepsDirectories_put (ne_directory_of_none hnone)
          exact resolve_mono (hmade.trans (keepsDirectories_put hempty)) hres
        · exact get?_put_self _ _ hroot
        · intro m hm
          rw [get?_put_ne _ _ hm, get?_put_ne _ _ hm]
          exact hdirs m
      next => cases hwrite
    next => cases h

/-- **A failure to stage leaves at most new directories**, whichever step has failed. A file that
was made on the way is gone. -/
theorem ofSource_error {f : Failure}
    (h : ofSource storage fs cwd dir source = (.error f, fs')) :
    OnlyAddsDirectories fs fs' ∧ (∃ e, f = .staging dir e) ∧
      ∀ l path fs₂, create storage fs cwd dir = (.ok (l, path), fs₂) → fs'.get? l = none := by
  unfold ofSource at h
  split at h
  next hcreate =>
    cases h
    refine ⟨create_error hcreate, ⟨_, rfl⟩, ?_⟩
    intro l path fs₂ hcreated
    rw [hcreate] at hcreated
    cases hcreated
  next l path fs₂ hcreate =>
    obtain ⟨fs₁, hdirs, -, -, hnone, rfl⟩ := create_ok hcreate
    have hroot : l ≠ [] := ne_nil_of_get? (ne_directory_of_none hnone)
    unfold write at h
    split at h
    next => cases h
    next hwrite =>
      split at hwrite
      next => cases hwrite
      next =>
        cases hwrite
        cases h
        refine ⟨?_, ⟨_, rfl⟩, ?_⟩
        · -- the empty file is taken away again, and its place was free before
          intro m
          by_cases hm : m = l
          · subst hm
            rw [get?_erase_self _ hroot, hdirs.get?_eq_none hnone]
            exact .inl rfl
          · rw [get?_erase_ne _ hm, get?_put_ne _ _ hm]
            exact hdirs m
        · intro l' path' fs₂ hcreated
          rw [hcreate] at hcreated
          cases hcreated
          exact get?_erase_self _ hroot

/-! ## Releasing -/

theorem release_of_removeFile (h : fs.removeFile cwd path = .ok fs') :
    (StagedInput.ephemeral path).release fs cwd = fs' := by
  simp only [release, h]

/-- **Releasing takes away what the path has led to all along**, if it can be removed. -/
theorem release_eq_erase {fs₁ fs₂ : FileSystem} (hres : fs₁.resolve cwd path = .ok l)
    (hremove : fs.removeFile cwd path = .ok fs₂) :
    (StagedInput.ephemeral path).release fs cwd = fs.erase l ∧ l ≠ [] := by
  obtain ⟨m, hm, hdir, rfl⟩ := erase_of_removeFile hremove
  have hml : m = l := resolve_unique hm hres
  subst hml
  exact ⟨release_of_removeFile hremove, ne_nil_of_get? hdir⟩

/-- Releasing brings nothing back. -/
theorem get?_release_eq_none (s : StagedInput) (cwd : Host.Location) (h : fs.get? l = none) :
    (s.release fs cwd).get? l = none := by
  cases s with
  | persistent path => exact h
  | ephemeral path =>
      cases hremove : fs.removeFile cwd path with
      | error e => simpa only [release, hremove] using h
      | ok fs' =>
          obtain ⟨m, -, hdir, rfl⟩ := erase_of_removeFile hremove
          rw [release_of_removeFile hremove]
          by_cases hm : l = m
          · subst hm
            exact get?_erase_self fs (ne_nil_of_get? hdir)
          · rw [get?_erase_ne fs hm, h]

end StagedInput

end UnitReview
