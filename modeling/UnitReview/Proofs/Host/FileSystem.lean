import UnitReview.Host.FileSystem

/-!
# What paths lead to, before and after a change

Names are followed through directories only, so that the way of a path depends on the file system
in one respect: whether the locations it visits are directories. Two facts follow. A path that can
be followed leads to the same location in every file system in which it can be followed
(`resolve_unique`), and it can still be followed after a change that leaves directories in place
(`resolve_mono`). Every operation of the staging code is such a change, and one lemma per operation
says so.
-/

set_option autoImplicit false

namespace UnitReview.Host

namespace FileSystem

variable {fs fs' fs'' : FileSystem}

/-! ## Following names -/

/-- Where one name leads from a directory. -/
def descend (l : Location) (name : OsText) : Location :=
  if name = "" || name = "." then l else if name = ".." then l.dropLast else l ++ [name]

/-- The root is a directory, so that every other entry lies elsewhere. -/
theorem ne_nil_of_get? {l : Location} (h : fs.get? l ≠ some .directory) : l ≠ [] := by
  rintro rfl
  exact h rfl

/-- Where nothing is, there is no directory. -/
theorem ne_directory_of_none {l : Location} (h : fs.get? l = none) :
    fs.get? l ≠ some .directory := by
  rw [h]
  simp

/-- **What it takes to follow one name**: a directory to start from and a name of usual length. -/
theorem follow_cons_eq_ok {l m : Location} {name : OsText} {rest : List OsText} :
    fs.follow l (name :: rest) = .ok m ↔
      fs.get? l = some .directory ∧ name.bytes.length ≤ maxNameLength ∧
        fs.follow (descend l name) rest = .ok m := by
  rw [follow]
  split
  -- no name can be followed from nothing, from a file or from a device
  next h => simp [h]
  next h => simp [h]
  next h => simp [h]
  next h =>
    simp only [h, true_and]
    by_cases hlong : name.bytes.length > maxNameLength
    · simp [hlong, Nat.not_le.2 hlong]
    · rw [if_neg hlong, descend]
      have hshort : name.bytes.length ≤ maxNameLength := Nat.not_lt.1 hlong
      simp only [hshort, true_and]
      split
      · rfl
      · split <;> rfl

/-- Where names lead depends on the names alone. -/
theorem follow_eq_foldl {l m : Location} {names : List OsText} (h : fs.follow l names = .ok m) :
    m = names.foldl descend l := by
  induction names generalizing l with
  | nil =>
      rw [follow, Except.ok.injEq] at h
      exact h.symm
  | cons name rest ih =>
      obtain ⟨-, -, hrest⟩ := follow_cons_eq_ok.1 h
      rw [List.foldl_cons]
      exact ih hrest

/-- The directories of one file system are directories of another one. -/
def KeepsDirectories (fs fs' : FileSystem) : Prop :=
  ∀ l, fs.get? l = some .directory → fs'.get? l = some .directory

theorem KeepsDirectories.refl (fs : FileSystem) : KeepsDirectories fs fs := fun _ h => h

theorem KeepsDirectories.trans (h : KeepsDirectories fs fs') (h' : KeepsDirectories fs' fs'') :
    KeepsDirectories fs fs'' :=
  fun l hl => h' l (h l hl)

/-- Names that can be followed can be followed where all directories are kept. -/
theorem follow_mono (hk : KeepsDirectories fs fs') {l m : Location} {names : List OsText}
    (h : fs.follow l names = .ok m) : fs'.follow l names = .ok m := by
  induction names generalizing l with
  | nil => exact h
  | cons name rest ih =>
      obtain ⟨hdir, hshort, hrest⟩ := follow_cons_eq_ok.1 h
      exact follow_cons_eq_ok.2 ⟨hk l hdir, hshort, ih hrest⟩

/-! ## Paths -/

/-- What it takes for a path to lead to a location. -/
theorem resolve_eq_ok {cwd m : Location} {path : OsText} :
    fs.resolve cwd path = .ok m ↔
      path.hasNul = false ∧ path.isEmpty = false ∧
        path.bytes.length ≤ maxPathLength ∧
          fs.follow (origin cwd path) (Path.parts path) = .ok m := by
  unfold resolve
  cases hnul : path.hasNul with
  | true => simp only [if_true, reduceCtorEq, false_and]
  | false =>
      rw [if_neg Bool.false_ne_true]
      cases hempty : path.isEmpty with
      | true => simp only [if_true, reduceCtorEq, false_and, and_false]
      | false =>
          rw [if_neg Bool.false_ne_true]
          by_cases hlong : path.bytes.length > maxPathLength
          · simp only [if_pos hlong, reduceCtorEq, Nat.not_le.2 hlong, false_and, and_false]
          · simp only [if_neg hlong, Nat.not_lt.1 hlong, true_and]

/-- **A path leads to one place**, whatever the files are. -/
theorem resolve_unique {cwd m m' : Location} {path : OsText} (h : fs.resolve cwd path = .ok m)
    (h' : fs'.resolve cwd path = .ok m') : m = m' := by
  obtain ⟨-, -, -, hm⟩ := resolve_eq_ok.1 h
  obtain ⟨-, -, -, hm'⟩ := resolve_eq_ok.1 h'
  rw [follow_eq_foldl hm, follow_eq_foldl hm']

/-- **A path that leads somewhere goes on leading there** where all directories are kept. -/
theorem resolve_mono (hk : KeepsDirectories fs fs') {cwd m : Location} {path : OsText}
    (h : fs.resolve cwd path = .ok m) : fs'.resolve cwd path = .ok m := by
  obtain ⟨hnul, hempty, hlong, hm⟩ := resolve_eq_ok.1 h
  exact resolve_eq_ok.2 ⟨hnul, hempty, hlong, follow_mono hk hm⟩

theorem find_eq_ok {cwd l : Location} {path : OsText} {e : Entry} :
    fs.find cwd path = .ok (l, e) ↔ fs.resolve cwd path = .ok l ∧ fs.get? l = some e := by
  unfold find
  cases hres : fs.resolve cwd path with
  | error err => simp [bind, Except.bind]
  | ok m =>
      simp only [bind, Except.bind, Except.ok.injEq]
      constructor
      · intro h
        split at h
        next e' he =>
          simp only [Except.ok.injEq, Prod.mk.injEq] at h
          obtain ⟨rfl, rfl⟩ := h
          exact ⟨rfl, he⟩
        next => cases h
      · rintro ⟨rfl, he⟩
        simp [he]

/-- A path to a file is free of the byte that ends texts. -/
theorem not_hasNul_of_find {cwd : Location} {path : OsText} {r : Location × Entry}
    (h : fs.find cwd path = .ok r) : path.hasNul = false :=
  (resolve_eq_ok.1 (find_eq_ok.1 h).1).1

theorem isFile_iff {cwd : Location} {path : OsText} :
    fs.isFile cwd path = true ↔
      ∃ l content mode, fs.find cwd path = .ok (l, .file content mode) := by
  unfold isFile
  split
  next l content mode h => simp [h]
  next h =>
    simp only [Bool.false_eq_true, false_iff, not_exists]
    exact fun l content mode => h l content mode

/-! ## Entries that stay -/

/-- Everything that was there is there still. -/
def KeepsEntries (fs fs' : FileSystem) : Prop :=
  ∀ l e, fs.get? l = some e → fs'.get? l = some e

theorem KeepsEntries.refl (fs : FileSystem) : KeepsEntries fs fs := fun _ _ h => h

theorem KeepsEntries.keepsDirectories (h : KeepsEntries fs fs') : KeepsDirectories fs fs' :=
  fun l hl => h l .directory hl

/-- What a path leads to goes on being what it leads to. -/
theorem KeepsEntries.find (h : KeepsEntries fs fs') {cwd : Location} {path : OsText}
    {r : Location × Entry} (hr : fs.find cwd path = .ok r) : fs'.find cwd path = .ok r := by
  obtain ⟨hres, hget⟩ := find_eq_ok.1 hr
  exact find_eq_ok.2 ⟨resolve_mono h.keepsDirectories hres, h _ _ hget⟩

/-! ## Entries and files -/

/-- A new entry where nothing was leaves the directories in place. -/
theorem keepsDirectories_put {l : Location} {e : Entry} (h : fs.get? l ≠ some .directory) :
    KeepsDirectories fs (fs.put l e) := by
  intro m hm
  have hne : m ≠ l := by
    rintro rfl
    exact h hm
  rwa [get?_put_ne fs e hne]

/-- So does taking away what is no directory. -/
theorem keepsDirectories_erase {l : Location} (h : fs.get? l ≠ some .directory) :
    KeepsDirectories fs (fs.erase l) := by
  intro m hm
  have hne : m ≠ l := by
    rintro rfl
    exact h hm
  rwa [get?_erase_ne fs hne]

/-- The file at a location, if there is one. -/
def fileAt? (fs : FileSystem) (l : Location) : Option (Text.Bytes × Mode) :=
  match fs.get? l with
  | some (.file content mode) => some (content, mode)
  | _ => none

theorem fileAt?_congr {l : Location} (h : fs'.get? l = fs.get? l) :
    fs'.fileAt? l = fs.fileAt? l := by
  unfold fileAt?
  rw [h]

theorem fileAt?_eq_none {l : Location} (h : fs.get? l = none) : fs.fileAt? l = none := by
  unfold fileAt?
  rw [h]

theorem fileAt?_eq_some {l : Location} {content : Text.Bytes} {mode : Mode} :
    fs.fileAt? l = some (content, mode) ↔ fs.get? l = some (.file content mode) := by
  unfold fileAt?
  split
  next h => simp [h]
  next h => simpa using h content mode

/-- Two file systems hold the same files. -/
def SameFiles (fs fs' : FileSystem) : Prop := ∀ l, fs'.fileAt? l = fs.fileAt? l

theorem SameFiles.refl (fs : FileSystem) : SameFiles fs fs := fun _ => rfl

theorem SameFiles.trans (h : SameFiles fs fs') (h' : SameFiles fs' fs'') : SameFiles fs fs'' :=
  fun l => (h' l).trans (h l)

/-- Taking away the file at a location. -/
theorem removeFile_eq_ok {cwd l : Location} {path : OsText} {content : Text.Bytes} {mode : Mode}
    (h : fs.find cwd path = .ok (l, .file content mode)) :
    fs.removeFile cwd path = .ok (fs.erase l) := by
  unfold removeFile
  rw [h]
  rfl

theorem readFile_eq_ok {cwd l : Location} {path : OsText} {content : Text.Bytes} {mode : Mode}
    (h : fs.find cwd path = .ok (l, .file content mode)) : fs.readFile cwd path = .ok content := by
  unfold readFile
  rw [h]
  rfl

/-- **What removing by a path does**: it takes away what the path leads to, which is no
directory. -/
theorem erase_of_removeFile {cwd : Location} {path : OsText}
    (h : fs.removeFile cwd path = .ok fs') :
    ∃ l, fs.resolve cwd path = .ok l ∧ fs.get? l ≠ some .directory ∧ fs' = fs.erase l := by
  unfold removeFile at h
  cases hfind : fs.find cwd path with
  | error e =>
      rw [hfind] at h
      cases h
  | ok r =>
      obtain ⟨l, e⟩ := r
      obtain ⟨hres, hget⟩ := find_eq_ok.1 hfind
      refine ⟨l, hres, ?_⟩
      rw [hfind] at h
      cases e with
      | directory => cases h
      | file content mode =>
          cases h
          exact ⟨by rw [hget]; simp, rfl⟩
      | sink =>
          cases h
          exact ⟨by rw [hget]; simp, rfl⟩

/-- **What making a file exclusively does**: the path led to nothing and now leads to an empty
file. -/
theorem createNew_eq_ok {cwd l : Location} {path : OsText} :
    fs.createNew cwd path = .ok (l, fs') ↔
      fs.resolve cwd path = .ok l ∧ fs.get? l = none ∧ fs' = fs.put l (.file [] .plain) := by
  unfold createNew
  cases hres : fs.resolve cwd path with
  | error e => simp [bind, Except.bind]
  | ok m =>
      simp only [bind, Except.bind, Except.ok.injEq]
      constructor
      · intro h
        split at h
        next => cases h
        next hnone =>
          simp only [Except.ok.injEq, Prod.mk.injEq] at h
          obtain ⟨rfl, rfl⟩ := h
          exact ⟨rfl, hnone, rfl⟩
      · rintro ⟨rfl, hnone, rfl⟩
        simp [hnone]

/-! ## Making directories

Directories are made one by one, and some may be made before a failure. Whatever happens, nothing
that was there is changed. -/

/-- The only change is that directories were made where nothing was. -/
def OnlyAddsDirectories (fs fs' : FileSystem) : Prop :=
  ∀ l, fs'.get? l = fs.get? l ∨ (fs.get? l = none ∧ fs'.get? l = some .directory)

namespace OnlyAddsDirectories

theorem refl (fs : FileSystem) : OnlyAddsDirectories fs fs := fun _ => .inl rfl

/-- What was there is there still. -/
theorem get?_eq_some (h : OnlyAddsDirectories fs fs') {l : Location} {e : Entry}
    (hl : fs.get? l = some e) : fs'.get? l = some e := by
  rcases h l with heq | ⟨hnone, -⟩
  · rw [heq, hl]
  · rw [hl] at hnone
    cases hnone

/-- Where nothing is, nothing was. -/
theorem get?_eq_none (h : OnlyAddsDirectories fs fs') {l : Location} (hl : fs'.get? l = none) :
    fs.get? l = none := by
  rcases h l with heq | ⟨hnone, -⟩
  · rw [← heq, hl]
  · exact hnone

theorem trans (h : OnlyAddsDirectories fs fs') (h' : OnlyAddsDirectories fs' fs'') :
    OnlyAddsDirectories fs fs'' := by
  intro l
  rcases h' l with heq | ⟨hnone, hdir⟩
  · rw [heq]
    exact h l
  · exact .inr ⟨h.get?_eq_none hnone, hdir⟩

theorem keepsDirectories (h : OnlyAddsDirectories fs fs') : KeepsDirectories fs fs' :=
  fun _ hl => h.get?_eq_some hl

theorem sameFiles (h : OnlyAddsDirectories fs fs') : SameFiles fs fs' := by
  intro l
  rcases h l with heq | ⟨hnone, hdir⟩
  · exact fileAt?_congr heq
  · unfold fileAt?
    rw [hnone, hdir]

end OnlyAddsDirectories

theorem onlyAddsDirectories_put {l : Location} (h : fs.get? l = none) :
    OnlyAddsDirectories fs (fs.put l .directory) := by
  intro m
  by_cases hm : m = l
  · subst hm
    have hne : m ≠ [] := ne_nil_of_get? (ne_directory_of_none h)
    exact .inr ⟨h, get?_put_self fs _ hne⟩
  · exact .inl (get?_put_ne fs _ hm)

theorem onlyAddsDirectories_makeDirectory {l : Location} {names : List OsText}
    (h : fs.makeDirectory l names = .ok fs') : OnlyAddsDirectories fs fs' := by
  unfold makeDirectory at h
  cases habove : fs.follow l names.dropLast with
  | error e =>
      rw [habove] at h
      cases h
  | ok above =>
      simp only [habove, bind, Except.bind] at h
      split at h
      · cases h
      · -- the directory above is there, so that the name itself can be looked at
        cases hown : fs.follow l names with
        | error e =>
            rw [hown] at h
            cases h
        | ok own =>
            simp only [hown] at h
            split at h
            · cases h
            · next hfree =>
              cases h
              apply onlyAddsDirectories_put
              simpa using hfree
      · cases h

theorem onlyAddsDirectories_makeDirectories (l : Location) (names : List OsText) :
    OnlyAddsDirectories fs (fs.makeDirectories l names).2 := by
  induction names with
  | nil => exact .refl fs
  | cons name above ih =>
      rw [makeDirectories]
      split
      next hmade => exact onlyAddsDirectories_makeDirectory hmade
      next e _ =>
        split
        · -- a directory above is missing: it is made first, then this one is tried again
          split
          next fs₁ habove =>
            rw [habove] at ih
            split
            next hmade => exact ih.trans (onlyAddsDirectories_makeDirectory hmade)
            next => exact ih
          next => exact ih
        · exact .refl fs

/-- **Making a directory and those above it changes nothing that was there**, also when it fails
on the way. -/
theorem onlyAddsDirectories_createDirectories (fs : FileSystem) (cwd : Location) (path : OsText) :
    OnlyAddsDirectories fs (fs.createDirectories cwd path).2 := by
  unfold createDirectories
  split
  · exact .refl fs
  · split
    · exact .refl fs
    · exact onlyAddsDirectories_makeDirectories _ _

end FileSystem

end UnitReview.Host
