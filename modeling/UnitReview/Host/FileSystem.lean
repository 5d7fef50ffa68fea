import UnitReview.Host.Path
import UnitReview.Host.SystemError
import UnitReview.Text.Utf8

/-!
# Files and directories

A file system maps locations to entries. A location is the list of names from the root down; the
root itself is always a directory. Operations take paths as the user writes them and follow them
name by name: every name but the last has to be an existing directory, also where the next name
goes back up.
-/

set_option autoImplicit false

namespace UnitReview.Host

/-- The names on the way from the root. -/
abbrev Location := List OsText

/-- The path of a location from the root. -/
def Location.path (l : Location) : OsText :=
  ⟨Path.slash :: [Path.slash].intercalate (l.map OsText.bytes)⟩

/-- What the system does with a file that is to be run. -/
inductive Mode where
  /-- The file may not be run. -/
  | plain
  /-- The file may be run; its content says how. -/
  | executable
  /-- The file is a program that the host provides under a name. -/
  | provided (program : String)
  deriving Repr, DecidableEq, Inhabited

/-- What is found at a location. -/
inductive Entry where
  | directory
  | file (content : Text.Bytes) (mode : Mode)
  /-- A device that reads as empty and swallows what is written. -/
  | sink
  deriving Repr, DecidableEq, Inhabited

/-- Files and directories by their locations. -/
structure FileSystem where
  entries : List (Location × Entry)
  deriving Repr, DecidableEq, Inhabited

namespace FileSystem

/-! ## By location -/

/-- What is at a location. -/
def get? (fs : FileSystem) (l : Location) : Option Entry :=
  if l = [] then some .directory else (fs.entries.find? (fun e => e.1 == l)).map (·.2)

/-- Takes away what is at a location. -/
def erase (fs : FileSystem) (l : Location) : FileSystem :=
  ⟨fs.entries.filter (fun e => e.1 != l)⟩

/-- Puts an entry at a location, in place of what was there. -/
def put (fs : FileSystem) (l : Location) (e : Entry) : FileSystem :=
  ⟨(l, e) :: (fs.erase l).entries⟩

theorem get?_put_self (fs : FileSystem) {l : Location} (e : Entry) (h : l ≠ []) :
    (fs.put l e).get? l = some e := by
  simp [get?, put, h]

theorem get?_put_ne (fs : FileSystem) {l m : Location} (e : Entry) (h : m ≠ l) :
    (fs.put l e).get? m = fs.get? m := by
  unfold get? put erase
  split
  · rfl
  · have hl : (l == m) = false := by simpa using fun h' => h h'.symm
    simp only [List.find?_cons, hl, List.find?_filter]
    congr 2
    funext x
    by_cases hx : x.1 = m
    · simp [hx, h]
    · simp [hx]

theorem get?_erase_self (fs : FileSystem) {l : Location} (h : l ≠ []) :
    (fs.erase l).get? l = none := by
  simp [get?, erase, h]

theorem get?_erase_ne (fs : FileSystem) {l m : Location} (h : m ≠ l) :
    (fs.erase l).get? m = fs.get? m := by
  unfold get? erase
  split
  · rfl
  · simp only [List.find?_filter]
    congr 2
    funext x
    by_cases hx : x.1 = m
    · simp [hx, h]
    · simp [hx]

/-! ## By path -/

/-- The longest name of a file, in bytes. -/
def maxNameLength : Nat := 255

/-- The longest path that the system follows, in bytes. -/
def maxPathLength : Nat := 4095

/-- A name or a path is too long. -/
def tooLong : SystemError := .os 36

/-- A path holds the byte that ends texts for the system. -/
def holdsNul : SystemError := .other "file name contained an unexpected NUL byte"

/-- Follows names from a location; what the last name stands for need not exist. -/
def follow (fs : FileSystem) : Location → List OsText → Except SystemError Location
  | l, [] => .ok l
  | l, name :: rest =>
      match fs.get? l with
      | none => .error .notFound
      | some (.file _ _) | some .sink => .error .notDirectory
      | some .directory =>
          if name.bytes.length > maxNameLength then .error tooLong
          else if name = "" || name = "." then follow fs l rest
          else if name = ".." then follow fs l.dropLast rest
          else follow fs (l ++ [name]) rest

/-- Where a path starts: at the root or in the working directory. -/
def origin (cwd : Location) (path : OsText) : Location :=
  if Path.isAbsolute path then [] else cwd

/-- The location that a path leads to. -/
def resolve (fs : FileSystem) (cwd : Location) (path : OsText) : Except SystemError Location :=
  if path.hasNul then .error holdsNul
  else if path.isEmpty then .error .notFound
  else if path.bytes.length > maxPathLength then .error tooLong
  else fs.follow (origin cwd path) (Path.parts path)

/-- What a path leads to. -/
def find (fs : FileSystem) (cwd : Location) (path : OsText) :
    Except SystemError (Location × Entry) := do
  let l ← fs.resolve cwd path
  match fs.get? l with
  | some e => .ok (l, e)
  | none => .error .notFound

/-- Whether a path leads to anything. -/
def pathExists (fs : FileSystem) (cwd : Location) (path : OsText) : Bool :=
  (fs.find cwd path).toOption.isSome

/-- Whether a path leads to a file. -/
def isFile (fs : FileSystem) (cwd : Location) (path : OsText) : Bool :=
  match fs.find cwd path with
  | .ok (_, .file _ _) => true
  | _ => false

/-- The content of the file that a path leads to. -/
def readFile (fs : FileSystem) (cwd : Location) (path : OsText) :
    Except SystemError Text.Bytes := do
  match ← fs.find cwd path with
  | (_, .file content _) => .ok content
  | (_, .sink) => .ok []
  | (_, .directory) => .error .isDirectory

/-- The content of a text file. -/
def readText (fs : FileSystem) (cwd : Location) (path : OsText) : Except SystemError Text := do
  match Text.decode? (← fs.readFile cwd path) with
  | some t => .ok t
  | none => .error .invalidText

/-- The names in the directory that a path leads to, sorted. -/
def listDirectory (fs : FileSystem) (cwd : Location) (path : OsText) :
    Except SystemError (List OsText) := do
  match ← fs.find cwd path with
  | (l, .directory) =>
      let names := fs.entries.filterMap fun e =>
        if e.1.dropLast = l && e.1.length = l.length + 1 then e.1.getLast? else none
      .ok (names.mergeSort (fun a b => decide (a.bytes ≤ b.bytes)))
  | _ => .error .notDirectory

/-- Writes a file: one that is there keeps its mode, a new one gets the given one. -/
def writeFile (fs : FileSystem) (cwd : Location) (path : OsText) (content : Text.Bytes)
    (mode : Mode) : Except SystemError FileSystem := do
  let l ← fs.resolve cwd path
  match fs.get? l with
  | some .directory => .error .isDirectory
  | some .sink => .ok fs
  | some (.file _ m) => .ok (fs.put l (.file content m))
  | none => .ok (fs.put l (.file content mode))

/-- Makes an empty file where a path leads to nothing yet. -/
def createNew (fs : FileSystem) (cwd : Location) (path : OsText) :
    Except SystemError (Location × FileSystem) := do
  let l ← fs.resolve cwd path
  match fs.get? l with
  | some _ => .error .alreadyExists
  | none => .ok (l, fs.put l (.file [] .plain))

/-- Takes away the file that a path leads to. -/
def removeFile (fs : FileSystem) (cwd : Location) (path : OsText) :
    Except SystemError FileSystem := do
  match ← fs.find cwd path with
  | (_, .directory) => .error .isDirectory
  | (l, _) => .ok (fs.erase l)

/-- Whether names lead from a location to a directory. -/
def isDirectoryAt (fs : FileSystem) (l : Location) (names : List OsText) : Bool :=
  match fs.follow l names with
  | .ok m => fs.get? m == some .directory
  | .error _ => false

/-- Makes the directory that names lead to from a location, in a directory that is there. -/
def makeDirectory (fs : FileSystem) (l : Location) (names : List OsText) :
    Except SystemError FileSystem := do
  let above ← fs.follow l names.dropLast
  match fs.get? above with
  | none => .error .notFound
  | some .directory => do
      let own ← fs.follow l names
      if (fs.get? own).isSome then .error .alreadyExists else .ok (fs.put own .directory)
  | some _ => .error .notDirectory

/-- Makes the directory that names lead to, and those above it. The names come innermost first. A
directory above is looked at only if it is missing. -/
def makeDirectories (fs : FileSystem) (l : Location) :
    List OsText → Except SystemError Unit × FileSystem
  | [] => (.ok (), fs)
  | name :: above =>
      let names := (name :: above).reverse
      let settle (fs : FileSystem) (e : SystemError) : Except SystemError Unit × FileSystem :=
        (if fs.isDirectoryAt l names then .ok () else .error e, fs)
      match fs.makeDirectory l names with
      | .ok fs => (.ok (), fs)
      | .error e =>
          if e = .notFound then
            match makeDirectories fs l above with
            | (.ok (), fs) =>
                match fs.makeDirectory l names with
                | .ok fs => (.ok (), fs)
                | .error e => settle fs e
            | r => r
          else settle fs e

/-- Makes the directory that a path leads to, and those above it. Directories that were made
before a failure stay. -/
def createDirectories (fs : FileSystem) (cwd : Location) (path : OsText) :
    Except SystemError Unit × FileSystem :=
  if path.hasNul then (.error holdsNul, fs)
  else if path.bytes.length > maxPathLength then (.error tooLong, fs)
  else
    fs.makeDirectories (origin cwd path) ((Path.parts path).filter (fun n => !n.isEmpty)).reverse

end FileSystem

end UnitReview.Host
