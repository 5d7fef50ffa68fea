import UnitReview.Failure
import UnitReview.Host.Process

/-!
# Staged inputs

The analyzer is given the path of a file. A source text is first written to a file of its own in
the staging directory, under a name that is not in use, and the file is removed afterwards. A
file of the caller is used as it is and stays.
-/

set_option autoImplicit false

namespace UnitReview

open Host

/-- An input as the analyzer gets it. -/
inductive StagedInput where
  /-- A file that was made for the request. -/
  | ephemeral (path : OsText)
  /-- A file of the caller. -/
  | persistent (path : OsText)
  deriving Repr, DecidableEq, Inhabited

namespace StagedInput

/-- The path of the input. -/
def path : StagedInput → OsText
  | .ephemeral p => p
  | .persistent p => p

/-- Whether the input was made for the request. -/
def isEphemeral : StagedInput → Bool
  | .ephemeral _ => true
  | .persistent _ => false

/-! ## Names -/

/-- What names of staged files start with. -/
def nameStart : String := "sharpcheck-"

/-- What names of staged files end with. -/
def nameEnd : String := ".cs"

/-- The name of a staged file, by what was drawn for it. -/
def nameOf (d : Draw) : String := nameStart ++ d.text ++ nameEnd

/-- Whether a name is one of a staged file. -/
def isStagedName (name : OsText) : Bool :=
  (OsText.ofString nameStart).bytes.isPrefixOf name.bytes &&
    (OsText.ofString nameEnd).bytes.isSuffixOf name.bytes

/-! ## Steps -/

/-- How many names are tried before the directory counts as full. -/
def maxDraws : Nat := 65536

/-- An error, and the path at which it came up. -/
def errorAt (path : OsText) (e : SystemError) : SystemError :=
  .other (e.message ++ " at path " ++ String.ofList path.quoted)

/-- No name is left in a directory. -/
def tooManyFiles : SystemError := .other "too many temporary files exist"

/-- The path in a directory for a draw. -/
def drawnPath (storage : Storage) (base : OsText) (n : Nat) : OsText :=
  Path.join base (nameOf (storage.draw n))

/-- Makes an empty file in a directory, at the first of the paths, from the given one on, that is
not in use: where the file is and its path. -/
def createIn (paths : Nat → OsText) (fs : FileSystem) (cwd : Host.Location) (base : OsText) :
    Nat → Nat → Except SystemError (Host.Location × OsText) × FileSystem
  | 0, _ => (.error (errorAt base tooManyFiles), fs)
  | fuel + 1, n =>
      match fs.createNew cwd (paths n) with
      | .ok (l, fs) => (.ok (l, paths n), fs)
      | .error e =>
          if e = .alreadyExists then createIn paths fs cwd base fuel (n + 1)
          else (.error (errorAt (paths n) e), fs)

/-- The path of a directory from the root. -/
def fullPath (cwd : Host.Location) (dir : OsText) : OsText :=
  Path.join (Host.Location.path cwd) dir

/-- Makes the staging directory and an empty file in it: where the file is and its path, which
starts at the root. -/
def create (storage : Storage) (fs : FileSystem) (cwd : Host.Location) (dir : OsText) :
    Except SystemError (Host.Location × OsText) × FileSystem :=
  match fs.createDirectories cwd dir with
  | (.error e, fs) => (.error e, fs)
  | (.ok (), fs) =>
      let base := fullPath cwd dir
      createIn (drawnPath storage base) fs cwd base maxDraws 0

/-- What the storage says to bytes that are to be kept: they are written, then flushed. -/
def keep (storage : Storage) (bytes : Text.Bytes) : Except SystemError Unit := do
  storage.accept bytes
  storage.flush bytes

/-- Writes the source text to its file. The file is removed again if the storage does not keep
the text. -/
def write (storage : Storage) (fs : FileSystem) (l : Host.Location) (path : OsText)
    (source : String) : Except SystemError Unit × FileSystem :=
  match keep storage (Text.encode source.toList) with
  | .ok () => (.ok (), fs.put l (.file (Text.encode source.toList) .plain))
  | .error e => (.error (errorAt path e), fs.erase l)

/-- Stages a source text. -/
def ofSource (storage : Storage) (fs : FileSystem) (cwd : Host.Location) (dir : OsText)
    (source : String) : Except Failure StagedInput × FileSystem :=
  match create storage fs cwd dir with
  | (.error e, fs) => (.error (.staging dir e), fs)
  | (.ok (l, path), fs) =>
      match write storage fs l path source with
      | (.ok (), fs) => (.ok (.ephemeral path), fs)
      | (.error e, fs) => (.error (.staging dir e), fs)

/-- Removes the file that was made for a request, if it is still there. -/
def release (s : StagedInput) (fs : FileSystem) (cwd : Host.Location) : FileSystem :=
  match s with
  | .persistent _ => fs
  | .ephemeral path =>
      match fs.removeFile cwd path with
      | .ok fs => fs
      | .error _ => fs

end StagedInput

end UnitReview
