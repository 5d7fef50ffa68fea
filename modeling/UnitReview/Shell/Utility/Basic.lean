import UnitReview.Shell.Session

/-!
# Utilities

A utility is a command that a shell finds on every machine. It gets its arguments as texts and
gives back a status. Here are the parts that utilities have in common.
-/

set_option autoImplicit false

namespace UnitReview.Shell

open Host

/-- A utility: from its arguments to its status. -/
abbrev Utility := List Text → Work Nat

namespace Utility

/-! ## Options -/

/-- Splits options from operands; `--` ends the options. -/
def options : List Text → List Text × List Text
  | ['-', '-'] :: rest => ([], rest)
  | ('-' :: c :: o) :: rest =>
      let (os, ws) := options rest
      (('-' :: c :: o) :: os, ws)
  | ws => ([], ws)

/-- Whether a letter is among options. -/
def hasOption (os : List Text) (c : Char) : Bool := os.any (fun o => List.contains o c)

/-- The value of an option that is written with it or after it. -/
def optionValue (c : Char) : List Text → Option Text
  | ('-' :: d :: v) :: rest =>
      if d == c then (if v.isEmpty then rest.head? else some v) else optionValue c rest
  | _ :: rest => optionValue c rest
  | [] => none

/-- Operands, where each of the given options has a value; with `skip`, the first word is one. -/
def operandsFrom (valued : List Char) : Bool → List Text → List Text
  | _, [] => []
  | true, _ :: rest => operandsFrom valued false rest
  | false, w :: rest =>
      match w with
      | ['-', c] => operandsFrom valued (valued.contains c) rest
      | '-' :: _ :: _ => operandsFrom valued false rest
      | _ => w :: operandsFrom valued false rest

/-- Operands, where each of the given options has a value. -/
def operands (valued : List Char) (args : List Text) : List Text := operandsFrom valued false args

/-! ## Files -/

/-- A path as the file system takes it. -/
def pathOf (t : Text) : OsText := String.ofList t

/-- The words for a failure on a file. -/
def told (e : SystemError) : Text :=
  match e with
  | .os n => (systemErrorText n).toList
  | .other t => t.toList

/-- The bytes of a file, or of the input for `-`; a failure is told. -/
def contentOf (utility : String) (t : Text) : Work (Option Text.Bytes) := do
  if t == ['-'] then pure (some (← Work.takeInput))
  else
    let s ← get
    match s.fs.readFile s.cwd (pathOf t) with
    | .ok bs => pure (some bs)
    | .error e => do
        Work.complain (utility.toList ++ ": ".toList ++ t ++ ": ".toList ++ told e)
        pure none

/-- The bytes of several files; without any, of the input. The result says whether all could be
read. -/
def contents (utility : String) (files : List Text) : Work (Text.Bytes × Bool) := do
  let parts ← (if files.isEmpty then [['-']] else files).mapM (contentOf utility)
  pure ((parts.filterMap id).flatten, parts.all Option.isSome)

/-- The status of success or failure. -/
def statusOf (ok : Bool) : Nat := if ok then 0 else 1

/-- Applies an operation to each operand and tells what fails. -/
def eachFile (files : List Text) (operation : FileSystem → Host.Location → OsText →
    Except SystemError FileSystem) (complaint : Text → Text) (quiet : Bool) : Work Nat := do
  let oks ← files.mapM fun t => do
    let s ← get
    match operation s.fs s.cwd (pathOf t) with
    | .ok fs => do
        set { s with fs := fs }
        pure true
    | .error e => do
        if !quiet then Work.complain (complaint t ++ ": ".toList ++ told e)
        pure quiet
  pure (statusOf (oks.all id))

/-- A name in quotes, after what could not be done. -/
def cannot (what : String) (t : Text) : Text := what.toList ++ " '".toList ++ t ++ ['\'']

end Utility

end UnitReview.Shell
