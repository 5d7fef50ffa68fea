import UnitReview.Shell.Utility.Basic

/-!
# Utilities for files

Files and directories are read, made, copied, listed and removed. What cannot be done is told,
and the other operands are still dealt with.
-/

set_option autoImplicit false

namespace UnitReview.Shell

open Host

namespace Utility

/-! ## Files -/

/-- Writes files one after the other. -/
def cat : Utility := fun args => do
  let (bs, ok) ← contents "cat" (options args).2
  Work.putBytes bs
  pure (statusOf ok)

/-- Takes away what is at a path and, with `deep`, everything below. -/
def removeTree (deep : Bool) (fs : FileSystem) (cwd : Host.Location) (path : OsText) :
    Except SystemError FileSystem := do
  match ← fs.find cwd path with
  | (l, .directory) =>
      if deep then .ok ⟨fs.entries.filter (fun e => !l.isPrefixOf e.1)⟩ else .error .isDirectory
  | (l, _) => .ok (fs.erase l)

/-- Removes files. -/
def rm : Utility := fun args => do
  let (os, files) := options args
  eachFile files (removeTree (hasOption os 'r' || hasOption os 'R')) (cannot "rm: cannot remove")
    (hasOption os 'f')

/-- Makes files that may be run, or files that may not. -/
def setMode (mode : Mode) (fs : FileSystem) (cwd : Host.Location) (path : OsText) :
    Except SystemError FileSystem := do
  match ← fs.find cwd path with
  | (l, .file content (.provided p)) =>
      .ok (if mode == .plain then fs.put l (.file content .plain)
        else fs.put l (.file content (.provided p)))
  | (l, .file content _) => .ok (fs.put l (.file content mode))
  | _ => .ok fs

/-- Whether a mode lets a file be run. -/
def allowsRunning (mode : Text) : Bool :=
  if mode.all Char.isDigit then mode.any (fun c => (c.toNat - '0'.toNat) % 2 == 1)
  else (List.contains mode '+' || List.contains mode '=') && List.contains mode 'x'

/-- Whether a mode says anything about running. -/
def concernsRunning (mode : Text) : Bool :=
  mode.all Char.isDigit || List.contains mode 'x' || List.contains mode '='

/-- Changes modes. -/
def chmod : Utility := fun args => do
  match args with
  | mode :: files =>
      if concernsRunning mode then
        eachFile files (setMode (if allowsRunning mode then .executable else .plain))
          (cannot "chmod: cannot access") false
      else eachFile files (fun fs _ _ => .ok fs) (cannot "chmod: cannot access") false
  | [] => pure 1

/-- Makes directories. -/
def mkdir : Utility := fun args => do
  let (os, dirs) := options args
  let make (fs : FileSystem) (cwd : Host.Location) (path : OsText) :
      Except SystemError FileSystem :=
    if hasOption os 'p' then
      match fs.createDirectories cwd path with
      | (.ok (), fs) => .ok fs
      | (.error e, _) => .error e
    else
      fs.makeDirectory (FileSystem.origin cwd path)
        ((Path.parts path).filter (fun n => !n.isEmpty))
  eachFile dirs make (cannot "mkdir: cannot create directory") false

/-- Makes files that are not there. -/
def touch : Utility := fun args =>
  let make (fs : FileSystem) (cwd : Host.Location) (path : OsText) :
      Except SystemError FileSystem :=
    if fs.pathExists cwd path then .ok fs else fs.writeFile cwd path [] .plain
  eachFile (options args).2 make (cannot "touch: cannot touch") false

/-- The path of a copy: inside the target if that is a directory. -/
def copyPath (fs : FileSystem) (cwd : Host.Location) (source : OsText) (target : Text) : OsText :=
  match fs.find cwd (pathOf target) with
  | .ok (_, .directory) => Path.join (pathOf target) (Path.fileName source)
  | _ => pathOf target

/-- Copies a file; with `move`, the old one goes. -/
def copyFile (move : Bool) (target : Text) (fs : FileSystem) (cwd : Host.Location)
    (source : OsText) : Except SystemError FileSystem := do
  match ← fs.find cwd source with
  | (l, .file content mode) => do
      let path := copyPath fs cwd source target
      let fs := if move then fs.erase l else fs
      let m ← fs.resolve cwd path
      .ok (fs.put m (.file content mode))
  | _ => .error .isDirectory

/-- Copies or moves files to the last operand. -/
def copy (name : String) (move : Bool) : Utility := fun args => do
  let ws := (options args).2
  match ws.getLast?, ws.dropLast with
  | some target, source :: more =>
      eachFile (source :: more) (copyFile move target) (cannot (name ++ ": cannot stat")) false
  | _, _ => pure 1

/-- Removes empty directories. -/
def rmdir : Utility := fun args =>
  let remove (fs : FileSystem) (cwd : Host.Location) (path : OsText) :
      Except SystemError FileSystem := do
    match ← fs.find cwd path with
    | (l, .directory) =>
        if fs.entries.any (fun e => l.isPrefixOf e.1 && e.1 != l) then .error .notEmpty
        else .ok (fs.erase l)
    | _ => .error .notDirectory
  eachFile (options args).2 remove (cannot "rmdir: failed to remove") false

/-- Lists directories. If there are several, each has its name above its list. -/
def ls : Utility := fun args => do
  let (os, operands) := options args
  let s ← get
  let isThere (t : Text) : Bool := s.fs.pathExists s.cwd (pathOf t)
  let targets := if operands.isEmpty then [['.']] else operands
  (targets.filter (!isThere ·)).forM fun t =>
    Work.complain (cannot "ls: cannot access" t ++ ": No such file or directory".toList)
  let listed (t : Text) : Option (List Text) :=
    (s.fs.listDirectory s.cwd (pathOf t)).toOption.map (·.map (·.display.toList))
  let files := targets.filter fun t => isThere t && (listed t).isNone
  files.forM Work.putLine
  let all := hasOption os 'a' || hasOption os 'A'
  let sections := targets.filterMap fun t => (listed t).map fun names =>
    let shown := (if hasOption os 'a' then [['.'], ['.', '.']] else []) ++
      names.filter fun n => all || n.head? != some '.'
    (if targets.length > 1 then t ++ ":\n".toList else []) ++ shown.flatMap (· ++ ['\n'])
  if !files.isEmpty && !sections.isEmpty then Work.put ['\n']
  Work.put (['\n'].intercalate sections)
  pure (if targets.all isThere then 0 else 2)

/-! ## Paths -/

/-- A path without slashes at its end. -/
def withoutSlashes (t : Text) : Text :=
  let u := (t.reverse.dropWhile (· == '/')).reverse
  if u.isEmpty && !t.isEmpty then ['/'] else u

/-- The last part of a path, without an ending if one is given. -/
def basename : Utility := fun args => do
  match args with
  | [] => pure 1
  | t :: more => do
      let u := withoutSlashes t
      let name := if u == ['/'] then u else (u.reverse.takeWhile (· != '/')).reverse
      let ending := more.head?.getD []
      let cut := ending.isSuffixOf name && ending.length < name.length
      Work.putLine (if cut then name.take (name.length - ending.length) else name)
      pure 0

/-- The path without its last part. -/
def dirname : Utility := fun args => do
  match args with
  | [] => pure 1
  | t :: _ => do
      let u := withoutSlashes t
      let above := u.reverse.dropWhile (· != '/')
      let dir := if above.isEmpty then ['.'] else withoutSlashes above.reverse
      Work.putLine dir
      pure 0

/-- The working directory. -/
def pwd : Utility := fun _ => do
  Work.putLine (Host.Location.path (← get).cwd).display.toList
  pure 0

/-- Changes the working directory; without an operand, to the user's own. -/
def cd : Utility := fun args => do
  let s ← get
  match args.head? <|> s.assigned? "HOME".toList with
  | none => pure 0
  | some t =>
      match s.fs.find s.cwd (pathOf t) with
      | .ok (l, .directory) => do
          let s := s.assign "OLDPWD".toList ((s.assigned? Session.cwdName).getD [])
          set ({ s with cwd := l }.assign Session.cwdName (Host.Location.path l).display.toList)
          pure 0
      | _ => do
          Work.report ("cd: can't cd to ".toList ++ t)
          pure 2

end Utility

end UnitReview.Shell
