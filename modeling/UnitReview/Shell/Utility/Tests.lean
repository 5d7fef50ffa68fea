import UnitReview.Shell.Utility.Basic

/-!
# Tests and variables

Tests compare texts, numbers and files. Other utilities change what the shell itself keeps.
-/

set_option autoImplicit false

namespace UnitReview.Shell

open Host

namespace Utility

/-! ## Tests -/

/-- A test on at most three words, which a mark of negation may precede. -/
def holdsSimple (s : Session) : List Text → Bool
  | [] => false
  | ['!'] :: rest => !holdsSimple s rest
  | [t] => !t.isEmpty
  | [['-', op], t] =>
      let path := pathOf t
      match op with
      | 'n' => !t.isEmpty
      | 'z' => t.isEmpty
      | 'e' => s.fs.pathExists s.cwd path
      | 'f' => s.fs.isFile s.cwd path
      | 'd' => match s.fs.find s.cwd path with
          | .ok (_, .directory) => true
          | _ => false
      | 'x' => (Process.check s.fs s.cwd path).toOption.isSome
      | 's' => match s.fs.readFile s.cwd path with
          | .ok bs => !bs.isEmpty
          | .error _ => false
      | 'r' | 'w' => s.fs.pathExists s.cwd path
      | _ => false
  | [a, op, b] =>
      let number (t : Text) : Int := (String.ofList t).toInt?.getD 0
      match String.ofList op with
      | "=" => a == b
      | "!=" => a != b
      | "-eq" => number a == number b
      | "-ne" => number a != number b
      | "-lt" => number a < number b
      | "-le" => number a ≤ number b
      | "-gt" => number a > number b
      | "-ge" => number a ≥ number b
      | _ => false
  | _ => false

/-- Splits words at a word. -/
def splitAtWord (mark : Text) (ws : List Text) : List (List Text) :=
  ws.foldr (fun w (acc : List (List Text)) =>
    if w == mark then [] :: acc
    else
      match acc with
      | l :: ls => (w :: l) :: ls
      | [] => [[w]]) [[]]

/-- A test: alternatives, each of which is a list of conditions. -/
def holds (s : Session) (ws : List Text) : Bool :=
  if ws.length ≤ 3 then holdsSimple s ws
  else
    (splitAtWord ['-', 'o'] ws).any fun alternative =>
      (splitAtWord ['-', 'a'] alternative).all (holdsSimple s)

/-- A test. -/
def test : Utility := fun args => do pure (statusOf (holds (← get) args))

/-- A test in brackets. -/
def bracketTest : Utility := fun args => do
  if args.getLast? == some [']'] then pure (statusOf (holds (← get) args.dropLast))
  else do
    Work.report "[: missing ]".toList
    pure 2

/-! ## Variables -/

/-- Splits a text at blanks into so many words; the last one takes the rest. -/
def splitWords : Nat → Text → List Text
  | 0, _ => []
  | 1, t =>
      let isSpace (c : Char) : Bool := c == ' ' || c == '\t'
      [(((t.dropWhile isSpace).reverse).dropWhile isSpace).reverse]
  | n + 2, t =>
      let isSpace (c : Char) : Bool := c == ' ' || c == '\t'
      let t := t.dropWhile isSpace
      t.takeWhile (!isSpace ·) :: splitWords (n + 1) (t.dropWhile (!isSpace ·))

/-- Reads a line into variables. -/
def read : Utility := fun args => do
  let names := (options args).2
  let (line, ended) ← Work.takeLine
  let values := splitWords names.length line
  modify fun s => (names.zip values).foldl (fun s p => s.assign p.1 p.2) s
  pure (statusOf ended)

/-- Drops parameters from the front. -/
def shift : Utility := fun args => do
  let n := (args.head?.bind fun t => (String.ofList t).toNat?).getD 1
  if n > (← get).args.length then
    Work.report "shift: can't shift that many".toList
    modify fun s => { s with aborted := true }
    pure 2
  else
    modify fun s => { s with args := s.args.drop n }
    pure 0

/-- The name and the value of an assignment. -/
def assignment? (t : Text) : Option (Text × Text) :=
  let name := t.takeWhile (· != '=')
  match t.drop name.length with
  | _ :: v => some (name, v)
  | [] => none

/-- Sets variables. -/
def assignAll : Utility := fun args => do
  modify fun s => (args.filterMap assignment?).foldl (fun s a => s.assign a.1 a.2) s
  pure 0

/-- Tells variables to other programs, and sets them where values are given. -/
def export_ : Utility := fun args => do
  modify fun s => (args.map fun t => t.takeWhile (· != '=')).foldl Session.tell s
  assignAll args

/-- Takes variables away. -/
def unset : Utility := fun args => do
  modify fun s => (options args).2.foldl Session.unset s
  pure 0

/-- Sets the way of working, or the parameters. -/
def set_ : Utility := fun args => do
  let switch (on : Bool) (os : Text) (s : Session) : Session :=
    { s with
      strict := if List.contains os 'e' then on else s.strict
      needsValues := if List.contains os 'u' then on else s.needsValues }
  match args with
  | ['-', '-'] :: rest => modify fun s => { s with args := rest }
  | ('-' :: os) :: _ => modify (switch true os)
  | ('+' :: os) :: _ => modify (switch false os)
  | [] => pure ()
  | rest => modify fun s => { s with args := rest }
  pure 0

end Utility

end UnitReview.Shell
