import UnitReview.Host.FileSystem
import UnitReview.Shell.Syntax

/-!
# Patterns

A pattern stands for all texts that fit it: a star for any text, a question mark for any
character, a set in brackets for one of its characters. What was in quotes stands for itself. An
unquoted pattern among the words of a command stands for the paths that fit it, if there are any.
-/

set_option autoImplicit false

namespace UnitReview.Shell

open Host

/-- A pattern: characters, and whether each was in quotes. -/
abbrev Pattern := List (Char × Bool)

namespace Pattern

/-- An element of a pattern. -/
inductive Element where
  | anyText
  | anyChar
  | exactly (c : Char)
  /-- One of the characters of the ranges, or of the others. -/
  | oneOf (negated : Bool) (ranges : List (Char × Char))
  deriving Repr, DecidableEq, Inhabited

/-- The characters of a pattern as text. -/
def text (p : Pattern) : Text := p.map (·.1)

/-- Whether a pattern stands for more than itself. -/
def isOpen (p : Pattern) : Bool := p.any fun c => !c.2 && ['*', '?', '['].contains c.1

/-- The ranges of a set. -/
def ranges : Text → List (Char × Char)
  | a :: '-' :: b :: rest => (a, b) :: ranges rest
  | c :: rest => (c, c) :: ranges rest
  | [] => []

/-- The set that a pattern starts with after the opening bracket, and what follows it. The first
character of a set never closes it. -/
def set? (p : Pattern) : Option (Element × Pattern) :=
  let negated := p.head?.any fun c => !c.2 && (c.1 == '!' || c.1 == '^')
  let body := if negated then p.drop 1 else p
  let inner := body.take 1 ++ (body.drop 1).takeWhile (· != (']', false))
  match body.drop inner.length with
  | _ :: rest => some (.oneOf negated (ranges (text inner)), rest)
  | [] => none

/-- The elements of a pattern. -/
def elementsFrom : Nat → Pattern → List Element
  | 0, _ => []
  | fuel + 1, p =>
      match p with
      | [] => []
      | ('*', false) :: rest => .anyText :: elementsFrom fuel rest
      | ('?', false) :: rest => .anyChar :: elementsFrom fuel rest
      | ('[', false) :: rest =>
          match set? rest with
          | some (e, rest) => e :: elementsFrom fuel rest
          | none => .exactly '[' :: elementsFrom fuel rest
      | (c, _) :: rest => .exactly c :: elementsFrom fuel rest

/-- The elements of a pattern. -/
def elements (p : Pattern) : List Element := elementsFrom (p.length + 1) p

/-- Whether a character fits an element that stands for one. -/
def Element.admits : Element → Char → Bool
  | .anyText, _ => false
  | .anyChar, _ => true
  | .exactly c, d => c == d
  | .oneOf negated ranges, d => ranges.any (fun r => r.1 ≤ d && d ≤ r.2) != negated

/-- Whether a text fits elements. -/
def fitsElements : List Element → Text → Bool
  | [], t => t.isEmpty
  | .anyText :: es, [] => fitsElements es []
  | .anyText :: es, c :: cs => fitsElements es (c :: cs) || fitsElements (.anyText :: es) cs
  | e :: es, c :: cs => e.admits c && fitsElements es cs
  | _ :: _, [] => false
termination_by es t => (es.length, t.length)

/-- Whether a text fits a pattern. -/
def fits (p : Pattern) (t : Text) : Bool := fitsElements p.elements t

/-! ## Parts of a text -/

/-- The shortest or longest of some numbers that has a property. -/
def extreme? (longest : Bool) (ns : List Nat) (holds : Nat → Bool) : Option Nat :=
  if longest then ns.reverse.find? holds else ns.find? holds

/-- A text without a start that fits a pattern. -/
def dropStart (p : Pattern) (longest : Bool) (t : Text) : Text :=
  match extreme? longest (List.range (t.length + 1)) (fun n => p.fits (t.take n)) with
  | some n => t.drop n
  | none => t

/-- A text without an end that fits a pattern. -/
def dropEnd (p : Pattern) (longest : Bool) (t : Text) : Text :=
  let kept (n : Nat) : Nat := t.length - n
  match extreme? longest (List.range (t.length + 1)) (fun n => p.fits (t.drop (kept n))) with
  | some n => t.take (kept n)
  | none => t

/-! ## Paths -/

/-- The parts of a pattern between slashes. -/
def parts (p : Pattern) : List Pattern :=
  p.foldr (fun c (acc : List Pattern) =>
    if c.1 == '/' then [] :: acc
    else
      match acc with
      | q :: qs => (c :: q) :: qs
      | [] => [[c]]) [[]]

/-- Names in a directory that fit a pattern. A name that starts with a point has to be meant. -/
def namesIn (fs : FileSystem) (cwd : Host.Location) (dir : Text) (p : Pattern) : List Text :=
  let place : String := if dir.isEmpty then "." else String.ofList dir
  let names := (fs.listDirectory cwd place).toOption
  let isMeant (n : Text) : Bool := n.head? != some '.' || p.head?.any (·.1 == '.')
  ((names.getD []).map (·.display.toList)).filter fun n => isMeant n && p.fits n

/-- Paths that start with a path and go on with names that fit patterns. -/
def pathsFrom (fs : FileSystem) (cwd : Host.Location) : List Pattern → Text → List Text
  | [], path => [path]
  | p :: rest, path =>
      let slash : Text := if rest.isEmpty then [] else ['/']
      let names := if p.isOpen then namesIn fs cwd path p else [p.text]
      names.flatMap fun n => pathsFrom fs cwd rest (path ++ n ++ slash)

/-- What a word that is a pattern stands for: the paths that fit it or, if there are none, the
word itself. -/
def paths (fs : FileSystem) (cwd : Host.Location) (p : Pattern) : List Text :=
  if p.isOpen then
    match (pathsFrom fs cwd p.parts []).filter (fun t => fs.pathExists cwd (String.ofList t)) with
    | [] => [p.text]
    | found => found
  else [p.text]

end Pattern

end UnitReview.Shell
