import UnitReview.Shell.Arithmetic
import UnitReview.Shell.Pattern
import UnitReview.Shell.Reader
import UnitReview.Shell.Session

/-!
# What words stand for

A word is expanded piece by piece. What an unquoted parameter or script gives is divided into
fields; a field that is a pattern stands for the paths that fit it. A word that cannot be expanded
ends the script.
-/

set_option autoImplicit false

namespace UnitReview.Shell

open Host

namespace Expansion

/-! ## Fields -/

/-- Fields of a command while its words are expanded: finished ones, last first, and the one that
is being put together. -/
structure Fields where
  finished : List Pattern
  current : Option Pattern
  deriving Repr, Inhabited

namespace Fields

/-- No fields. -/
def empty : Fields := ⟨[], none⟩

/-- Adds text to the current field. -/
def add (f : Fields) (t : Text) (quoted : Bool) : Fields :=
  { f with current := some (f.current.getD [] ++ t.map (·, quoted)) }

/-- Ends the current field. -/
def cut (f : Fields) : Fields :=
  match f.current with
  | some t => ⟨t :: f.finished, none⟩
  | none => f

/-- Adds text that is divided at separators. Blanks only end fields; another separator also
stands after an empty one. -/
def addDivided (f : Fields) (separators t : Text) : Fields :=
  t.foldl (fun f c =>
    if !List.contains separators c then f.add [c] false
    else if [' ', '\t', '\n'].contains c then f.cut
    else (f.add [] false).cut) f

/-- Adds texts that are fields of their own. -/
def addEach (f : Fields) : List Text → Fields
  | [] => f
  | [t] => f.add t true
  | t :: ts => ((f.add t true).cut).addEach ts

/-- All fields in order. -/
def toList (f : Fields) : List Pattern := f.cut.finished.reverse

end Fields

/-! ## Pieces -/

/-- What carries out a script to catch its output. -/
abbrev Catch := Text → Work Text

/-- Tells why a word cannot be expanded; nothing stands for it. -/
def abort (reason : Text) : Work Text := do
  Work.report reason
  modify fun s => { s with aborted := true }
  pure []

/-- The number that the value of a variable spells. -/
def numberOf (s : Session) (name : Text) : Int :=
  ((s.assigned? name).bind Arithmetic.number?).getD 0

/-- The value of an expression as text. -/
def arithmeticText (t : Text) : Work Text := do
  match Arithmetic.eval (numberOf (← get)) t with
  | .ok n => pure (toString n).toList
  | .error f =>
      abort ("arithmetic expression: ".toList ++ f.message.toList ++ ": \"".toList ++ t ++ ['"'])

/-- The value of a parameter; one that has to be set is missed. -/
def plainValue (name : Text) : Work Text := do
  let s ← get
  match s.parameter? name with
  | some v => pure v
  | none =>
      if s.needsValues && !(name == ['@'] || name == ['*']) then
        abort (name ++ ": parameter not set".toList)
      else pure []

/-- How deep words may be inside parameters. -/
def maxDepth : Nat := 8

/-- The value of a piece. -/
def valueAt (catch_ : Catch) : Nat → Piece → Work Text
  | 0, _ => pure []
  | depth + 1, p => do
      let inner (t : Text) : Work Pattern := do
        match Word.ofText t with
        | .ok w =>
            let parts ← w.mapM fun p => do
              pure ((← valueAt catch_ depth p).map fun c => (c, p.isQuoted))
            pure parts.flatten
        | .error _ => pure []
      let text (t : Text) : Work Text := do pure (← inner t).text
      match p with
      | .literal t _ => pure t
      | .output script _ => catch_ script
      | .arithmetic e _ => do arithmeticText (← text e)
      | .parameter name u _ => do
          let value := (← get).parameter? name
          let present (empty : Bool) : Option Text := value.filter (fun v => !(empty && v.isEmpty))
          match u with
          | .value => plainValue name
          | .length => pure (Session.number (value.getD []).length)
          | .fallback w e =>
              match present e with
              | some v => pure v
              | none => text w
          | .assign w e =>
              match present e with
              | some v => pure v
              | none => do
                  let v ← text w
                  modify fun s => s.assign name v
                  pure v
          | .alternative w e => if (present e).isSome then text w else pure []
          | .required w e =>
              match present e with
              | some v => pure v
              | none => do
                  let told ← text w
                  let missing := if e then "parameter not set or null" else "parameter not set"
                  abort (name ++ ": ".toList ++ if told.isEmpty then missing.toList else told)
          | .withoutStart w longest => do
              pure ((← inner w).dropStart longest (value.getD []))
          | .withoutEnd w longest => do
              pure ((← inner w).dropEnd longest (value.getD []))

/-- The value of a piece. -/
def pieceValue (catch_ : Catch) (p : Piece) : Work Text := valueAt catch_ maxDepth p

/-- Characters at which fields are divided. -/
def separators (s : Session) : Text := (s.assigned? "IFS".toList).getD [' ', '\t', '\n']

/-- Adds a piece to fields. -/
def addPiece (catch_ : Catch) (f : Fields) (p : Piece) : Work Fields := do
  match p with
  | .literal t q => pure (f.add t q)
  | .parameter ['@'] .value true => pure (f.addEach (← get).args)
  | p => do
      let v ← pieceValue catch_ p
      let s ← get
      pure (if p.isQuoted then f.add v true else f.addDivided (separators s) v)

/-! ## Words -/

/-- The fields of words, with paths in place of patterns. -/
def fields (catch_ : Catch) (ws : List Word) : Work (List Text) := do
  let f ← ws.foldlM (fun f w => do pure (← w.foldlM (addPiece catch_) f).cut) Fields.empty
  let s ← get
  pure (f.toList.flatMap (Pattern.paths s.fs s.cwd))

/-- A word as one pattern. -/
def patternOf (catch_ : Catch) (w : Word) : Work Pattern := do
  let parts ← w.mapM fun p => do
    pure ((← pieceValue catch_ p).map fun c => (c, p.isQuoted))
  pure parts.flatten

/-- A word as one text. -/
def textOf (catch_ : Catch) (w : Word) : Work Text := do pure (← patternOf catch_ w).text

end Expansion

end UnitReview.Shell
