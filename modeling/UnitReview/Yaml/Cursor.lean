import UnitReview.Yaml.Token

/-!
# State of the scanner

The scanner keeps its place, the depth of indentation, the places where a key without a mark of
its own may have started, and a queue of tokens. A token waits in the queue as long as such a
place right before it may still turn out to be a key, because then two tokens go in front of it.
-/

set_option autoImplicit false

namespace UnitReview.Yaml

/-- A place where a key may have started; there is one for every level of brackets. -/
structure SimpleKey where
  possible : Bool
  required : Bool
  /-- The number of the token that would be the key, counted from the start of the stream. -/
  number : Nat
  mark : Mark
  deriving Repr, DecidableEq, Inhabited

namespace SimpleKey

/-- No key has started. -/
def none : SimpleKey := ⟨false, false, 0, Mark.start⟩

end SimpleKey

/-- State of the scanner. -/
structure Scanner where
  rest : Text
  mark : Mark
  /-- Tokens that wait, first one first. -/
  queue : List Token
  /-- Number of tokens that have left the queue. -/
  released : Nat
  indent : Int
  /-- Depths of indentation around the current one, innermost first. -/
  indents : List Int
  /-- Whether a key may start here. -/
  keyAllowed : Bool
  /-- Keys that may have started, that of the innermost brackets first. -/
  keys : List SimpleKey
  deriving Repr, Inhabited

/-- A part of the scanner's work: it may fail. -/
abbrev Scan (α : Type) := StateT Scanner (Except Fault) α

namespace Scan

/-! ## Looking -/

/-- Number of brackets that are open. -/
def flowLevel : Scan Nat := do pure ((← get).keys.length - 1)

/-- Whether no bracket is open. -/
def inBlock : Scan Bool := do pure ((← flowLevel) == 0)

/-- The character at a distance; none at the end of the stream. -/
def peek (n : Nat) : Scan (Option Char) := do pure (((← get).rest.drop n).head?)

/-- Whether the next character is the given one. -/
def at_ (c : Char) : Scan Bool := do pure ((← peek 0) == some c)

/-- A blank, a line end or the end of the stream. -/
def isBlankOrEnd : Option Char → Bool
  | none => true
  | some c => isBlankChar c || isBreak c

/-- A line end or the end of the stream. -/
def isBreakOrEnd : Option Char → Bool
  | none => true
  | some c => isBreak c

/-- The place of the scanner. -/
def place : Scan Mark := do pure (← get).mark

/-! ## Moving -/

/-- Goes past characters of a line. -/
def skip (n : Nat) : Scan Unit :=
  modify fun s =>
    { s with
      rest := s.rest.drop n
      mark := ⟨s.mark.index + n, s.mark.line, s.mark.column + n⟩ }

/-- Takes characters of a line as long as they satisfy a test. -/
def takeWhile (p : Char → Bool) : Scan Text := do
  let t := (← get).rest.takeWhile p
  skip t.length
  pure t

/-- Takes a line end; how it reads in a scalar. Nothing is taken where there is none. -/
def lineEnd : Scan Text := do
  let s ← get
  let move (n : Nat) : Scan Unit :=
    set { s with rest := s.rest.drop n, mark := ⟨s.mark.index + n, s.mark.line + 1, 0⟩ }
  match s.rest with
  | '\r' :: '\n' :: _ => do move 2; pure ['\n']
  | c :: _ =>
      if isBreak c then do
        move 1
        pure (if c.toNat == 0x2028 || c.toNat == 0x2029 then [c] else ['\n'])
      else pure []
  | [] => pure []

/-! ## Faults -/

/-- Fails at the current place. -/
def failAt {α : Type} (problem : String) (context : Option (String × Mark)) : Scan α := do
  throw (.malformed problem (← place) context)

/-- Fails at the current place, while something that started at a mark was scanned. -/
def failIn {α : Type} (context : String) (start : Mark) (problem : String) : Scan α :=
  failAt problem (some (context, start))

/-! ## Tokens and keys -/

/-- Puts a token at the end of the queue. -/
def emit (t : Token) : Scan Unit := modify fun s => { s with queue := s.queue ++ [t] }

/-- Puts a token into the queue before the token of a given number. -/
def insertBefore (number : Nat) (t : Token) : Scan Unit :=
  modify fun s =>
    let i := number - s.released
    { s with queue := s.queue.take i ++ [t] ++ s.queue.drop i }

/-- Sets whether a key may start. -/
def allowKey (b : Bool) : Scan Unit := modify fun s => { s with keyAllowed := b }

/-- The words for a key that has no value. -/
def keyContext : String := "while scanning a simple key"

/-- A key has to be followed by a value mark. -/
def failKey {α : Type} (k : SimpleKey) : Scan α :=
  failIn keyContext k.mark "could not find expected ':'"

/-- A key ends on its line and within 1024 characters; later it is no key any more. -/
def isStale (mark : Mark) (k : SimpleKey) : Bool :=
  k.possible && (k.mark.line < mark.line || k.mark.index + 1024 < mark.index)

/-- Gives up keys that cannot be keys any more. The outermost comes first. -/
def dropStaleKeys : Scan Unit := do
  let s ← get
  match s.keys.reverse.find? (fun k => isStale s.mark k && k.required) with
  | some k => failKey k
  | none =>
      set { s with
        keys := s.keys.map fun k => if isStale s.mark k then { k with possible := false } else k }

/-- Gives up the key of the innermost brackets. -/
def removeKey : Scan Unit := do
  let s ← get
  match s.keys with
  | [] => pure ()
  | k :: ks =>
      if k.possible && k.required then failKey k
      else set { s with keys := { k with possible := false } :: ks }

/-- Notes that a key may start here. -/
def saveKey : Scan Unit := do
  let s ← get
  if s.keyAllowed then
    let required := s.keys.length == 1 && s.indent == (s.mark.column : Int)
    let k : SimpleKey := ⟨true, required, s.released + s.queue.length, s.mark⟩
    removeKey
    modify fun s => { s with keys := k :: s.keys.drop 1 }

/-! ## Indentation -/

/-- Opens a block collection if the column lies deeper than the current indentation. Its token
goes before the token of the given number, or to the end of the queue. -/
def rollIndent (column : Nat) (number : Option Nat) (kind : TokenKind) (mark : Mark) :
    Scan Unit := do
  if ← inBlock then
    let s ← get
    if s.indent < (column : Int) then
      set { s with indents := s.indent :: s.indents, indent := (column : Int) }
      let t : Token := ⟨kind, mark, mark⟩
      match number with
      | some n => insertBefore n t
      | none => emit t

/-- Closes block collections that lie deeper than a column. -/
def closeBlocks (column : Int) : List Int → Scan Unit
  | [] => pure ()
  | outer :: rest => do
      let s ← get
      if column < s.indent then
        set { s with indent := outer, indents := rest }
        emit ⟨.blockEnd, s.mark, s.mark⟩
        closeBlocks column rest

/-- Closes block collections that lie deeper than a column; brackets keep them open. -/
def unrollIndent (column : Int) : Scan Unit := do
  if ← inBlock then closeBlocks column (← get).indents

end Scan

end UnitReview.Yaml
