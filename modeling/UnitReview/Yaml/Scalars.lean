import UnitReview.Yaml.Cursor

/-!
# Scalars

Quoted, plain and block scalars. A single line end inside a quoted or plain scalar reads as a
space, and further ones as they are; block scalars keep them or, folded, treat them alike unless
a line starts with a blank.
-/

set_option autoImplicit false

namespace UnitReview.Yaml.Scan

/-! ## Line ends inside scalars -/

/-- Blanks between two stretches of a quoted or plain scalar. -/
structure Gap where
  /-- Whether there was a line end. -/
  broken : Bool
  /-- Blanks on the line before any line end. -/
  blanks : Text
  /-- The first line end. -/
  first : Text
  /-- Further line ends. -/
  further : Text
  deriving Repr, Inhabited

namespace Gap

/-- No blanks. -/
def empty : Gap := ⟨false, [], [], []⟩

/-- How the gap reads in the scalar. -/
def text (g : Gap) : Text :=
  if g.broken then
    if g.first.head? == some '\n' then (if g.further.isEmpty then [' '] else g.further)
    else g.first ++ g.further
  else g.blanks

end Gap

/-- Takes blanks and line ends. Where `tabFault` gives a fault, a tab in front of a line is one. -/
def gap (tabFault : Scan (Option Fault)) : Nat → Gap → Scan Gap
  | 0, g => pure g
  | fuel + 1, g => do
      match ← peek 0 with
      | some c =>
          if isBlankChar c then
            if g.broken && c == '\t' then
              match ← tabFault with
              | some f => throw f
              | none => pure ()
            skip 1
            gap tabFault fuel (if g.broken then g else { g with blanks := g.blanks ++ [c] })
          else if isBreak c then
            let e ← lineEnd
            gap tabFault fuel
              (if g.broken then { g with further := g.further ++ e }
                else { g with broken := true, blanks := [], first := e })
          else pure g
      | none => pure g

/-- Whether a line starts with a document mark. -/
def atDocumentMark : Scan Bool := do
  let s ← get
  let marked := s.rest.take 3 == ['-', '-', '-'] || s.rest.take 3 == ['.', '.', '.']
  pure (s.mark.column == 0 && marked && isBlankOrEnd (s.rest.drop 3).head?)

/-! ## Quoted scalars -/

/-- Escapes of one character. -/
def simpleEscapes : List (Char × Nat) :=
  [ ('0', 0), ('a', 7), ('b', 8), ('t', 9), ('\t', 9), ('n', 10), ('v', 11), ('f', 12), ('r', 13)
  , ('e', 27), (' ', 32), ('"', 34), ('/', 47), ('\\', 92), ('N', 0x85), ('_', 0xA0)
  , ('L', 0x2028), ('P', 0x2029) ]

/-- Escapes by number, with their count of digits. -/
def numericEscapes : List (Char × Nat) := [('x', 2), ('u', 4), ('U', 8)]

/-- The value of a hexadecimal digit. -/
def hexValue? (c : Char) : Option Nat :=
  if c.isDigit then some (c.toNat - '0'.toNat)
  else if 'a' ≤ c && c ≤ 'f' then some (c.toNat - 'a'.toNat + 10)
  else if 'A' ≤ c && c ≤ 'F' then some (c.toNat - 'A'.toNat + 10)
  else none

/-- The words for faults in escapes. -/
def escapeContext : String := "while parsing a quoted scalar"

/-- An escape, from its backslash on. -/
def escape (start : Mark) : Scan Char := do
  let c := (← peek 1).getD ' '
  if (← peek 1).isNone then failIn escapeContext start "found unknown escape character"
  match simpleEscapes.find? (·.1 == c) with
  | some (_, n) => do skip 2; pure (Char.ofNat n)
  | none =>
      match numericEscapes.find? (·.1 == c) with
      | none => failIn escapeContext start "found unknown escape character"
      | some (_, width) => do
          skip 2
          let digits := (← get).rest.take width
          let values := digits.filterMap hexValue?
          if values.length < width then
            failIn escapeContext start "did not find expected hexdecimal number"
          let n := values.foldl (fun a d => a * 16 + d) 0
          if (0xD800 ≤ n && n ≤ 0xDFFF) || n > 0x10FFFF then
            failIn escapeContext start "found invalid Unicode character escape code"
          skip width
          pure (Char.ofNat n)

/-- Characters of a quoted scalar up to a blank, a line end or the closing quote. The result says
whether the stretch ended with an escaped line end. -/
def quotedStretch (single : Bool) (start : Mark) : Nat → Text → Scan (Text × Bool)
  | 0, acc => pure (acc, false)
  | fuel + 1, acc => do
      let c ← peek 0
      let d ← peek 1
      if isBlankOrEnd c then pure (acc, false)
      else if single && c == some '\'' && d == some '\'' then do
        skip 2
        quotedStretch single start fuel (acc ++ ['\''])
      else if c == some (if single then '\'' else '"') then pure (acc, false)
      else if !single && c == some '\\' && d.any isBreak then do
        skip 1
        let _ ← lineEnd
        pure (acc, true)
      else if !single && c == some '\\' then do
        let e ← escape start
        quotedStretch single start fuel (acc ++ [e])
      else do
        skip 1
        quotedStretch single start fuel (acc ++ c.toList)

/-- The words for faults in quoted scalars. -/
def quotedContext : String := "while scanning a quoted scalar"

/-- A quoted scalar from after its opening quote up to its closing quote. -/
def quotedBody (single : Bool) (start : Mark) : Nat → Text → Scan Text
  | 0, acc => pure acc
  | fuel + 1, acc => do
      if ← atDocumentMark then failIn quotedContext start "found unexpected document indicator"
      if (← peek 0).isNone then failIn quotedContext start "found unexpected end of stream"
      let (text, escaped) ← quotedStretch single start (fuel + 1) acc
      if ← at_ (if single then '\'' else '"') then pure text
      else
        let g ← gap (pure none) (fuel + 1) { Gap.empty with broken := escaped }
        quotedBody single start fuel (text ++ g.text)

/-- A quoted scalar. -/
def quotedScalar (single : Bool) : Scan Token := do
  let start ← place
  skip 1
  let text ← quotedBody single start ((← get).rest.length + 1) []
  skip 1
  pure ⟨.scalar text (if single then .singleQuoted else .doubleQuoted), start, ← place⟩

/-! ## Plain scalars -/

/-- The words for faults in plain scalars. -/
def plainContext : String := "while scanning a plain scalar"

/-- Characters that end a plain scalar inside brackets. -/
def flowIndicators : List Char := [',', '[', ']', '\x7b', '\x7d']

/-- A stretch of a plain scalar without blanks: its characters. -/
def plainStretch (start : Mark) : Nat → Text → Scan Text
  | 0, acc => pure acc
  | fuel + 1, acc => do
      let c ← peek 0
      let d ← peek 1
      if isBlankOrEnd c then pure acc
      else
        let flow := !(← inBlock)
        if flow && c == some ':' && d.any (fun x => x == '?' || flowIndicators.contains x) then
          failIn plainContext start "found unexpected ':'"
        if c == some ':' && isBlankOrEnd d then pure acc
        else if flow && c.any flowIndicators.contains then pure acc
        else do
          skip 1
          plainStretch start fuel (acc ++ c.toList)

/-- The fault for a tab in front of a line of a plain scalar that is not indented enough. -/
def plainTab (start : Mark) (indent : Int) : Scan (Option Fault) := do
  let s ← get
  pure (if (s.mark.column : Int) < indent then
    some (.malformed "found a tab character that violates indentation" s.mark
      (some (plainContext, start)))
    else none)

/-- A plain scalar from a stretch on: its text, where it ends, and whether a line end follows. -/
def plainBody (start : Mark) (indent : Int) :
    Nat → Text → Gap → Mark → Scan (Text × Mark × Bool)
  | 0, acc, g, stop => pure (acc, stop, g.broken)
  | fuel + 1, acc, g, stop => do
      if (← atDocumentMark) || (← at_ '#') then pure (acc, stop, g.broken)
      else
        let t ← plainStretch start (fuel + 1) []
        let here ← place
        let stop' := if t.isEmpty then stop else here
        let acc' := if t.isEmpty then acc else acc ++ g.text ++ t
        let g' := if t.isEmpty then g else Gap.empty
        let blank := (← peek 0).any fun c => isBlankChar c || isBreak c
        if !blank then pure (acc', stop', g'.broken)
        else
          let g'' ← gap (plainTab start indent) (fuel + 1) g'
          if (← inBlock) && ((← place).column : Int) < indent then
            pure (acc', stop', g''.broken)
          else plainBody start indent fuel acc' g'' stop'

/-- A plain scalar. After a line end a key may start. -/
def plainScalar : Scan Token := do
  let start ← place
  let s ← get
  let (text, stop, broken) ← plainBody start (s.indent + 1) (s.rest.length + 1) [] Gap.empty start
  if broken then allowKey true
  pure ⟨.scalar text .plain, start, stop⟩

/-! ## Block scalars -/

/-- What happens to the line ends at the end of a block scalar. -/
inductive Chomping where
  | strip
  | clip
  | keep
  deriving Repr, DecidableEq, Inhabited

/-- The words for faults in block scalars. -/
def blockContext : String := "while scanning a block scalar"

/-- The chomping mark of a block scalar. -/
def chompingMark? : Scan (Option Chomping) := do
  match ← peek 0 with
  | some '+' => do skip 1; pure (some .keep)
  | some '-' => do skip 1; pure (some .strip)
  | _ => pure none

/-- The indentation mark of a block scalar. -/
def indentationMark? (start : Mark) : Scan (Option Nat) := do
  match ← peek 0 with
  | some c =>
      if c == '0' then failIn blockContext start "found an indentation indicator equal to 0"
      else if c.isDigit then do skip 1; pure (some (c.toNat - '0'.toNat))
      else pure none
  | none => pure none

/-- The marks of a block scalar, in either order. -/
def blockMarks (start : Mark) : Scan (Chomping × Option Nat) := do
  match ← chompingMark? with
  | some ch => do
      let i ← indentationMark? start
      pure (ch, i)
  | none => do
      let i ← indentationMark? start
      if i.isSome then
        let ch ← chompingMark?
        pure (ch.getD .clip, i)
      else pure (.clip, i)

/-- Lines that hold nothing: their line ends, the place after the last one, and the deepest
column reached. Without a known indentation all spaces in front of a line are taken. -/
def emptyLines (start : Mark) (indent : Option Nat) :
    Nat → Text → Mark → Nat → Scan (Text × Mark × Nat)
  | 0, acc, stop, deepest => pure (acc, stop, deepest)
  | fuel + 1, acc, stop, deepest => do
      let s ← get
      let room := indent.map (fun i => i - s.mark.column)
      let spaces := (s.rest.takeWhile (· == ' ')).length
      skip (match room with
        | some r => min r spaces
        | none => spaces)
      let column := (← place).column
      let deepest := max deepest column
      let shallow := match indent with
        | some i => column < i
        | none => true
      if shallow && (← at_ '\t') then
        failIn blockContext start "found a tab character where an indentation space is expected"
      if (← peek 0).any isBreak then
        let e ← lineEnd
        emptyLines start indent fuel (acc ++ e) (← place) deepest
      else pure (acc, stop, deepest)

/-- The lines of a block scalar: the text so far, the last line end, the empty lines after it,
and the place where the scalar ends. `blankBefore` says whether the last line started with a
blank. -/
def blockLines (start : Mark) (folded : Bool) (indent : Nat) :
    Nat → Text → Text → Text → Mark → Bool → Scan (Text × Text × Text × Mark)
  | 0, acc, last, empties, stop, _ => pure (acc, last, empties, stop)
  | fuel + 1, acc, last, empties, stop, blankBefore => do
      if (← place).column != indent || (← peek 0).isNone then pure (acc, last, empties, stop)
      else
        let blank := (← peek 0).any isBlankChar
        let folds := folded && last.head? == some '\n' && !blankBefore && !blank
        let acc :=
          if folds then acc ++ (if empties.isEmpty then [' '] else []) ++ empties
          else acc ++ last ++ empties
        let line ← takeWhile (fun c => !isBreak c)
        let last ← lineEnd
        let (empties, stop, _) ← emptyLines start (some indent) (fuel + 1) [] (← place) 0
        blockLines start folded indent fuel (acc ++ line) last empties stop blank

/-- A block scalar. -/
def blockScalar (folded : Bool) : Scan Token := do
  let start ← place
  skip 1
  let (chomping, increment) ← blockMarks start
  let _ ← takeWhile isBlankChar
  if ← at_ '#' then
    let _ ← takeWhile (fun c => !isBreak c)
  if !isBreakOrEnd (← peek 0) then
    failIn blockContext start "did not find expected comment or line break"
  let _ ← lineEnd
  let s ← get
  let fuel := s.rest.length + 1
  let given := increment.map fun i => (if s.indent ≥ 0 then s.indent.toNat else 0) + i
  let (empties, stop, deepest) ← emptyLines start given fuel [] (← place) 0
  let indent := given.getD (max (max deepest (s.indent + 1).toNat) 1)
  let (text, last, empties, stop) ← blockLines start folded indent fuel [] [] empties stop false
  let text := text ++ (if chomping == .strip then [] else last) ++
    (if chomping == .keep then empties else [])
  pure ⟨.scalar text (if folded then .folded else .literal), start, stop⟩

end UnitReview.Yaml.Scan
