import UnitReview.Yaml.Properties

/-!
# The tokens of a stream

A stream is turned into its tokens from the left. Where the scanner fails, the tokens that were
settled before the fault are kept together with it: whoever reads them meets the fault only when
asking for more.
-/

set_option autoImplicit false

namespace UnitReview.Yaml

namespace Scan

/-! ## Between tokens -/

/-- The byte order mark. -/
def byteOrderMark : Char := Char.ofNat 0xFEFF

/-- Goes past blanks, comments and line ends. After a line end a key may start, unless a bracket
is open. A tab may not stand where a key may start. -/
def toNextToken : Nat → Scan Unit
  | 0 => pure ()
  | fuel + 1 => do
      if (← place).index == 0 && (← at_ byteOrderMark) then skip 1
      let tabs := !(← inBlock) || !(← get).keyAllowed
      let _ ← takeWhile (fun c => c == ' ' || (tabs && c == '\t'))
      if ← at_ '#' then
        let _ ← takeWhile (fun c => !isBreak c)
      if (← peek 0).any isBreak then
        let _ ← lineEnd
        if ← inBlock then allowKey true
        toNextToken fuel

/-! ## Tokens by kind -/

/-- Emits a token of so many characters. -/
def mark (kind : TokenKind) (width : Nat) : Scan Unit := do
  let start ← place
  skip width
  emit ⟨kind, start, ← place⟩

/-- The end of the stream, which is taken to be the start of a line. -/
def streamEnd : Scan Unit := do
  modify fun s =>
    if s.mark.column == 0 then s
    else { s with mark := { s.mark with column := 0, line := s.mark.line + 1 } }
  unrollIndent (-1)
  removeKey
  allowKey false
  mark .streamEnd 0

/-- Closes all blocks; no key may start. -/
def leaveBlocks : Scan Unit := do
  unrollIndent (-1)
  removeKey
  allowKey false

/-- An opening bracket. -/
def openBracket (kind : TokenKind) : Scan Unit := do
  saveKey
  modify fun s => { s with keys := SimpleKey.none :: s.keys }
  allowKey true
  mark kind 1

/-- A closing bracket. -/
def closeBracket (kind : TokenKind) : Scan Unit := do
  removeKey
  if !(← inBlock) then modify fun s => { s with keys := s.keys.drop 1 }
  allowKey false
  mark kind 1

/-- A mark that opens a block collection unless a bracket is open. -/
def openBlock (problem : String) (kind : TokenKind) : Scan Unit := do
  if ← inBlock then
    if !(← get).keyAllowed then failAt problem none
    let m ← place
    rollIndent m.column none kind m

/-- The mark of an entry of a block sequence. -/
def blockEntry : Scan Unit := do
  openBlock "block sequence entries are not allowed in this context" .blockSequenceStart
  removeKey
  allowKey true
  mark .blockEntry 1

/-- The mark of a key. -/
def keyMark : Scan Unit := do
  openBlock "mapping keys are not allowed in this context" .blockMappingStart
  removeKey
  allowKey (← inBlock)
  mark .key 1

/-- The mark of a value. If a key may have started before it, that was a key. -/
def valueMark : Scan Unit := do
  match (← get).keys with
  | [] => pure ()
  | k :: _ =>
      if k.possible then
        insertBefore k.number ⟨.key, k.mark, k.mark⟩
        rollIndent k.mark.column (some k.number) .blockMappingStart k.mark
        modify fun s => { s with keys := { k with possible := false } :: s.keys.drop 1 }
        allowKey false
      else
        openBlock "mapping values are not allowed in this context" .blockMappingStart
        allowKey (← inBlock)
  mark .value 1

/-- A token that may be a key. -/
def content (token : Scan Token) : Scan Unit := do
  saveKey
  allowKey false
  emit (← token)

/-- A block scalar is never a key, and a key may follow it. -/
def blockContent (folded : Bool) : Scan Unit := do
  removeKey
  allowKey true
  emit (← blockScalar folded)

/-- Characters that no plain scalar starts with. -/
def indicators : List Char :=
  [ '-', '?', ':', ',', '[', ']', '\x7b', '\x7d', '#', '&', '*', '!', '|', '>', '\'', '"', '%'
  , '@', '\x60' ]

/-- Scans one token, and what has to go before it. -/
def step : Scan Unit := do
  toNextToken ((← get).rest.length + 1)
  dropStaleKeys
  unrollIndent ((← place).column : Int)
  let block ← inBlock
  let first := (← place).column == 0
  let next ← peek 1
  match ← peek 0 with
  | none => streamEnd
  | some c =>
      if first && c == '%' then do leaveBlocks; emit (← directive)
      else if ← atDocumentMark then do
        leaveBlocks
        mark (if c == '-' then .documentStart else .documentEnd) 3
      else if c == '[' then openBracket .flowSequenceStart
      else if c == '\x7b' then openBracket .flowMappingStart
      else if c == ']' then closeBracket .flowSequenceEnd
      else if c == '\x7d' then closeBracket .flowMappingEnd
      else if c == ',' then do removeKey; allowKey true; mark .flowEntry 1
      else if c == '-' && isBlankOrEnd next then blockEntry
      else if c == '?' && (!block || isBlankOrEnd next) then keyMark
      else if c == ':' && (!block || isBlankOrEnd next) then valueMark
      else if c == '*' then content (anchor true)
      else if c == '&' then content (anchor false)
      else if c == '!' then content tag
      else if c == '|' && block then blockContent false
      else if c == '>' && block then blockContent true
      else if c == '\'' then content (quotedScalar true)
      else if c == '"' then content (quotedScalar false)
      else if !(isBlankOrEnd (some c) || indicators.contains c) || c == '-' ||
          (block && (c == '?' || c == ':')) then content plainScalar
      else do
        let m ← place
        failIn "while scanning for the next token" m "found character that cannot start any token"

end Scan

/-! ## The whole stream -/

/-- The tokens of a stream as far as they could be settled, and the fault that stopped the
scanner. -/
structure Tokens where
  tokens : List Token
  fault : Option Fault
  deriving Repr, Inhabited

namespace Scanner

/-- The scanner at the start of a stream. -/
def start (cs : Text) : Scanner :=
  { rest := cs
    mark := Mark.start
    queue := [⟨.streamStart, Mark.start, Mark.start⟩]
    released := 0
    indent := -1
    indents := []
    keyAllowed := true
    keys := [SimpleKey.none] }

/-- Number of tokens at the front of the queue before which no key can start any more. -/
def settled (s : Scanner) : Nat :=
  (s.keys.filter (·.possible)).foldl (fun n k => min n (k.number - s.released)) s.queue.length

/-- The settled tokens and the scanner without them. -/
def release (s : Scanner) : List Token × Scanner :=
  let n := s.settled
  (s.queue.take n, { s with queue := s.queue.drop n, released := s.released + n })

end Scanner

namespace Tokens

/-- Goes on scanning up to the end of the stream. -/
def collect : Nat → Scanner → List Token → Tokens
  | 0, _, acc => ⟨acc.reverse, none⟩
  | fuel + 1, s, acc =>
      let (settled, s) := s.release
      let acc := settled.reverse ++ acc
      if settled.any (·.kind == .streamEnd) then ⟨acc.reverse, none⟩
      else
        match (do Scan.step; Scan.dropStaleKeys : Scan Unit).run s with
        | .ok (_, s) => collect fuel s acc
        | .error f => ⟨acc.reverse, some f⟩

/-- The tokens of a stream. A character that may not stand in a stream spoils all of it. -/
def ofText (cs : Text) : Tokens :=
  match forbiddenOffset? 0 cs with
  | some n => ⟨[], some (.forbiddenCharacter n)⟩
  | none => collect (cs.length + 3) (Scanner.start cs) []

end Tokens

end UnitReview.Yaml
