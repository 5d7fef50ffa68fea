import UnitReview.Yaml.Tokens

/-!
# The events of a stream

A stream of tokens is read as a stream of events: values, and starts and ends of collections and
documents. The parser is a machine with a stack of states to go back to. An event carries the
place where it starts.
-/

set_option autoImplicit false

namespace UnitReview.Yaml

/-- What happens in a stream. -/
inductive Event where
  | streamStart
  | streamEnd
  | documentStart
  | documentEnd
  /-- A reference to an anchored value. -/
  | reference (name : Text)
  | scalar (anchor tag : Option Text) (value : Text) (style : ScalarStyle)
  | sequenceStart (anchor : Option Text)
  | sequenceEnd
  | mappingStart (anchor : Option Text)
  | mappingEnd
  deriving Repr, DecidableEq, Inhabited

/-- What the parser is about to read. -/
inductive ParserState where
  | streamStart
  | documentStart (implicit : Bool)
  | documentContent
  | documentEnd
  | blockNode
  | blockSequence (first : Bool)
  | indentlessSequence
  | blockMappingKey (first : Bool)
  | blockMappingValue
  | flowSequence (first : Bool)
  | flowPairKey
  | flowPairValue
  | flowPairEnd
  | flowMappingKey (first : Bool)
  | flowMappingValue (empty : Bool)
  | finished
  deriving Repr, DecidableEq, Inhabited

/-- The parser. -/
structure Parser where
  state : ParserState
  /-- States to go back to, innermost first. -/
  states : List ParserState
  /-- Starts of open collections, innermost first. -/
  marks : List Mark
  /-- Handles of tags and what they stand for. -/
  handles : List (Text × Text)
  /-- The tokens ahead. -/
  input : Tokens
  deriving Repr, Inhabited

/-- A part of the parser's work: it may fail. -/
abbrev Parse (α : Type) := StateT Parser (Except Fault) α

namespace Parse

/-! ## Tokens and states -/

/-- The next token. -/
def peek : Parse Token := do
  let p ← get
  match p.input.tokens with
  | t :: _ => pure t
  | [] => throw (p.input.fault.getD .endOfStream)

/-- Goes past a token. -/
def skip : Parse Unit :=
  modify fun p => { p with input := { p.input with tokens := p.input.tokens.drop 1 } }

/-- Goes on with a state. -/
def goto (s : ParserState) : Parse Unit := modify fun p => { p with state := s }

/-- Comes back to a state later. -/
def push (s : ParserState) : Parse Unit := modify fun p => { p with states := s :: p.states }

/-- Goes on with the state that was to come back. -/
def back : Parse Unit :=
  modify fun p => { p with state := p.states.headD .finished, states := p.states.drop 1 }

/-- Notes the start of a collection. -/
def openAt (m : Mark) : Parse Unit := modify fun p => { p with marks := m :: p.marks }

/-- The innermost collection is over. -/
def close : Parse Unit := do
  modify fun p => { p with marks := p.marks.drop 1 }
  back

/-- Fails at a mark. -/
def failAt {α : Type} (problem : String) (m : Mark) : Parse α :=
  throw (.malformed problem m none)

/-- Fails at a mark inside something that started at another. -/
def failIn {α : Type} (context : String) (start : Mark) (problem : String) (m : Mark) : Parse α :=
  throw (.malformed problem m (some (context, start)))

/-- Fails at a mark inside the innermost collection. -/
def failInside {α : Type} (context problem : String) (m : Mark) : Parse α := do
  failIn context ((← get).marks.headD Mark.start) problem m

/-- A value that is not written. -/
def nothing (m : Mark) : Event × Mark := (.scalar none none [] .plain, m)

/-! ## Documents -/

/-- Handles that every document knows. -/
def standardHandles : List (Text × Text) :=
  [(['!'], ['!']), (['!', '!'], "tag:yaml.org,2002:".toList)]

/-- Adds a handle. Only a standard one may be there already. -/
def addHandle (standard : Bool) (m : Mark) (h : Text × Text) : Parse Unit := do
  if (← get).handles.any (·.1 == h.1) then
    if !standard then failAt "found duplicate %TAG directive" m
  else modify fun p => { p with handles := p.handles ++ [h] }

/-- Reads the directives in front of a document. -/
def directives : Nat → Bool → Parse Unit
  | 0, _ => pure ()
  | fuel + 1, versioned => do
      let t ← peek
      match t.kind with
      | .version major minor =>
          if versioned then failAt "found duplicate %YAML directive" t.start
          if major != 1 || (minor != 1 && minor != 2) then
            failAt "found incompatible YAML document" t.start
          skip
          directives fuel true
      | .tagDirective h e =>
          addHandle false t.start (h, e)
          skip
          directives fuel versioned
      | _ => standardHandles.forM (addHandle true t.start)

/-- Goes past marks of a document's end. -/
def skipDocumentEnds : Nat → Parse Unit
  | 0 => pure ()
  | fuel + 1 => do
      if (← peek).kind == .documentEnd then
        skip
        skipDocumentEnds fuel

/-- Whether a token belongs to the start of a document rather than to its content. -/
def opensDocument : TokenKind → Bool
  | .version _ _ | .tagDirective _ _ | .documentStart => true
  | _ => false

/-- Start of a document, or end of the stream. Only the first document may start without its
mark. -/
def documentStart (implicit : Bool) : Parse (Event × Mark) := do
  let fuel := (← get).input.tokens.length + 1
  if !implicit then skipDocumentEnds fuel
  let t ← peek
  if implicit && !opensDocument t.kind && t.kind != .streamEnd then
    directives fuel false
    push .documentEnd
    goto .blockNode
    pure (.documentStart, t.start)
  else if t.kind != .streamEnd then
    directives fuel false
    let u ← peek
    if u.kind != .documentStart then failAt "did not find expected <document start>" u.start
    push .documentEnd
    goto .documentContent
    skip
    pure (.documentStart, t.start)
  else
    goto .finished
    skip
    pure (.streamEnd, t.start)

/-- End of a document, with or without its mark. -/
def documentEnd : Parse (Event × Mark) := do
  let t ← peek
  if t.kind == .documentEnd then skip
  modify fun p => { p with handles := [] }
  goto (.documentStart false)
  pure (.documentEnd, t.start)

/-! ## Nodes -/

/-- What may go in front of a value. -/
structure Properties where
  anchor : Option Text
  /-- The handle and the suffix of a tag, and where it is. -/
  tag : Option (Text × Text × Mark)
  deriving Repr, Inhabited

/-- Reads an anchor if there is one. -/
def anchor? : Parse (Option Text) := do
  match (← peek).kind with
  | .anchor name => do skip; pure (some name)
  | _ => pure none

/-- Reads a tag if there is one. -/
def tag? : Parse (Option (Text × Text × Mark)) := do
  let t ← peek
  match t.kind with
  | .tag h s => do skip; pure (some (h, s, t.start))
  | _ => pure none

/-- Reads anchor and tag in either order. -/
def properties : Parse Properties := do
  match ← anchor? with
  | some a => pure ⟨some a, ← tag?⟩
  | none =>
      match ← tag? with
      | some t => pure ⟨← anchor?, some t⟩
      | none => pure ⟨none, none⟩

/-- The tag that a handle and a suffix stand for. -/
def resolveTag (start : Mark) : Option (Text × Text × Mark) → Parse (Option Text)
  | none => pure none
  | some (h, s, m) => do
      if h.isEmpty then pure (some s)
      else
        match (← get).handles.find? (·.1 == h) with
        | some (_, e) => pure (some (e ++ s))
        | none => failIn "while parsing a node" start "found undefined tag handle" m

/-- A value, or the start of a collection. -/
def node (block indentless : Bool) : Parse (Event × Mark) := do
  let t ← peek
  match t.kind with
  | .alias_ name => do
      back
      skip
      pure (.reference name, t.start)
  | _ => do
      let props ← properties
      let u ← peek
      let tag ← resolveTag t.start props.tag
      let begin_ (s : ParserState) (e : Event) : Parse (Event × Mark) := do
        goto s
        pure (e, t.start)
      match u.kind, indentless, block with
      | .blockEntry, true, _ => begin_ .indentlessSequence (.sequenceStart props.anchor)
      | .scalar value style, _, _ => do
          back
          skip
          let tag := if tag == some ['!'] then none else tag
          pure (.scalar props.anchor tag value style, t.start)
      | .flowSequenceStart, _, _ => begin_ (.flowSequence true) (.sequenceStart props.anchor)
      | .flowMappingStart, _, _ => begin_ (.flowMappingKey true) (.mappingStart props.anchor)
      | .blockSequenceStart, _, true => begin_ (.blockSequence true) (.sequenceStart props.anchor)
      | .blockMappingStart, _, true => begin_ (.blockMappingKey true) (.mappingStart props.anchor)
      | _, _, _ =>
          if props.anchor.isSome || tag.isSome then do
            back
            pure (.scalar props.anchor tag [] .plain, t.start)
          else
            failIn (if block then "while parsing a block node" else "while parsing a flow node")
              t.start "did not find expected node content" u.start

/-- The content of a document whose start is marked; it may be missing. -/
def documentContent : Parse (Event × Mark) := do
  let t ← peek
  if opensDocument t.kind || t.kind == .documentEnd || t.kind == .streamEnd then
    back
    pure (nothing t.start)
  else node true false

/-- A node that returns to a state, or nothing if one of the given tokens follows. -/
def nodeUnless (stops : List TokenKind) (block indentless : Bool) (s : ParserState) (m : Mark) :
    Parse (Event × Mark) := do
  if stops.contains (← peek).kind then
    goto s
    pure (nothing m)
  else
    push s
    node block indentless

/-! ## Block collections -/

/-- On the first entry of a collection, notes its start. -/
def enter (first : Bool) : Parse Unit := do
  if first then
    openAt (← peek).start
    skip

/-- Ends a collection at its last token. -/
def leave (e : Event) : Parse (Event × Mark) := do
  let t ← peek
  close
  skip
  pure (e, t.start)

/-- An entry of a block sequence. -/
def blockSequence (first : Bool) : Parse (Event × Mark) := do
  enter first
  let t ← peek
  match t.kind with
  | .blockEntry => do
      skip
      nodeUnless [.blockEntry, .blockEnd] true false (.blockSequence false) t.stop
  | .blockEnd => leave .sequenceEnd
  | _ => failInside "while parsing a block collection" "did not find expected '-' indicator" t.start

/-- An entry of a block sequence that is not indented more than the key before it. -/
def indentlessSequence : Parse (Event × Mark) := do
  let t ← peek
  if t.kind == .blockEntry then
    skip
    nodeUnless [.blockEntry, .key, .value, .blockEnd] true false .indentlessSequence t.stop
  else
    back
    pure (.sequenceEnd, t.start)

/-- A key of a block mapping. -/
def blockMappingKey (first : Bool) : Parse (Event × Mark) := do
  enter first
  let t ← peek
  match t.kind with
  | .key => do
      skip
      nodeUnless [.key, .value, .blockEnd] true true .blockMappingValue t.stop
  | .blockEnd => leave .mappingEnd
  | _ => failInside "while parsing a block mapping" "did not find expected key" t.start

/-- A value of a block mapping. -/
def blockMappingValue : Parse (Event × Mark) := do
  let t ← peek
  if t.kind == .value then
    skip
    nodeUnless [.key, .value, .blockEnd] true true (.blockMappingKey false) t.stop
  else
    goto (.blockMappingKey false)
    pure (nothing t.start)

/-! ## Collections in brackets -/

/-- Goes past the comma before an entry that is not the first. -/
def separator (first : Bool) (context problem : String) : Parse Unit := do
  if !first then
    let t ← peek
    if t.kind == .flowEntry then skip else failInside context problem t.start

/-- An entry of a sequence in brackets. A key makes it a mapping of one pair. -/
def flowSequence (first : Bool) : Parse (Event × Mark) := do
  enter first
  if (← peek).kind == .flowSequenceEnd then leave .sequenceEnd
  else
    separator first "while parsing a flow sequence" "did not find expected ',' or ']'"
    let t ← peek
    match t.kind with
    | .key => do
        goto .flowPairKey
        skip
        pure (.mappingStart none, t.start)
    | .flowSequenceEnd => leave .sequenceEnd
    | _ => do
        push (.flowSequence false)
        node false false

/-- The key of a pair in a sequence. The token after a missing key is passed over. -/
def flowPairKey : Parse (Event × Mark) := do
  let t ← peek
  if [TokenKind.value, .flowEntry, .flowSequenceEnd].contains t.kind then
    skip
    goto .flowPairValue
    pure (nothing t.stop)
  else
    push .flowPairValue
    node false false

/-- The value of a pair in a sequence. -/
def flowPairValue : Parse (Event × Mark) := do
  if (← peek).kind == .value then
    skip
    let t ← peek
    nodeUnless [.flowEntry, .flowSequenceEnd] false false .flowPairEnd t.start
  else
    goto .flowPairEnd
    pure (nothing (← peek).start)

/-- The end of a pair in a sequence. -/
def flowPairEnd : Parse (Event × Mark) := do
  let t ← peek
  goto (.flowSequence false)
  pure (.mappingEnd, t.start)

/-- A key of a mapping in brackets. -/
def flowMappingKey (first : Bool) : Parse (Event × Mark) := do
  enter first
  if (← peek).kind == .flowMappingEnd then leave .mappingEnd
  else
    separator first "while parsing a flow mapping" "did not find expected ',' or '\x7d'"
    let t ← peek
    match t.kind with
    | .key => do
        skip
        let u ← peek
        nodeUnless [.value, .flowEntry, .flowMappingEnd] false false (.flowMappingValue false)
          u.start
    | .flowMappingEnd => leave .mappingEnd
    | _ => do
        push (.flowMappingValue true)
        node false false

/-- A value of a mapping in brackets; a key that is not marked has none. -/
def flowMappingValue (empty : Bool) : Parse (Event × Mark) := do
  let t ← peek
  if !empty && t.kind == .value then
    skip
    let u ← peek
    nodeUnless [.flowEntry, .flowMappingEnd] false false (.flowMappingKey false) u.start
  else
    goto (.flowMappingKey false)
    pure (nothing t.start)

/-! ## The machine -/

/-- The next event. -/
def next : Parse (Event × Mark) := do
  match (← get).state with
  | .streamStart => do
      let t ← peek
      goto (.documentStart true)
      skip
      pure (.streamStart, t.start)
  | .documentStart implicit => documentStart implicit
  | .documentContent => documentContent
  | .documentEnd => documentEnd
  | .blockNode => node true false
  | .blockSequence first => blockSequence first
  | .indentlessSequence => indentlessSequence
  | .blockMappingKey first => blockMappingKey first
  | .blockMappingValue => blockMappingValue
  | .flowSequence first => flowSequence first
  | .flowPairKey => flowPairKey
  | .flowPairValue => flowPairValue
  | .flowPairEnd => flowPairEnd
  | .flowMappingKey first => flowMappingKey first
  | .flowMappingValue empty => flowMappingValue empty
  | .finished => throw .endOfStream

end Parse

/-- The parser at the start of a stream. -/
def Parser.start (input : Tokens) : Parser := ⟨.streamStart, [], [], [], input⟩

end UnitReview.Yaml
