import UnitReview.Csharp.Lexical
import UnitReview.Csharp.Token

/-!
# From text to tokens

The scanner goes through a text once, keeping its place. Interpolated strings are scanned in
parts: the text between holes gives leaves, the code in a hole gives tokens as elsewhere, and a
stack of open strings says what the next character belongs to. Comments and directive lines are
kept as trivia of the token after them. Every step takes at least one character, so the number
of characters bounds the number of steps.
-/

set_option autoImplicit false

namespace UnitReview.Csharp

/-- An interpolated string that has not ended yet. -/
structure OpenString where
  /-- How many braces open a hole. -/
  dollars : Nat
  /-- How many quotes end the string. -/
  quotes : Nat
  /-- Whether a backslash is an ordinary character and a quote is written twice. -/
  verbatim : Bool
  /-- Inside a hole, the number of brackets open in it; `none` in the text of the string. -/
  depth : Option Nat
  deriving Repr, Inhabited

/-- State of the scanner. -/
structure Scan where
  rest : Text
  place : Place
  /-- Trivia since the last token, latest first. -/
  trivia : List Tree
  /-- Interpolated strings around the place, innermost first. -/
  strings : List OpenString
  /-- Whether the next line end closes a directive's condition. -/
  inDirective : Bool
  deriving Inhabited

/-- The tokens of a text, the trivia after the last one, and the place of its end. -/
structure Scanned where
  tokens : List Token
  trailing : List Tree
  stop : Place
  deriving Inhabited

/-! ## Leaves -/

/-- A leaf of a given kind. -/
def Tree.leaf (kind : String) (named : Bool) (extent : Extent) : Tree :=
  ⟨kind, named, false, none, extent, []⟩

/-- A node of a given kind that fills no field. -/
def Tree.inner (kind : String) (extent : Extent) (children : List Tree) : Tree :=
  ⟨kind, true, false, none, extent, children⟩

/-- Leaves for consecutive segments of a text, each with its kind, whether it is named and its
length. -/
def leaves : Place → Text → List (String × Bool × Nat) → List Tree
  | _, _, [] => []
  | p, cs, (kind, named, n) :: segs =>
      let q := p.after (cs.take n)
      Tree.leaf kind named (p.upTo q) :: leaves q (cs.drop n) segs

/-! ## String literals -/

/-- Segments of a string literal from after its opening quote to its closing quote. -/
def stringSegments : Nat → Text → Option (List (String × Bool × Nat))
  | 0, _ => none
  | _ + 1, [] => none
  | _ + 1, '"' :: cs =>
      let n := Lexical.encodingSuffix cs
      some (("\"", false, 1) :: if n = 0 then [] else [("string_literal_encoding", true, n)])
  | fuel + 1, '\\' :: cs => do
      let n ← Lexical.escape? ('\\' :: cs)
      let segs ← stringSegments fuel (cs.drop (n - 1))
      pure (("escape_sequence", true, n) :: segs)
  | fuel + 1, c :: cs =>
      let n := Lexical.spanLength (fun c => c != '"' && c != '\\' && c != '\n') (c :: cs)
      if n = 0 then none
      else do
        let segs ← stringSegments fuel (cs.drop (n - 1))
        pure (("string_literal_content", true, n) :: segs)

/-- A character literal: its segments. -/
def characterSegments : Text → Option (List (String × Bool × Nat))
  | '\'' :: '\\' :: cs => do
      let n ← Lexical.escape? ('\\' :: cs)
      match cs.drop (n - 1) with
      | '\'' :: _ => pure [("'", false, 1), ("escape_sequence", true, n), ("'", false, 1)]
      | _ => none
  | '\'' :: c :: '\'' :: _ =>
      if c == '\n' || c == '\'' then none
      else some [("'", false, 1), ("character_literal_content", true, 1), ("'", false, 1)]
  | _ => none

/-- A raw string: its segments. -/
def rawSegments (cs : Text) : Option (List (String × Bool × Nat)) :=
  let quotes := Lexical.spanLength (· == '"') cs
  if quotes < 3 then none
  else do
    let n ← Lexical.rawContent? quotes 0 (cs.drop quotes)
    let suffix := Lexical.encodingSuffix (cs.drop (quotes + n + quotes))
    pure ([("raw_string_start", true, quotes), ("raw_string_content", true, n),
      ("raw_string_end", true, quotes)] ++
      if suffix = 0 then [] else [("string_literal_encoding", true, suffix)])

/-- A literal: its kind and its segments; a kind without segments of its own has one segment
that gives no leaf. -/
def literal? (cs : Text) : Option (String × List (String × Bool × Nat)) :=
  match cs with
  | '"' :: rest =>
      ((rawSegments cs).map fun segs => ("raw_string_literal", segs)).or
        ((stringSegments cs.length rest).map fun segs =>
          ("string_literal", ("\"", false, 1) :: segs))
  | '\'' :: _ => (characterSegments cs).map fun segs => ("character_literal", segs)
  | _ => none

/-- Total length of segments. -/
def segmentsLength (segs : List (String × Bool × Nat)) : Nat :=
  segs.foldr (fun seg n => seg.2.2 + n) 0

/-! ## Directive lines -/

/-- Leaves for the words of a pragma: what is switched on or off has nodes of its own. -/
def pragmaLeaves : Nat → Place → Text → List Tree
  | 0, _, _ => []
  | _ + 1, _, [] => []
  | fuel + 1, p, c :: cs =>
      match Lexical.word? (c :: cs) with
      | some n =>
          let w := (c :: cs).take n
          let q := p.after w
          let plain := ["warning", "disable", "restore", "checksum"].contains (String.ofList w)
          Tree.leaf (if plain then String.ofList w else "identifier") (!plain) (p.upTo q) ::
            pragmaLeaves fuel q ((c :: cs).drop n)
      | none =>
          match Lexical.number? (c :: cs) with
          | some (n, _) =>
              let q := p.after ((c :: cs).take n)
              Tree.leaf "integer_literal" true (p.upTo q) ::
                pragmaLeaves fuel q ((c :: cs).drop n)
          | none => pragmaLeaves fuel (p.next c) cs

/-- The node for a directive line: the mark, what follows it and the line end. -/
def directiveLine (p : Place) (kind word : String) (mark : Nat) (cs : Text) : Nat × Tree :=
  let n := Lexical.spanLength (· != '\n') cs
  let line := cs.take n
  let total := if n < cs.length then n + 1 else n
  let body := line.drop mark
  let blanks := Lexical.spanLength Lexical.isSpacing body
  let arg := body.drop blanks
  let q := p.after (line.take mark)
  let r := p.after (line.take (mark + blanks))
  let stop := p.after line
  let field := if word == "region" || word == "endregion" then some "content" else none
  let inside :=
    if word == "pragma" then pragmaLeaves body.length q body
    else if word == "nullable" || word == "line" || arg.isEmpty then []
    else [{ Tree.leaf "preproc_arg" true (r.upTo stop) with field := field }]
  (total, Tree.inner kind (p.upTo (p.after (cs.take total)))
    (Tree.leaf ("#" ++ word) false (p.upTo q) :: inside))

/-! ## Interpolated strings -/

/-- The start of an interpolated string: the length of its mark, and the string it opens. -/
def interpolationStart? (cs : Text) : Option (Nat × OpenString) :=
  match cs with
  | '@' :: '$' :: '"' :: _ => some (2, ⟨1, 1, true, none⟩)
  | '$' :: '@' :: '"' :: _ => some (2, ⟨1, 1, true, none⟩)
  | '$' :: _ =>
      let dollars := Lexical.spanLength (· == '$') cs
      let quotes := Lexical.spanLength (· == '"') (cs.drop dollars)
      if quotes ≥ 3 then some (dollars, ⟨dollars, quotes, false, none⟩)
      else if dollars = 1 && quotes ≥ 1 then some (1, ⟨1, 1, false, none⟩)
      else none
  | _ => none

namespace OpenString

/-- Raw strings end with three quotes or more and have no escapes. -/
def isRaw (s : OpenString) : Bool := s.quotes ≥ 3

/-- Whether the text ends the string. -/
def endsAt (s : OpenString) (cs : Text) : Bool :=
  let run := Lexical.spanLength (· == '"') cs
  if s.verbatim then run = 1 else s.quotes ≤ run

/-- Whether a hole opens here. -/
def holeAt (s : OpenString) (cs : Text) : Bool :=
  let run := Lexical.spanLength (· == '\x7b') cs
  if s.isRaw then run = s.dollars else run = 1

/-- Length of the text up to the next hole, escape or end of the string. -/
def textLength (s : OpenString) : Nat → Text → Nat
  | 0, _ => 0
  | _ + 1, [] => 0
  | fuel + 1, c :: cs =>
      if s.endsAt (c :: cs) || s.holeAt (c :: cs) then 0
      else if c == '\\' && !s.verbatim && !s.isRaw then 0
      else
        let doubled := !s.isRaw && (c == '\x7b' || c == '\x7d' || (s.verbatim && c == '"'))
        if doubled && cs.head? == some c then 2 + textLength s fuel (cs.drop 1)
        else 1 + textLength s fuel cs

end OpenString

/-! ## Steps -/

namespace Scan

/-- Goes past `n` characters. -/
def skip (s : Scan) (n : Nat) : Scan :=
  { s with rest := s.rest.drop n, place := s.place.after (s.rest.take n) }

/-- Takes the next `n` characters as a token. -/
def token (s : Scan) (n : Nat) (lexeme : Lexeme) : Token × Scan :=
  let s' := s.skip n
  (⟨lexeme, s.place.upTo s'.place, s.trivia.reverse⟩, { s' with trivia := [] })

/-- Takes the next `n` characters as a token, changing the open strings. -/
def tokenWith (s : Scan) (n : Nat) (lexeme : Lexeme) (strings : List OpenString) :
    List Token × Scan :=
  let r := s.token n lexeme
  ([r.1], { r.2 with strings := strings })

/-- Keeps a comment or directive line as trivia. -/
def keep (s : Scan) (n : Nat) (t : Tree) : Scan :=
  { s.skip n with trivia := t :: s.trivia }

/-- The open strings after a symbol in a hole: brackets are counted. -/
def stringsAfter (s : Scan) (symbol : String) : List OpenString :=
  match s.strings with
  | o :: os =>
      match o.depth with
      | some d =>
          if symbol == "(" || symbol == "[" || symbol == "\x7b" then
            { o with depth := some (d + 1) } :: os
          else if symbol == ")" || symbol == "]" || symbol == "\x7d" then
            { o with depth := some (d - 1) } :: os
          else s.strings
      | none => s.strings
  | [] => []

/-- A step in the text of an interpolated string. -/
def textStep (s : Scan) (o : OpenString) (os : List OpenString) : List Token × Scan :=
  if o.endsAt s.rest then
    s.tokenWith o.quotes (.symbol "\"") os
  else if o.holeAt s.rest then
    s.tokenWith o.dollars (.part "interpolation_brace") ({ o with depth := some 0 } :: os)
  else
    let n := o.textLength s.rest.length s.rest
    if n > 0 then s.tokenWith n (.part "string_content") s.strings
    else
      match Lexical.escape? s.rest with
      | some k => s.tokenWith k (.part "escape_sequence") s.strings
      | none => s.tokenWith 1 .stray s.strings

/-- A step at the end of a hole, if it is one: the closing brace, or the format before it. -/
def holeEndStep? (s : Scan) : Option (List Token × Scan) :=
  match s.strings with
  | ⟨dollars, quotes, verbatim, some 0⟩ :: os =>
      match s.rest with
      | '\x7d' :: _ =>
          some (s.tokenWith dollars (.part "interpolation_brace")
            (⟨dollars, quotes, verbatim, none⟩ :: os))
      | ':' :: cs =>
          if cs.head? == some ':' then none
          else
            let n := Lexical.spanLength (fun c => c != '\x7d' && c != '"') cs
            some (s.tokenWith (n + 1) (.part "interpolation_format_clause") s.strings)
      | _ => none
  | _ => none

/-- A step that yields a literal, a word, a number or a symbol. -/
def plainStep (s : Scan) : List Token × Scan :=
  match literal? s.rest with
  | some (kind, segs) =>
      s.tokenWith (segmentsLength segs) (.literal kind (leaves s.place s.rest segs)) s.strings
  | none =>
      match Lexical.word? s.rest with
      | some n => s.tokenWith n (.word (String.ofList (s.rest.take n))) s.strings
      | none =>
          match Lexical.number? s.rest with
          | some (n, real) =>
              s.tokenWith n (.literal (if real then "real_literal" else "integer_literal") [])
                s.strings
          | none =>
              match Lexical.symbol? s.rest with
              | some t => s.tokenWith t.length (.symbol t) (s.stringsAfter t)
              | none => s.tokenWith 1 .stray s.strings

/-- A step that may start a verbatim or an interpolated string. -/
def stringStep (s : Scan) : List Token × Scan :=
  match interpolationStart? s.rest with
  | some (n, o) =>
      let r := s.token n (.part "interpolation_start")
      let q := r.2.token o.quotes (.symbol "\"")
      ([r.1, q.1], { q.2 with strings := o :: s.strings })
  | none =>
      match s.rest with
      | '@' :: '"' :: cs =>
          match Lexical.verbatimEnd? 2 cs with
          | some n =>
              let n := n + Lexical.encodingSuffix (s.rest.drop n)
              s.tokenWith n (.literal "verbatim_string_literal" []) s.strings
          | none => s.tokenWith 1 .stray s.strings
      | _ => s.plainStep

/-- A step at a number sign. -/
def directiveStep (s : Scan) (n : Nat) (word : String) : List Token × Scan :=
  match Lexical.lineDirectives.find? (·.1 == word) with
  | some (_, kind) =>
      let line := directiveLine s.place kind word n s.rest
      ([], s.keep line.1 line.2)
  | none =>
      if Lexical.sectionDirectives.contains word then
        let r := s.token n (.directive ("#" ++ word))
        ([r.1], { r.2 with inDirective := word == "if" || word == "elif" })
      else s.tokenWith 1 .stray s.strings

/-- A step in code. -/
def codeStep (s : Scan) (c : Char) : List Token × Scan :=
  if s.inDirective && c == '\n' then
    let r := s.token 1 (.symbol "\n")
    ([r.1], { r.2 with inDirective := false })
  else if Lexical.isSpacing c then ([], s.skip 1)
  else
    match Lexical.comment? s.rest with
    | some n =>
        ([], s.keep n (Tree.leaf Tree.commentKind true
          (s.place.upTo (s.place.after (s.rest.take n)))))
    | none =>
        match Lexical.directive? s.rest with
        | some (n, word) => s.directiveStep n word
        | none => (s.holeEndStep?).getD s.stringStep

/-- One step, at a text that is not empty. -/
def step (s : Scan) (c : Char) : List Token × Scan :=
  match s.strings with
  | o :: os => if o.depth.isNone then s.textStep o os else s.codeStep c
  | [] => s.codeStep c

/-- All tokens from a state on; `done` are those before it, latest first. -/
def run : Nat → List Token → Scan → Scanned
  | 0, done, s => ⟨done.reverse, s.trivia.reverse, s.place⟩
  | fuel + 1, done, s =>
      match s.rest with
      | [] => ⟨done.reverse, s.trivia.reverse, s.place⟩
      | c :: _ =>
          let r := s.step c
          run fuel (r.1.reverse ++ done) r.2

end Scan

/-- The tokens of a source text. -/
def scan (source : Text) : Scanned :=
  Scan.run source.length [] ⟨source, Place.start, [], [], false⟩

end UnitReview.Csharp
