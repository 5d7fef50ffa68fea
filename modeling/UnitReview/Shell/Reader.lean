import UnitReview.Shell.Syntax

/-!
# Reading shell scripts

Words are read character by character; a word that stands where a command may start can be a
reserved one. A document for a command's input starts on the line after the command.
-/

set_option autoImplicit false

namespace UnitReview.Shell

/-- A document that is still to be read. -/
structure Announced where
  delimiter : Text
  /-- Whether parameters in it stand for themselves. -/
  verbatim : Bool
  /-- Whether tabs in front of its lines do not count. -/
  indented : Bool
  deriving Repr, Inhabited

/-- State of the reader. -/
structure Input where
  rest : Text
  line : Nat
  announced : List Announced
  documents : Array Word
  deriving Repr, Inhabited

/-- Why a script cannot be read. -/
structure Malformed where
  line : Nat
  reason : Text
  deriving Repr, DecidableEq, Inhabited

/-- A part of the reader's work: it fails where a script is malformed. -/
abbrev Read (α : Type) := StateT Input (Except Malformed) α

namespace Read

/-! ## Characters -/

/-- The next character. -/
def peek : Read (Option Char) := do pure (← get).rest.head?

/-- Goes past characters. -/
def skip (n : Nat) : Read Unit :=
  modify fun s =>
    { s with rest := s.rest.drop n, line := s.line + (s.rest.take n).count '\n' }

/-- Whether a text is next. -/
def isNext (t : Text) : Read Bool := do pure (t.isPrefixOf (← get).rest)

/-- Takes a text if it is next. -/
def take? (t : Text) : Read Bool := do
  if ← isNext t then
    skip t.length
    pure true
  else pure false

/-- Gives up. -/
def giveUp {α : Type} (reason : String) : Read α := do throw ⟨(← get).line, reason.toList⟩

/-- A quote is never closed. -/
def unterminated {α : Type} : Read α := giveUp "Unterminated quoted string"

/-- A space or a tab. -/
def isSpace (c : Char) : Bool := c == ' ' || c == '\t'

/-- Characters that end a word. -/
def endsWord (c : Char) : Bool := " \t\n;&|<>()".toList.contains c

/-- Words and signs that are told in quotes. -/
def quotedTokens : List String :=
  [ ";;", "&&", "||", ";", "&", "|", "(", ")", "then", "elif", "else", "fi", "do", "done", "esac"
  , "\x7d" ]

/-- Gives up at what is next; another word may have been expected. -/
def unexpected {α : Type} (expected : Option String) : Read α := do
  let rest := (← get).rest.dropWhile isSpace
  let word := String.ofList (rest.takeWhile (fun c => !endsWord c))
  let sign := quotedTokens.find? fun t =>
    if word.isEmpty then t.toList.isPrefixOf rest else t == word
  let found :=
    if rest.isEmpty then "end of file"
    else if rest.head? == some '\n' then "newline"
    else
      match sign with
      | some t => "\"" ++ t ++ "\""
      | none => if word.isEmpty then "redirection" else "word"
  giveUp (found ++ " unexpected" ++
    match expected with
    | some t => " (expecting \"" ++ t ++ "\")"
    | none => "")

/-- Goes past blanks, joined lines and comments. -/
def blanks : Nat → Read Unit
  | 0 => pure ()
  | fuel + 1 => do
      match (← get).rest with
      | '\\' :: '\n' :: _ => do skip 2; blanks fuel
      | '#' :: cs => skip (cs.takeWhile (· != '\n')).length.succ
      | c :: _ => if isSpace c then do skip 1; blanks fuel
      | [] => pure ()

/-- Goes past blanks. -/
def space : Read Unit := do blanks ((← get).rest.length + 1)

/-! ## Words -/

/-- Characters of names. -/
def isNameChar (c : Char) : Bool := c.isAlphanum || c == '_'

/-- Whether a text is a name. -/
def isName : Text → Bool
  | [] => false
  | c :: cs => !c.isDigit && (c :: cs).all isNameChar

/-- Parameters of one character that is no letter. -/
def specialParameters : List Char := ['#', '?', '$', '@', '*', '!', '-']

/-- The text up to the parenthesis that closes one. Quotes hide parentheses. -/
def enclosed : Nat → Text → Nat → Option Char → Text → Option (Text × Text)
  | 0, _, _, _, _ => none
  | fuel + 1, cs, depth, quote, acc =>
      match cs with
      | [] => none
      | c :: rest =>
          match quote with
          | some '\'' => enclosed fuel rest depth (if c == '\'' then none else quote) (c :: acc)
          | some _ =>
              match c, rest with
              | '\\', d :: rest => enclosed fuel rest depth quote (d :: c :: acc)
              | '"', _ => enclosed fuel rest depth none (c :: acc)
              | _, _ => enclosed fuel rest depth quote (c :: acc)
          | none =>
              match c, rest with
              | '\\', d :: rest => enclosed fuel rest depth none (d :: c :: acc)
              | '\'', _ => enclosed fuel rest depth (some '\'') (c :: acc)
              | '"', _ => enclosed fuel rest depth (some '"') (c :: acc)
              | '(', _ => enclosed fuel rest (depth + 1) none (c :: acc)
              | ')', _ =>
                  if depth = 0 then some (acc.reverse, rest)
                  else enclosed fuel rest (depth - 1) none (c :: acc)
              | _, _ => enclosed fuel rest depth none (c :: acc)

/-- The text up to a backquote; a backslash before one hides it. -/
def backquoted : Text → Text → Option (Text × Text)
  | [], _ => none
  | '\x60' :: rest, acc => some (acc.reverse, rest)
  | '\\' :: '\x60' :: rest, acc => backquoted rest ('\x60' :: acc)
  | c :: rest, acc => backquoted rest (c :: acc)

/-- Replaces what is left, counting lines. -/
def moveTo (rest : Text) : Read Unit := do
  skip ((← get).rest.length - rest.length)

/-- The text up to the brace that closes one. Quotes and inner braces hide braces. -/
def braced : Nat → Text → Nat → Option Char → Text → Option (Text × Text)
  | 0, _, _, _, _ => none
  | fuel + 1, cs, depth, quote, acc =>
      match cs with
      | [] => none
      | '\\' :: c :: rest => braced fuel rest depth quote (c :: '\\' :: acc)
      | c :: rest =>
          if quote.isSome then
            braced fuel rest depth (if quote == some c then none else quote) (c :: acc)
          else if c == '\'' || c == '"' then braced fuel rest depth (some c) (c :: acc)
          else if c == '\x7b' then braced fuel rest (depth + 1) none (c :: acc)
          else if c == '\x7d' then
            if depth = 0 then some (acc.reverse, rest)
            else braced fuel rest (depth - 1) none (c :: acc)
          else braced fuel rest depth none (c :: acc)

/-- The name of a parameter that a text starts with. -/
def parameterName : Text → Text
  | [] => []
  | c :: cs =>
      if specialParameters.contains c then [c]
      else if c.isDigit then (c :: cs).takeWhile Char.isDigit
      else (c :: cs).takeWhile isNameChar

/-- What is asked of a parameter, by what follows its name. -/
def use? : Text → Option Use
  | [] => some .value
  | ':' :: '-' :: w => some (.fallback w true)
  | '-' :: w => some (.fallback w false)
  | ':' :: '=' :: w => some (.assign w true)
  | '=' :: w => some (.assign w false)
  | ':' :: '+' :: w => some (.alternative w true)
  | '+' :: w => some (.alternative w false)
  | ':' :: '?' :: w => some (.required w true)
  | '?' :: w => some (.required w false)
  | '#' :: '#' :: w => some (.withoutStart w true)
  | '#' :: w => some (.withoutStart w false)
  | '%' :: '%' :: w => some (.withoutEnd w true)
  | '%' :: w => some (.withoutEnd w false)
  | _ => none

/-- A parameter in braces. -/
def bracedParameter (quoted : Bool) (body : Text) : Read Piece := do
  match body with
  | '#' :: c :: cs => pure (.parameter (parameterName (c :: cs)) .length quoted)
  | _ =>
      let name := parameterName body
      match use? (body.drop name.length) with
      | some u => if name.isEmpty then giveUp "Bad substitution" else pure (.parameter name u quoted)
      | none => giveUp "Bad substitution"

/-- What a dollar sign starts. One that starts nothing stands for itself. -/
def dollar (quoted : Bool) : Read Piece := do
  match (← get).rest with
  | '$' :: '(' :: '(' :: cs =>
      match enclosed (cs.length + 1) cs 0 none [] with
      | some (body, ')' :: rest) => do
          moveTo rest
          pure (.arithmetic body quoted)
      | _ => giveUp "Missing '))'"
  | '$' :: '(' :: cs =>
      match enclosed (cs.length + 1) cs 0 none [] with
      | some (body, rest) => do
          moveTo rest
          pure (.output body quoted)
      | none => giveUp "end of file unexpected (expecting \")\")"
  | '$' :: '\x7b' :: cs =>
      match braced (cs.length + 1) cs 0 none [] with
      | some (body, rest) => do
          let p ← bracedParameter quoted body
          moveTo rest
          pure p
      | none => giveUp "Missing '\x7d'"
  | '$' :: c :: cs =>
      if specialParameters.contains c || c.isDigit then do
        skip 2
        pure (.parameter [c] .value quoted)
      else if isNameChar c then
        let name := (c :: cs).takeWhile isNameChar
        skip (name.length + 1)
        pure (.parameter name .value quoted)
      else do
        skip 1
        pure (.literal ['$'] quoted)
  | _ => do
      skip 1
      pure (.literal ['$'] quoted)

/-- A script in backquotes. -/
def oldOutput (quoted : Bool) : Read Piece := do
  match backquoted ((← get).rest.drop 1) [] with
  | some (body, rest) => do
      moveTo rest
      pure (.output body quoted)
  | none => giveUp "EOF in backquote substitution"

/-- What is in double quotes, up to the closing one or, in a document, up to the end. -/
def doubleQuoted (document : Bool) : Nat → List Piece → Read (List Piece)
  | 0, _ => unterminated
  | fuel + 1, acc => do
      match (← get).rest with
      | [] => if document then pure acc.reverse else unterminated
      | '"' :: _ =>
          if document then do
            skip 1
            doubleQuoted document fuel (.literal ['"'] true :: acc)
          else do
            skip 1
            pure acc.reverse
      | '$' :: _ => do
          let p ← dollar true
          doubleQuoted document fuel (p :: acc)
      | '\x60' :: _ => do
          let p ← oldOutput true
          doubleQuoted document fuel (p :: acc)
      | '\\' :: '\n' :: _ => do
          skip 2
          doubleQuoted document fuel acc
      | '\\' :: c :: _ =>
          if ['$', '\x60', '"', '\\'].contains c then do
            skip 2
            doubleQuoted document fuel (.literal [c] true :: acc)
          else do
            skip 1
            doubleQuoted document fuel (.literal ['\\'] true :: acc)
      | c :: _ => do
          skip 1
          doubleQuoted document fuel (.literal [c] true :: acc)

/-- The pieces of a word, up to a character that ends it. -/
def pieces (ends : Char → Bool) : Nat → List Piece → Read (List Piece)
  | 0, acc => pure acc.reverse
  | fuel + 1, acc => do
      match (← get).rest with
      | [] => pure acc.reverse
      | '\\' :: '\n' :: _ => do skip 2; pieces ends fuel acc
      | '\\' :: c :: _ => do skip 2; pieces ends fuel (.literal [c] true :: acc)
      | '\'' :: cs => do
          let body := cs.takeWhile (· != '\'')
          if body.length == cs.length then unterminated
          skip (body.length + 2)
          pieces ends fuel (.literal body true :: acc)
      | '"' :: cs => do
          skip 1
          let inner ← doubleQuoted false (cs.length + 1) []
          let onlyArguments := inner == [.parameter ['@'] .value true]
          pieces ends fuel (inner.reverse ++ (if onlyArguments then acc else .literal [] true :: acc))
      | '$' :: _ => do
          let p ← dollar false
          pieces ends fuel (p :: acc)
      | '\x60' :: _ => do
          let p ← oldOutput false
          pieces ends fuel (p :: acc)
      | c :: _ =>
          if ends c then pure acc.reverse
          else do
            skip 1
            pieces ends fuel (.literal [c] false :: acc)

/-- The user's own directory, for which a tilde in front of a word stands. -/
def tilde : Read Word := do
  match (← get).rest with
  | '~' :: cs =>
      if cs.head?.all (fun c => c == '/' || endsWord c) then do
        skip 1
        pure [.parameter "HOME".toList .value true]
      else pure []
  | _ => pure []

/-- A word; it has at least one piece. -/
def word? : Read (Option Word) := do
  space
  let first ← tilde
  match ← pieces endsWord ((← get).rest.length + 1) first with
  | [] => pure none
  | w => pure (some w)

/-- A word that has to be there. -/
def word : Read Word := do
  match ← word? with
  | some w => pure w
  | none => unexpected none

/-- The text of a word without parameters and quotes. -/
def plain? (w : Word) : Option Text :=
  w.foldlM (fun acc p =>
    match p with
    | .literal t false => some (acc ++ t)
    | _ => none) []

/-- The text of a word without parameters, whether quoted or not. -/
def unquoted (w : Word) : Text :=
  w.flatMap fun p =>
    match p with
    | .literal t _ => t
    | _ => []

/-! ## Lines -/

/-- The lines of a document up to its delimiter. -/
def documentLines (a : Announced) : Nat → Text → Read Text
  | 0, acc => pure acc
  | fuel + 1, acc => do
      let rest := (← get).rest
      if rest.isEmpty then pure acc
      else
        let line := rest.takeWhile (· != '\n')
        skip (line.length + 1)
        let line := if a.indented then line.dropWhile (· == '\t') else line
        if line == a.delimiter then pure acc
        else documentLines a fuel (acc ++ line ++ ['\n'])

/-- Reads an announced document. -/
def document (a : Announced) : Read Unit := do
  let body ← documentLines a ((← get).rest.length + 1) []
  let w : Word ←
    if a.verbatim then pure [.literal body true]
    else do
      let outer ← get
      set { outer with rest := body }
      let w ← doubleQuoted true (body.length + 1) []
      set outer
      pure w
  modify fun s => { s with documents := s.documents.push w }

/-- Goes past a line end and the documents after it. -/
def newLine : Read Unit := do
  skip 1
  let waiting := (← get).announced
  modify fun s => { s with announced := [] }
  waiting.forM document

/-- Goes past empty lines. -/
def newLines : Nat → Read Unit
  | 0 => pure ()
  | fuel + 1 => do
      space
      if (← peek) == some '\n' then do
        newLine
        newLines fuel

/-- Goes past empty lines. -/
def emptyLines : Read Unit := do newLines ((← get).rest.length + 1)

/-- The reserved word that is next, if it is one of the given ones. -/
def reserved? (names : List String) : Read (Option String) := do
  space
  let s ← get
  let next := s.rest.takeWhile (fun c => !endsWord c)
  match names.find? (·.toList == next) with
  | some n => do
      skip next.length
      pure (some n)
  | none => pure none

/-- A reserved word that has to be there. -/
def expect (name : String) : Read Unit := do
  emptyLines
  if (← reserved? [name]).isNone then unexpected (some name)

/-! ## Redirections -/

/-- A redirection, if one is next. -/
def redirection? : Read (Option Redirection) := do
  space
  let s ← get
  let digits := s.rest.takeWhile Char.isDigit
  let isMark (c : Char) : Bool := c == '<' || c == '>'
  if !((s.rest.drop digits.length).head?.any isMark) then pure none
  else
    skip digits.length
    let number := digits.foldl (fun n c => n * 10 + (c.toNat - '0'.toNat)) 0
    let out := if digits.isEmpty then 1 else number
    if ← take? ['>', '>'] then pure (some (.write out (← word) true))
    else if ← take? ['>', '&'] then
      let source ← word
      match (plain? source).bind (fun t => (String.ofList t).toNat?) with
      | some n => pure (some (.duplicate out n))
      | none => giveUp "Bad fd number"
    else if ← take? ['>', '|'] then pure (some (.write out (← word) false))
    else if ← take? ['>'] then pure (some (.write out (← word) false))
    else if ← take? ['<', '<'] then
      let indented ← take? ['-']
      let w ← word
      let s ← get
      let a : Announced := ⟨unquoted w, (plain? w).isNone, indented⟩
      set { s with announced := s.announced ++ [a] }
      pure (some (.document (s.documents.size + s.announced.length)))
    else if ← take? ['<'] then pure (some (.read (← word)))
    else unexpected none

/-- All redirections that are next. -/
def redirections : Nat → List Redirection → Read (List Redirection)
  | 0, acc => pure acc.reverse
  | fuel + 1, acc => do
      match ← redirection? with
      | some r => redirections fuel (r :: acc)
      | none => pure acc.reverse

/-! ## Commands -/

/-- The name and the value of an assignment. -/
def assignment? (w : Word) : Option (Text × Word) :=
  let unquotedChar : Piece → Option Char
    | .literal [c] false => some c
    | _ => none
  let name := (w.takeWhile fun p => (unquotedChar p).any isNameChar).filterMap unquotedChar
  match w.drop name.length with
  | p :: value => if unquotedChar p == some '=' && isName name then some (name, value) else none
  | [] => none

/-- The parts of a simple command. -/
def simpleParts : Nat → List (Text × Word) → List Word → List Redirection →
    Read (List (Text × Word) × List Word × List Redirection)
  | 0, as, ws, rs => pure (as.reverse, ws.reverse, rs.reverse)
  | fuel + 1, as, ws, rs => do
      match ← redirection? with
      | some r => simpleParts fuel as ws (r :: rs)
      | none =>
          match ← word? with
          | none => pure (as.reverse, ws.reverse, rs.reverse)
          | some w =>
              match if ws.isEmpty then assignment? w else none with
              | some a => simpleParts fuel (a :: as) ws rs
              | none => simpleParts fuel as (w :: ws) rs

/-- Words that start a compound command. -/
def openers : List String := ["if", "while", "until", "for", "case", "\x7b"]

/-- Words that end a list of commands. -/
def closers : List String := ["then", "elif", "else", "fi", "do", "done", "esac", "\x7d"]

/-- Whether a list of commands ends here. -/
def atListEnd : Read Bool := do
  space
  let s ← get
  let next := s.rest.takeWhile (fun c => !endsWord c)
  pure (s.rest.isEmpty || s.rest.head? == some ')' || [';', ';'].isPrefixOf s.rest ||
    closers.any (·.toList == next))

/-- Words up to the end of a line. -/
def words : Nat → List Word → Read (List Word)
  | 0, acc => pure acc.reverse
  | fuel + 1, acc => do
      match ← word? with
      | some w => words fuel (w :: acc)
      | none => pure acc.reverse

/-- Patterns of a case, with bars between them. -/
def patterns : Nat → List Word → Read (List Word)
  | 0, acc => pure acc.reverse
  | fuel + 1, acc => do
      let w ← word
      space
      if ← take? ['|'] then patterns fuel (w :: acc)
      else if ← take? [')'] then pure (w :: acc).reverse
      else unexpected (some ")")

/-- Commands joined by `&&` and `||`, from the left. -/
def joined (operand : Read Command) : Nat → Command → Read Command
  | 0, c => pure c
  | n + 1, c => do
      space
      if ← take? ['&', '&'] then
        emptyLines
        joined operand n (.both c (← operand))
      else if ← take? ['|', '|'] then
        emptyLines
        joined operand n (.either c (← operand))
      else pure c

/-- Commands of which each reads what the one before it writes. -/
def piped (stage : Read Command) : Nat → List Command → Read (List Command)
  | 0, acc => pure acc.reverse
  | n + 1, acc => do
      let c ← stage
      space
      if (← isNext ['|']) && !(← isNext ['|', '|']) then
        skip 1
        emptyLines
        piped stage n (c :: acc)
      else pure (c :: acc).reverse

/-- The name of a function that is defined here: a name, and parentheses with nothing in them. -/
def functionName? : Read (Option Text) := do
  space
  let rest := (← get).rest
  let name := rest.takeWhile isNameChar
  match isName name, (rest.drop name.length).dropWhile isSpace with
  | true, '(' :: more =>
      match more.dropWhile isSpace with
      | ')' :: after => do
          moveTo after
          pure (some name)
      | _ => pure none
  | _, _ => pure none

/-- The rules that refer to each other. -/
inductive Rule where
  | list
  | andOr
  | pipeline
  | command
  | alternatives
  | cases
  deriving Repr, DecidableEq

/-- What a rule gives: commands, or the cases of a selection. -/
abbrev Parsed := List Command × List (List Word × Command)

/-- Reads by a rule. -/
def rule : Nat → Rule → Read Parsed
  | 0, _ => unexpected none
  | fuel + 1, r => do
      let one (r : Rule) : Read Command := do
        match ← rule fuel r with
        | ([c], _) => pure c
        | (cs, _) => pure (.sequence cs)
      let body : Read Command := do pure (.sequence (← rule fuel .list).1)
      let fuelHere := (← get).rest.length + 1
      match r with
      | .list => do
          emptyLines
          if ← atListEnd then pure ([], [])
          else
            let c ← one .andOr
            space
            if !(← isNext [';', ';']) then
              if !(← take? [';']) then
                let _ ← take? ['&']
            emptyLines
            let (cs, _) ← rule fuel .list
            pure (c :: cs, [])
      | .andOr => do
          let c ← one .pipeline
          pure ([← joined (one .pipeline) fuelHere c], [])
      | .pipeline => do
          let negated := (← reserved? ["!"]).isSome
          match negated, ← piped (one .command) fuelHere [] with
          | false, [c] => pure ([c], [])
          | _, cs => pure ([.pipeline negated cs], [])
      | .command => do
          space
          let line := (← get).line
          if ← take? ['('] then
            let c ← body
            emptyLines
            if !(← take? [')']) then unexpected (some ")")
            pure ([.subshell c (← redirections fuelHere [])], [])
          else
            match ← reserved? openers with
            | some "if" => do
                let c ← rule fuel .alternatives
                let rs ← redirections fuelHere []
                pure ([if rs.isEmpty then .sequence c.1 else .group (.sequence c.1) rs], [])
            | some "for" => do
                match plain? (← word) with
                | none => giveUp "Bad for loop variable"
                | some name => do
                    emptyLines
                    let items ←
                      if (← reserved? ["in"]).isSome then do
                        pure (some (← words fuelHere []))
                      else pure none
                    let _ ← take? [';']
                    expect "do"
                    let c ← body
                    expect "done"
                    let rs ← redirections fuelHere []
                    pure ([.group (.each name items c) rs], [])
            | some "case" => do
                let w ← word
                expect "in"
                let (_, cs) ← rule fuel .cases
                pure ([.select w cs], [])
            | some "\x7b" => do
                let c ← body
                expect "\x7d"
                pure ([.group c (← redirections fuelHere [])], [])
            | some kind => do
                let condition ← body
                expect "do"
                let c ← body
                expect "done"
                let rs ← redirections fuelHere []
                pure ([.group (.loop (kind == "until") condition c) rs], [])
            | none => do
                match ← functionName? with
                | some name => do
                    emptyLines
                    pure ([.define name (← one .command)], [])
                | none => do
                    let (as, ws, rs) ← simpleParts fuelHere [] [] []
                    if as.isEmpty && ws.isEmpty && rs.isEmpty then unexpected none
                    pure ([.simple as ws rs line], [])
      | .alternatives => do
          let condition ← body
          expect "then"
          let yes ← body
          emptyLines
          match ← reserved? ["elif", "else", "fi"] with
          | some "fi" => pure ([.choice condition yes none], [])
          | some "elif" => do
              let no ← one .alternatives
              pure ([.choice condition yes (some no)], [])
          | some _ => do
              let no ← body
              expect "fi"
              pure ([.choice condition yes (some no)], [])
          | none => unexpected (some "fi")
      | .cases => do
          emptyLines
          if (← reserved? ["esac"]).isSome then pure ([], [])
          else
            let _ ← take? ['(']
            let ps ← patterns fuelHere []
            let c ← body
            emptyLines
            let _ ← take? [';', ';']
            let (_, cs) ← rule fuel .cases
            pure ([], (ps, c) :: cs)

/-- Reads a whole script. -/
def script : Read Script := do
  let (cs, _) ← rule (4 * (← get).rest.length + 16) .list
  emptyLines
  let s ← get
  if !s.rest.isEmpty then unexpected none
  pure ⟨.sequence cs, s.documents⟩

end Read

/-- Reads a script. -/
def Script.ofText (t : Text) : Except Malformed Script :=
  (Read.script.run ⟨t, 1, [], #[]⟩).map (·.1)

/-- A text inside a parameter as a word; blanks do not end it. -/
def Word.ofText (t : Text) : Except Malformed Word :=
  ((Read.pieces (fun _ => false) (t.length + 1) []).run ⟨t, 1, [], #[]⟩).map (·.1)

end UnitReview.Shell
