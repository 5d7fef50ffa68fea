import UnitReview.Shell.Pattern
import UnitReview.Shell.Utility.Output

/-!
# Utilities for lines

Texts are taken apart into lines, which are cut, counted, sorted and chosen.
-/

set_option autoImplicit false

namespace UnitReview.Shell

open Host

namespace Utility

/-! ## Lines -/

/-- The lines of a text in bytes, without their ends. -/
def byteLines (bs : Text.Bytes) : List Text.Bytes :=
  let lines := bs.foldr (fun b (acc : List Text.Bytes) =>
    if b == 10 then [] :: acc
    else
      match acc with
      | l :: ls => (b :: l) :: ls
      | [] => [[b]]) [[]]
  if lines.getLast? == some [] then lines.dropLast else lines

/-- Lines as bytes, each with its end. -/
def joinLines (ls : List Text.Bytes) : Text.Bytes := ls.flatMap (· ++ [10])

/-- The bounds of a range such as `2-5`, `3` or `4-`. -/
def range (t : Text) : Nat × Option Nat :=
  let first := t.takeWhile (· != '-')
  let low := (String.ofList first).toNat?.getD 1
  match t.drop first.length with
  | [] => (low, some low)
  | _ :: last => (low, (String.ofList last).toNat?)

/-- What lies in a range. -/
def within {α : Type} (r : Nat × Option Nat) (l : List α) : List α :=
  (match r.2 with
    | some high => l.take high
    | none => l).drop (r.1 - 1)

/-- Cuts bytes or fields out of lines. -/
def cut : Utility := fun args => do
  let (bs, ok) ← contents "cut" (operands ['c', 'b', 'd', 'f'] args)
  let mark : UInt8 := match optionValue 'd' args with
    | some (c :: _) => UInt8.ofNat c.toNat
    | _ => 9
  let chosen (line : Text.Bytes) : Text.Bytes :=
    match optionValue 'c' args <|> optionValue 'b' args, optionValue 'f' args with
    | some r, _ => within (range r) line
    | none, some r =>
        if line.contains mark then
          [mark].intercalate (within (range r) (line.splitOn mark))
        else line
    | none, none => line
  Work.putBytes (joinLines ((byteLines bs).map chosen))
  pure (statusOf ok)

/-! ## Parts of a text -/

/-- The number of lines that an option asks for. -/
def lineCount (args : List Text) : Nat :=
  match optionValue 'n' args with
  | some v => (String.ofList v).toNat?.getD 10
  | none =>
      match args.findSome? (fun t =>
        match t with
        | '-' :: d => (String.ofList d).toNat?
        | _ => none) with
      | some n => n
      | none => 10

/-- The first lines. -/
def head : Utility := fun args => do
  let (bs, ok) ← contents "head" (operands ['n', 'c'] args)
  match (optionValue 'c' args).bind (fun v => (String.ofList v).toNat?) with
  | some n => Work.putBytes (bs.take n)
  | none =>
      let ls := byteLines bs
      let n := lineCount args
      Work.putBytes (if ls.length ≤ n then bs else joinLines (ls.take n))
  pure (statusOf ok)

/-- The last lines. -/
def tail : Utility := fun args => do
  let (bs, ok) ← contents "tail" (operands ['n', 'c'] args)
  match (optionValue 'c' args).bind (fun v => (String.ofList v).toNat?) with
  | some n => Work.putBytes (bs.drop (bs.length - n))
  | none =>
      let before := (byteLines bs).take ((byteLines bs).length - lineCount args)
      Work.putBytes (bs.drop (joinLines before).length)
  pure (statusOf ok)

/-- Number of words. -/
def countWords (bs : Text.Bytes) : Nat :=
  let isSpace (b : UInt8) : Bool := b == 32 || (9 ≤ b && b ≤ 13)
  (bs.foldl (fun (st : Nat × Bool) b =>
    if isSpace b then (st.1, false) else (if st.2 then st.1 else st.1 + 1, true)) (0, false)).1

/-- Counts lines, words and bytes. -/
def wc : Utility := fun args => do
  let (os, files) := options args
  let (bs, ok) ← contents "wc" files
  let wanted (c : Char) : Bool := os.isEmpty || hasOption os c
  let counts := (if wanted 'l' then [bs.count 10] else []) ++
    (if wanted 'w' then [countWords bs] else []) ++
    (if wanted 'c' || wanted 'm' then [bs.length] else [])
  let width := if counts.length == 1 then 0 else if files.isEmpty then 7 else 1
  let shown := counts.map fun n =>
    let t := Session.number n
    List.replicate (width - t.length) ' ' ++ t
  Work.putLine ([' '].intercalate (shown ++ files))
  pure (statusOf ok)

/-- The number that a line starts with. -/
def leadingNumber (line : Text.Bytes) : Int :=
  let t := (Text.decodeLossy line).dropWhile (· == ' ')
  let digits := (if t.head? == some '-' then t.drop 1 else t).takeWhile Char.isDigit
  let n : Int := ((String.ofList digits).toNat?).getD 0
  if t.head? == some '-' then -n else n

/-- Sorts lines by their bytes or, with `-n`, first by their numbers; `-u` drops repeated ones. -/
def sort : Utility := fun args => do
  let (os, files) := options args
  let (bs, ok) ← contents "sort" files
  let byBytes := (byteLines bs).mergeSort (fun a b => decide (a ≤ b))
  let sorted :=
    if hasOption os 'n' then
      byBytes.mergeSort (fun a b => decide (leadingNumber a ≤ leadingNumber b))
    else byBytes
  let chosen := if hasOption os 'u' then sorted.eraseDups else sorted
  Work.putBytes (joinLines (if hasOption os 'r' then chosen.reverse else chosen))
  pure (statusOf ok)

/-- Writes the input to the output and to files. -/
def tee : Utility := fun args => do
  let bs ← Work.takeInput
  Work.putBytes bs
  eachFile (options args).2 (fun fs cwd path => fs.writeFile cwd path bs .plain) id false

/-- A set of characters with its ranges written out. -/
def expandRanges : Text → Text
  | a :: '-' :: b :: rest =>
      (List.range (b.toNat + 1 - a.toNat)).map (fun i => Char.ofNat (a.toNat + i)) ++
        expandRanges rest
  | c :: rest => c :: expandRanges rest
  | [] => []

/-- Replaces or, with `-d`, drops characters. -/
def tr : Utility := fun args => do
  let (os, sets) := options args
  let t := Text.decodeLossy (← Work.takeInput)
  let plain (s : Text) : Text :=
    expandRanges (Text.decodeLossy (unescape false (s.length + 1) s []).1)
  match sets with
  | [a] => Work.put (if hasOption os 'd' then t.filter (fun c => !List.contains (plain a) c) else t)
  | a :: b :: _ =>
      let target := plain b
      let filler := List.replicate (plain a).length (target.getLast?.getD ' ')
      let pairs := (plain a).zip (target ++ filler)
      Work.put (t.map fun c => (pairs.lookup c).getD c)
  | [] => pure ()
  pure 0

/-! ## Searching -/

/-- What lines are searched for: elements that may be repeated, and whether they have to stand at
an end of the line. -/
structure LinePattern where
  atStart : Bool
  items : List (Pattern.Element × Bool)
  atEnd : Bool
  deriving Repr, Inhabited

namespace LinePattern

/-- The items of an expression: a point is any character, a star repeats what is before it. -/
def itemsFrom : Nat → Text → List (Pattern.Element × Bool)
  | 0, _ => []
  | fuel + 1, cs =>
      let (first, rest) : Option Pattern.Element × Text := match cs with
        | [] => (none, [])
        | '.' :: rest => (some .anyChar, rest)
        | '\\' :: c :: rest => (some (.exactly c), rest)
        | '[' :: rest =>
            match Pattern.set? (rest.map (·, false)) with
            | some (e, rest) => (some e, Pattern.text rest)
            | none => (some (.exactly '['), rest)
        | c :: rest => (some (.exactly c), rest)
      match first, rest with
      | none, _ => []
      | some e, '*' :: rest => (e, true) :: itemsFrom fuel rest
      | some e, rest => (e, false) :: itemsFrom fuel rest

/-- Reads an expression; a `fixed` one stands for itself. -/
def ofText (fixed : Bool) (t : Text) : LinePattern :=
  if fixed then ⟨false, t.map (fun c => (.exactly c, false)), false⟩
  else
    let atStart := t.head? == some '^'
    let atEnd := t.getLast? == some '$'
    let body := (if atStart then t.drop 1 else t)
    let body := if atEnd then body.dropLast else body
    ⟨atStart, itemsFrom (body.length + 1) body, atEnd⟩

/-- Whether items fit the start of a text, or the whole of it. -/
def startsWith (whole : Bool) : List (Pattern.Element × Bool) → Text → Bool
  | [], t => !whole || t.isEmpty
  | (e, true) :: is, c :: cs =>
      startsWith whole is (c :: cs) || (e.admits c && startsWith whole ((e, true) :: is) cs)
  | (_, true) :: is, [] => startsWith whole is []
  | (e, false) :: is, c :: cs => e.admits c && startsWith whole is cs
  | (_, false) :: _, [] => false
termination_by is t => (is.length, t.length)

/-- Whether a line holds what is searched for. -/
def occursIn (p : LinePattern) (line : Text) : Bool :=
  if p.atStart then startsWith p.atEnd p.items line
  else (List.range (line.length + 1)).any fun n => startsWith p.atEnd p.items (line.drop n)

end LinePattern

/-- Lines that hold an expression, or their number. -/
def grep : Utility := fun args => do
  let (os, words) := options args
  match words with
  | [] => pure 2
  | expression :: files => do
      let (bs, ok) ← contents "grep" files
      let fold (t : Text) : Text := if hasOption os 'i' then t.map Char.toLower else t
      let p := LinePattern.ofText (hasOption os 'F') (fold expression)
      let found := (byteLines bs).filter fun l =>
        p.occursIn (fold (Text.decodeLossy l)) != hasOption os 'v'
      if hasOption os 'c' then Work.putLine (Session.number found.length)
      else if !hasOption os 'q' then Work.putBytes (joinLines found)
      pure (if !ok then 2 else if found.isEmpty then 1 else 0)

/-! ## Numbers -/

/-- Numbers from a first to a last one, by steps. -/
def seq : Utility := fun args => do
  let numbers := args.filterMap fun t => (String.ofList t).toInt?
  let (low, step, high) : Int × Int × Int := match numbers with
    | [n] => (1, 1, n)
    | [a, b] => (a, 1, b)
    | a :: s :: b :: _ => (a, s, b)
    | [] => (1, 1, 0)
  let count := if step = 0 then 0 else ((high - low).tdiv step + 1).toNat
  let isForward := if step > 0 then low ≤ high else high ≤ low
  (List.range (if isForward then count else 0)).forM fun i =>
    Work.putLine (toString (low + step * i)).toList
  pure 0

end Utility

end UnitReview.Shell
