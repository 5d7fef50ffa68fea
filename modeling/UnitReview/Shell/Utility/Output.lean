import UnitReview.Shell.Utility.Basic

/-!
# Utilities that write text

Texts may hold escapes, which stand for single bytes. A format also holds directives, each of
which takes an argument; it is used again as long as there are arguments.
-/

set_option autoImplicit false

namespace UnitReview.Shell

open Host

namespace Utility

/-! ## Escapes -/

/-- The value of up to `n` octal digits, and what follows. -/
def octal : Nat → Nat → Text → Nat × Text
  | 0, v, cs => (v, cs)
  | n + 1, v, cs =>
      match cs with
      | c :: rest =>
          if '0' ≤ c && c ≤ '7' then octal n (v * 8 + (c.toNat - '0'.toNat)) rest else (v, cs)
      | [] => (v, cs)

/-- Escapes of one letter. -/
def letterEscapes : List (Char × Nat) :=
  [('\\', 92), ('a', 7), ('b', 8), ('f', 12), ('n', 10), ('r', 13), ('t', 9), ('v', 11)]

/-- Text with escapes as bytes. With `zero`, octal escapes may start with a further zero, and
`\c` ends the output; the result says whether it did. -/
def unescape (zero : Bool) : Nat → Text → Text.Bytes → Text.Bytes × Bool
  | 0, _, acc => (acc, false)
  | fuel + 1, cs, acc =>
      match cs with
      | [] => (acc, false)
      | '\\' :: c :: rest =>
          if zero && c == 'c' then (acc, true)
          else if zero && c == '0' then
            let (v, rest) := octal 3 0 rest
            unescape zero fuel rest (acc ++ [UInt8.ofNat v])
          else if '0' ≤ c && c ≤ '7' then
            let (v, rest) := octal 3 0 (c :: rest)
            unescape zero fuel rest (acc ++ [UInt8.ofNat v])
          else
            match letterEscapes.lookup c with
            | some v => unescape zero fuel rest (acc ++ [UInt8.ofNat v])
            | none => unescape zero fuel (c :: rest) (acc ++ [92])
      | c :: rest => unescape zero fuel rest (acc ++ Text.encode [c])

/-! ## Output -/

/-- Words with blanks between them and escapes, and a line end unless `-n` is given. -/
def echo : Utility := fun args => do
  let quiet := args.head? == some ['-', 'n']
  let t := [' '].intercalate (if quiet then args.drop 1 else args)
  let (bs, stopped) := unescape true (t.length + 1) t []
  Work.putBytes (if quiet || stopped then bs else bs ++ [10])
  pure 0

/-! ## Formats -/

/-- A directive of a format. -/
structure Directive where
  /-- Whether the text is put to the left of its field. -/
  left : Bool
  /-- Whether a number is filled up with zeros. -/
  zeros : Bool
  width : Nat
  precision : Option Nat
  letter : Char
  deriving Repr, DecidableEq, Inhabited

namespace Directive

/-- A number in front of a text, and what follows it. -/
def number (cs : Text) : Nat × Text :=
  (((String.ofList (cs.takeWhile Char.isDigit)).toNat?).getD 0, cs.dropWhile Char.isDigit)

/-- The directive that a text starts with after the percent sign. -/
def read? (cs : Text) : Option (Directive × Text) :=
  let isFlag (c : Char) : Bool := ['-', '0', '+', ' ', '#'].contains c
  let flags := cs.takeWhile isFlag
  let (width, rest) := number (cs.dropWhile isFlag)
  let (precision, rest) := match rest with
    | '.' :: rest =>
        let (n, rest) := number rest
        (some n, rest)
    | rest => (none, rest)
  match rest with
  | letter :: rest =>
      some (⟨List.contains flags '-', List.contains flags '0', width, precision, letter⟩, rest)
  | [] => none

/-- Digits of a number in a base. -/
def digits (base : Nat) (n : Int) : Text :=
  let magnitude := Nat.toDigits base n.natAbs
  if n < 0 then '-' :: magnitude else magnitude

/-- An argument as a number. -/
def integer (arg : Text) : Int := (String.ofList arg).toInt?.getD 0

/-- What an argument is written as, before the field is filled up. -/
def content (d : Directive) (arg : Text) : Text.Bytes :=
  match d.letter with
  | 'b' => (unescape true (arg.length + 1) arg []).1
  | 'c' => Text.encode (arg.take 1)
  | 'd' | 'i' | 'u' => Text.encode (digits 10 (integer arg))
  | 'x' => Text.encode (digits 16 (integer arg))
  | 'X' => Text.encode ((digits 16 (integer arg)).map Char.toUpper)
  | 'o' => Text.encode (digits 8 (integer arg))
  | _ =>
      match d.precision with
      | some n => (Text.encode arg).take n
      | none => Text.encode arg

/-- An argument in its field. -/
def apply (d : Directive) (arg : Text) : Text.Bytes :=
  let bs := d.content arg
  let isNumber := ['d', 'i', 'u', 'x', 'X', 'o'].contains d.letter
  let fill (b : UInt8) : Text.Bytes := List.replicate (d.width - bs.length) b
  if d.left then bs ++ fill 32
  else if d.zeros && isNumber then
    match bs with
    | 45 :: rest => 45 :: (fill 48 ++ rest)
    | bs => fill 48 ++ bs
  else fill 32 ++ bs

end Directive

/-- Goes once through a format: what it writes, the arguments that are left, and whether any were
asked for. -/
def format : Nat → Text → List Text → Bool → Text.Bytes → Text.Bytes × List Text × Bool
  | 0, _, args, used, acc => (acc, args, used)
  | fuel + 1, cs, args, used, acc =>
      match cs with
      | [] => (acc, args, used)
      | '%' :: '%' :: rest => format fuel rest args used (acc ++ [37])
      | '%' :: rest =>
          match Directive.read? rest with
          | some (d, rest) =>
              format fuel rest (args.drop 1) true (acc ++ d.apply (args.head?.getD []))
          | none => (acc, args, used)
      | _ =>
          let plain := cs.takeWhile (· != '%')
          format fuel (cs.drop plain.length) args used
            (acc ++ (unescape false (plain.length + 1) plain []).1)

/-- Goes through a format as long as there are arguments. -/
def formatAll : Nat → Text → List Text → Text.Bytes → Text.Bytes
  | 0, _, _, acc => acc
  | fuel + 1, f, args, acc =>
      let (bs, left, used) := format (f.length + 1) f args false acc
      if used && !left.isEmpty then formatAll fuel f left bs else bs

/-- Formatted output. -/
def printf : Utility := fun args => do
  match if args.head? == some ['-', '-'] then args.drop 1 else args with
  | [] => pure 2
  | f :: args => do
      Work.putBytes (formatAll (args.length + 1) f args [])
      pure 0

end Utility

end UnitReview.Shell
