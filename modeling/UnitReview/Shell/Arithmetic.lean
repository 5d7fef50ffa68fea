import UnitReview.Text.Basic

/-!
# Arithmetic

Expressions over whole numbers of 64 bits. Names stand for the numbers that their values spell;
what spells none stands for zero.
-/

set_option autoImplicit false

namespace UnitReview.Shell

namespace Arithmetic

/-- Why an expression has no value. -/
inductive Fault where
  | divisionByZero
  | malformed
  deriving Repr, DecidableEq, Inhabited

/-- The fault in words. -/
def Fault.message : Fault → String
  | .divisionByZero => "division by zero"
  | .malformed => "expecting primary"

/-- A token of an expression. -/
inductive Token where
  | number (n : Int)
  | name (t : Text)
  | operator (t : Text)
  deriving Repr, DecidableEq, Inhabited

/-- The value of digits in a base. -/
def ofDigits (base : Nat) (cs : Text) : Option Nat :=
  cs.foldlM (fun n c =>
    let d := if c.isDigit then c.toNat - '0'.toNat
      else if c.isAlpha then c.toLower.toNat - 'a'.toNat + 10 else base
    if d < base then some (n * base + d) else none) 0

/-- A number: a zero in front makes it octal, `0x` makes it hexadecimal. -/
def number? : Text → Option Int
  | '-' :: cs => (ofDigits 10 cs).map fun n => -(n : Int)
  | '0' :: 'x' :: cs => (ofDigits 16 cs).map Int.ofNat
  | '0' :: cs => (ofDigits 8 cs).map Int.ofNat
  | cs => (ofDigits 10 cs).map Int.ofNat

/-- Operators of two characters. -/
def wideOperators : List Text :=
  ["||", "&&", "==", "!=", "<=", ">=", "<<", ">>"].map String.toList

/-- The tokens of an expression. A malformed number is an operator that does not exist. -/
def tokens : Nat → Text → List Token
  | 0, _ => []
  | fuel + 1, cs =>
      match cs with
      | [] => []
      | c :: rest =>
          if c == ' ' || c == '\t' || c == '\n' then tokens fuel rest
          else if c.isAlphanum || c == '_' then
            let word := cs.takeWhile fun c => c.isAlphanum || c == '_'
            let first : Token :=
              if c.isDigit then ((number? word).map .number).getD (.operator word) else .name word
            first :: tokens fuel (cs.drop word.length)
          else if wideOperators.contains (cs.take 2) then
            .operator (cs.take 2) :: tokens fuel (cs.drop 2)
          else .operator [c] :: tokens fuel rest

/-- How tightly an operator binds, from one upwards. -/
def tightness (op : String) : Option Nat :=
  let levels : List (List String) :=
    [["||"], ["&&"], ["|"], ["^"], ["&"], ["==", "!="], ["<", "<=", ">", ">="], ["<<", ">>"],
      ["+", "-"], ["*", "/", "%"]]
  (levels.findIdx? (·.contains op)).map (· + 1)

/-- A number of 64 bits. -/
def wrap (n : Int) : Int := n.bmod 0x10000000000000000

/-- A truth value as a number. -/
def truth (b : Bool) : Int := if b then 1 else 0

/-- A number as bits. -/
def bits (n : Int) : BitVec 64 := BitVec.ofInt 64 n

/-- Applies an operator; there is no division by zero. -/
def apply (op : String) (a b : Int) : Except Fault Int :=
  match op with
  | "||" => .ok (truth (a != 0 || b != 0))
  | "&&" => .ok (truth (a != 0 && b != 0))
  | "|" => .ok (bits a ||| bits b).toInt
  | "^" => .ok (bits a ^^^ bits b).toInt
  | "&" => .ok (bits a &&& bits b).toInt
  | "==" => .ok (truth (a == b))
  | "!=" => .ok (truth (a != b))
  | "<" => .ok (truth (a < b))
  | "<=" => .ok (truth (a ≤ b))
  | ">" => .ok (truth (a > b))
  | ">=" => .ok (truth (a ≥ b))
  | "<<" => .ok (wrap (a * (1 <<< (b.toNat % 64) : Nat)))
  | ">>" => .ok (a / (1 <<< (b.toNat % 64) : Nat))
  | "+" => .ok (wrap (a + b))
  | "-" => .ok (wrap (a - b))
  | "*" => .ok (wrap (a * b))
  | "/" => if b = 0 then .error .divisionByZero else .ok (a.tdiv b)
  | "%" => if b = 0 then .error .divisionByZero else .ok (a.tmod b)
  | _ => .error .malformed

/-- Rules of the grammar. -/
inductive Rule where
  /-- An operand with the operators that bind at least so tightly. -/
  | binary (least : Nat)
  /-- What follows an operand. -/
  | operators (least : Nat) (left : Int)
  | operand

/-- Evaluates by a rule and gives back the tokens that are left. -/
def evaluate (value : Text → Int) : Nat → Rule → List Token → Except Fault (Int × List Token)
  | 0, _, _ => .error .malformed
  | fuel + 1, r, ts => do
      match r with
      | .binary least =>
          let (a, ts) ← evaluate value fuel .operand ts
          evaluate value fuel (.operators least a) ts
      | .operators least a =>
          match ts with
          | .operator ['?'] :: rest =>
              if least > 0 then pure (a, ts)
              else
                let (yes, rest) ← evaluate value fuel (.binary 0) rest
                match rest with
                | .operator [':'] :: rest =>
                    let (no, rest) ← evaluate value fuel (.binary 0) rest
                    pure (if a != 0 then yes else no, rest)
                | _ => throw .malformed
          | .operator op :: rest =>
              match (tightness (String.ofList op)).filter (least ≤ ·) with
              | some t =>
                  let (b, rest) ← evaluate value fuel (.binary (t + 1)) rest
                  evaluate value fuel (.operators least (← apply (String.ofList op) a b)) rest
              | none => pure (a, ts)
          | _ => pure (a, ts)
      | .operand =>
          match ts with
          | .number n :: rest => pure (n, rest)
          | .name t :: rest => pure (value t, rest)
          | .operator ['('] :: rest =>
              match ← evaluate value fuel (.binary 0) rest with
              | (a, .operator [')'] :: rest) => pure (a, rest)
              | _ => throw .malformed
          | .operator op :: rest =>
              let (a, rest) ← evaluate value fuel .operand rest
              match op with
              | ['-'] => pure (wrap (-a), rest)
              | ['+'] => pure (a, rest)
              | ['!'] => pure (truth (a == 0), rest)
              | ['~'] => pure (-a - 1, rest)
              | _ => throw .malformed
          | [] => throw .malformed

/-- The value of an expression, by the values of names. -/
def eval (value : Text → Int) (t : Text) : Except Fault Int := do
  let ts := tokens (t.length + 1) t
  if ts.isEmpty then pure 0
  else
    match ← evaluate value (4 * ts.length + 4) (.binary 0) ts with
    | (n, []) => pure n
    | _ => throw .malformed

end Arithmetic

end UnitReview.Shell
