/-!
# Shortest decimals of binary fractions

The decimal shown for a finite double is the shortest one that reads back as the same double,
and among those of equal length the nearest. It is found by trying 1, 2, … 17 digits: of the
decimals with that many digits only the two next to the value can lie in the interval of reals
that round to the double.
-/

set_option autoImplicit false

namespace UnitReview.Decimal

/-- A positive decimal: its digits as a number, and the power of ten of its last digit. -/
structure Digits where
  digits : Nat
  exponent : Int
  deriving Repr, DecidableEq, Inhabited

/-- A fraction of naturals. -/
structure Ratio where
  num : Nat
  den : Nat
  deriving Repr

/-- `m · b ^ e` as a fraction. -/
def Ratio.scaled (m b : Nat) (e : Int) : Ratio :=
  if 0 ≤ e then ⟨m * b.pow e.toNat, 1⟩ else ⟨m, b.pow (-e).toNat⟩

/-- Whether the first fraction is below the second. -/
def Ratio.lt (a b : Ratio) : Bool := a.num * b.den < b.num * a.den

/-- The interval of reals that round to `m · 2 ^ q`; the ends belong to it iff `m` is even. -/
structure Rounding where
  low : Ratio
  high : Ratio
  closed : Bool

/-- The bit of a double that is set in every normal one and not stored: the 52nd. -/
def hiddenBit : Nat := 1 <<< 52

/-- The rounding interval of `m · 2 ^ q`. Below a power of two the next double is nearer. -/
def Rounding.of (m : Nat) (q : Int) : Rounding :=
  let boundary := m = hiddenBit ∧ q > -1074
  { low := if boundary then .scaled (4 * m - 1) 2 (q - 2) else .scaled (2 * m - 1) 2 (q - 1)
    high := .scaled (2 * m + 1) 2 (q - 1)
    closed := m % 2 == 0 }

/-- Whether a fraction lies in a rounding interval. -/
def Rounding.holds (r : Rounding) (x : Ratio) : Bool :=
  if r.closed then !x.lt r.low && !r.high.lt x else r.low.lt x && x.lt r.high

/-- The power of ten of the first digit of a positive fraction. -/
def magnitude (x : Ratio) : Int :=
  let size (n : Nat) : Int := (Nat.toDigits 10 n).length
  let guess := size x.num - size x.den
  if x.lt (.scaled 1 10 guess) then guess - 1 else guess

/-- The best decimal of `n` digits for `x`, if one reads back. -/
def withDigits? (r : Rounding) (x : Ratio) (n : Nat) : Option Digits :=
  let e := magnitude x - (n : Int) + 1
  let unit := Ratio.scaled 1 10 e
  let below := (x.num * unit.den) / (x.den * unit.num)
  let read (d : Nat) : Bool := 0 < d && r.holds (.scaled d 10 e)
  let remainder := (x.num * unit.den) % (x.den * unit.num)
  let upper := 2 * remainder > x.den * unit.num
  match read below, read (below + 1) with
  | true, true => some ⟨if upper then below + 1 else below, e⟩
  | true, false => some ⟨below, e⟩
  | false, true => some ⟨below + 1, e⟩
  | false, false => none

/-- The shortest decimal that reads back as `m · 2 ^ q`. -/
def shortest (m : Nat) (q : Int) : Digits :=
  let x := Ratio.scaled m 2 q
  ((List.range 17).findSome? fun n => withDigits? (Rounding.of m q) x (n + 1)).getD ⟨m, 0⟩

/-- Drops the zeros at the end of a decimal. -/
def dropZeros : Nat → Digits → Digits
  | 0, d => d
  | n + 1, d => if d.digits % 10 = 0 then dropZeros n ⟨d.digits / 10, d.exponent + 1⟩ else d

/-- Which decimals are written without an exponent: those whose first digit's power of ten lies
between two bounds. -/
structure Layout where
  lowest : Int
  highest : Int
  deriving Repr, DecidableEq, Inhabited

/-- Very small and very large decimals get an exponent. -/
def Layout.compact : Layout := ⟨-5, 15⟩

/-- No double gets an exponent. -/
def Layout.positional : Layout := ⟨-400, 400⟩

/-- A decimal as text: positional with at least one place where the layout says so, and otherwise
with one digit before the point and a signed exponent. -/
def render (layout : Layout) (d : Digits) : String :=
  let d := dropZeros 20 d
  let digits := Nat.toDigits 10 d.digits
  let first := d.exponent + digits.length - 1
  if 0 ≤ d.exponent && first ≤ layout.highest then
    String.ofList (digits ++ List.replicate d.exponent.toNat '0') ++ ".0"
  else if 0 ≤ first && first ≤ layout.highest then
    String.ofList (digits.take (first.toNat + 1)) ++ "." ++
      String.ofList (digits.drop (first.toNat + 1))
  else if layout.lowest ≤ first && first < 0 then
    "0." ++ String.ofList (List.replicate (-first - 1).toNat '0') ++ String.ofList digits
  else
    let mantissa := match digits with
      | [] => ""
      | [c] => String.ofList [c]
      | c :: cs => String.ofList (c :: '.' :: cs)
    let sign := if first < 0 then "-" else "+"
    mantissa ++ "e" ++ sign ++ toString first.natAbs

/-- A finite double as text. -/
def ofFloat (layout : Layout) (f : Float) : String :=
  let bits := f.toBits.toNat
  let sign := if bits >>> 63 = 1 then "-" else ""
  let biased : Nat := bits / hiddenBit % 2048
  let fraction : Nat := bits % hiddenBit
  if biased = 0 ∧ fraction = 0 then sign ++ "0.0"
  else if biased = 0 then sign ++ render layout (shortest fraction (-1074))
  else sign ++ render layout (shortest (hiddenBit + fraction) ((biased : Int) - 1075))

end UnitReview.Decimal
