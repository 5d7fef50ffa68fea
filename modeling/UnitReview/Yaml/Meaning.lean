import UnitReview.Decimal.Shortest
import UnitReview.Text.Quoted
import UnitReview.Yaml.Document

/-!
# What a scalar means

A plain scalar may mean nothing, a truth value or a number; every other scalar is a text. Whole
numbers may be written with a base, and a number with needless zeros in front is a text. The
meaning is asked for only when a scalar stands where it may not, to say what was found there.
-/

set_option autoImplicit false

namespace UnitReview.Yaml

/-- What a scalar means. -/
inductive Meaning where
  | nothing
  | boolean (b : Bool)
  | integer (n : Int)
  | fraction (f : Float)
  | text (t : Text)

namespace Meaning

/-! ## Whole numbers -/

/-- The value of a digit in any base up to 16. -/
def digitIn? (base : Nat) (c : Char) : Option Nat := (Scan.hexValue? c).filter (· < base)

/-- A number without a sign in a base. -/
def natural? (base : Nat) (cs : Text) : Option Nat :=
  if cs.isEmpty then none
  else cs.foldlM (fun n c => (digitIn? base c).map (n * base + ·)) 0

/-- Marks of bases. -/
def bases : List (Text × Nat) := [(['0', 'x'], 16), (['0', 'o'], 8), (['0', 'b'], 2)]

/-- A number with the mark of a base. -/
def marked? (cs : Text) : Option Nat :=
  bases.findSome? fun b => if b.1.isPrefixOf cs then natural? b.2 (cs.drop 2) else none

/-- Drops a sign. -/
def unsigned : Text → Text
  | '-' :: cs => cs
  | '+' :: cs => cs
  | cs => cs

/-- Whether only digits follow a zero. -/
def hasNeedlessZero (cs : Text) : Bool :=
  match unsigned cs with
  | '0' :: c :: cs => (c :: cs).all Char.isDigit
  | _ => false

/-- The greatest whole number, `2 ^ 128 - 1`. -/
def greatest : Int := 0xFFFFFFFFFFFFFFFFFFFFFFFFFFFFFFFF

/-- The least whole number, `-2 ^ 127`. -/
def least : Int := -0x80000000000000000000000000000000

/-- A whole number: it may have a sign and the mark of a base. -/
def integer? (cs : Text) : Option Int :=
  let body := unsigned cs
  let magnitude := marked? body <|> if hasNeedlessZero cs then none else natural? 10 body
  let n := magnitude.map fun m => if cs.head? == some '-' then -(m : Int) else (m : Int)
  n.filter fun n => least ≤ n && n ≤ greatest

/-! ## Fractions -/

/-- Digits with a point among them: the digits, and how many follow the point. There is at least
one digit. -/
def decimal? (cs : Text) : Option (Text × Nat) :=
  let before := cs.takeWhile Char.isDigit
  match cs.dropWhile Char.isDigit with
  | '.' :: after =>
      if after.all Char.isDigit && !(before.isEmpty && after.isEmpty) then
        some (before ++ after, after.length)
      else none
  | [] => if before.isEmpty then none else some (before, 0)
  | _ => none

/-- An exponent. -/
def exponent? (cs : Text) : Option Int :=
  (natural? 10 (unsigned cs)).map fun n => if cs.head? == some '-' then -(n : Int) else (n : Int)

/-- The double nearest to `m · 10 ^ e`; `none` if it is not finite. -/
def nearest? (m : Nat) (e : Int) : Option Float :=
  let size : Int := (Nat.toDigits 10 m).length + e
  let f : Float :=
    if m = 0 || size < -400 then 0.0
    else if size > 400 then 1.0 / 0.0
    else Float.ofScientific m (e < 0) e.natAbs
  if f.isFinite then some f else none

/-- A decimal number without a sign. -/
def finite? (cs : Text) : Option Float := do
  let isExponent (c : Char) : Bool := c == 'e' || c == 'E'
  let (digits, places) ← decimal? (cs.takeWhile (!isExponent ·))
  let e ← match cs.dropWhile (!isExponent ·) with
    | [] => some 0
    | _ :: r => exponent? r
  let m ← natural? 10 digits
  nearest? m (e - places)

/-- Spellings of infinity. -/
def infinities : List String := [".inf", ".Inf", ".INF"]

/-- Spellings of what is no number. -/
def notNumbers : List String := [".nan", ".NaN", ".NAN"]

/-- A fraction. -/
def fraction? (cs : Text) : Option Float :=
  let s := String.ofList cs
  if notNumbers.contains s then some (0.0 / 0.0)
  else if infinities.contains (String.ofList (unsigned cs)) then
    some (if cs.head? == some '-' then -1.0 / 0.0 else 1.0 / 0.0)
  else (finite? (unsigned cs)).map fun f => if cs.head? == some '-' then -f else f

/-! ## Scalars -/

/-- Spellings of nothing. -/
def nulls : List String := ["null", "Null", "NULL", "~"]

/-- Whether a text is a spelling of nothing. -/
def isNull (cs : Text) : Bool := nulls.contains (String.ofList cs)

/-- A truth value. -/
def boolean? (cs : Text) : Option Bool :=
  let s := String.ofList cs
  if ["true", "True", "TRUE"].contains s then some true
  else if ["false", "False", "FALSE"].contains s then some false
  else none

/-- The meaning of a plain scalar without a tag. -/
def ofPlain (cs : Text) : Meaning :=
  if cs.isEmpty || isNull cs then .nothing
  else
    match boolean? cs, integer? cs with
    | some b, _ => .boolean b
    | none, some n => .integer n
    | none, none =>
        match if hasNeedlessZero cs then none else fraction? cs with
        | some f => .fraction f
        | none => .text cs

/-- How a fraction is written in messages. -/
def showFraction (f : Float) : String :=
  if f.isFinite then Decimal.ofFloat .positional f
  else if f.isNaN then "NaN"
  else if f < 0.0 then "-inf"
  else "inf"

/-- How a whole number is written in messages; a wide one says so. -/
def showInteger (n : Int) : String :=
  let kind :=
    if n < -0x8000000000000000 then " as i128"
    else if n < 0x10000000000000000 then ""
    else " as u128"
  "integer `" ++ toString n ++ "`" ++ kind

/-- How a text is written in messages. -/
def showText (t : Text) : String := "string " ++ String.ofList t.quoted

/-- What was found, in words. -/
def describe : Meaning → String
  | .nothing => "unit value"
  | .boolean b => "boolean `" ++ toString b ++ "`"
  | .integer n => showInteger n
  | .fraction f => "floating point `" ++ showFraction f ++ "`"
  | .text t => showText t

end Meaning

/-! ## Faults for what was found -/

/-- The tag of a standard type. -/
def standardTag (name : String) : Text := ("tag:yaml.org,2002:" ++ name).toList

/-- A value of another type than the expected one. -/
def invalidType (found expected : String) : Fault :=
  .mismatch ("invalid type: " ++ found ++ ", expected " ++ expected) none

/-- A value that its own tag does not allow. -/
def invalidValue (t : Text) (expected : String) : Fault :=
  .mismatch ("invalid value: " ++ Meaning.showText t ++ ", expected " ++ expected) none

/-- The fault for a scalar that stands where it may not. A tag of a standard type has to fit the
text; a local one leaves a plain scalar as it is. -/
def wrongScalar (tag : Option Text) (t : Text) (style : ScalarStyle) (expected : String) : Fault :=
  let wrong (m : Meaning) : Fault := invalidType m.describe expected
  let checked (m : Option Meaning) (type : String) : Fault :=
    match m with
    | some m => wrong m
    | none => invalidValue t type
  match tag with
  | none => wrong (if style == .plain then .ofPlain t else .text t)
  | some g =>
      if g == standardTag "bool" then checked ((Meaning.boolean? t).map .boolean) "a boolean"
      else if g == standardTag "int" then checked ((Meaning.integer? t).map .integer) "an integer"
      else if g == standardTag "float" then checked ((Meaning.fraction? t).map .fraction) "a float"
      else if g == standardTag "null" then
        checked (if Meaning.isNull t then some .nothing else none) "null"
      else if g.head? == some '!' && style == .plain then wrong (.ofPlain t)
      else wrong (.text t)

end UnitReview.Yaml
