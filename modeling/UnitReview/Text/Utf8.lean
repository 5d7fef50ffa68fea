import UnitReview.Text.Basic

/-!
# Texts as bytes

The UTF-8 form of a text, and two ways back. `decode?` accepts only what `encode` produces.
`decodeLossy` accepts all bytes: each longest stretch that could have started a character but did
not end one, and each byte that starts none, is read as the replacement character. `stretches` keeps
these bytes apart from the characters instead.
-/

set_option autoImplicit false

namespace UnitReview.Text

/-- A file's content. -/
abbrev Bytes := List UInt8

/-- The UTF-8 form of a text. -/
def encode (t : Text) : Bytes := t.flatMap String.utf8EncodeChar

/-- The character that stands for bytes that are none. -/
def replacement : Char := Char.ofNat 0xFFFD

/-- Whether a byte may follow in a character. -/
def isContinuation (b : UInt8) : Bool := 0x80 ≤ b && b ≤ 0xBF

/-- What may follow a first byte: the number of further bytes and the range of the next one;
`none` for a byte that starts no character of more than one byte. The ranges leave out forms that
are too long, surrogates and numbers past the last character. -/
def leadByte? (b : UInt8) : Option (Nat × UInt8 × UInt8) :=
  if 0xC2 ≤ b && b ≤ 0xDF then some (1, 0x80, 0xBF)
  else if b = 0xE0 then some (2, 0xA0, 0xBF)
  else if b = 0xED then some (2, 0x80, 0x9F)
  else if 0xE1 ≤ b && b ≤ 0xEF then some (2, 0x80, 0xBF)
  else if b = 0xF0 then some (3, 0x90, 0xBF)
  else if 0xF1 ≤ b && b ≤ 0xF3 then some (3, 0x80, 0xBF)
  else if b = 0xF4 then some (3, 0x80, 0x8F)
  else none

/-- The bits of a first byte that belong to the character's number. -/
def leadBits (b : UInt8) (more : Nat) : Nat := b.toNat % (1 <<< (6 - more))

/-- Takes up to `more` further bytes, the first of them in the given range. The result is the
number so far, how many bytes were taken, and whether all were there. -/
def takeFurther : Nat → UInt8 → UInt8 → Nat → Bytes → Nat × Nat × Bool
  | 0, _, _, acc, _ => (acc, 0, true)
  | _ + 1, _, _, acc, [] => (acc, 0, false)
  | more + 1, lo, hi, acc, b :: bs =>
      if lo ≤ b && b ≤ hi then
        let r := takeFurther more 0x80 0xBF (acc * 64 + b.toNat % 64) bs
        (r.1, r.2.1 + 1, r.2.2)
      else (acc, 0, false)

/-- The first character of a sequence of bytes and the number of bytes that it takes. -/
def firstLossy (b : UInt8) (bs : Bytes) : Char × Nat :=
  if b < 0x80 then (Char.ofNat b.toNat, 1)
  else
    match leadByte? b with
    | none => (replacement, 1)
    | some (more, lo, hi) =>
        let r := takeFurther more lo hi (leadBits b more) bs
        (if r.2.2 then Char.ofNat r.1 else replacement, r.2.1 + 1)

/-- Reads bytes as text, at most `fuel` characters. -/
def decodeUpTo : Nat → Bytes → Text
  | 0, _ => []
  | _ + 1, [] => []
  | fuel + 1, b :: bs =>
      let r := firstLossy b bs
      r.1 :: decodeUpTo fuel (bs.drop (r.2 - 1))

/-- Reads any bytes as text. -/
def decodeLossy (bs : Bytes) : Text := decodeUpTo bs.length bs

/-- Reads bytes that are the UTF-8 form of a text. -/
def decode? (bs : Bytes) : Option Text :=
  let t := decodeLossy bs
  if encode t = bs then some t else none

/-! ## Stretches -/

/-- A character, or bytes that are none. -/
inductive Stretch where
  | char (c : Char)
  | broken (bs : Bytes)
  deriving Repr, DecidableEq, Inhabited

/-- The bytes of a stretch. -/
def Stretch.bytes : Stretch → Bytes
  | .char c => String.utf8EncodeChar c
  | .broken bs => bs

/-- The first stretch of a sequence of bytes: where `firstLossy` puts a replacement, the bytes that
it stands for. -/
def firstStretch (b : UInt8) (bs : Bytes) : Stretch :=
  let r := firstLossy b bs
  let taken := (b :: bs).take r.2
  if String.utf8EncodeChar r.1 = taken then .char r.1 else .broken taken

/-- Cuts bytes into stretches, at most `fuel` of them. -/
def stretchesUpTo : Nat → Bytes → List Stretch
  | 0, _ => []
  | _ + 1, [] => []
  | fuel + 1, b :: bs =>
      let s := firstStretch b bs
      s :: stretchesUpTo fuel (bs.drop (s.bytes.length - 1))

/-- Cuts bytes into characters and bytes that are none. -/
def stretches (bs : Bytes) : List Stretch := stretchesUpTo bs.length bs

end UnitReview.Text
