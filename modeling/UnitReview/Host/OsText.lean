import UnitReview.Text.Quoted
import UnitReview.Text.Utf8

/-!
# Texts of the system

The system passes paths, names and arguments on as bytes. Most of them are the UTF-8 form of a text,
but nothing makes them so: the name of a file may hold any byte but a slash and the one that ends
texts. A text becomes one of these by `ofString`; the way back is `text?` where it has to be exact
and `display` where it is only to be looked at.
-/

set_option autoImplicit false

namespace UnitReview.Host

/-- A path, a name or an argument as the system has it. -/
@[ext]
structure OsText where
  bytes : Text.Bytes
  deriving Repr, DecidableEq, Inhabited

namespace OsText

/-- A text as the system has it. -/
def ofString (s : String) : OsText := ⟨s.toByteArray.data.toList⟩

instance : Coe String OsText := ⟨ofString⟩

instance : Append OsText := ⟨fun a b => ⟨a.bytes ++ b.bytes⟩⟩

/-- The text that it is the UTF-8 form of, if there is one. -/
def text? (t : OsText) : Option String := (Text.decode? t.bytes).map String.ofList

/-- Whether it is the UTF-8 form of a text. -/
def isText (t : OsText) : Bool := t.text?.isSome

/-- How it is shown: bytes that are no characters are replaced. -/
def display (t : OsText) : String := String.ofList (Text.decodeLossy t.bytes)

/-- Whether there is nothing in it. -/
def isEmpty (t : OsText) : Bool := t.bytes.isEmpty

/-- Whether it holds the byte that ends texts for the system. -/
def hasNul (t : OsText) : Bool := t.bytes.contains 0

/-- A byte between double quotes, by its number. -/
def quotedByte (b : UInt8) : Text :=
  let digit (n : Nat) : Char := (Nat.digitChar n).toUpper
  ['\\', 'x', digit (b.toNat / 16), digit (b.toNat % 16)]

/-- In double quotes, with escapes for what cannot be seen by itself. -/
def quoted (t : OsText) : Text :=
  let shown : Text.Stretch → Text
    | .char c => quotedChar c
    | .broken bs => bs.flatMap quotedByte
  '"' :: (Text.stretches t.bytes).flatMap shown ++ ['"']

end OsText

end UnitReview.Host
