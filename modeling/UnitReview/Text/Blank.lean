import UnitReview.Text.Basic

/-!
# Blank characters and trimming

The blank characters are the 25 characters with the Unicode property White_Space. Trimming
removes blanks from the ends of a text; a text is blank when nothing else is in it.
-/

set_option autoImplicit false

namespace UnitReview

/-- The 25 characters of the Unicode property White_Space. -/
def isBlank (c : Char) : Bool :=
  let n := c.toNat
  (9 ≤ n && n ≤ 13) || n == 0x20 || n == 0x85 || n == 0xA0 || n == 0x1680 ||
    (0x2000 ≤ n && n ≤ 0x200A) || n == 0x2028 || n == 0x2029 || n == 0x202F || n == 0x205F ||
    n == 0x3000

namespace Text

/-- The text without the blanks at its start. -/
def trimStart (cs : Text) : Text := cs.dropWhile isBlank

/-- The text without the blanks at its end. -/
def trimEnd (cs : Text) : Text := (cs.reverse.dropWhile isBlank).reverse

/-- The text without the blanks at either end. -/
def trim (cs : Text) : Text := trimEnd (trimStart cs)

/-- A text of blanks only. -/
def isBlankText (cs : Text) : Bool := cs.all isBlank

end Text

end UnitReview
