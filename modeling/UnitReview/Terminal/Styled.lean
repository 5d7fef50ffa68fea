import UnitReview.Text.Search

/-!
# Styled text

What a report prints is a list of pieces, each a text in a style. With colours on, a styled piece
stands between an escape that sets its style and one that resets it; a reset inside the piece is
followed by the piece's own escape again. With colours off only the texts are printed. A piece
can be filled up with blanks to a width, inside its escapes.
-/

set_option autoImplicit false

namespace UnitReview

/-- The colours in use. -/
inductive Colour where
  | red
  | green
  | yellow
  | blue
  | cyan
  deriving Repr, DecidableEq

/-- The number of a colour in an escape. -/
def Colour.code : Colour → String
  | .red => "31"
  | .green => "32"
  | .yellow => "33"
  | .blue => "34"
  | .cyan => "36"

/-- How a piece of text looks. -/
structure Style where
  bold : Bool
  dimmed : Bool
  colour : Option Colour
  deriving Repr, DecidableEq

namespace Style

/-- No style at all. -/
def plain : Style := ⟨false, false, none⟩

/-- Only a colour. -/
def of (c : Colour) : Style := ⟨false, false, some c⟩

/-- Heavy text. -/
def heavy : Style := ⟨true, false, none⟩

/-- Faint text. -/
def faint : Style := ⟨false, true, none⟩

/-- The numbers of a style, in the order in which they stand in its escape. -/
def codes (s : Style) : List String :=
  (if s.bold then ["1"] else []) ++ (if s.dimmed then ["2"] else [])
    ++ (s.colour.map Colour.code).toList

/-- The escape that sets a style. -/
def escape (s : Style) : Text := (Char.ofNat 27) :: '[' :: (";".intercalate s.codes).toList ++ ['m']

end Style

/-- The escape that resets all styles. -/
def resetEscape : Text := [Char.ofNat 27, '[', '0', 'm']

/-- A text in a style, filled up with blanks to a width. -/
structure Piece where
  style : Style
  width : Nat
  text : Text
  deriving Repr, DecidableEq

namespace Piece

/-- Fills a text up with blanks to a width counted in characters. -/
def fill (width : Nat) (t : Text) : Text := t ++ List.replicate (width - t.length) ' '

/-- Writes `mark` again after every reset in a text, the first `skip` characters being part of
a reset already found. -/
def restyleFrom (mark : Text) : Nat → Text → Text
  | 0, [] => []
  | 0, c :: cs =>
      if resetEscape.isPrefixOf (c :: cs) then c :: restyleFrom mark 3 cs
      else c :: restyleFrom mark 0 cs
  | _ + 1, [] => []
  | 1, c :: cs => c :: (mark ++ restyleFrom mark 0 cs)
  | skip + 2, c :: cs => c :: restyleFrom mark (skip + 1) cs

/-- Writes `mark` again after every reset in a text. -/
def restyle (mark t : Text) : Text := restyleFrom mark 0 t

/-- A piece as it is printed. -/
def render (colours : Bool) (p : Piece) : Text :=
  if colours && !p.style.codes.isEmpty then
    p.style.escape ++ fill p.width (restyle p.style.escape p.text) ++ resetEscape
  else fill p.width p.text

end Piece

/-- What a report prints. -/
abbrev Styled := List Piece

namespace Styled

/-- A text without a style. -/
def plain (s : String) : Styled := [⟨.plain, 0, s.toList⟩]

/-- A text in a style. -/
def styled (style : Style) (t : Text) : Styled := [⟨style, 0, t⟩]

/-- The end of a line. -/
def newLine : Styled := plain "\n"

/-- A report as it is printed. -/
def render (colours : Bool) (s : Styled) : Text := s.flatMap (Piece.render colours)

end Styled

end UnitReview
