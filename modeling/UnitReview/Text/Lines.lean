import UnitReview.Text.Blank

/-!
# Lines

A line ends at a line feed, or at a carriage return and a line feed. The end of the text ends
the last line too, but an empty rest is no line, and a carriage return there belongs to the line.
-/

set_option autoImplicit false

namespace UnitReview

namespace Text

/-- The lines of a text, given the part of the current line already read, last character first. -/
def linesFrom : Text → Text → List Text
  | [], [] => []
  | acc, [] => [acc.reverse]
  | acc, c :: cs =>
      if c = '\n' then
        (match acc with
          | '\r' :: rest => rest.reverse
          | _ => acc.reverse) :: linesFrom [] cs
      else linesFrom (c :: acc) cs

/-- The lines of a text, without their ends. -/
def lines (cs : Text) : List Text := linesFrom [] cs

/-- Number of lines that hold something other than blanks. -/
def nonBlankLines (cs : Text) : Nat := (lines cs).countP (fun l => !isBlankText l)

end Text

end UnitReview
