import UnitReview.Text.Search

/-!
# Search without regard to letter case

Two characters match without regard to case when their simple case foldings are equal. The
words searched for are ASCII, so only the foldings into ASCII matter: those of the capital
letters, of the long s (U+017F) and of the Kelvin sign (U+212A).
-/

set_option autoImplicit false

namespace UnitReview

/-- Simple case folding, as far as it leads into ASCII. -/
def foldCase (c : Char) : Char :=
  if c = 'ſ' then 's' else if c = 'K' then 'k' else c.toLower

namespace Text

/-- Whether a word of small ASCII letters occurs in a text, letter case aside. -/
def containsFolded (word cs : Text) : Bool := contains word (cs.map foldCase)

/-- Whether one of several words of small ASCII letters occurs in a text, letter case aside. -/
def containsAnyFolded (words : List Text) (cs : Text) : Bool := words.any (containsFolded · cs)

/-- The text with its ASCII capitals made small. No other character has a lower-case form
made of ASCII letters alone, except the Kelvin sign (k): a comparison with a word
without k may use this in place of the full mapping. -/
def lower (cs : Text) : Text := cs.map Char.toLower

end Text

end UnitReview
