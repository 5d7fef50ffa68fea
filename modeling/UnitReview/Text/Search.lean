import UnitReview.Text.Blank

/-!
# Searching a text

Plain substring search: whether a word occurs, how often it occurs when occurrences may not
overlap, and the split of a text at the first occurrence of a separator.
-/

set_option autoImplicit false

namespace UnitReview

namespace Text

/-- Whether `word` occurs in a text. -/
def contains (word : Text) : Text → Bool
  | [] => word.isEmpty
  | c :: cs => word.isPrefixOf (c :: cs) || contains word cs

/-- Whether some of the words occurs in a text. -/
def containsAny (words : List Text) (cs : Text) : Bool := words.any (contains · cs)

/-- Occurrences of `word` after the next `skip` characters, found from left to right; an
occurrence is stepped over as a whole. -/
def occurrencesFrom (word : Text) : Nat → Text → Nat
  | _, [] => 0
  | skip + 1, _ :: cs => occurrencesFrom word skip cs
  | 0, c :: cs =>
      if word.isPrefixOf (c :: cs) then occurrencesFrom word (word.length - 1) cs + 1
      else occurrencesFrom word 0 cs

/-- Number of occurrences of `word` that do not overlap, found from left to right. -/
def occurrences (word : Text) (cs : Text) : Nat := occurrencesFrom word 0 cs

/-- Occurrences of all words together. -/
def countOccurrences (cs : Text) (words : List Text) : Nat :=
  words.foldr (fun word n => occurrences word cs + n) 0

/-- The text before and after the first occurrence of `sep`. -/
def splitOnce? (sep : Text) : Text → Option (Text × Text)
  | [] => none
  | c :: cs =>
      if sep.isPrefixOf (c :: cs) then some ([], (c :: cs).drop sep.length)
      else (splitOnce? sep cs).map fun p => (c :: p.1, p.2)

/-- Whether the text, less the blanks at its end, ends with one of the words. -/
def endsWithAny (cs : Text) (words : List Text) : Bool :=
  words.any (·.isSuffixOf (trimEnd cs))

theorem contains_eq_true_iff {word cs : Text} :
    contains word cs = true ↔ ∃ a b, cs = a ++ word ++ b := by
  induction cs with
  | nil =>
      simp only [contains, List.isEmpty_iff]
      constructor
      · rintro rfl; exact ⟨[], [], rfl⟩
      · rintro ⟨a, b, h⟩
        have h' := congrArg List.length h
        simp only [List.length_nil, List.length_append] at h'
        exact List.length_eq_zero_iff.mp (by omega)
  | cons c cs ih =>
      simp only [contains, Bool.or_eq_true, ih, List.isPrefixOf_iff_prefix]
      constructor
      · rintro (⟨b, hb⟩ | ⟨a, b, rfl⟩)
        · exact ⟨[], b, by simpa using hb.symm⟩
        · exact ⟨c :: a, b, rfl⟩
      · rintro ⟨a, b, h⟩
        cases a with
        | nil => exact Or.inl ⟨b, by simpa using h.symm⟩
        | cons d a =>
            simp only [List.cons_append, List.cons.injEq] at h
            exact Or.inr ⟨a, b, h.2⟩

end Text

end UnitReview
