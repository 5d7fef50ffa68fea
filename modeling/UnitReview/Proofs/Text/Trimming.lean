import UnitReview.Text.Blank
import UnitReview.Text.Word

/-!
# Trimming and what it leaves

Trimming takes blanks off the ends of a text. What it takes off is blank, and it stops at the first
character that is not, in particular at every letter, number and underscore: the tables of these and
of blanks have nothing in common. So a part of a text that begins and ends with such characters
(`Solid`) stays whole, and the texts on its two sides are cut down independently.
-/

set_option autoImplicit false

namespace UnitReview

namespace Text

/-! ## Characters of words -/

/-- The code points of blanks. -/
def blankCodes : List Nat :=
  List.range' 9 5 ++ [0x20, 0x85, 0xA0, 0x1680] ++ List.range' 0x2000 11 ++
    [0x2028, 0x2029, 0x202F, 0x205F, 0x3000]

theorem mem_blankCodes {c : Char} (h : isBlank c = true) : c.toNat ∈ blankCodes := by
  simp only [isBlank, Bool.or_eq_true, Bool.and_eq_true, decide_eq_true_eq, beq_iff_eq] at h
  simp only [blankCodes, List.mem_append, List.mem_range'_1, List.mem_cons, List.not_mem_nil,
    or_false]
  omega

/-- Membership in a set of code points, bound by bound along a list, which the kernel can run. -/
theorem inRanges_eq_foldl (bounds : Array Nat) (n : Nat) : inRanges bounds n =
    bounds.toList.foldl (fun inside b => if b ≤ n then !inside else inside) false := by
  rw [inRanges, Array.foldl_toList]

/-- The tables of blanks and of letters and numbers have nothing in common. -/
theorem not_alphanumeric_blankCodes : ∀ n ∈ blankCodes, Char.ofNat n ≠ '_' ∧
    (if n < 128 then (Char.ofNat n).isAlphanum
      else alphanumericBounds.toList.foldl
        (fun inside b => if b ≤ n then !inside else inside) false) = false := by
  decide +kernel

/-- **No character of a word is blank.** -/
theorem isBlank_eq_false {c : Char} (h : isWordChar c = true) : isBlank c = false := by
  rw [← Bool.not_eq_true]
  intro hblank
  obtain ⟨hscore, htable⟩ := not_alphanumeric_blankCodes _ (mem_blankCodes hblank)
  rw [Char.ofNat_toNat] at hscore htable
  rw [isWordChar, isAlphanumeric, inRanges_eq_foldl, htable, beq_false_of_ne hscore] at h
  cases h

theorem beq_eq_false_of_isWordChar {c q : Char} (hc : isWordChar c = true)
    (hq : isWordChar q = false) : (c == q) = false := by
  rw [beq_eq_false_iff_ne]
  rintro rfl
  rw [hc] at hq
  cases hq

/-! ## Taking characters off the ends -/

section Ends

variable {q : Char → Bool} {c : Char}

theorem dropWhile_append_cons (hc : q c = false) (l r : Text) :
    (l ++ c :: r).dropWhile q = l.dropWhile q ++ c :: r := by
  induction l with
  | nil => exact List.dropWhile_cons_of_neg (by simp [hc])
  | cons d l ih =>
      rw [List.cons_append, List.dropWhile_cons, List.dropWhile_cons]
      split
      · exact ih
      · rfl

theorem reverse_dropWhile_append_cons (hc : q c = false) (l r : Text) :
    ((l ++ c :: r).reverse.dropWhile q).reverse = l ++ c :: (r.reverse.dropWhile q).reverse := by
  have hreverse : (l ++ c :: r).reverse = r.reverse ++ c :: l.reverse := by simp
  rw [hreverse, dropWhile_append_cons hc]
  simp

theorem dropWhile_eq_nil {t : Text} (h : ∀ d ∈ t, q d = true) : t.dropWhile q = [] := by
  rw [← List.append_nil t, List.dropWhile_append_of_pos h, List.dropWhile_nil]

end Ends

/-! ## Blank texts -/

theorem isBlankText_iff {t : Text} : isBlankText t = true ↔ ∀ c ∈ t, isBlank c = true :=
  List.all_eq_true

theorem trimStart_eq_nil {t : Text} (h : isBlankText t = true) : trimStart t = [] :=
  dropWhile_eq_nil (isBlankText_iff.1 h)

theorem isBlankText_reverse (t : Text) : isBlankText t.reverse = isBlankText t := List.all_reverse

theorem trimEnd_eq_nil {t : Text} (h : isBlankText t = true) : trimEnd t = [] := by
  have hreverse := trimStart_eq_nil ((isBlankText_reverse t).trans h)
  exact congrArg List.reverse hreverse

/-- What is left of blanks is blank. -/
theorem isBlankText_dropWhile {t : Text} (q : Char → Bool) (h : isBlankText t = true) :
    isBlankText (t.dropWhile q) = true :=
  isBlankText_iff.2 fun c hc => isBlankText_iff.1 h c ((List.dropWhile_suffix q).subset hc)

/-- A text is its trimmed form with blanks on either side. -/
theorem exists_trim (t : Text) : ∃ before after, isBlankText before = true ∧
    isBlankText after = true ∧ t = before ++ trim t ++ after := by
  have hstart : t.takeWhile isBlank ++ trimStart t = t := List.takeWhile_append_dropWhile
  have hend : trimEnd (trimStart t) ++ ((trimStart t).reverse.takeWhile isBlank).reverse =
      trimStart t := by
    rw [trimEnd, ← List.reverse_append, List.takeWhile_append_dropWhile, List.reverse_reverse]
  refine ⟨t.takeWhile isBlank, ((trimStart t).reverse.takeWhile isBlank).reverse,
    List.all_takeWhile, ?_, ?_⟩
  · rw [isBlankText_reverse]
    exact List.all_takeWhile
  · rw [List.append_assoc, Text.trim, hend, hstart]

/-! ## Solid parts -/

/-- A word: at least one character, and only letters, numbers and underscores. -/
structure IsWord (p : Text) : Prop where
  ne_nil : p ≠ []
  all_wordChar : ∀ c ∈ p, isWordChar c = true

/-- A text that begins and ends with a character of a word. -/
def Solid (t : Text) : Prop :=
  (∃ c r, isWordChar c = true ∧ t = c :: r) ∧ ∃ l c, isWordChar c = true ∧ t = l ++ [c]

theorem IsWord.solid {p : Text} (h : IsWord p) : Solid p := by
  constructor
  · obtain ⟨c, r, rfl⟩ := List.exists_cons_of_ne_nil h.ne_nil
    exact ⟨c, r, h.all_wordChar c List.mem_cons_self, rfl⟩
  · have hlast := List.dropLast_concat_getLast h.ne_nil
    exact ⟨_, _, h.all_wordChar _ (List.getLast_mem h.ne_nil), hlast.symm⟩

theorem Solid.append {a b : Text} (ha : Solid a) (hb : Solid b) (m : Text) :
    Solid (a ++ m ++ b) := by
  obtain ⟨c, r, hc, rfl⟩ := ha.1
  obtain ⟨l, d, hd, rfl⟩ := hb.2
  exact ⟨⟨c, r ++ m ++ (l ++ [d]), hc, by simp⟩, ⟨c :: r ++ m ++ l, d, hd, by simp⟩⟩

section Solid

variable {core : Text} (h : Solid core) (l r : Text)
include h

theorem Solid.dropWhile {q : Char → Bool} (hq : ∀ c, isWordChar c = true → q c = false) :
    (l ++ core ++ r).dropWhile q = l.dropWhile q ++ core ++ r := by
  obtain ⟨c, rest, hc, rfl⟩ := h.1
  rw [List.append_assoc, List.cons_append, dropWhile_append_cons (hq c hc), List.append_assoc,
    List.cons_append]

theorem Solid.reverse_dropWhile {q : Char → Bool} (hq : ∀ c, isWordChar c = true → q c = false) :
    ((l ++ core ++ r).reverse.dropWhile q).reverse =
      l ++ core ++ (r.reverse.dropWhile q).reverse := by
  obtain ⟨front, c, hc, rfl⟩ := h.2
  have hsplit (t : Text) : l ++ (front ++ [c]) ++ t = (l ++ front) ++ c :: t := by simp
  rw [hsplit, reverse_dropWhile_append_cons (hq c hc), hsplit]

/-- **Trimming** goes on up to the solid part, from either side. -/
theorem Solid.trim : trim (l ++ core ++ r) = trimStart l ++ core ++ trimEnd r := by
  have hblank : ∀ c, isWordChar c = true → isBlank c = false := fun _ => isBlank_eq_false
  rw [Text.trim, trimStart, h.dropWhile l r hblank, trimEnd, h.reverse_dropWhile _ r hblank]
  rfl

end Solid

end Text

end UnitReview
