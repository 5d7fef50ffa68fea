/-!
# Texts and their bytes

A text is a list of characters. Positions in a source unit are counted in bytes of its UTF-8
form, so a text also has a byte length and can be cut at byte offsets. A cut that falls inside
a character, or past the end, is no cut: `dropBytes?`, `takeBytes?` and `slice?` then give `none`.
-/

set_option autoImplicit false

namespace UnitReview

/-- A text as the list of its characters. -/
abbrev Text := List Char

namespace Text

/-- Number of bytes in the UTF-8 form of a text. -/
def byteLength : Text → Nat
  | [] => 0
  | c :: cs => c.utf8Size + byteLength cs

/-- What is left of a text after its first `n` bytes. -/
def dropBytes? : Nat → Text → Option Text
  | 0, cs => some cs
  | _ + 1, [] => none
  | n + 1, c :: cs => if c.utf8Size ≤ n + 1 then dropBytes? (n + 1 - c.utf8Size) cs else none

/-- The first `n` bytes of a text. -/
def takeBytes? : Nat → Text → Option Text
  | 0, _ => some []
  | _ + 1, [] => none
  | n + 1, c :: cs =>
      if c.utf8Size ≤ n + 1 then (takeBytes? (n + 1 - c.utf8Size) cs).map (c :: ·) else none

/-- The part of a text between two byte offsets, the second one excluded. -/
def slice? (start stop : Nat) (cs : Text) : Option Text :=
  if start ≤ stop then (dropBytes? start cs).bind (takeBytes? (stop - start)) else none

theorem byteLength_append (a b : Text) :
    byteLength (a ++ b) = byteLength a + byteLength b := by
  induction a with
  | nil => simp [byteLength]
  | cons c cs ih => simp only [List.cons_append, byteLength, ih]; omega

/-- Cutting after all bytes of the first part gives the second part. -/
theorem dropBytes?_append (a b : Text) : dropBytes? (byteLength a) (a ++ b) = some b := by
  induction a with
  | nil => simp [byteLength, dropBytes?]
  | cons c cs ih =>
      have hc : 0 < c.utf8Size := Char.utf8Size_pos c
      obtain ⟨n, hn⟩ : ∃ n, byteLength (c :: cs) = n + 1 :=
        ⟨byteLength (c :: cs) - 1, by simp only [byteLength]; omega⟩
      have hle : c.utf8Size ≤ n + 1 := by simp only [byteLength] at hn; omega
      have hrest : n + 1 - c.utf8Size = byteLength cs := by simp only [byteLength] at hn; omega
      rw [hn, List.cons_append, dropBytes?, if_pos hle, hrest, ih]

/-- Taking all bytes of the first part gives the first part. -/
theorem takeBytes?_append (a b : Text) : takeBytes? (byteLength a) (a ++ b) = some a := by
  induction a with
  | nil => simp [byteLength, takeBytes?]
  | cons c cs ih =>
      have hc : 0 < c.utf8Size := Char.utf8Size_pos c
      obtain ⟨n, hn⟩ : ∃ n, byteLength (c :: cs) = n + 1 :=
        ⟨byteLength (c :: cs) - 1, by simp only [byteLength]; omega⟩
      have hle : c.utf8Size ≤ n + 1 := by simp only [byteLength] at hn; omega
      have hrest : n + 1 - c.utf8Size = byteLength cs := by simp only [byteLength] at hn; omega
      rw [hn, List.cons_append, takeBytes?, if_pos hle, hrest, ih]
      rfl

end Text

end UnitReview
