import UnitReview.Proofs.Json.Tokens

/-!
# How lists and objects are laid out

A list or an object is written as its items between two brackets, with commas between the items
and blanks wherever a token ends. `Bracketed` says so for any choice of blanks. The pretty form is
one such choice, so that a reader which copes with all of them copes with it.
-/

set_option autoImplicit false

namespace UnitReview.Json

/-! ## Items between brackets -/

/-- What follows an item: the items after it, each behind a comma, and the closing bracket. -/
inductive Tail (closing : Char) : List Text → Text → Prop where
  | close {w : Text} (hw : Blank w) : Tail closing [] (w ++ [closing])
  | next {w w' x t : Text} {xs : List Text} (hw : Blank w) (hw' : Blank w')
      (ht : Tail closing xs t) : Tail closing (x :: xs) (w ++ ',' :: (w' ++ (x ++ t)))

/-- Items with commas between them, in brackets. -/
inductive Bracketed (opening closing : Char) : List Text → Text → Prop where
  | empty {w : Text} (hw : Blank w) : Bracketed opening closing [] (opening :: (w ++ [closing]))
  | items {w x t : Text} {xs : List Text} (hw : Blank w) (ht : Tail closing xs t) :
      Bracketed opening closing (x :: xs) (opening :: (w ++ (x ++ t)))

/-- A field of an object: its key in quotes, a colon and its value. -/
inductive MemberText : Text × Text → Text → Prop where
  | member {w w' k v : Text} (hw : Blank w) (hw' : Blank w') :
      MemberText (k, v) (quote k ++ (w ++ ':' :: (w' ++ v)))

/-- Every item takes at least its comma. -/
theorem Tail.length_lt {closing : Char} {xs : List Text} {t : Text} (h : Tail closing xs t) :
    xs.length < t.length := by
  induction h with
  | close hw => simp
  | next hw hw' ht ih =>
      simp only [List.length_append, List.length_cons]
      omega

theorem Bracketed.starts {opening closing : Char} {xs : List Text} {t : Text}
    (h : Bracketed opening closing xs t) : ∃ u, t = opening :: u := by
  cases h <;> exact ⟨_, rfl⟩

/-- A text at whose start a value of any kind has ended. -/
def Delimited (t : Text) : Prop :=
  ∃ c u, t = c :: u ∧ (isSpace c = true ∨ c = ',' ∨ c = ']' ∨ c = '\x7d')

theorem Delimited.endsNumber {t : Text} (h : Delimited t) : EndsNumber t := by
  obtain ⟨c, u, rfl, hc⟩ := h
  intro d hd
  obtain rfl : c = d := Option.some.inj hd
  show isDigit c = false ∧ c ≠ '.' ∧ c ≠ 'e' ∧ c ≠ 'E'
  rcases hc with hc | rfl | rfl | rfl
  · rcases isSpace_iff.mp hc with rfl | rfl | rfl | rfl <;> decide
  all_goals decide

theorem endsNumber_blank {w : Text} (hw : Blank w) : EndsNumber w := by
  intro c hc
  have hspace : isSpace c = true := hw c (List.mem_of_mem_head? hc)
  rcases isSpace_iff.mp hspace with rfl | rfl | rfl | rfl <;> decide

theorem delimited_blank {w : Text} (hw : Blank w) {c : Char} {t : Text}
    (hc : c = ',' ∨ c = ']' ∨ c = '\x7d') : Delimited (w ++ c :: t) := by
  cases w with
  | nil => exact ⟨c, t, rfl, Or.inr hc⟩
  | cons d u => exact ⟨d, u ++ c :: t, rfl, Or.inl (hw d (by simp))⟩

/-- A value in a list or an object is delimited by what follows it there. -/
theorem Tail.delimited {closing : Char} {xs : List Text} {t : Text} (h : Tail closing xs t)
    (hc : closing = ']' ∨ closing = '\x7d') (rest : Text) : Delimited (t ++ rest) := by
  cases h with
  | close hw =>
      rw [List.append_assoc, List.singleton_append]
      exact delimited_blank hw (Or.inr hc)
  | next hw hw' ht =>
      rw [List.append_assoc, List.cons_append]
      exact delimited_blank hw (Or.inl rfl)

/-! ## What is left to read

A list or an object that is being read has been left right behind its opening bracket, or behind an
item. -/

/-- The text of the items `ts` and the closing bracket. -/
inductive Remaining (closing : Char) : Bool → List Text → Text → Prop where
  | opened {w : Text} (hw : Blank w) : Remaining closing true [] (w ++ [closing])
  | first {w x t : Text} {ts : List Text} (hw : Blank w) (ht : Tail closing ts t) :
      Remaining closing true (x :: ts) (w ++ (x ++ t))
  | further {ts : List Text} {t : Text} (ht : Tail closing ts t) : Remaining closing false ts t

theorem Bracketed.remaining {opening closing : Char} {ts : List Text} {t : Text}
    (h : Bracketed opening closing ts t) :
    ∃ u, t = opening :: u ∧ Remaining closing true ts u := by
  cases h with
  | empty hw => exact ⟨_, rfl, .opened hw⟩
  | items hw ht => exact ⟨_, rfl, .first hw ht⟩

theorem Remaining.length_le {closing : Char} {first : Bool} {ts : List Text} {t : Text}
    (h : Remaining closing first ts t) : ts.length ≤ t.length := by
  cases h with
  | opened hw => simp
  | first hw ht =>
      have := ht.length_lt
      simp only [List.length_append, List.length_cons]
      omega
  | further ht => exact Nat.le_of_lt ht.length_lt

/-! ## The pretty form -/

theorem tail_prettyItems (level : Nat) (xs : List Json) {w : Text} (hw : Blank w) :
    Tail ']' (xs.map (prettyAt level)) (prettyItems level xs ++ (w ++ [']'])) := by
  induction xs with
  | nil =>
      rw [prettyItems, List.nil_append]
      exact Tail.close hw
  | cons x xs ih =>
      have h := Tail.next blank_nil (blank_newLine level) (x := prettyAt level x) ih
      simpa [prettyItems, List.append_assoc] using h

/-- A list in its pretty form. -/
theorem bracketed_arr (level : Nat) (xs : List Json) :
    Bracketed '[' ']' (xs.map (prettyAt (level + 1))) (prettyAt level (.arr xs)) := by
  cases xs with
  | nil =>
      rw [prettyAt]
      exact Bracketed.empty blank_nil
  | cons x xs =>
      have htail := tail_prettyItems (level + 1) xs (blank_newLine level)
      have h : Bracketed '[' ']' _ _ :=
        Bracketed.items (blank_newLine (level + 1)) (x := prettyAt (level + 1) x) htail
      simpa [prettyAt, List.append_assoc] using h

/-- A field in its pretty form. -/
def prettyMember (level : Nat) (f : Text × Json) : Text :=
  quote f.1 ++ ([] ++ ':' :: ([' '] ++ prettyAt level f.2))

theorem memberText_prettyMember (level : Nat) (f : Text × Json) :
    MemberText (f.1, prettyAt level f.2) (prettyMember level f) :=
  MemberText.member blank_nil (by decide)

theorem tail_prettyFields (level : Nat) (fs : List (Text × Json)) {w : Text} (hw : Blank w) :
    Tail '\x7d' (fs.map (prettyMember level)) (prettyFields level fs ++ (w ++ ['\x7d'])) := by
  induction fs with
  | nil =>
      rw [prettyFields, List.nil_append]
      exact Tail.close hw
  | cons f fs ih =>
      obtain ⟨k, v⟩ := f
      have h := Tail.next blank_nil (blank_newLine level) (x := prettyMember level (k, v)) ih
      simpa [prettyFields, prettyMember, List.append_assoc] using h

/-- An object in its pretty form. -/
theorem bracketed_obj (level : Nat) (fs : List (Text × Json)) :
    Bracketed '\x7b' '\x7d' (fs.map (prettyMember (level + 1))) (prettyAt level (.obj fs)) := by
  cases fs with
  | nil =>
      rw [prettyAt]
      exact Bracketed.empty blank_nil
  | cons f fs =>
      obtain ⟨k, v⟩ := f
      have htail := tail_prettyFields (level + 1) fs (blank_newLine level)
      have h : Bracketed '\x7b' '\x7d' _ _ :=
        Bracketed.items (blank_newLine (level + 1)) (x := prettyMember (level + 1) (k, v)) htail
      simpa [prettyAt, prettyMember, List.append_assoc] using h

end UnitReview.Json
