import UnitReview.Text.Folding

/-!
# Searching a part and searching the whole

What is found in a part of a text is found in the whole text, letter case regarded or not. The same
holds of how often it is found. A count steps over each occurrence as a whole, so that it might miss
one that begins inside another; a word whose first character comes only once in it cannot overlap
with itself, and its count is the number of positions at which it starts (`occurrences_eq_starts`).

Several words are counted one after the other. If none of them begins another one, no two start at
the same position, and their count is the number of positions at which one of them starts
(`countOccurrences_eq_startsAny`). If they also open with the same character, no two occurrences
overlap (`eq_or_apart`).
-/

set_option autoImplicit false

namespace UnitReview

namespace Text

variable {word part whole : Text} {words : List Text}

/-! ## Words in a part -/

theorem contains_iff_part : contains word whole = true ↔ word <:+: whole := by
  rw [contains_eq_true_iff]
  constructor
  · rintro ⟨a, b, rfl⟩
    exact ⟨a, b, rfl⟩
  · rintro ⟨a, b, rfl⟩
    exact ⟨a, b, rfl⟩

theorem contains_of_part (h : part <:+: whole) (hword : contains word part = true) :
    contains word whole = true := by
  rw [contains_iff_part] at hword ⊢
  exact hword.trans h

theorem containsAny_of_part (h : part <:+: whole) (hwords : containsAny words part = true) :
    containsAny words whole = true := by
  obtain ⟨word, hmem, hword⟩ := List.any_eq_true.1 hwords
  exact List.any_eq_true.2 ⟨word, hmem, contains_of_part h hword⟩

theorem containsAnyFolded_of_part (h : part <:+: whole)
    (hwords : containsAnyFolded words part = true) : containsAnyFolded words whole = true := by
  obtain ⟨word, hmem, hword⟩ := List.any_eq_true.1 hwords
  exact List.any_eq_true.2 ⟨word, hmem, contains_of_part (h.map foldCase) hword⟩

/-! ## Positions at which a word starts -/

/-- The number of positions of a text at which a word starts. -/
def starts (word cs : Text) : Nat :=
  (List.range cs.length).countP fun i => word.isPrefixOf (cs.drop i)

@[simp] theorem starts_nil (word : Text) : starts word [] = 0 := rfl

/-- Whatever is asked of the text from a position on: the first position and the others. -/
theorem countP_positions_cons (p : Text → Bool) (c : Char) (cs : Text) :
    ((List.range (c :: cs).length).countP fun i => p ((c :: cs).drop i)) =
      ((List.range cs.length).countP fun i => p (cs.drop i)) + if p (c :: cs) then 1 else 0 := by
  rw [List.length_cons, List.range_succ_eq_map, List.countP_cons, List.countP_map]
  rfl

theorem starts_cons (word : Text) (c : Char) (cs : Text) :
    starts word (c :: cs) = starts word cs + if word.isPrefixOf (c :: cs) then 1 else 0 :=
  countP_positions_cons word.isPrefixOf c cs

/-- **No position is lost when texts are joined.** -/
theorem starts_append_le (word a b : Text) :
    starts word a + starts word b ≤ starts word (a ++ b) := by
  induction a with
  | nil => simp
  | cons c cs ih =>
      rw [List.cons_append, starts_cons, starts_cons]
      by_cases h : word.isPrefixOf (c :: cs) = true
      · have hlonger : word.isPrefixOf (c :: (cs ++ b)) = true := by
          rw [List.isPrefixOf_iff_prefix] at h ⊢
          exact h.trans (List.prefix_append (c :: cs) b)
        rw [if_pos h, if_pos hlonger]
        omega
      · rw [if_neg h]
        omega

/-! ## Counting -/

/-- The word has a first character, and it does not come again. -/
def OpensOnce : Text → Prop
  | [] => False
  | c :: cs => c ∉ cs

instance : DecidablePred OpensOnce
  | [] => inferInstanceAs (Decidable False)
  | c :: cs => inferInstanceAs (Decidable (c ∉ cs))

/-- A word starts nowhere where its first character is missing. -/
theorem starts_append_of_not_mem {c : Char} {rest skipped : Text} (h : c ∉ skipped) (cs : Text) :
    starts (c :: rest) (skipped ++ cs) = starts (c :: rest) cs := by
  induction skipped with
  | nil => rfl
  | cons d skipped ih =>
      have hne : c ≠ d := fun heq => h (heq ▸ List.mem_cons_self)
      have hprefix : ¬ (c :: rest).isPrefixOf (d :: (skipped ++ cs)) = true := by
        rw [List.isPrefixOf_iff_prefix, List.cons_prefix_cons]
        exact fun hd => hne hd.1
      rw [List.cons_append, starts_cons, if_neg hprefix, Nat.add_zero,
        ih fun hmem => h (List.mem_cons_of_mem d hmem)]

theorem occurrencesFrom_eq_starts (hword : OpensOnce word) (skip : Nat) (cs : Text) :
    occurrencesFrom word skip cs = starts word (cs.drop skip) := by
  cases word with
  | nil => exact hword.elim
  | cons w rest =>
      induction cs generalizing skip with
      | nil => rw [occurrencesFrom, List.drop_nil, starts_nil]
      | cons c cs ih =>
          cases skip with
          | succ skip => rw [occurrencesFrom, ih, List.drop_succ_cons]
          | zero =>
              rw [occurrencesFrom, List.drop_zero, starts_cons]
              by_cases h : (w :: rest).isPrefixOf (c :: cs) = true
              · -- what is stepped over has no first character of the word in it
                obtain ⟨after, hafter⟩ := List.isPrefixOf_iff_prefix.1 h
                obtain rfl : rest ++ after = cs := (List.cons.inj hafter).2
                have hdrop : (rest ++ after).drop ((w :: rest).length - 1) = after := by simp
                rw [if_pos h, if_pos h, ih, hdrop, starts_append_of_not_mem hword]
              · rw [if_neg h, if_neg h, ih, List.drop_zero, Nat.add_zero]

/-- **No occurrence of such a word is missed.** -/
theorem occurrences_eq_starts (hword : OpensOnce word) (cs : Text) :
    occurrences word cs = starts word cs := by
  rw [occurrences, occurrencesFrom_eq_starts hword, List.drop_zero]

/-- **No occurrence is lost when texts are joined.** -/
theorem countOccurrences_append_le (hwords : ∀ word ∈ words, OpensOnce word) (a b : Text) :
    countOccurrences a words + countOccurrences b words ≤ countOccurrences (a ++ b) words := by
  induction words with
  | nil => exact Nat.le_refl 0
  | cons word words ih =>
      have hfirst : occurrences word a + occurrences word b ≤ occurrences word (a ++ b) := by
        have hword := hwords word List.mem_cons_self
        rw [occurrences_eq_starts hword, occurrences_eq_starts hword, occurrences_eq_starts hword]
        exact starts_append_le word a b
      have hothers := ih fun other hother => hwords other (List.mem_cons_of_mem word hother)
      simp only [countOccurrences, List.foldr_cons] at hothers ⊢
      omega

/-- **The count in a part is at most that in the whole.** -/
theorem countOccurrences_le_of_part (hwords : ∀ word ∈ words, OpensOnce word)
    (h : part <:+: whole) : countOccurrences part words ≤ countOccurrences whole words := by
  obtain ⟨a, b, rfl⟩ := h
  have hleft := countOccurrences_append_le hwords a part
  have hright := countOccurrences_append_le hwords (a ++ part) b
  omega

/-! ## Several words -/

/-- The number of positions of a text at which one of the words starts. -/
def startsAny (words : List Text) (cs : Text) : Nat :=
  (List.range cs.length).countP fun i => words.any fun word => word.isPrefixOf (cs.drop i)

theorem startsAny_cons (words : List Text) (c : Char) (cs : Text) :
    startsAny words (c :: cs) = startsAny words cs +
      if (words.any fun word => word.isPrefixOf (c :: cs)) then 1 else 0 :=
  countP_positions_cons (fun cs => words.any fun word => word.isPrefixOf cs) c cs

/-- None of the two words begins the other one. -/
def Unlike (u v : Text) : Prop := ¬ u <+: v ∧ ¬ v <+: u

instance : DecidableRel Unlike := fun u v => inferInstanceAs (Decidable (¬ u <+: v ∧ ¬ v <+: u))

/-- Unlike words never start at the same position. -/
theorem Unlike.not_both {u v cs : Text} (h : Unlike u v) (hu : u <+: cs) : ¬ v <+: cs := by
  intro hv
  rcases List.prefix_or_prefix_of_prefix hu hv with huv | hvu
  · exact h.1 huv
  · exact h.2 hvu

theorem startsAny_cons_word (hword : ∀ other ∈ words, Unlike word other) (cs : Text) :
    startsAny (word :: words) cs = starts word cs + startsAny words cs := by
  induction cs with
  | nil => rfl
  | cons c cs ih =>
      rw [startsAny_cons, startsAny_cons, starts_cons, ih, List.any_cons]
      by_cases h : word.isPrefixOf (c :: cs) = true
      · -- at this position none of the other words is counted
        have hothers : ¬ (words.any fun other => other.isPrefixOf (c :: cs)) = true := by
          rw [List.any_eq_true]
          rintro ⟨other, hmem, hother⟩
          rw [List.isPrefixOf_iff_prefix] at h hother
          exact (hword other hmem).not_both h hother
        rw [h, Bool.true_or, if_pos rfl, if_neg hothers]
        omega
      · rw [Bool.not_eq_true] at h
        rw [h, Bool.false_or, if_neg Bool.false_ne_true]
        omega

/-- **Neither is an occurrence missed nor counted twice**: the count of words none of which begins
another one is the number of positions at which one of them starts. -/
theorem countOccurrences_eq_startsAny (hwords : ∀ word ∈ words, OpensOnce word)
    (hunlike : words.Pairwise Unlike) (cs : Text) :
    countOccurrences cs words = startsAny words cs := by
  induction words with
  | nil => simp [countOccurrences, startsAny]
  | cons word words ih =>
      obtain ⟨hword, hothers⟩ := List.forall_mem_cons.1 hwords
      obtain ⟨hfirst, hrest⟩ := List.pairwise_cons.1 hunlike
      rw [startsAny_cons_word hfirst, ← ih hothers hrest, ← occurrences_eq_starts hword]
      rfl

/-- Of unlike words only one starts at a position. -/
theorem eq_of_start {u v cs : Text} (hunlike : words.Pairwise Unlike) (hu : u ∈ words)
    (hv : v ∈ words) (hucs : u <+: cs) (hvcs : v <+: cs) : u = v := by
  have hbegins : ∀ ⦃u⦄, u ∈ words → ∀ ⦃v⦄, v ∈ words → u <+: v → u = v :=
    List.Pairwise.forall_of_forall_of_flip (fun _ _ _ => rfl)
      (hunlike.imp fun h huv => absurd huv h.1) (hunlike.imp fun h hvu => absurd hvu h.2)
  rcases List.prefix_or_prefix_of_prefix hucs hvcs with huv | hvu
  · exact hbegins hu hv huv
  · exact (hbegins hv hu hvu).symm

/-- An occurrence ends before the next one starts, if the two words open with one character. -/
theorem apart_of_head_eq {u v cs : Text} {i j : Nat} (hu : OpensOnce u) (hopen : u.head? = v.head?)
    (hi : u <+: cs.drop i) (hj : v <+: cs.drop j) (hij : i < j) : i + u.length ≤ j := by
  cases u with
  | nil => exact hu.elim
  | cons c rest =>
      refine Nat.le_of_not_lt fun hinside => hu ?_
      -- the second word would open inside the first one, where its first character is missing
      obtain ⟨d, rfl⟩ : ∃ d, j = i + (d + 1) := ⟨j - i - 1, by omega⟩
      have hshort : d < rest.length := by
        rw [List.length_cons] at hinside
        omega
      obtain ⟨after, hafter⟩ := hi
      have hlater : cs.drop (i + (d + 1)) = rest.drop d ++ after := by
        rw [← List.drop_drop, ← hafter, List.cons_append, List.drop_succ_cons,
          List.drop_append_of_le_length (Nat.le_of_lt hshort)]
      obtain ⟨tail, rfl⟩ := List.head?_eq_some_iff.1 hopen.symm
      rw [hlater, List.drop_eq_getElem_cons hshort, List.cons_append, List.cons_prefix_cons] at hj
      rw [hj.1]
      exact List.getElem_mem hshort

/-- **Two occurrences are one and the same, or do not overlap.** -/
theorem eq_or_apart {u v cs : Text} {i j : Nat} (hwords : ∀ word ∈ words, OpensOnce word)
    (hunlike : words.Pairwise Unlike) {c : Char} (hopen : ∀ word ∈ words, word.head? = some c)
    (hu : u ∈ words) (hv : v ∈ words) (hi : u <+: cs.drop i) (hj : v <+: cs.drop j) :
    (i = j ∧ u = v) ∨ i + u.length ≤ j ∨ j + v.length ≤ i := by
  have hheads : u.head? = v.head? := (hopen u hu).trans (hopen v hv).symm
  rcases Nat.lt_trichotomy i j with hij | rfl | hji
  · exact Or.inr (Or.inl (apart_of_head_eq (hwords u hu) hheads hi hj hij))
  · exact Or.inl ⟨rfl, eq_of_start hunlike hu hv hi hj⟩
  · exact Or.inr (Or.inr (apart_of_head_eq (hwords v hv) hheads.symm hj hi hji))

end Text

end UnitReview
