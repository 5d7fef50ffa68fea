import UnitReview.Metrics

/-!
# Lines and segments

Line feeds cut a text into segments. The lines of a text are its segments, except that a carriage
return right before a line feed is taken off and that an empty last segment is no line. Both
exceptions concern blanks only, so that the lines with something on them are as many as the segments
with something in them (`nonBlankLines_eq_segments`). The metric inherits what holds of segments: it
is additive, and it is the same whichever way lines are ended.
-/

set_option autoImplicit false

namespace UnitReview

namespace Text

/-! ## Segments -/

/-- What holds of lists without the separator, and of two lists joined by it once it holds of both,
holds of all lists. -/
theorem induction_on_segments {α : Type} (sep : α) {motive : List α → Prop}
    (segment : ∀ a, sep ∉ a → motive a)
    (join : ∀ a b, sep ∉ a → motive a → motive b → motive (a ++ sep :: b)) (l : List α) :
    motive l := by
  by_cases h : sep ∈ l
  · obtain ⟨a, b, hl, ha⟩ := List.eq_append_cons_of_mem h
    have : b.length < l.length := by
      rw [hl, List.length_append, List.length_cons]
      omega
    rw [hl]
    exact join a b ha (segment a ha) (induction_on_segments sep segment join b)
  · exact segment l h
termination_by l.length

/-- There is one segment more than there are separators. -/
theorem length_splitOn {α : Type} [BEq α] [LawfulBEq α] (sep : α) (l : List α) :
    (l.splitOn sep).length = l.count sep + 1 := by
  induction l using induction_on_segments sep with
  | segment a ha =>
      rw [List.splitOn_eq_singleton ha, List.count_eq_zero.2 ha, List.length_singleton]
  | join a b _ iha ihb =>
      rw [List.splitOn_append_cons_self, List.length_append, iha, ihb, List.count_append,
        List.count_cons_self]
      omega

/-! ## Lines -/

/-- A carriage return at the end of a text is one more blank. -/
theorem isBlankText_append_return (t : Text) : isBlankText (t ++ ['\r']) = isBlankText t := by
  have hreturn : isBlank '\r' = true := by decide
  rw [isBlankText, List.all_append, List.all_cons, hreturn, List.all_nil, Bool.and_self,
    Bool.and_true, isBlankText]

/-- A line feed ends a line. A carriage return before it is taken off. -/
theorem linesFrom_feed (acc cs : Text) :
    ∃ line, linesFrom acc ('\n' :: cs) = line :: linesFrom [] cs ∧
      isBlankText line = isBlankText acc.reverse ∧ line ⊆ acc := by
  cases acc with
  | nil => exact ⟨[], rfl, rfl, List.Subset.refl _⟩
  | cons d rest =>
      by_cases hd : d = '\r'
      · refine ⟨rest.reverse, by rw [hd]; rfl, ?_, fun c hc => ?_⟩
        · rw [List.reverse_cons, hd, isBlankText_append_return]
        · exact List.mem_cons_of_mem d (List.mem_reverse.1 hc)
      · refine ⟨(d :: rest).reverse, ?_, rfl, fun c hc => List.mem_reverse.1 hc⟩
        simp [linesFrom, hd]

theorem linesFrom_char {c : Char} (hc : c ≠ '\n') (acc cs : Text) :
    linesFrom acc (c :: cs) = linesFrom (c :: acc) cs := by
  cases acc with
  | nil => exact if_neg hc
  | cons d rest => exact if_neg hc

theorem mem_of_mem_linesFrom {acc cs line : Text} {c : Char} (hline : line ∈ linesFrom acc cs)
    (hc : c ∈ line) : c ∈ acc ∨ c ∈ cs := by
  induction cs generalizing acc with
  | nil =>
      cases acc with
      | nil => cases hline
      | cons d rest =>
          obtain rfl := List.mem_singleton.1 hline
          exact Or.inl (List.mem_reverse.1 hc)
  | cons d cs ih =>
      by_cases hd : d = '\n'
      · obtain ⟨first, hfirst, -, hsub⟩ := linesFrom_feed acc cs
        rw [hd, hfirst] at hline
        rcases List.mem_cons.1 hline with rfl | hline
        · exact Or.inl (hsub hc)
        · exact Or.inr (List.mem_cons_of_mem d ((ih hline).resolve_left List.not_mem_nil))
      · rw [linesFrom_char hd] at hline
        rcases ih hline with hacc | hcs
        · exact (List.mem_cons.1 hacc).elim (fun h => Or.inr (h ▸ List.mem_cons_self)) Or.inl
        · exact Or.inr (List.mem_cons_of_mem d hcs)

/-- The lines of a text have no characters but those of the text. -/
theorem subset_of_mem_lines {t line : Text} (h : line ∈ lines t) : line ⊆ t :=
  fun _ hc => (mem_of_mem_linesFrom h hc).resolve_left List.not_mem_nil

/-- The reader of lines cuts a text where it is cut into segments. -/
theorem countP_linesFrom (acc cs : Text) :
    (linesFrom acc cs).countP (fun l => !isBlankText l) =
      (List.splitOnPPrepend (· == '\n') cs acc).countP fun l => !isBlankText l := by
  induction cs generalizing acc with
  | nil =>
      rw [List.splitOnPPrepend_nil]
      -- an empty last segment is no line, and it is blank
      cases acc with
      | nil => rfl
      | cons c acc => rfl
  | cons c cs ih =>
      by_cases hc : c = '\n'
      · obtain ⟨line, hline, hblank, -⟩ := linesFrom_feed acc cs
        rw [hc, hline, List.splitOnPPrepend_cons_pos rfl, List.countP_cons, List.countP_cons, ih,
          hblank, List.splitOnP_eq_splitOnPPrepend]
      · have hsame : List.splitOnPPrepend (· == '\n') (c :: cs) acc =
            List.splitOnPPrepend (· == '\n') cs (c :: acc) :=
          List.splitOnPPrepend_cons_neg (beq_false_of_ne hc)
        rw [linesFrom_char hc, ih, hsame]

/-- **The lines that are not blank are as many as the segments that are not blank.** -/
theorem nonBlankLines_eq_segments (t : Text) :
    nonBlankLines t = (t.splitOn '\n').countP fun l => !isBlankText l := by
  rw [nonBlankLines, lines, countP_linesFrom, List.splitOn_eq_splitOnP,
    List.splitOnP_eq_splitOnPPrepend]

theorem nonBlankLines_append (a b : Text) :
    nonBlankLines (a ++ '\n' :: b) = nonBlankLines a + nonBlankLines b := by
  rw [nonBlankLines_eq_segments, List.splitOn_append_cons_self, List.countP_append,
    ← nonBlankLines_eq_segments, ← nonBlankLines_eq_segments]

theorem nonBlankLines_segment {a : Text} (ha : '\n' ∉ a) :
    nonBlankLines a = if isBlankText a then 0 else 1 := by
  rw [nonBlankLines_eq_segments, List.splitOn_eq_singleton ha, List.countP_singleton]
  cases isBlankText a <;> rfl

/-- **Nothing is counted exactly in a text of blanks.** -/
theorem nonBlankLines_eq_zero_iff (t : Text) : nonBlankLines t = 0 ↔ isBlankText t = true := by
  induction t using induction_on_segments '\n' with
  | segment a ha =>
      rw [nonBlankLines_segment ha]
      cases isBlankText a <;> decide
  | join a b _ iha ihb =>
      have hfeed : isBlank '\n' = true := by decide
      rw [nonBlankLines_append, Nat.add_eq_zero_iff, iha, ihb]
      simp only [isBlankText, List.all_append, List.all_cons, hfeed, Bool.true_and,
        Bool.and_eq_true]

/-! ## Line ends -/

/-- The text with a carriage return put before every line feed. -/
def withReturns (t : Text) : Text := t.flatMap fun c => if c = '\n' then ['\r', '\n'] else [c]

theorem withReturns_segment {a : Text} (ha : '\n' ∉ a) : withReturns a = a := by
  induction a with
  | nil => rfl
  | cons c a ih =>
      have hc : c ≠ '\n' := fun h => ha (h ▸ List.mem_cons_self)
      rw [withReturns, List.flatMap_cons, if_neg hc]
      exact congrArg (c :: ·) (ih fun h => ha (List.mem_cons_of_mem c h))

theorem withReturns_join {a : Text} (ha : '\n' ∉ a) (b : Text) :
    withReturns (a ++ '\n' :: b) = a ++ ['\r'] ++ '\n' :: withReturns b := by
  have hleft := withReturns_segment ha
  rw [withReturns] at hleft ⊢
  rw [List.flatMap_append, hleft, List.flatMap_cons, if_pos rfl, List.append_assoc]
  rfl

/-- **Lines may end in either way.** -/
theorem nonBlankLines_withReturns (t : Text) : nonBlankLines (withReturns t) = nonBlankLines t := by
  induction t using induction_on_segments '\n' with
  | segment a ha => rw [withReturns_segment ha]
  | join a b ha _ ihb =>
      -- `a` gains a carriage return and stays one segment, as blank as it was
      have hmem : '\n' ∉ a ++ ['\r'] := by simp [ha]
      rw [withReturns_join ha, nonBlankLines_append, nonBlankLines_append, ihb,
        nonBlankLines_segment hmem, isBlankText_append_return, nonBlankLines_segment ha]

end Text

/-- **The line metric.** Of whatever tree a text has: the lines of two texts joined by a line feed
are those of both; it does not matter whether lines end with a line feed or with a carriage return
and a line feed; a text has no lines exactly if it has only blanks; and the lines are the segments
between line feeds that have a character other than blanks. -/
theorem Metrics.lines_compute (root : Node) (name : String) :
    let count (t : Text) : Nat := (compute ⟨root, t, name⟩).lines
    (∀ a b : Text, count (a ++ '\n' :: b) = count a + count b) ∧
      (∀ t : Text, count t.withReturns = count t) ∧
      (∀ t : Text, count t = 0 ↔ ∀ c ∈ t, isBlank c = true) ∧
      ∀ t : Text,
        count t = (t.splitOn '\n').countP fun segment => segment.any fun c => !isBlank c := by
  refine ⟨Text.nonBlankLines_append, Text.nonBlankLines_withReturns, fun t => ?_, fun t => ?_⟩
  · exact (Text.nonBlankLines_eq_zero_iff t).trans List.all_eq_true
  · refine (Text.nonBlankLines_eq_segments t).trans ?_
    simp only [Text.isBlankText, List.not_all_eq_any_not]

end UnitReview
