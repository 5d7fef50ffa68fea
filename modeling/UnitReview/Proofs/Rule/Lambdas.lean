import UnitReview.Proofs.Text.Trimming
import UnitReview.Rule.Query

/-!
# Lambdas that return their parameter

Whether a lambda returns its parameter is told by cutting its text at the first arrow and by taking
blanks and parentheses off the two sides. What is taken off stops at the first character of a word,
so that a text is cut down on the left and on the right independently (`Solid`). It follows which
texts are accepted: a word, with a run of opening parentheses before it and a run of closing ones
after it, an arrow and the same word, with blanks anywhere between these pieces. The runs need not
be equally long, and no blanks may divide them.

The argument list of a projection is cut down once more before. Its own parentheses go; those of the
parameter may go with them or stay, and the lambda is accepted either way.
-/

set_option autoImplicit false

namespace UnitReview

namespace Text

/-! ## Pieces of a text -/

/-- The text has the given pieces, one after the other, with blanks before, between and after
them. -/
def Spaced : List Text → Text → Prop
  | [], t => isBlankText t = true
  | piece :: pieces, t =>
      ∃ blanks rest, isBlankText blanks = true ∧ t = blanks ++ piece ++ rest ∧ Spaced pieces rest

theorem Spaced.cons {blanks piece rest : Text} {pieces : List Text}
    (hblanks : isBlankText blanks = true) (hrest : Spaced pieces rest) :
    Spaced (piece :: pieces) (blanks ++ piece ++ rest) := ⟨blanks, rest, hblanks, rfl, hrest⟩

/-- A piece with nothing in it may stand anywhere. -/
theorem Spaced.insert_nil {pieces : List Text} (more : List Text) {t : Text}
    (h : Spaced (more ++ pieces) t) : Spaced (more ++ [] :: pieces) t := by
  induction more generalizing t with
  | nil => exact ⟨[], t, rfl, rfl, h⟩
  | cons piece more ih =>
      obtain ⟨blanks, rest, hblanks, rfl, hrest⟩ := h
      exact .cons hblanks (ih hrest)

/-- The arrow of a lambda. -/
def arrow : Text := ['=', '>']

/-! ## Parentheses -/

section Solid

variable {core : Text} (h : Solid core) (l r : Text)
include h

theorem Solid.dropOpening : dropOpening (l ++ core ++ r) = dropOpening l ++ core ++ r :=
  h.dropWhile l r fun _ hc => beq_eq_false_of_isWordChar hc (by decide)

theorem Solid.dropClosing : dropClosing (l ++ core ++ r) = l ++ core ++ dropClosing r :=
  h.reverse_dropWhile l r fun _ hc => beq_eq_false_of_isWordChar hc (by decide)

end Solid

theorem dropWhile_replicate_append (n : Nat) (q : Char) (t : Text) :
    (List.replicate n q ++ t).dropWhile (· == q) = t.dropWhile (· == q) := by
  apply List.dropWhile_append_of_pos
  intro c hc
  exact beq_iff_eq.2 (List.eq_of_mem_replicate hc)

theorem exists_replicate_takeWhile (q : Char) (t : Text) :
    ∃ n, t.takeWhile (· == q) = List.replicate n q := by
  refine ⟨_, List.eq_replicate_of_mem fun c hc => ?_⟩
  exact beq_iff_eq.1 (List.all_eq_true.1 List.all_takeWhile c hc)

theorem exists_dropOpening (t : Text) : ∃ n, t = List.replicate n '(' ++ dropOpening t := by
  obtain ⟨n, hn⟩ := exists_replicate_takeWhile '(' t
  exact ⟨n, by rw [← hn, dropOpening, List.takeWhile_append_dropWhile]⟩

theorem exists_dropClosing (t : Text) : ∃ n, t = dropClosing t ++ List.replicate n ')' := by
  obtain ⟨n, hn⟩ := exists_replicate_takeWhile ')' t.reverse
  refine ⟨n, ?_⟩
  rw [dropClosing, ← List.reverse_replicate, ← hn, ← List.reverse_append,
    List.takeWhile_append_dropWhile, List.reverse_reverse]

/-- Blanks, a run of some other character and blanks again: all of it is taken off. -/
theorem strip_run {q : Char} (hq : isBlank q = false) (n : Nat) {before after : Text}
    (hbefore : isBlankText before = true) (hafter : isBlankText after = true) :
    (((before ++ List.replicate n q ++ after).dropWhile isBlank).dropWhile (· == q)).dropWhile
      isBlank = [] := by
  rw [List.append_assoc, List.dropWhile_append_of_pos (isBlankText_iff.1 hbefore)]
  apply trimStart_eq_nil
  cases n with
  | zero =>
      have hnil : (List.replicate 0 q ++ after).dropWhile isBlank = [] := trimStart_eq_nil hafter
      rw [hnil]
      rfl
  | succ n =>
      have hstays : (List.replicate (n + 1) q ++ after).dropWhile isBlank =
          List.replicate (n + 1) q ++ after :=
        dropWhile_append_cons hq [] (List.replicate n q ++ after)
      rw [hstays, dropWhile_replicate_append]
      exact isBlankText_dropWhile _ hafter

theorem strip_opening (n : Nat) {before after : Text} (hbefore : isBlankText before = true)
    (hafter : isBlankText after = true) :
    trimStart (dropOpening (trimStart (before ++ List.replicate n '(' ++ after))) = [] :=
  strip_run (by decide) n hbefore hafter

theorem strip_closing (n : Nat) {before after : Text} (hbefore : isBlankText before = true)
    (hafter : isBlankText after = true) :
    trimEnd (dropClosing (trimEnd (before ++ List.replicate n ')' ++ after))) = [] := by
  have hreverse : (before ++ List.replicate n ')' ++ after).reverse =
      after.reverse ++ List.replicate n ')' ++ before.reverse := by simp
  rw [trimEnd, dropClosing, trimEnd, List.reverse_reverse, List.reverse_reverse, hreverse,
    strip_run (by decide) n ((isBlankText_reverse after).trans hafter)
      ((isBlankText_reverse before).trans hbefore)]
  rfl

/-! ## The arrow -/

theorem eq_of_splitOnce? {sep t before after : Text} (h : splitOnce? sep t = some (before, after)) :
    t = before ++ sep ++ after := by
  induction t generalizing before with
  | nil => cases h
  | cons c t ih =>
      rw [splitOnce?] at h
      split at h
      · rename_i hsep
        obtain ⟨rest, hrest⟩ := List.isPrefixOf_iff_prefix.1 hsep
        cases h
        rw [← hrest, List.drop_left, List.nil_append]
      · obtain ⟨⟨front, back⟩, hsplit, hpair⟩ := Option.map_eq_some_iff.1 h
        cases hpair
        rw [ih hsplit, List.cons_append, List.cons_append]

/-- The first arrow is found where no equals sign is before it. -/
theorem splitOnce?_arrow {before : Text} (h : '=' ∉ before) (after : Text) :
    splitOnce? arrow (before ++ arrow ++ after) = some (before, after) := by
  induction before with
  | nil => rfl
  | cons c before ih =>
      have hc : c ≠ '=' := fun heq => h (heq ▸ List.mem_cons_self)
      have hnot : ¬ arrow.isPrefixOf (c :: (before ++ arrow ++ after)) = true := by
        rw [List.isPrefixOf_iff_prefix, arrow, List.cons_prefix_cons]
        exact fun hprefix => hc hprefix.1.symm
      rw [List.cons_append, List.cons_append, splitOnce?, if_neg hnot,
        ih fun hmem => h (List.mem_cons_of_mem c hmem)]
      rfl

/-! ## Identity lambdas -/

section Parameter

variable {p before₁ after₁ before₂ after₂ : Text} (m n : Nat)

/-- What is taken off a parameter leaves a word. -/
theorem parameter_eq (hp : IsWord p) (h₁ : isBlankText before₁ = true)
    (h₂ : isBlankText after₁ = true) (h₃ : isBlankText before₂ = true)
    (h₄ : isBlankText after₂ = true) :
    trim (dropClosing (dropOpening (trim ((before₁ ++ List.replicate m '(' ++ after₁) ++ p ++
      (before₂ ++ List.replicate n ')' ++ after₂))))) = p := by
  rw [hp.solid.trim, hp.solid.dropOpening, hp.solid.dropClosing, hp.solid.trim,
    strip_opening m h₁ h₂, strip_closing n h₃ h₄, List.nil_append, List.append_nil]

theorem not_mem_parameter (hp : IsWord p) (h₁ : isBlankText before₁ = true)
    (h₂ : isBlankText after₁ = true) (h₃ : isBlankText before₂ = true)
    (h₄ : isBlankText after₂ = true) :
    '=' ∉ (before₁ ++ List.replicate m '(' ++ after₁) ++ p ++
      (before₂ ++ List.replicate n ')' ++ after₂) := by
  have hblank {t : Text} (ht : isBlankText t = true) : '=' ∉ t := fun hmem =>
    absurd (isBlankText_iff.1 ht _ hmem) (by decide)
  have hword : '=' ∉ p := fun hmem => absurd (hp.all_wordChar _ hmem) (by decide)
  simp [hblank h₁, hblank h₂, hblank h₃, hblank h₄, hword]

end Parameter

theorem trim_word {p before after : Text} (hp : IsWord p) (hbefore : isBlankText before = true)
    (hafter : isBlankText after = true) : trim (before ++ p ++ after) = p := by
  rw [hp.solid.trim, trimStart_eq_nil hbefore, trimEnd_eq_nil hafter, List.nil_append,
    List.append_nil]

theorem exists_spaced_of_isIdentityLambda {t : Text} (h : isIdentityLambda t = true) :
    ∃ m n p, IsWord p ∧
      Spaced [List.replicate m '(', p, List.replicate n ')', arrow, p] t := by
  unfold isIdentityLambda at h
  split at h
  · cases h
  · rename_i before after hsplit
    simp only [Bool.and_eq_true, Bool.not_eq_true', beq_iff_eq, List.all_eq_true] at h
    obtain ⟨⟨hne, hbody⟩, hword⟩ := h
    -- put back what was taken off, the last first
    obtain ⟨w₂, w₃, hw₂, hw₃, hparam⟩ := exists_trim (dropClosing (dropOpening (trim before)))
    obtain ⟨n, hclosing⟩ := exists_dropClosing (dropOpening (trim before))
    obtain ⟨m, hopening⟩ := exists_dropOpening (trim before)
    obtain ⟨w₁, w₄, hw₁, hw₄, hbefore⟩ := exists_trim before
    obtain ⟨w₅, w₆, hw₅, hw₆, hafter⟩ := exists_trim after
    rw [hbody] at hne hword hparam
    have hp : IsWord (trim after) := ⟨by simpa using hne, hword⟩
    refine ⟨m, n, trim after, hp, ?_⟩
    have hfront : before = w₁ ++ (List.replicate m '(' ++ (w₂ ++ trim after ++ w₃ ++
        List.replicate n ')')) ++ w₄ := by
      rw [← hparam, ← hclosing, ← hopening, ← hbefore]
    have htext : t = w₁ ++ List.replicate m '(' ++ (w₂ ++ trim after ++
        (w₃ ++ List.replicate n ')' ++ (w₄ ++ arrow ++ (w₅ ++ trim after ++ w₆)))) := by
      rw [← hafter, eq_of_splitOnce? hsplit, hfront]
      simp only [List.append_assoc]
      rfl
    rw [htext]
    exact .cons hw₁ (.cons hw₂ (.cons hw₃ (.cons hw₄ (.cons hw₅ hw₆))))

theorem isIdentityLambda_of_spaced {m n : Nat} {p t : Text} (hp : IsWord p)
    (h : Spaced [List.replicate m '(', p, List.replicate n ')', arrow, p] t) :
    isIdentityLambda t = true := by
  obtain ⟨w₁, _, hw₁, rfl, w₂, _, hw₂, rfl, w₃, _, hw₃, rfl, w₄, _, hw₄, rfl, w₅, w₆, hw₅, rfl,
    hw₆⟩ := h
  have htext : w₁ ++ List.replicate m '(' ++ (w₂ ++ p ++
      (w₃ ++ List.replicate n ')' ++ (w₄ ++ arrow ++ (w₅ ++ p ++ w₆)))) =
      (w₁ ++ List.replicate m '(' ++ w₂) ++ p ++ (w₃ ++ List.replicate n ')' ++ w₄) ++ arrow ++
        (w₅ ++ p ++ w₆) := by
    simp only [List.append_assoc]
  -- no equals sign is before the arrow, so the text is split at this one
  have hsplit := splitOnce?_arrow (not_mem_parameter m n hp hw₁ hw₂ hw₃ hw₄) (w₅ ++ p ++ w₆)
  have hword : p.all isWordChar = true := List.all_eq_true.2 hp.all_wordChar
  have hne : p.isEmpty = false := by simpa using hp.ne_nil
  rw [htext, isIdentityLambda]
  rw [arrow] at hsplit
  simp only [arrow, hsplit, parameter_eq m n hp hw₁ hw₂ hw₃ hw₄, trim_word hp hw₅ hw₆, hword, hne,
    beq_self_eq_true, Bool.not_false, Bool.and_self]

/-- **The texts that are taken for identity lambdas.** -/
theorem isIdentityLambda_iff_spaced {t : Text} : isIdentityLambda t = true ↔
    ∃ m n p, IsWord p ∧
      Spaced [List.replicate m '(', p, List.replicate n ')', arrow, p] t := by
  constructor
  · exact exists_spaced_of_isIdentityLambda
  · rintro ⟨m, n, p, hp, h⟩
    exact isIdentityLambda_of_spaced hp h

/-! ## Lambdas in an argument list -/

/-- Opening parentheses after a blank stay. -/
theorem exists_spaced_dropOpening {m : Nat} {t : Text} (h : Spaced [List.replicate m '('] t) :
    ∃ n, Spaced [List.replicate n '('] (dropOpening t) := by
  obtain ⟨blanks, rest, hblanks, rfl, hrest⟩ := h
  cases blanks with
  | nil =>
      refine ⟨0, [], dropOpening rest, rfl, ?_, isBlankText_dropWhile _ hrest⟩
      exact dropWhile_replicate_append m '(' rest
  | cons c blanks =>
      have hc : ¬ (c == '(') = true := by
        rw [beq_iff_eq]
        rintro rfl
        exact absurd (isBlankText_iff.1 hblanks _ List.mem_cons_self) (by decide)
      have hstays : dropOpening (c :: blanks ++ List.replicate m '(' ++ rest) =
          c :: blanks ++ List.replicate m '(' ++ rest := List.dropWhile_cons_of_neg hc
      rw [hstays]
      exact ⟨m, .cons hblanks hrest⟩

theorem dropOpening_trimStart {blanks : Text} (h : isBlankText blanks = true) (t : Text) :
    dropOpening (trimStart (blanks ++ ['('] ++ t)) = dropOpening t := by
  rw [trimStart, List.append_assoc, List.dropWhile_append_of_pos (isBlankText_iff.1 h)]
  rfl

theorem dropClosing_trimEnd {blanks : Text} (h : isBlankText blanks = true) (t : Text) :
    dropClosing (trimEnd (t ++ [')'] ++ blanks)) = dropClosing t := by
  have hreverse : (t ++ [')'] ++ blanks).reverse = blanks.reverse ++ (')' :: t.reverse) := by simp
  rw [trimEnd, hreverse, List.dropWhile_append_of_pos
    (isBlankText_iff.1 ((isBlankText_reverse blanks).trans h)), dropClosing, List.reverse_reverse]
  rfl

/-- **An argument list that holds an identity lambda**: without the parentheses of the list, and
perhaps without those of the parameter, it is still one. -/
theorem isIdentityLambda_of_arguments {m n : Nat} {p t : Text} (hp : IsWord p)
    (h : Spaced [['('], List.replicate m '(', p, List.replicate n ')', arrow, p, [')']] t) :
    isIdentityLambda (dropClosing (dropOpening t.trim)) = true := by
  obtain ⟨w₁, _, hw₁, rfl, w₂, _, hw₂, rfl, w₃, _, hw₃, rfl, w₄, _, hw₄, rfl, w₅, _, hw₅, rfl,
    w₆, _, hw₆, rfl, w₇, w₈, hw₇, rfl, hw₈⟩ := h
  have hcore := hp.solid.append hp.solid (w₄ ++ List.replicate n ')' ++ (w₅ ++ arrow ++ w₆))
  have htext : w₁ ++ ['('] ++ (w₂ ++ List.replicate m '(' ++ (w₃ ++ p ++
      (w₄ ++ List.replicate n ')' ++ (w₅ ++ arrow ++ (w₆ ++ p ++ (w₇ ++ [')'] ++ w₈)))))) =
      (w₁ ++ ['('] ++ (w₂ ++ List.replicate m '(' ++ w₃)) ++
        (p ++ (w₄ ++ List.replicate n ')' ++ (w₅ ++ arrow ++ w₆)) ++ p) ++
          (w₇ ++ [')'] ++ w₈) := by
    simp only [List.append_assoc]
  rw [htext, hcore.trim, hcore.dropOpening, hcore.dropClosing, dropOpening_trimStart hw₁,
    dropClosing_trimEnd hw₈]
  -- of the list's own blanks some are left at either end, and perhaps the parameter's parentheses
  obtain ⟨k, v, v', hv, hopening, hv'⟩ := exists_spaced_dropOpening (.cons hw₂ hw₃)
  have hclosing : isBlankText (dropClosing w₇) = true := by
    rw [dropClosing, isBlankText_reverse]
    exact isBlankText_dropWhile _ ((isBlankText_reverse w₇).trans hw₇)
  rw [hopening]
  have hinner : v ++ List.replicate k '(' ++ v' ++
      (p ++ (w₄ ++ List.replicate n ')' ++ (w₅ ++ arrow ++ w₆)) ++ p) ++ dropClosing w₇ =
      v ++ List.replicate k '(' ++ (v' ++ p ++ (w₄ ++ List.replicate n ')' ++
        (w₅ ++ arrow ++ (w₆ ++ p ++ dropClosing w₇)))) := by
    simp only [List.append_assoc]
  rw [hinner]
  exact isIdentityLambda_of_spaced hp
    (.cons hv (.cons hv' (.cons hw₄ (.cons hw₅ (.cons hw₆ hclosing)))))

end Text

/-- A projection onto the element itself, with blanks in its argument list. -/
def RuleContext.spacedSelect : RuleContext where
  unit :=
    let callee : Node :=
      ⟨.memberAccessExpression, "member_access_expression", some "function",
        ⟨0, 8, 1, 1, 1, 9⟩, [], []⟩
    let arguments : Node :=
      ⟨.other, "argument_list", some "arguments", ⟨8, 20, 1, 9, 1, 21⟩, [], []⟩
    { root :=
        ⟨.invocationExpression, "invocation_expression", none, ⟨0, 20, 1, 1, 1, 21⟩,
          [callee, arguments], []⟩
      source := "q.Select( (x) => x )".toList
      displayName := "Query.cs" }
  diagnostics := []

namespace Query

open Text

theorem calleeEndsWith_of_text {ctx : RuleContext} {n c : Node} (hc : n.callee? = some c)
    {stem blanks : Text} (hblanks : isBlankText blanks = true)
    (htext : ctx.text c = stem ++ ".Select".toList ++ blanks) :
    calleeEndsWith ctx ".Select" n = true := by
  have hend : trimEnd (stem ++ ".Select".toList ++ blanks) = stem ++ ".Select".toList := by
    have hsplit (t : Text) :
        stem ++ ".Select".toList ++ t = (stem ++ ".Selec".toList) ++ 't' :: t := by simp
    have hnil : (blanks.reverse.dropWhile isBlank).reverse = [] := trimEnd_eq_nil hblanks
    rw [hsplit, trimEnd, reverse_dropWhile_append_cons (by decide), hnil, ← hsplit, List.append_nil]
  rw [calleeEndsWith, hc, Option.any_some, htext, hend, List.isSuffixOf_iff_suffix]
  exact List.suffix_append _ _

/-- **The grammar of identity lambdas.** A text is taken for an identity lambda exactly if it is a
run of opening parentheses, a word, a run of closing parentheses, an arrow and the same word, with
blanks anywhere around these pieces. An invocation whose callee ends with `.Select` and whose
argument list reads `(p => p)` or `((p) => p)`, with blanks anywhere, projects onto the element
itself. -/
theorem identityLambda_grammar :
    (∀ t : Text, isIdentityLambda t = true ↔ ∃ (m n : Nat) (p : Text), IsWord p ∧
      Spaced [List.replicate m '(', p, List.replicate n ')', arrow, p] t) ∧
    ∀ (ctx : RuleContext) (n callee args : Node) (p stem blanks : Text), IsWord p →
      n.callee? = some callee → isBlankText blanks = true →
      ctx.text callee = stem ++ ".Select".toList ++ blanks →
      n.arguments? = some args →
      (Spaced [['('], p, arrow, p, [')']] (ctx.text args) ∨
        Spaced [['('], ['('], p, [')'], arrow, p, [')']] (ctx.text args)) →
      isIdentitySelect ctx n = true := by
  refine ⟨fun t => isIdentityLambda_iff_spaced, ?_⟩
  intro ctx n callee args p stem blanks hp hcallee hblanks hselect hargs hread
  have hlambda : isIdentityLambda (dropClosing (dropOpening (ctx.text args).trim)) = true := by
    rcases hread with hbare | hparenthesised
    · have h := Spaced.insert_nil [['(']] (Spaced.insert_nil [['('], p] hbare)
      exact isIdentityLambda_of_arguments hp (m := 0) (n := 0) h
    · exact isIdentityLambda_of_arguments hp (m := 1) (n := 1) hparenthesised
  rw [isIdentitySelect, calleeEndsWith_of_text hcallee hblanks hselect, hargs, Option.any_some,
    hlambda, Bool.and_self]

/-- A text with two parentheses open and one closed, and a projection with blanks in its argument
list, so that the parentheses of the parameter stay. -/
theorem identityLambda_grammar_uneven :
    isIdentityLambda "(( x)=>x".toList = true ∧
      isIdentitySelect RuleContext.spacedSelect RuleContext.spacedSelect.unit.root = true := by
  have hword : IsWord ['x'] := ⟨by decide, List.forall_mem_singleton.2 (by decide)⟩
  constructor
  · exact (identityLambda_grammar.1 _).2 ⟨2, 1, ['x'], hword,
      [], _, rfl, rfl, [' '], _, rfl, rfl, [], _, rfl, rfl, [], _, rfl, rfl, [], [], rfl, rfl, rfl⟩
  · apply identityLambda_grammar.2 RuleContext.spacedSelect _ _ _ ['x'] ['q'] [] hword rfl rfl
      (by decide +kernel) rfl
    exact Or.inr ⟨[], _, rfl, by decide +kernel, [' '], _, rfl, rfl, [], _, rfl, rfl, [], _, rfl,
      rfl, [' '], _, rfl, rfl, [' '], _, rfl, rfl, [' '], [], rfl, rfl, rfl⟩

end Query

end UnitReview
