import UnitReview.Terminal.Styled

/-!
# What is seen of styled text

A terminal does not show style escapes: an escape character, an opening bracket, numbers with
semicolons between them and the letter `m`. `Text.visible` deletes them from a text. Every style has
an escape of that form, so that nothing is seen of the escapes around a piece. In a text without an
escape character there is no reset to be followed by the style once more, and the blanks that fill a
piece up are the same with colours and without. What is seen of such pieces with colours on is
therefore what is printed with colours off (`Styled.visible_render`).
-/

set_option autoImplicit false

namespace UnitReview

/-! ## Style escapes -/

namespace Text

/-- The character with which escapes start. -/
@[simp] def escapeChar : Char := Char.ofNat 27

/-- A character between the bracket and the last letter of a style escape. -/
def isStyleCode (c : Char) : Bool := c.isDigit || c == ';'

/-- What is behind the style escape with which a text starts. -/
def afterStyle? (cs : Text) : Option Text :=
  let rest := (cs.drop 2).dropWhile isStyleCode
  if [escapeChar, '['].isPrefixOf cs && rest.head? == some 'm' then some rest.tail else none

theorem length_lt_of_afterStyle? {cs rest : Text} (h : afterStyle? cs = some rest) :
    rest.length < cs.length := by
  obtain ⟨hstart, hrest⟩ := Option.ite_none_right_eq_some.1 h
  rw [Bool.and_eq_true, List.isPrefixOf_iff_prefix] at hstart
  obtain ⟨behind, rfl⟩ := hstart.1
  have hle := (List.dropWhile_suffix (l := behind) isStyleCode).length_le
  obtain rfl := Option.some.inj hrest
  simp only [List.cons_append, List.nil_append, List.drop_succ_cons, List.drop_zero,
    List.length_tail, List.length_cons]
  omega

/-- What a terminal shows of a text: all of it but the style escapes. -/
def visible : Text → Text
  | [] => []
  | c :: cs =>
      match h : afterStyle? (c :: cs) with
      | some rest =>
          have := length_lt_of_afterStyle? h
          visible rest
      | none => c :: visible cs
termination_by cs => cs.length
decreasing_by
  · assumption
  · exact Nat.lt_succ_self _

/-- A text without the escape character. -/
def Unescaped (t : Text) : Prop := escapeChar ∉ t

instance (t : Text) : Decidable t.Unescaped := inferInstanceAs (Decidable (escapeChar ∉ t))

theorem Unescaped.subset {t t' : Text} (h : t.Unescaped) (hsub : t' ⊆ t) : t'.Unescaped :=
  fun hmem => h (hsub hmem)

@[simp] theorem unescaped_nil : Unescaped [] := List.not_mem_nil

@[simp] theorem unescaped_cons {c : Char} {cs : Text} :
    Unescaped (c :: cs) ↔ c ≠ escapeChar ∧ cs.Unescaped := by
  simp only [Unescaped, List.mem_cons, not_or, ne_comm, ne_eq]

@[simp] theorem unescaped_append {a b : Text} :
    Unescaped (a ++ b) ↔ a.Unescaped ∧ b.Unescaped := by
  simp only [Unescaped, List.mem_append, not_or]

theorem visible_nil : visible [] = [] := by rw [visible]

/-- A style escape is not seen. -/
theorem visible_of_afterStyle? {cs rest : Text} (h : afterStyle? cs = some rest) :
    visible cs = visible rest := by
  cases cs with
  | nil => cases h
  | cons c cs =>
      rw [visible]
      split
      · next hfound =>
          obtain rfl := Option.some.inj (hfound.symm.trans h)
          rfl
      · next hnone => cases hnone.symm.trans h

/-- A character that starts no escape is seen. -/
theorem visible_cons {c : Char} (hc : c ≠ escapeChar) (cs : Text) :
    visible (c :: cs) = c :: visible cs := by
  have hnone : afterStyle? (c :: cs) = none := by
    have hstart : [escapeChar, '['].isPrefixOf (c :: cs) = false := by
      rw [List.isPrefixOf, beq_false_of_ne hc.symm, Bool.false_and]
    rw [afterStyle?, hstart]
    rfl
  rw [visible]
  split
  · next hfound => cases hnone.symm.trans hfound
  · rfl

/-- A text without the escape character is seen as it is. -/
theorem visible_append {a : Text} (ha : a.Unescaped) (b : Text) :
    visible (a ++ b) = a ++ visible b := by
  induction a with
  | nil => rfl
  | cons c a ih =>
      obtain ⟨hc, ha⟩ := unescaped_cons.1 ha
      rw [List.cons_append, visible_cons hc, ih ha, List.cons_append]

theorem afterStyle?_codes {codes : Text} (h : ∀ c ∈ codes, isStyleCode c = true) (b : Text) :
    afterStyle? (escapeChar :: '[' :: (codes ++ 'm' :: b)) = some b := by
  have hrest : (codes ++ 'm' :: b).dropWhile isStyleCode = 'm' :: b := by
    rw [List.dropWhile_append_of_pos h]
    rfl
  show (if _ && ((codes ++ 'm' :: b).dropWhile isStyleCode).head? == some 'm' then
    some ((codes ++ 'm' :: b).dropWhile isStyleCode).tail else none) = some b
  rw [hrest]
  rfl

end Text

open Text

/-- **Every style is set by a style escape.** -/
theorem Style.visible_escape (s : Style) (b : Text) : visible (s.escape ++ b) = visible b := by
  have hcodes : ∀ c ∈ (";".intercalate s.codes).toList, isStyleCode c = true := by
    rw [← List.all_eq_true]
    rcases s with ⟨bold, dimmed, colour⟩
    cases bold <;> cases dimmed <;> rcases colour with _ | colour <;> (try cases colour) <;> decide
  have hescape : s.escape ++ b = escapeChar :: '[' ::
      ((";".intercalate s.codes).toList ++ 'm' :: b) := by
    simp [Style.escape, escapeChar]
  rw [hescape, visible_of_afterStyle? (afterStyle?_codes hcodes b)]

theorem visible_resetEscape (b : Text) : visible (resetEscape ++ b) = visible b := by
  have hcodes : ∀ c ∈ (['0'] : Text), isStyleCode c = true := List.forall_mem_singleton.2 rfl
  exact visible_of_afterStyle? (afterStyle?_codes hcodes b)

/-! ## Pieces and reports -/

namespace Piece

@[simp] theorem unescaped_fill {width : Nat} {t : Text} :
    (fill width t).Unescaped ↔ t.Unescaped := by
  have hblanks : Unescaped (List.replicate (width - t.length) ' ') := fun h =>
    absurd (List.mem_replicate.1 h).2 (by decide)
  simp only [fill, unescaped_append, hblanks, and_true]

/-- Without a reset in a text no style is set again. -/
theorem restyle_eq_self {mark t : Text} (h : t.Unescaped) : restyle mark t = t := by
  unfold restyle
  induction t with
  | nil => rfl
  | cons c cs ih =>
      obtain ⟨hc, hcs⟩ := unescaped_cons.1 h
      have hstart : resetEscape.isPrefixOf (c :: cs) = false := by
        have hreset : resetEscape = [escapeChar, '[', '0', 'm'] := rfl
        rw [hreset, List.isPrefixOf, beq_false_of_ne hc.symm, Bool.false_and]
      rw [restyleFrom, hstart, if_neg Bool.false_ne_true, ih hcs]

/-- **What is seen of a piece** with colours is what is printed without. -/
theorem visible_render {p : Piece} (h : p.text.Unescaped) (b : Text) :
    visible (p.render true ++ b) = p.render false ++ visible b := by
  have hfill : (fill p.width p.text).Unescaped := unescaped_fill.2 h
  have hplain : p.render false = fill p.width p.text := rfl
  rw [hplain, render]
  split
  · rw [restyle_eq_self h, List.append_assoc, List.append_assoc, Style.visible_escape,
      visible_append hfill, visible_resetEscape]
  · exact visible_append hfill b

end Piece

namespace Styled

/-- A report without the escape character in the texts of its pieces. -/
def Unescaped (s : Styled) : Prop := ∀ p ∈ s, p.text.Unescaped

instance (s : Styled) : Decidable s.Unescaped :=
  inferInstanceAs (Decidable (∀ p ∈ s, p.text.Unescaped))

@[simp] theorem unescaped_nil : Unescaped [] := by simp [Unescaped]

@[simp] theorem unescaped_cons {p : Piece} {s : Styled} :
    Unescaped (p :: s) ↔ p.text.Unescaped ∧ s.Unescaped := List.forall_mem_cons

@[simp] theorem unescaped_append {a b : Styled} :
    Unescaped (a ++ b) ↔ a.Unescaped ∧ b.Unescaped := List.forall_mem_append

@[simp] theorem unescaped_plain {s : String} : (plain s).Unescaped ↔ Text.Unescaped s.toList :=
  List.forall_mem_singleton

@[simp] theorem unescaped_styled {style : Style} {t : Text} :
    (styled style t).Unescaped ↔ t.Unescaped := List.forall_mem_singleton

@[simp] theorem unescaped_newLine : newLine.Unescaped := by decide

theorem unescaped_flatMap {α : Type} {l : List α} {f : α → Styled} :
    Unescaped (l.flatMap f) ↔ ∀ x ∈ l, (f x).Unescaped := List.forall_mem_flatMap

/-- **What is seen of a report** with colours is what is printed without. -/
theorem visible_render {s : Styled} (h : s.Unescaped) :
    visible (s.render true) = s.render false := by
  induction s with
  | nil => exact visible_nil
  | cons p s ih =>
      obtain ⟨hp, hs⟩ := unescaped_cons.1 h
      simp only [render, List.flatMap_cons] at ih ⊢
      rw [Piece.visible_render hp, ih hs]

end Styled

end UnitReview
