import UnitReview.Json.Reader
import UnitReview.Json.Value

/-!
# Tokens read back

Writer and reader agree token by token. Blanks in front of a token are stepped over, a text is
read back from its quoted form, and a number below `2 ^ 64` from its digits, as long as what
follows cannot be taken for more of the number.
-/

set_option autoImplicit false

namespace UnitReview.Json

/-! ## Blanks -/

theorem isSpace_iff {c : Char} :
    isSpace c = true ↔ c = ' ' ∨ c = '\n' ∨ c = '\t' ∨ c = '\r' := by
  simp [isSpace, or_assoc]

/-- A text of blanks only. -/
def Blank (w : Text) : Prop := ∀ c ∈ w, isSpace c = true

instance (w : Text) : Decidable (Blank w) := List.decidableBAll (fun c => isSpace c = true) w

theorem blank_nil : Blank [] := by
  intro c hc
  cases hc

theorem blank_newLine (level : Nat) : Blank (newLine level) := by
  intro c hc
  rcases List.mem_cons.mp hc with rfl | hc
  · rfl
  · rw [(List.mem_replicate.mp hc).2]
    rfl

theorem skipSpace_append {w : Text} (hw : Blank w) (t : Text) :
    skipSpace (w ++ t) = skipSpace t :=
  List.dropWhile_append_of_pos hw

theorem skipSpace_cons {c : Char} (hc : isSpace c = false) (t : Text) :
    skipSpace (c :: t) = c :: t := by
  simp [skipSpace, hc]

/-- Blanks in front of a token are stepped over. -/
theorem skipSpace_token {w : Text} {c : Char} (hw : Blank w) (hc : isSpace c = false) (t : Text) :
    skipSpace (w ++ c :: t) = c :: t := by
  rw [skipSpace_append hw, skipSpace_cons hc]

theorem skipSpace_blank {w : Text} (hw : Blank w) : skipSpace w = [] := by
  have h := skipSpace_append hw []
  rwa [List.append_nil] at h

/-- What is left after blanks is not empty if a token is there. -/
theorem skipSpace_ne_nil {t : Text} {c : Char} (hmem : c ∈ t) (hc : isSpace c = false) :
    skipSpace t ≠ [] := by
  induction t with
  | nil => cases hmem
  | cons d u ih =>
      by_cases hd : isSpace d = true
      · have hu : c ∈ u := by
          rcases List.mem_cons.mp hmem with rfl | h
          · rw [hd] at hc; cases hc
          · exact h
        rw [show d :: u = [d] ++ u from rfl, skipSpace_append (by simpa [Blank] using hd)]
        exact ih hu
      · rw [skipSpace_cons (by simpa using hd)]
        exact List.cons_ne_nil d u

/-! ## Strings -/

theorem hexValue?_hexDigit : ∀ n < 16, hexValue? (hexDigit n) = some n := by decide

/-- An escape is read as the character it stands for. -/
theorem stringTail_escape {c d : Char} {t u : Text} (h : escape (c :: t) = .ok (d, u)) :
    stringTail ('\\' :: c :: t) = (stringTail u).map fun p => (d :: p.1, p.2) := by
  rw [stringTail]
  simp only [Char.reduceEq, if_false, if_true]
  split
  · next e he => rw [h] at he; cases he
  · next d' u' he => rw [h] at he; cases he; rfl

/-- The long escape of a control character. -/
theorem escape_control {n : Nat} (hn : n < 0x20) (t : Text) :
    escape ('u' :: '0' :: '0' :: hexDigit (n / 16) :: hexDigit (n % 16) :: t)
      = .ok (Char.ofNat n, t) := by
  have h0 : hexValue? '0' = some 0 := by decide
  have h1 := hexValue?_hexDigit (n / 16) (by omega)
  have h2 := hexValue?_hexDigit (n % 16) (by omega)
  have hv : ((0 * 16 + 0) * 16 + n / 16) * 16 + n % 16 = n := by omega
  have hhex : hexEscape ('0' :: '0' :: hexDigit (n / 16) :: hexDigit (n % 16) :: t)
      = .ok (n, t) := by
    simp only [hexEscape, h0, h1, h2, hv]
  have hlow : ¬ (0xDC00 ≤ n ∧ n ≤ 0xDFFF) := by omega
  have hhigh : ¬ (0xD800 ≤ n ∧ n ≤ 0xDBFF) := by omega
  simp [escape, hhex, hlow, hhigh, bind, Except.bind]

/-- **One character.** Whatever form a character is written in, it is read back, and reading goes
on right after that form. -/
theorem stringTail_escapeChar (c : Char) (t : Text) :
    stringTail (escapeChar c ++ t) = (stringTail t).map fun p => (c :: p.1, p.2) := by
  -- the short escapes: the character is given by its number, the letter stands for it
  have short : ∀ {n : Nat} {d : Char}, c.toNat = n → escape (d :: t) = .ok (Char.ofNat n, t) →
      stringTail (['\\', d] ++ t) = (stringTail t).map fun p => (c :: p.1, p.2) := by
    intro n d hn hd
    rw [← hn, Char.ofNat_toNat] at hd
    exact stringTail_escape hd
  unfold escapeChar
  split
  next h => subst h; exact stringTail_escape rfl
  split
  next h => subst h; exact stringTail_escape rfl
  split
  next h => exact short h rfl
  split
  next h => exact short h rfl
  split
  next h => exact short h rfl
  split
  next h => exact short h rfl
  split
  next h => exact short h rfl
  split
  next h =>
    -- a control character without a letter of its own
    have hc := escape_control h t
    rw [Char.ofNat_toNat] at hc
    exact stringTail_escape hc
  next hquote hslash _ _ _ _ _ hplain =>
    rw [List.singleton_append, stringTail, if_neg hquote, if_neg hslash, if_neg hplain]

/-- **Texts.** A text is read back from between its quotes. -/
theorem stringTail_quote (s t : Text) :
    stringTail (s.flatMap escapeChar ++ '"' :: t) = .ok (s, t) := by
  induction s with
  | nil =>
      rw [List.flatMap_nil, List.nil_append, stringTail, if_pos rfl]
  | cons c s ih =>
      rw [List.flatMap_cons, List.append_assoc, stringTail_escapeChar, ih]
      rfl

theorem quote_append (s t : Text) :
    quote s ++ t = '"' :: (s.flatMap escapeChar ++ '"' :: t) := by
  simp [quote]

/-! ## Numbers

A number is read up to the first character that is no digit. What stands there decides whether
the digits were the whole number, so the statements below ask for a text that does not go on
with digits, a point or an exponent. -/

/-- What may follow a whole number. -/
def EndsNumber (t : Text) : Prop :=
  ∀ c ∈ t.head?, isDigit c = false ∧ c ≠ '.' ∧ c ≠ 'e' ∧ c ≠ 'E'

theorem isSpace_of_isDigit {c : Char} (hc : isDigit c = true) : isSpace c = false := by
  refine Bool.eq_false_iff.2 fun hspace => ?_
  rcases isSpace_iff.mp hspace with rfl | rfl | rfl | rfl <;> exact absurd hc (by decide)

theorem le_ofDigitChars (n : Nat) (ds : List Char) : n ≤ Nat.ofDigitChars 10 ds n := by
  rw [Nat.ofDigitChars_eq_ofDigitChars_zero]
  have hpow : 1 ≤ 10 ^ ds.length := Nat.pow_pos (by omega)
  have hmul := Nat.mul_le_mul_right n hpow
  omega

/-- Digits are all taken if the number they give is not too large: no number on the way is
larger. -/
theorem absorb_eq {n : Nat} {ds : List Char} (h : Nat.ofDigitChars 10 ds n < naturalLimit) :
    absorb n ds = (Nat.ofDigitChars 10 ds n, ds.length) := by
  induction ds generalizing n with
  | nil => rfl
  | cons c cs ih =>
      have hstep : n * 10 + digitValue c = 10 * n + (c.toNat - '0'.toNat) := by
        rw [Nat.mul_comm]; rfl
      rw [Nat.ofDigitChars_cons, ← hstep] at h
      have hlt : n * 10 + digitValue c < naturalLimit := Nat.lt_of_le_of_lt (le_ofDigitChars _ cs) h
      rw [absorb, if_pos hlt, ih h, Nat.ofDigitChars_cons, ← hstep, List.length_cons]

theorem takeWhile_isDigit {ds t : Text} (hd : ∀ c ∈ ds, isDigit c = true)
    (ht : ∀ c ∈ t.head?, isDigit c = false) : (ds ++ t).takeWhile isDigit = ds := by
  rw [List.takeWhile_append_of_pos hd]
  cases t with
  | nil => rw [List.takeWhile_nil, List.append_nil]
  | cons c u =>
      have hc := ht c rfl
      rw [List.takeWhile_cons_of_neg (by rw [hc]; exact Bool.false_ne_true), List.append_nil]

theorem dropWhile_isDigit {ds t : Text} (hd : ∀ c ∈ ds, isDigit c = true)
    (ht : ∀ c ∈ t.head?, isDigit c = false) : (ds ++ t).dropWhile isDigit = t := by
  rw [List.dropWhile_append_of_pos hd]
  cases t with
  | nil => rfl
  | cons c u =>
      have hc := ht c rfl
      rw [List.dropWhile_cons_of_neg (by rw [hc]; exact Bool.false_ne_true)]

/-- A zero is the only digit, and what follows it is no digit either. -/
theorem no_leading_zero {c : Char} {ds t : Text} (hzero : c = '0' → ds = [])
    (ht : ∀ d ∈ t.head?, isDigit d = false) :
    (c = '0' && (ds ++ t).head?.any isDigit) = false := by
  by_cases hc : c = '0'
  · rw [hzero hc, List.nil_append]
    cases hd : t.head? with
    | none => simp
    | some d => simp [ht d hd]
  · simp [hc]

/-- **Numbers.** Digits without a leading zero are read as the number they give, if that is a
machine word. -/
theorem number_digits {c : Char} {ds t : Text} (hd : ∀ d ∈ c :: ds, isDigit d = true)
    (hzero : c = '0' → ds = []) (hlt : Nat.ofDigitChars 10 (c :: ds) 0 < naturalLimit)
    (ht : EndsNumber t) :
    number true (c :: ds ++ t) = .ok (.natural (Nat.ofDigitChars 10 (c :: ds) 0), t) := by
  have hend : ∀ d ∈ t.head?, isDigit d = false := fun d hd => (ht d hd).1
  have hlead := no_leading_zero hzero hend
  have htake := takeWhile_isDigit hd hend
  have hdrop := dropWhile_isDigit hd hend
  rw [List.cons_append] at htake hdrop ⊢
  simp only [number, hd c (by simp), hlead, htake, hdrop, absorb_eq hlt]
  rw [if_neg (by decide), if_neg Bool.false_ne_true]
  -- a point or an exponent would make a fraction of the digits
  split
  · exact absurd rfl (ht '.' rfl).2.1
  · exact absurd rfl (ht 'e' rfl).2.2.1
  · exact absurd rfl (ht 'E' rfl).2.2.2
  · rw [if_neg (by simp), if_pos trivial]

/-- Only zero is written with a leading zero. -/
theorem toDigits_head (n : Nat) (h : (Nat.toDigits 10 n).head? = some '0') : n = 0 := by
  induction n using Nat.strongRecOn with
  | ind n ih =>
      rw [Nat.toDigits_eq_if (by omega)] at h
      split at h
      · simpa using h
      · next hge =>
        -- the first digit is that of `n / 10`
        obtain ⟨c, ds, hds⟩ :=
          List.exists_cons_of_ne_nil (Nat.toDigits_ne_nil (n := n / 10) (b := 10))
        have hhead : (Nat.toDigits 10 (n / 10)).head? = some '0' := by
          rw [hds] at h ⊢
          exact h
        have hdiv := ih (n / 10) (by omega) hhead
        omega

/-- A machine word is read back from the form it is written in. -/
theorem number_toDigits {n : Nat} (hn : n < naturalLimit) {t : Text} (ht : EndsNumber t) :
    number true (Nat.toDigits 10 n ++ t) = .ok (.natural n, t) := by
  have hvalue : Nat.ofDigitChars 10 (Nat.toDigits 10 n) 0 = n := Nat.ofDigitChars_ten_toDigits
  have hdigit : ∀ d ∈ Nat.toDigits 10 n, isDigit d = true := fun d hd =>
    Nat.isDigit_of_mem_toDigits (by omega) (by omega) hd
  have hzero := toDigits_head n
  cases hds : Nat.toDigits 10 n with
  | nil => exact absurd hds Nat.toDigits_ne_nil
  | cons c ds =>
      rw [hds] at hvalue hdigit hzero
      have h0 : c = '0' → ds = [] := by
        intro hc
        have hn0 := hzero (by rw [hc]; rfl)
        rw [hn0, Nat.toDigits_zero] at hds
        exact (List.cons.inj hds).2.symm
      rw [number_digits hdigit h0 (by rw [hvalue]; exact hn) ht, hvalue]

end UnitReview.Json
