import UnitReview.Proofs.Json.Grammar

/-!
# The reader recognises the grammar

What the readers of tokens make of the tokens of the grammar. A string is read if and only if it
spells a text, and then as that text (`stringTail_eq_ok_iff`). A value of no interest is stepped over
whatever it is (`skipValue_written`): the stack of open lists and objects comes back as it was, and the
fuel, two for each character, is enough.
-/

set_option autoImplicit false

namespace UnitReview.Json

/-! ## Readings that succeed -/

section Except

variable {ε α β : Type}

theorem ok_bind (a : α) (f : α → Except ε β) : Except.ok a >>= f = f a := rfl

theorem bind_eq_ok {x : Except ε α} {f : α → Except ε β} {b : β} :
    x >>= f = .ok b ↔ ∃ a, x = .ok a ∧ f a = .ok b := by
  cases x <;> simp [bind, Except.bind]

theorem map_eq_ok {x : Except ε α} {f : α → β} {b : β} :
    x.map f = .ok b ↔ ∃ a, x = .ok a ∧ f a = b := by
  cases x <;> simp [Except.map]

end Except

/-! ## Strings -/

theorem hexEscape_word {n : Nat} {q : Text} (hq : HexWord n q) (t : Text) :
    hexEscape (q ++ t) = .ok (n, t) := by
  cases hq with
  | digits ha hb hc hd => simp [hexEscape, ha, hb, hc, hd]

theorem escape_short {l c : Char} (hl : (l, c) ∈ shortEscapes) (t : Text) :
    escape (l :: t) = .ok (c, t) := by
  simp only [shortEscapes, List.mem_cons, List.not_mem_nil, or_false, Prod.mk.injEq] at hl
  rcases hl with ⟨rfl, rfl⟩ | ⟨rfl, rfl⟩ | ⟨rfl, rfl⟩ | ⟨rfl, rfl⟩ | ⟨rfl, rfl⟩ | ⟨rfl, rfl⟩ |
    ⟨rfl, rfl⟩ | ⟨rfl, rfl⟩ <;> rfl

/-- A long escape is taken for half of a character or for a whole one. -/
theorem escape_word {n : Nat} {q : Text} (hq : HexWord n q) (t : Text) :
    (IsLow n → ∃ f, escape ('u' :: (q ++ t)) = .error f) ∧
    (IsHigh n → escape ('u' :: (q ++ t)) = lowSurrogate n t) ∧
    (¬ IsHigh n → ¬ IsLow n → escape ('u' :: (q ++ t)) = .ok (Char.ofNat n, t)) := by
  simp only [escape, hexEscape_word hq, bind, Except.bind, Bool.and_eq_true, decide_eq_true_eq]
  refine ⟨?_, ?_, ?_⟩
  · intro hlow
    exact ⟨_, if_pos hlow⟩
  · intro hhigh
    have hlow : ¬ IsLow n := by unfold IsHigh at hhigh; unfold IsLow; omega
    exact (if_neg hlow).trans (if_pos hhigh)
  · intro hhigh hlow
    exact (if_neg hlow).trans (if_neg hhigh)

/-- The second half of a character has to be there. -/
theorem lowSurrogate_word {m n : Nat} {q : Text} (hq : HexWord n q) (t : Text) :
    (IsLow n → lowSurrogate m ('\\' :: 'u' :: (q ++ t)) =
      .ok (Char.ofNat ((m - 0xD800) * 1024 + (n - 0xDC00) + 0x10000), t)) ∧
    (¬ IsLow n → ∃ f, lowSurrogate m ('\\' :: 'u' :: (q ++ t)) = .error f) := by
  simp only [lowSurrogate, hexEscape_word hq, bind, Except.bind, Bool.and_eq_true,
    decide_eq_true_eq]
  constructor
  · intro hlow
    exact if_pos hlow
  · intro hlow
    exact ⟨_, if_neg hlow⟩

theorem lowSurrogate_plain (m : Nat) {c : Char} (hc : c ≠ '\\') (t : Text) :
    ∃ f, lowSurrogate m (c :: t) = .error f := by
  unfold lowSurrogate
  split
  next heq => cases heq
  next heq => exact absurd (List.cons.inj heq).1 hc
  next heq => exact absurd (List.cons.inj heq).1 hc
  next heq => exact absurd (List.cons.inj heq).1 hc
  next => exact ⟨_, rfl⟩

theorem lowSurrogate_short (m : Nat) {l c : Char} (hl : (l, c) ∈ shortEscapes) (t : Text) :
    ∃ f, lowSurrogate m ('\\' :: l :: t) = .error f := by
  have hu : l ≠ 'u' := by
    rintro rfl
    simp [shortEscapes] at hl
  unfold lowSurrogate
  split
  next heq => cases heq
  next heq => cases heq
  next heq =>
    obtain ⟨-, heq⟩ := List.cons.inj heq
    exact absurd (List.cons.inj heq).1 hu
  next => exact ⟨_, rfl⟩
  next hother heq =>
    obtain ⟨rfl, rfl⟩ := List.cons.inj heq
    exact absurd rfl (hother _ _ · rfl)

theorem stringTail_backslash (t : Text) :
    stringTail ('\\' :: t) =
      (escape t).bind fun p => (stringTail p.2).map fun r => (p.1 :: r.1, r.2) := by
  rw [stringTail]
  simp only [Char.reduceEq, if_false, if_true]
  split
  next e he => rw [he]; rfl
  next d u he => rw [he]; rfl

theorem stringTail_plain {c : Char} (hc : Plain c) (t : Text) :
    stringTail (c :: t) = (stringTail t).map fun r => (c :: r.1, r.2) := by
  rw [stringTail, if_neg hc.1, if_neg hc.2.1, if_neg hc.2.2]

theorem stringTail_quotes (t : Text) : stringTail ('"' :: t) = .ok ([], t) := by
  rw [stringTail, if_pos rfl]

/-- Whatever way a character is written, it is read, and reading goes on right after it. -/
theorem stringTail_spellsChar {c : Char} {p : Text} (h : SpellsChar c p) (t : Text) :
    stringTail (p ++ t) = (stringTail t).map fun r => (c :: r.1, r.2) := by
  cases h with
  | plain hc => exact stringTail_plain hc t
  | short hl =>
      show stringTail ('\\' :: _ :: t) = _
      rw [stringTail_backslash, escape_short hl]
      rfl
  | @hex n q hq hhigh hlow =>
      show stringTail ('\\' :: 'u' :: (q ++ t)) = _
      rw [stringTail_backslash, (escape_word hq t).2.2 hhigh hlow]
      rfl
  | @pair m n p q hp hm hq hn =>
      rw [List.append_assoc]
      show stringTail ('\\' :: 'u' :: (p ++ '\\' :: 'u' :: (q ++ t))) = _
      rw [stringTail_backslash, (escape_word hp _).2.1 hm, (lowSurrogate_word hq t).1 hn,
        Except.bind]

theorem stringTail_spells {s b : Text} (h : Spells s b) (t : Text) :
    stringTail (b ++ '"' :: t) = .ok (s, t) := by
  induction h with
  | nil => exact stringTail_quotes t
  | cons hc _ ih =>
      rw [List.append_assoc, stringTail_spellsChar hc, ih]
      rfl

/-- Only a second half of a character is read after a first one. -/
theorem exists_low_of_lowSurrogate {m : Nat} {b t : Text} (hb : Body b) {r : Char × Text}
    (h : lowSurrogate m (b ++ '"' :: t) = .ok r) :
    ∃ n q b', HexWord n q ∧ IsLow n ∧ Body b' ∧ b = '\\' :: 'u' :: q ++ b' := by
  cases hb with
  | nil =>
      obtain ⟨f, hf⟩ := lowSurrogate_plain m (c := '"') (by decide) t
      rw [List.nil_append, hf] at h
      cases h
  | @cons q b' hq hb' =>
      rw [List.append_assoc] at h
      cases hq with
      | plain hc =>
          obtain ⟨f, hf⟩ := lowSurrogate_plain m hc.2.1 _
          rw [List.singleton_append, hf] at h
          cases h
      | short hl =>
          obtain ⟨f, hf⟩ := lowSurrogate_short m hl _
          rw [List.cons_append, List.singleton_append, hf] at h
          cases h
      | @hex n q hq =>
          by_cases hn : IsLow n
          · exact ⟨n, q, b', hq, hn, hb', rfl⟩
          · obtain ⟨f, hf⟩ := (lowSurrogate_word hq _).2 hn
            rw [List.cons_append, List.cons_append, hf] at h
            cases h

/-- What is read starts with a character. Four digits may give only half of one, and then the other
half follows. -/
theorem exists_spellsChar {p b t : Text} (hp : Piece p) (hb : Body b) {r : Text × Text}
    (h : stringTail (p ++ (b ++ '"' :: t)) = .ok r) :
    ∃ c q b', SpellsChar c q ∧ q ≠ [] ∧ Body b' ∧ p ++ b = q ++ b' := by
  cases hp with
  | plain hc => exact ⟨_, _, b, .plain hc, List.cons_ne_nil _ _, hb, rfl⟩
  | short hl => exact ⟨_, _, b, .short hl, List.cons_ne_nil _ _, hb, rfl⟩
  | @hex m p hp =>
      obtain ⟨d, hread, -⟩ := bind_eq_ok.1 ((stringTail_backslash _).symm.trans h)
      obtain ⟨hlow, hhigh, -⟩ := escape_word hp (b ++ '"' :: t)
      by_cases hm : IsLow m
      · obtain ⟨f, hf⟩ := hlow hm
        exact absurd (hf.symm.trans hread) (by simp)
      by_cases hm' : IsHigh m
      · obtain ⟨n, q, b', hq, hn, hb', rfl⟩ :=
          exists_low_of_lowSurrogate hb ((hhigh hm').symm.trans hread)
        exact ⟨_, _, b', .pair hp hm' hq hn, List.cons_ne_nil _ _, hb', by simp⟩
      · exact ⟨_, _, b, .hex hp hm' hm, List.cons_ne_nil _ _, hb, rfl⟩

/-- A string that is read spells what it is read as. -/
theorem spells_of_stringTail {b : Text} (hb : Body b) {s t u : Text}
    (h : stringTail (b ++ '"' :: t) = .ok (s, u)) : Spells s b ∧ u = t := by
  -- on the length of the body: two halves of a character are taken together
  induction hn : b.length using Nat.strongRecOn generalizing b s with
  | ind n ih =>
      cases hb with
      | nil =>
          rw [List.nil_append, stringTail_quotes] at h
          cases h
          exact ⟨.nil, rfl⟩
      | cons hp hb =>
          rw [List.append_assoc] at h
          obtain ⟨c, q, b', hc, hq, hb', heq⟩ := exists_spellsChar hp hb h
          rw [← List.append_assoc, heq, List.append_assoc, stringTail_spellsChar hc] at h
          obtain ⟨⟨s', u'⟩, htail, hpair⟩ := map_eq_ok.1 h
          obtain ⟨rfl, rfl⟩ := Prod.mk.inj hpair
          have hlength : b'.length < n := by
            have := List.length_pos_iff.2 hq
            rw [heq, List.length_append] at hn
            omega
          obtain ⟨hs, rfl⟩ := ih _ hlength hb' htail rfl
          rw [heq]
          exact ⟨.cons hc hs, rfl⟩

/-- **Strings.** A string is read if and only if it spells a text, and then as that text. -/
theorem stringTail_eq_ok_iff {b : Text} (hb : Body b) {s t u : Text} :
    stringTail (b ++ '"' :: t) = .ok (s, u) ↔ Spells s b ∧ u = t := by
  constructor
  · exact spells_of_stringTail hb
  · rintro ⟨hs, rfl⟩
    exact stringTail_spells hs u

/-- A string spells at most one text. -/
theorem Spells.unique {s s' b : Text} (h : Spells s b) (h' : Spells s' b) : s = s' := by
  have heq := (stringTail_spells h []).symm.trans (stringTail_spells h' [])
  simpa using heq

theorem skipEscape_short {l c : Char} (hl : (l, c) ∈ shortEscapes) (t : Text) :
    skipEscape (l :: t) = .ok t := by
  simp only [shortEscapes, List.mem_cons, List.not_mem_nil, or_false, Prod.mk.injEq] at hl
  rcases hl with ⟨rfl, rfl⟩ | ⟨rfl, rfl⟩ | ⟨rfl, rfl⟩ | ⟨rfl, rfl⟩ | ⟨rfl, rfl⟩ | ⟨rfl, rfl⟩ |
    ⟨rfl, rfl⟩ | ⟨rfl, rfl⟩ <;> rfl

theorem skipStringTail_backslash {t u : Text} (h : skipEscape t = .ok u) :
    skipStringTail ('\\' :: t) = skipStringTail u := by
  rw [skipStringTail]
  simp only [Char.reduceEq, if_false, if_true]
  split
  next e he => rw [h] at he; cases he
  next u' he => rw [h] at he; cases he; rfl

/-- A string of no interest is stepped over, whether it spells a text or not. -/
theorem skipStringTail_body {b : Text} (hb : Body b) (t : Text) :
    skipStringTail (b ++ '"' :: t) = .ok t := by
  induction hb with
  | nil => rw [List.nil_append, skipStringTail, if_pos rfl]
  | @cons p b hp _ ih =>
      rw [List.append_assoc]
      cases hp with
      | plain hc =>
          rw [List.singleton_append, skipStringTail, if_neg hc.1, if_neg hc.2.1, if_neg hc.2.2]
          exact ih
      | short hl =>
          exact (skipStringTail_backslash (skipEscape_short hl _)).trans ih
      | @hex n q hq =>
          have hskip : skipEscape ('u' :: (q ++ (b ++ '"' :: t))) = .ok (b ++ '"' :: t) := by
            rw [skipEscape, hexEscape_word hq]
            rfl
          exact (skipStringTail_backslash hskip).trans ih

/-! ## Numbers -/

theorem ExponentText.head {e t : Text} (he : ExponentText e) (ht : EndsNumber t) :
    ∀ c ∈ (e ++ t).head?, isDigit c = false ∧ c ≠ '.' := by
  cases he with
  | none => exact fun c hc => ⟨(ht c hc).1, (ht c hc).2.1⟩
  | some he _ _ _ =>
      rintro c ⟨⟩
      rcases he with rfl | rfl <;> decide

/-- The digits of the whole part end where the places or the exponent begin. -/
theorem PlacesText.head {f e t : Text} (hf : PlacesText f) (he : ExponentText e)
    (ht : EndsNumber t) : ∀ c ∈ (f ++ (e ++ t)).head?, isDigit c = false := by
  cases hf with
  | none => exact fun c hc => (he.head ht c hc).1
  | some _ _ =>
      rintro c ⟨⟩
      decide

theorem skipExponent_text {c : Char} {sign ds t : Text}
    (hsign : sign = [] ∨ sign = ['+'] ∨ sign = ['-']) (hc : isDigit c = true)
    (hds : ∀ d ∈ ds, isDigit d = true) (ht : EndsNumber t) :
    skipExponent (sign ++ c :: ds ++ t) = .ok t := by
  have hdrop := dropWhile_isDigit hds fun d hd => (ht d hd).1
  rcases hsign with rfl | rfl | rfl
  · rw [List.nil_append, List.cons_append]
    unfold skipExponent
    -- a digit is no sign
    split
    next heq => rw [(List.cons.inj heq).1] at hc; exact absurd hc (by decide)
    next heq => rw [(List.cons.inj heq).1] at hc; exact absurd hc (by decide)
    next => simp only [if_pos hc, hdrop]
  all_goals simp [skipExponent, hc, hdrop]

/-- What the reader does behind the digits of a whole part or of places: it steps over the
exponent, if there is one. -/
theorem skip_exponentText {e t : Text} (he : ExponentText e) (ht : EndsNumber t) :
    (match e ++ t with
      | 'e' :: r => skipExponent r
      | 'E' :: r => skipExponent r
      | _ => .ok (e ++ t)) = .ok t := by
  cases he with
  | none =>
      rw [List.nil_append]
      split
      next => exact absurd rfl (ht 'e' rfl).2.2.1
      next => exact absurd rfl (ht 'E' rfl).2.2.2
      next => rfl
  | some he hsign hc hds =>
      rcases he with rfl | rfl <;> exact skipExponent_text hsign hc hds ht

theorem skipDecimals_text {c : Char} {ds e t : Text} (hc : isDigit c = true)
    (hds : ∀ d ∈ ds, isDigit d = true) (he : ExponentText e) (ht : EndsNumber t) :
    skipDecimals (c :: ds ++ (e ++ t)) = .ok t := by
  have hdigits : ∀ d ∈ c :: ds, isDigit d = true := by
    intro d hd
    rcases List.mem_cons.1 hd with rfl | hd
    · exact hc
    · exact hds d hd
  have hdrop := dropWhile_isDigit hdigits fun d hd => (he.head ht d hd).1
  rw [skipDecimals, hdrop]
  rw [if_pos (by simpa using hc)]
  exact skip_exponentText he ht

/-- A number of no interest is stepped over, after its sign. -/
theorem skipNumber_text {i f e t : Text} (hi : WholeText i) (hf : PlacesText f)
    (he : ExponentText e) (ht : EndsNumber t) : skipNumber (i ++ (f ++ (e ++ t))) = .ok t := by
  obtain ⟨c, ds, rfl, hdigits, hzero⟩ := hi.exists_cons
  have hend := hf.head he ht
  have hdrop := dropWhile_isDigit hdigits hend
  have hlead := no_leading_zero hzero hend
  rw [List.cons_append] at hdrop ⊢
  simp only [skipNumber, hdigits c (by simp), hlead, hdrop]
  rw [if_neg (by decide), if_neg Bool.false_ne_true]
  cases hf with
  | some hc hds => exact skipDecimals_text hc hds he ht
  | none =>
      rw [List.nil_append]
      have hskip := skip_exponentText he ht
      split
      next heq => exact absurd rfl (he.head ht '.' (by rw [heq]; rfl)).2
      next heq => rw [heq] at hskip; exact hskip
      next heq => rw [heq] at hskip; exact hskip
      next hne hne' =>
        split at hskip
        next r heq => exact absurd heq (hne r)
        next r heq => exact absurd heq (hne' r)
        next => exact hskip

/-! ## Values of no interest

The reader steps over a value with a stack of the lists and objects that are open around it. Behind
the value the stack is as it was, and some of the fuel is used up. -/

/-- What comes next in a list or an object that is open: a value, or a key and a value. -/
def skipNext (frame : Frame) (fuel : Nat) (open' : List Frame) (t : Text) : Except Fault Text :=
  match frame with
  | .list => skipOpen fuel true false (frame :: open') t
  | .object => (skipKey t).bind (skipOpen fuel true false (frame :: open'))

section Steps

variable {w : Text} (hw : Blank w) (fuel : Nat) (frame : Frame) (open' : List Frame)

include hw

theorem skipOpen_close (fresh : Bool) (t : Text) :
    skipOpen (fuel + 1 + 1) false fresh (frame :: open') (w ++ frame.closing :: t) =
      skipOpen (fuel + 1) false false open' t := by
  rw [skipOpen, skipSpace_token hw (by cases frame <;> rfl)]
  simp only [if_true]
  cases open' <;> rfl

theorem skipOpen_first {c : Char} (hc : isSpace c = false) (hne : c ≠ frame.closing) (t : Text) :
    skipOpen (fuel + 1) false true (frame :: open') (w ++ c :: t) =
      skipNext frame fuel open' (c :: t) := by
  rw [skipOpen, skipSpace_token hw hc]
  simp only [if_neg hne, if_true]
  rfl

theorem skipOpen_comma (t : Text) :
    skipOpen (fuel + 1) false false (frame :: open') (w ++ ',' :: t) =
      skipNext frame fuel open' t := by
  have hne : ',' ≠ frame.closing := by cases frame <;> decide
  rw [skipOpen, skipSpace_token hw rfl]
  simp only [if_neg hne, if_true, Bool.false_eq_true, if_false]
  rfl

theorem skipOpen_open (fresh : Bool) (t : Text) :
    skipOpen (fuel + 1) true fresh open' (w ++ '[' :: t) =
        skipOpen fuel false true (.list :: open') t ∧
      skipOpen (fuel + 1) true fresh open' (w ++ '\x7b' :: t) =
        skipOpen fuel false true (.object :: open') t := by
  constructor
  all_goals
    rw [skipOpen, skipSpace_token hw rfl]
    rfl

end Steps

/-- The text of a value that is stepped over, wherever it stands. -/
def Skipped (t : Text) : Prop :=
  ∃ k ≤ 2 * t.length, ∀ (fuel : Nat) (fresh : Bool) (open' : List Frame) (w rest : Text),
    Blank w → EndsNumber rest →
      skipOpen (fuel + 1 + k) true fresh open' (w ++ (t ++ rest)) =
        skipOpen (fuel + 1) false false open' rest

/-- The text of an item of a list, or of a field of an object, that is stepped over. -/
structure SkippedIn (frame : Frame) (u : Text) : Prop where
  starts : ∃ c v, u = c :: v ∧ isSpace c = false ∧ c ≠ frame.closing
  skips : ∃ k ≤ 2 * u.length, ∀ (fuel : Nat) (open' : List Frame) (w rest : Text),
    Blank w → EndsNumber rest →
      skipNext frame (fuel + 1 + k) open' (w ++ (u ++ rest)) =
        skipOpen (fuel + 1) false false (frame :: open') rest

/-- The items after one that has been stepped over. -/
theorem skipOpen_tail {frame : Frame} {us : List Text} {t : Text}
    (hus : ∀ u ∈ us, SkippedIn frame u) (ht : Tail frame.closing us t) :
    ∃ k ≤ 2 * t.length, ∀ (fuel : Nat) (open' : List Frame) (rest : Text),
      skipOpen (fuel + 1 + k) false false (frame :: open') (t ++ rest) =
        skipOpen (fuel + 1) false false open' rest := by
  induction ht with
  | close hw =>
      refine ⟨1, by simp; omega, ?_⟩
      intro fuel open' rest
      rw [List.append_assoc, List.singleton_append]
      exact skipOpen_close hw fuel frame open' false rest
  | @next w w' u t us hw hw' ht ih =>
      obtain ⟨k, hk, hitem⟩ := (hus u (by simp)).skips
      obtain ⟨l, hl, htail⟩ := ih fun v hv => hus v (by simp [hv])
      refine ⟨l + k + 1, ?_, ?_⟩
      · simp only [List.length_append, List.length_cons]
        omega
      · intro fuel open' rest
        have hrest : EndsNumber (t ++ rest) :=
          (ht.delimited (by cases frame <;> simp [Frame.closing]) rest).endsNumber
        have hfuel : fuel + 1 + (l + k + 1) = fuel + l + 1 + k + 1 := by omega
        have hfuel' : fuel + l + 1 = fuel + 1 + l := by omega
        simp only [List.append_assoc, List.cons_append]
        rw [hfuel, skipOpen_comma hw, hitem (fuel + l) open' w' (t ++ rest) hw' hrest, hfuel',
          htail]

/-- A list or an object is stepped over if everything in it is. -/
theorem skipped_bracketed (frame : Frame) {opening : Char} {us : List Text} {t : Text}
    (hopen : ∀ (fuel : Nat) (fresh : Bool) (open' : List Frame) (w t : Text), Blank w →
      skipOpen (fuel + 1) true fresh open' (w ++ opening :: t) =
        skipOpen fuel false true (frame :: open') t)
    (hus : ∀ u ∈ us, SkippedIn frame u) (ht : Bracketed opening frame.closing us t) :
    Skipped t := by
  cases ht with
  | @empty w hw =>
      refine ⟨2, by simp only [List.length_cons]; omega, ?_⟩
      intro fuel fresh open' w' rest hw' _
      rw [List.cons_append, List.append_assoc, List.singleton_append, hopen _ _ _ _ _ hw']
      exact skipOpen_close hw fuel frame open' true rest
  | @items w u t us hw ht =>
      have hu := hus u (by simp)
      obtain ⟨k, hk, hitem⟩ := hu.skips
      obtain ⟨c, v, rfl, hc, hne⟩ := hu.starts
      obtain ⟨l, hl, htail⟩ := skipOpen_tail (fun v hv => hus v (by simp [hv])) ht
      refine ⟨l + k + 2, ?_, ?_⟩
      · simp only [List.length_append, List.length_cons] at hk ⊢
        omega
      · intro fuel fresh open' w' rest hw' _
        have hrest : EndsNumber (t ++ rest) :=
          (ht.delimited (by cases frame <;> simp [Frame.closing]) rest).endsNumber
        have hfuel : fuel + 1 + (l + k + 2) = fuel + l + 1 + k + 1 + 1 := by omega
        have hfuel' : fuel + l + 1 = fuel + 1 + l := by omega
        have hfirst := hitem (fuel + l) open' [] (t ++ rest) blank_nil hrest
        rw [List.nil_append, List.cons_append] at hfirst
        simp only [List.append_assoc, List.cons_append]
        rw [hfuel, hopen _ _ _ _ _ hw', skipOpen_first hw _ frame open' hc hne, hfirst, hfuel',
          htail]

/-- A word, a number or a string: one step. -/
theorem skipped_atom {t : Text} (ht : t ≠ [])
    (h : ∀ (fuel : Nat) (fresh : Bool) (open' : List Frame) (w rest : Text), Blank w →
      EndsNumber rest → skipOpen (fuel + 1) true fresh open' (w ++ (t ++ rest)) =
        if open'.isEmpty then .ok rest else skipOpen fuel false false open' rest) :
    Skipped t := by
  refine ⟨1, ?_, ?_⟩
  · have := List.length_pos_iff.2 ht
    omega
  · intro fuel fresh open' w rest hw hrest
    rw [h (fuel + 1) fresh open' w rest hw hrest]
    cases open' <;> rfl

/-- The words `null`, `true` and `false`. -/
theorem skipped_word {t : Text}
    (ht : t ∈ [['n', 'u', 'l', 'l'], ['t', 'r', 'u', 'e'], ['f', 'a', 'l', 's', 'e']]) :
    Skipped t := by
  simp only [List.mem_cons, List.not_mem_nil, or_false] at ht
  rcases ht with rfl | rfl | rfl <;>
  · refine skipped_atom (List.cons_ne_nil _ _) ?_
    intro fuel fresh open' w rest hw _
    rw [List.cons_append, skipOpen, skipSpace_token hw rfl]
    rfl

theorem skipped_number {x : Text} (hx : NumberText x) : Skipped x := by
  cases hx with
  | @negative i f e hi hf he =>
      refine skipped_atom (List.cons_ne_nil _ _) ?_
      intro fuel fresh open' w rest hw hrest
      have hskip := skipNumber_text hi hf he hrest
      rw [List.cons_append, skipOpen, skipSpace_token hw rfl]
      simp [hskip, Except.bind]
  | @unsigned i f e hi hf he =>
      obtain ⟨c, ds, rfl, hdigits, -⟩ := hi.exists_cons
      refine skipped_atom (List.cons_ne_nil _ _) ?_
      intro fuel fresh open' w rest hw hrest
      have hskip := skipNumber_text hi hf he hrest
      have hc : isDigit c = true := hdigits c (by simp)
      have hne : ∀ d, isDigit d = false → c ≠ d := by
        rintro d hd rfl
        rw [hc] at hd
        cases hd
      simp only [List.cons_append, List.append_assoc] at hskip ⊢
      rw [skipOpen, skipSpace_token hw (isSpace_of_isDigit hc)]
      simp [hne 'n' (by decide), hne 't' (by decide), hne 'f' (by decide),
        hne '-' (by decide), hc, hskip, Except.bind]

theorem skipped_string {b : Text} (hb : Body b) : Skipped ('"' :: (b ++ ['"'])) := by
  refine skipped_atom (List.cons_ne_nil _ _) ?_
  intro fuel fresh open' w rest hw _
  rw [List.cons_append, List.append_assoc, List.singleton_append, skipOpen, skipSpace_token hw rfl]
  simp [isDigit, skipStringTail_body hb, Except.bind]

theorem Skipped.item {t : Text} (ht : Skipped t) {v : Value} (hv : Written v t) :
    SkippedIn .list t := by
  obtain ⟨c, u, rfl, hopens⟩ := hv.exists_cons
  obtain ⟨k, hk, hskip⟩ := ht
  refine ⟨⟨c, u, rfl, hopens.token.1, hopens.token.2.1⟩, k, hk, ?_⟩
  intro fuel open' w rest hw hrest
  exact hskip fuel false (.list :: open') w rest hw hrest

theorem skipKey_field {b w w' : Text} (hb : Body b) (hw : Blank w) (hw' : Blank w') (t : Text) :
    skipKey (w ++ '"' :: (b ++ '"' :: (w' ++ ':' :: t))) = .ok t := by
  rw [skipKey, skipSpace_token hw rfl]
  simp only [if_true, skipStringTail_body hb, bind, Except.bind, skipSpace_token hw' (c := ':') rfl]

theorem Skipped.field {b t u : Text} (ht : Skipped t) (hb : Body b) (hu : FieldText b t u) :
    SkippedIn .object u := by
  obtain ⟨k, hk, hskip⟩ := ht
  cases hu with
  | @field w w' hw hw' =>
      refine ⟨⟨'"', _, rfl, rfl, by decide⟩, k, ?_, ?_⟩
      · simp only [List.length_append, List.length_cons]
        omega
      · intro fuel open' w'' rest hw'' hrest
        simp only [List.cons_append, List.append_assoc]
        rw [skipNext, skipKey_field hb hw'' hw, Except.bind]
        exact hskip fuel false (.object :: open') w' rest hw' hrest

mutual

/-- Every value is stepped over. -/
theorem skipped_written : ∀ (v : Value) {t : Text}, Written v t → Skipped t
  | .null, t, h => by
      cases h
      exact skipped_word (by simp)
  | .boolean true, t, h => by
      cases h
      exact skipped_word (by simp)
  | .boolean false, t, h => by
      cases h
      exact skipped_word (by simp)
  | .string b, t, h => by
      cases h with
      | string hb => exact skipped_string hb
  | .number x, t, h => by
      cases h with
      | number hx => exact skipped_number hx
  | .list vs, t, h => by
      cases h with
      | list hvs ht =>
          refine skipped_bracketed .list ?_ (skippedIn_items vs hvs) ht
          intro fuel fresh open' w t hw
          exact (skipOpen_open hw fuel open' fresh t).1
  | .object ms, t, h => by
      cases h with
      | object hms ht =>
          refine skipped_bracketed .object ?_ (skippedIn_fields ms hms) ht
          intro fuel fresh open' w t hw
          exact (skipOpen_open hw fuel open' fresh t).2

theorem skippedIn_items : ∀ (vs : List Value) {ts : List Text}, WrittenItems vs ts →
    ∀ t ∈ ts, SkippedIn .list t
  | [], ts, h => by
      cases h
      intro t ht
      cases ht
  | v :: vs, ts, h => by
      cases h with
      | cons hv hvs =>
          intro t ht
          rcases List.mem_cons.1 ht with rfl | ht
          · exact (skipped_written v hv).item hv
          · exact skippedIn_items vs hvs t ht

theorem skippedIn_fields : ∀ (ms : List (Text × Value)) {us : List Text}, WrittenFields ms us →
    ∀ u ∈ us, SkippedIn .object u
  | [], us, h => by
      cases h
      intro u hu
      cases hu
  | (b, v) :: ms, us, h => by
      cases h with
      | cons hb hv hu hms =>
          intro u' hu'
          rcases List.mem_cons.1 hu' with rfl | hu'
          · exact (skipped_written v hv).field hb hu
          · exact skippedIn_fields ms hms u' hu'

end

/-- **A value of no interest is stepped over**, however deep it is. -/
theorem skipValue_written {v : Value} {t w rest : Text} (h : Written v t) (hw : Blank w)
    (hrest : EndsNumber rest) : skipValue (w ++ (t ++ rest)) = .ok rest := by
  obtain ⟨k, hk, hskip⟩ := skipped_written v h
  have hfuel : 2 * (w ++ (t ++ rest)).length + 2 =
      2 * (w.length + rest.length) + (2 * t.length - k) + 1 + 1 + k := by
    simp only [List.length_append]
    omega
  rw [skipValue, hfuel, hskip _ _ _ _ _ hw hrest]
  rfl

end UnitReview.Json
