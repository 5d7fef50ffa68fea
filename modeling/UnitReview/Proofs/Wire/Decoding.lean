import UnitReview.Proofs.Json.Recognition
import UnitReview.Proofs.Wire.Words

/-!
# What readers make of values

A reader is given a text, but what it makes of it depends only on the value that the text holds:
neither blanks nor what follows matter. `Follows read D` says so, and says which results `D` the
reader gives for which values; for all other values it fails. Readers of simple values come first,
then those of lists, and of lists that stand for records.
-/

set_option autoImplicit false

namespace UnitReview.Wire

open Json

/-- **The reader follows `D`**: it takes a text of `v` for `a` if and only if `D v a`, and then stops
right behind the text. -/
def Follows {α : Type} (read : Reader α) (D : Value → α → Prop) : Prop :=
  ∀ ⦃v : Value⦄ ⦃t : Text⦄, Written v t → ∀ {w rest : Text}, Blank w → EndsNumber rest →
    ∀ {a : α} {rest' : Text}, read (w ++ (t ++ rest)) = .ok (a, rest') ↔ D v a ∧ rest' = rest

theorem wrongType_ne_ok {α : Type} (expected : String) (t : Text) (r : α × Text) :
    wrongType expected t ≠ .ok r := fun h =>
  gives_wrongType (P := fun _ => False) expected t r.1 r.2 h

/-! ## Numbers -/

/-- Not all digits are taken if the number that they give is too large. -/
theorem absorb_lt_length {n : Nat} {ds : List Char} (hn : n < naturalLimit)
    (h : naturalLimit ≤ Nat.ofDigitChars 10 ds n) : (absorb n ds).2 < ds.length := by
  induction ds generalizing n with
  | nil => exact absurd h (Nat.not_le.2 hn)
  | cons c cs ih =>
      have hstep : n * 10 + digitValue c = 10 * n + (c.toNat - '0'.toNat) := by
        rw [Nat.mul_comm]; rfl
      rw [Nat.ofDigitChars_cons, ← hstep] at h
      rw [absorb]
      split
      next hlt =>
        have := ih hlt h
        simp only [List.length_cons]
        omega
      next => simp

/-- A number is a fraction. -/
def IsFraction : Number → Prop
  | .fraction _ => True
  | .natural _ | .negative _ => False

/-- Digits before a point or an exponent, and digits that give too large a number, make a
fraction. -/
theorem gives_number_fraction {c : Char} {ds u : Text} (hdigits : ∀ d ∈ c :: ds, isDigit d = true)
    (hzero : c = '0' → ds = []) (hu : ∀ d ∈ u.head?, isDigit d = false)
    (h : (∃ d ∈ u.head?, d = '.' ∨ d = 'e' ∨ d = 'E') ∨
      naturalLimit ≤ Nat.ofDigitChars 10 (c :: ds) 0) :
    Gives (number true (c :: ds ++ u)) IsFraction := by
  have hfraction : ∀ g, IsFraction (.fraction g) := fun _ => trivial
  have hlead := no_leading_zero hzero hu
  have htake := takeWhile_isDigit hdigits hu
  have hdrop := dropWhile_isDigit hdigits hu
  rw [List.cons_append] at htake hdrop ⊢
  simp only [number, hdigits c (by simp), hlead, htake, hdrop]
  rw [if_neg (by decide), if_neg Bool.false_ne_true]
  split
  next => exact gives_decimalPart hfraction _ _ _ _
  next => exact gives_exponentPart hfraction _ _ _ _
  next => exact gives_exponentPart hfraction _ _ _ _
  next hpoint hsmall hcapital =>
    rcases h with ⟨d, hd, hmark⟩ | hlarge
    · obtain ⟨r, rfl⟩ := List.head?_eq_some_iff.1 hd
      rcases hmark with rfl | rfl | rfl
      · exact absurd rfl (hpoint r)
      · exact absurd rfl (hsmall r)
      · exact absurd rfl (hcapital r)
    · have hlength := absorb_lt_length (n := 0) (by decide) hlarge
      rw [if_pos (by omega)]
      split
      · exact .ok trivial
      · exact .error _

/-- **Numbers.** Only digits without a leading zero and below the limit are taken for a natural
number, which is the one that they give. -/
theorem number_eq_natural_iff {i f e t : Text} (hi : WholeText i) (hf : PlacesText f)
    (he : ExponentText e) (ht : EndsNumber t) {n : Nat} {u : Text} :
    number true (i ++ (f ++ (e ++ t))) = .ok (.natural n, u) ↔
      WordText (i ++ (f ++ e)) n ∧ u = t := by
  -- a fraction is no natural number, and its text is not that of a machine word
  have hother : Gives (number true (i ++ (f ++ (e ++ t)))) IsFraction →
      ¬ WordText (i ++ (f ++ e)) n → (number true (i ++ (f ++ (e ++ t))) = .ok (.natural n, u) ↔
        WordText (i ++ (f ++ e)) n ∧ u = t) := by
    intro hgives hword
    exact ⟨fun h => (hgives _ _ h).elim, fun h => absurd h.1 hword⟩
  have hend := hf.head he ht
  obtain ⟨c, ds, rfl, hdigits, hzero⟩ := hi.exists_cons
  have hmarked : ∀ {d : Char} {r : Text}, d = '.' ∨ d = 'e' ∨ d = 'E' → f ++ e = d :: r →
      (number true (c :: ds ++ (f ++ (e ++ t))) = .ok (.natural n, u) ↔
        WordText (c :: ds ++ (f ++ e)) n ∧ u = t) := by
    intro d r hd hfe
    refine hother (gives_number_fraction hdigits hzero hend (Or.inl ⟨d, ?_, hd⟩)) ?_
    · rw [← List.append_assoc, hfe]
      rfl
    · intro hword
      have hdigit := hword.whole.digit d (by rw [hfe]; simp)
      rcases hd with rfl | rfl | rfl <;> exact absurd hdigit (by decide)
  cases hf with
  | some _ _ => exact hmarked (Or.inl rfl) rfl
  | none =>
      cases he with
      | some he _ _ _ => exact hmarked (Or.inr he) rfl
      | none =>
          simp only [List.nil_append, List.append_nil] at hend hother ⊢
          by_cases hlt : Nat.ofDigitChars 10 (c :: ds) 0 < naturalLimit
          · rw [number_digits hdigits hzero hlt ht]
            simp only [Except.ok.injEq, Prod.mk.injEq, Number.natural.injEq]
            constructor
            · rintro ⟨rfl, rfl⟩
              exact ⟨⟨hi, rfl, hlt⟩, rfl⟩
            · rintro ⟨hword, rfl⟩
              exact ⟨hword.value, rfl⟩
          · refine hother (gives_number_fraction hdigits hzero hend (Or.inr (by omega))) ?_
            intro hword
            exact hlt (hword.value ▸ hword.lt)

/-- Of the numbers a natural one is read exactly from the digits of a machine word. -/
theorem natural_eq_ok_iff {x w rest : Text} (hx : NumberText x) (hw : Blank w)
    (hrest : EndsNumber rest) {n : Nat} {u : Text} :
    natural (w ++ (x ++ rest)) = .ok (n, u) ↔ WordText x n ∧ u = rest := by
  cases hx with
  | negative hi hf he =>
      rw [List.cons_append, natural, skipSpace_token hw rfl]
      simp only [if_true]
      constructor
      · intro h
        obtain ⟨⟨k, r⟩, -, hk⟩ := bind_eq_ok.1 h
        cases k <;> cases hk
      · rintro ⟨hword, -⟩
        exact absurd (hword.whole.digit '-' (by simp)) (by decide)
  | @unsigned i f e hi hf he =>
      obtain ⟨c, ds, rfl, hdigits, -⟩ := hi.exists_cons
      have hc : isDigit c = true := hdigits c (by simp)
      have hminus : c ≠ '-' := by
        rintro rfl
        exact absurd hc (by decide)
      rw [← number_eq_natural_iff hi hf he hrest]
      simp only [List.cons_append, List.append_assoc]
      rw [natural, skipSpace_token hw (isSpace_of_isDigit hc)]
      simp only [if_neg hminus, if_pos hc]
      constructor
      · intro h
        obtain ⟨⟨k, r⟩, hk, h⟩ := bind_eq_ok.1 h
        cases k with
        | natural m => cases h; exact hk
        | negative m => cases h
        | fraction g => cases h
      · intro h
        rw [h]
        rfl

/-- The value is a number, written as a machine word is. -/
def IsWord (v : Value) (n : Nat) : Prop := ∃ x, v = .number x ∧ WordText x n

/-- A natural number is read from the digits of a machine word and from nothing else. -/
theorem follows_natural : Follows natural IsWord := by
  intro v t hv w rest hw hrest n u
  rw [IsWord]
  by_cases hnumber : ∃ x, v = .number x
  · obtain ⟨x, rfl⟩ := hnumber
    simp only [Value.number.injEq, exists_eq_left']
    cases hv with
    | number hx => exact natural_eq_ok_iff hx hw hrest
  · obtain ⟨c, t, rfl, hopens⟩ := hv.exists_cons
    have hc := (not_congr hopens.kind.2.1).2 hnumber
    obtain ⟨hminus, hdigit⟩ := not_or.1 hc
    rw [List.cons_append, natural, skipSpace_token hw hopens.token.1]
    simp only [if_neg hminus, if_neg hdigit]
    constructor
    · exact fun h => absurd h (wrongType_ne_ok _ _ _)
    · rintro ⟨⟨x, hx, -⟩, -⟩
      exact absurd ⟨x, hx⟩ hnumber

/-! ## Strings and words -/

theorem follows_stringAs (expected : String) :
    Follows (stringAs expected) fun v s => ∃ b, v = .string b ∧ Spells s b := by
  intro v t hv w rest hw hrest s u
  by_cases hstring : ∃ b, v = .string b
  · obtain ⟨b, rfl⟩ := hstring
    simp only [Value.string.injEq, exists_eq_left']
    cases hv with
    | string hb =>
        rw [List.cons_append, stringAs, skipSpace_token hw rfl]
        simp only [if_true, List.append_assoc, List.singleton_append]
        exact stringTail_eq_ok_iff hb
  · obtain ⟨c, t, rfl, hopens⟩ := hv.exists_cons
    have hc := (not_congr hopens.kind.2.2.1).2 hstring
    rw [List.cons_append, stringAs, skipSpace_token hw hopens.token.1]
    simp only [if_neg hc]
    constructor
    · exact fun h => absurd h (wrongType_ne_ok _ _ _)
    · rintro ⟨⟨b, hb, -⟩, -⟩
      exact absurd ⟨b, hb⟩ hstring

/-- The value is a string that spells the text. -/
def IsText (v : Value) (s : String) : Prop := ∃ b, v = .string b ∧ Spells s.toList b

theorem follows_text : Follows text IsText := by
  intro v t hv w rest hw hrest s u
  rw [text, map_eq_ok]
  constructor
  · rintro ⟨⟨s', u'⟩, hread, heq⟩
    obtain ⟨rfl, rfl⟩ := Prod.mk.inj heq
    obtain ⟨⟨b, rfl, hb⟩, rfl⟩ := (follows_stringAs _ hv hw hrest).1 hread
    exact ⟨⟨b, rfl, by rwa [String.toList_ofList]⟩, rfl⟩
  · rintro ⟨hb, rfl⟩
    exact ⟨(s.toList, u), (follows_stringAs _ hv hw hrest).2 ⟨hb, rfl⟩, by
      rw [String.ofList_toList]⟩

theorem follows_unit : Follows unit fun v _ => v = .null := by
  intro v t hv w rest hw hrest a u
  obtain ⟨c, t', rfl, hopens⟩ := hv.exists_cons
  rw [List.cons_append, unit, skipSpace_token hw hopens.token.1]
  by_cases hnull : v = .null
  · subst hnull
    cases hv
    simp [wordTail, Except.map, eq_comm]
  · have hc := (not_congr hopens.kind.1).2 hnull
    simp only [if_neg hc, hnull, false_and, iff_false]
    exact wrongType_ne_ok _ _ _

/-- The value is null, for nothing, or it stands for something. -/
def Optionally {α : Type} (D : Value → α → Prop) (v : Value) (o : Option α) : Prop :=
  (v = .null ∧ o = none) ∨ (v ≠ .null ∧ ∃ a, o = some a ∧ D v a)

theorem follows_optional {α : Type} {read : Reader α} {D : Value → α → Prop}
    (h : Follows read D) : Follows (optional read) (Optionally D) := by
  intro v t hv w rest hw hrest o u
  rw [Optionally]
  obtain ⟨c, t', rfl, hopens⟩ := hv.exists_cons
  rw [List.cons_append, optional, skipSpace_token hw hopens.token.1]
  by_cases hnull : v = .null
  · subst hnull
    cases hv
    simp [wordTail, Except.map, eq_comm]
  · have hc := (not_congr hopens.kind.1).2 hnull
    have hread : ∀ {a : α} {u : Text}, read (c :: (t' ++ rest)) = .ok (a, u) ↔
        D v a ∧ u = rest := h hv (w := []) blank_nil hrest
    split
    next heq => exact absurd (List.cons.inj heq).1 hc
    next =>
      rw [map_eq_ok]
      constructor
      · rintro ⟨⟨a, u'⟩, ha, heq⟩
        obtain ⟨rfl, rfl⟩ := Prod.mk.inj heq
        obtain ⟨hD, rfl⟩ := hread.1 ha
        exact ⟨Or.inr ⟨hnull, a, rfl, hD⟩, rfl⟩
      · rintro ⟨⟨hv, -⟩ | ⟨-, a, rfl, hD⟩, rfl⟩
        · exact absurd hv hnull
        · exact ⟨(a, u), hread.2 ⟨hD, rfl⟩, rfl⟩

/-! ## Lists -/

/-- The reader finds that there is no further item. -/
theorem nextItem?_nil {first : Bool} {t : Text} (h : Remaining ']' first [] t) (rest : Text) :
    nextItem? first (t ++ rest) = .ok (false, ']' :: rest) := by
  cases h with
  | opened hw =>
      rw [List.append_assoc, List.singleton_append]
      exact nextItem?_close true hw rest
  | further ht =>
      cases ht with
      | close hw =>
          rw [List.append_assoc, List.singleton_append]
          exact nextItem?_close false hw rest

/-- The reader finds the next item. -/
theorem nextItem?_cons {first : Bool} {x t : Text} {ts : List Text}
    (h : Remaining ']' first (x :: ts) t) (hx : StartsValue x) :
    ∃ u, Tail ']' ts u ∧ ∀ rest, nextItem? first (t ++ rest) = .ok (true, x ++ (u ++ rest)) := by
  cases h with
  | @first w _ u _ hw ht =>
      refine ⟨u, ht, fun rest => ?_⟩
      rw [List.append_assoc, List.append_assoc]
      exact nextItem?_item hx hw (u ++ rest)
  | further ht =>
      cases ht with
      | @next w w' _ u _ hw hw' ht =>
          refine ⟨u, ht, fun rest => ?_⟩
          simp only [List.append_assoc, List.cons_append]
          exact nextItem?_comma hx hw hw' (u ++ rest)

theorem startsValue_written {v : Value} {t : Text} (h : Written v t) : StartsValue t := by
  obtain ⟨c, u, rfl, hopens⟩ := h.exists_cons
  exact ⟨c, u, rfl, hopens.token.1, hopens.token.2.1⟩

section Lists

variable {α : Type} {read : Reader α} {D : Value → α → Prop}

theorem items_eq_ok_iff (h : Follows read D) {vs : List Value} {ts : List Text} {t : Text}
    {first : Bool} (hvs : WrittenItems vs ts) (ht : Remaining ']' first ts t) (rest : Text)
    {fuel : Nat} (hfuel : ts.length < fuel) {xs : List α} {u : Text} :
    items read fuel first (t ++ rest) = .ok (xs, u) ↔
      List.Forall₂ D vs xs ∧ u = ']' :: rest := by
  -- on the values; each takes one from the fuel, and there is one more for the bracket
  induction vs generalizing ts t first fuel xs u with
  | nil =>
      cases hvs
      obtain ⟨fuel, rfl⟩ := Nat.exists_eq_succ_of_ne_zero (Nat.ne_zero_of_lt hfuel)
      rw [items, nextItem?_nil ht]
      simp [bind, Except.bind, eq_comm]
  | cons v vs ih =>
      cases hvs with
      | cons hv hvs =>
          obtain ⟨fuel, rfl⟩ := Nat.exists_eq_succ_of_ne_zero (Nat.ne_zero_of_lt hfuel)
          obtain ⟨t', ht', hnext⟩ := nextItem?_cons ht (startsValue_written hv)
          have hrest : EndsNumber (t' ++ rest) := (ht'.delimited (Or.inl rfl) rest).endsNumber
          have hitem : ∀ {x : α} {u : Text}, read (_ ++ (t' ++ rest)) = .ok (x, u) ↔
              D v x ∧ u = t' ++ rest := h hv (w := []) blank_nil hrest
          have hmore : ∀ {xs : List α} {u : Text}, items read fuel false (t' ++ rest) = .ok (xs, u) ↔
              List.Forall₂ D vs xs ∧ u = ']' :: rest :=
            ih hvs (.further ht') (Nat.lt_of_succ_lt_succ hfuel)
          rw [items, hnext rest, ok_bind]
          dsimp only
          rw [if_pos rfl]
          constructor
          · intro hread
            obtain ⟨⟨x, u₁⟩, hx, hread⟩ := bind_eq_ok.1 hread
            obtain ⟨⟨xs', u₂⟩, hxs, hread⟩ := bind_eq_ok.1 hread
            cases hread
            obtain ⟨hD, rfl⟩ := hitem.1 hx
            obtain ⟨hall, rfl⟩ := hmore.1 hxs
            exact ⟨.cons hD hall, rfl⟩
          · rintro ⟨hall, rfl⟩
            cases hall with
            | cons hx hxs =>
                rw [hitem.2 ⟨hx, rfl⟩, ok_bind, hmore.2 ⟨hxs, rfl⟩]
                rfl

/-- **Lists.** A list is read item by item. -/
theorem follows_list (h : Follows read D) :
    Follows (list read) fun v xs => ∃ vs, v = .list vs ∧ List.Forall₂ D vs xs := by
  intro v t hv w rest hw hrest xs u
  by_cases hlist : ∃ vs, v = .list vs
  · obtain ⟨vs, rfl⟩ := hlist
    simp only [Value.list.injEq, exists_eq_left']
    cases hv with
    | @list _ ts _ hvs ht =>
        obtain ⟨t', rfl, hremaining⟩ := ht.remaining
        have hfuel : ts.length < (t' ++ rest).length + 1 := by
          have := hremaining.length_le
          simp only [List.length_append]
          omega
        have hitems : ∀ {xs : List α} {u : Text},
            items read ((t' ++ rest).length + 1) true (t' ++ rest) = .ok (xs, u) ↔
              List.Forall₂ D vs xs ∧ u = ']' :: rest :=
          items_eq_ok_iff h hvs hremaining rest hfuel
        rw [List.cons_append, list, skipSpace_token hw rfl]
        simp only [if_true]
        constructor
        · intro hread
          obtain ⟨⟨xs', u₁⟩, hxs, hread⟩ := bind_eq_ok.1 hread
          obtain ⟨hall, rfl⟩ := hitems.1 hxs
          rw [endList_close] at hread
          cases hread
          exact ⟨hall, rfl⟩
        · rintro ⟨hxs, rfl⟩
          rw [hitems.2 ⟨hxs, rfl⟩, ok_bind]
          dsimp only
          rw [endList_close]
          rfl
  · obtain ⟨c, t, rfl, hopens⟩ := hv.exists_cons
    have hc := (not_congr hopens.kind.2.2.2.1).2 hlist
    rw [List.cons_append, list, skipSpace_token hw hopens.token.1]
    simp only [if_neg hc]
    constructor
    · exact fun h => absurd h (wrongType_ne_ok _ _ _)
    · rintro ⟨⟨vs, hvs, -⟩, -⟩
      exact absurd ⟨vs, hvs⟩ hlist

end Lists

/-! ## Records written as lists -/

/-- The reader, followed by the end of the list, takes the items `vs` for `a` if and only if
`D vs a`. -/
def FollowsItems {α : Type} (first : Bool) (read : Reader α) (D : List Value → α → Prop) : Prop :=
  ∀ ⦃vs : List Value⦄ ⦃ts : List Text⦄ ⦃t : Text⦄, WrittenItems vs ts →
    Remaining ']' first ts t → ∀ {rest : Text} {a : α} {u : Text},
      (do let (a, r) ← read (t ++ rest)
          let r ← endList r
          .ok (a, r)) = .ok (a, u) ↔ D vs a ∧ u = rest

section Elements

variable {α β : Type} {read : Reader α} {D : Value → α → Prop}

theorem endList_comma {w : Text} (hw : Blank w) (t u : Text) : endList (w ++ ',' :: t) ≠ .ok u := by
  rw [endList, skipSpace_token hw rfl]
  simp only [Char.reduceEq, if_false, if_true]
  split <;> exact fun h => by cases h

/-- After the last field the list has to end. -/
theorem followsItems_done (a : α) :
    FollowsItems false (fun t => .ok (a, t)) fun vs b => vs = [] ∧ b = a := by
  intro vs ts t hvs ht rest b u
  rw [ok_bind]
  dsimp only
  cases ht with
  | further ht =>
      cases ht with
      | close hw =>
          cases hvs
          rw [List.append_assoc, List.singleton_append, endList_token hw, ok_bind]
          simp [eq_comm]
      | next hw hw' ht =>
          cases hvs
          rw [List.append_assoc, List.cons_append, bind_eq_ok]
          constructor
          · rintro ⟨r, hr, -⟩
            exact absurd hr (endList_comma hw _ _)
          · rintro ⟨⟨hnil, -⟩, -⟩
            cases hnil

/-- A reader `step` takes the item in front, and `next` takes the others. -/
theorem followsItems_cons {step : Reader α} (h : Follows read D) {next : α → Reader β}
    {E : α → List Value → β → Prop} (hnext : ∀ a, FollowsItems false (next a) (E a)) {v : Value}
    {vs : List Value} {x t u rest rest' : Text} {ts : List Text} (hv : Written v x)
    (hvs : WrittenItems vs ts) (hu : Tail ']' ts u)
    (hstep : step (t ++ rest) = read (x ++ (u ++ rest))) {b : β} :
    (do let (b, r) ← (do let (a, t) ← step (t ++ rest); next a t)
        let r ← endList r
        .ok (b, r)) = .ok (b, rest') ↔ (∃ a, D v a ∧ E a vs b) ∧ rest' = rest := by
  have hrest : EndsNumber (u ++ rest) := (hu.delimited (Or.inl rfl) rest).endsNumber
  have hread : ∀ {a : α} {r : Text}, read (x ++ (u ++ rest)) = .ok (a, r) ↔
      D v a ∧ r = u ++ rest := h hv (w := []) blank_nil hrest
  rw [hstep, bind_eq_ok]
  constructor
  · rintro ⟨r, hr, hend⟩
    obtain ⟨⟨a, t₁⟩, ha, hr⟩ := bind_eq_ok.1 hr
    obtain ⟨hD, rfl⟩ := hread.1 ha
    obtain ⟨hE, rfl⟩ := (hnext a hvs (.further hu)).1 (bind_eq_ok.2 ⟨r, hr, hend⟩)
    exact ⟨⟨a, hD, hE⟩, rfl⟩
  · rintro ⟨⟨a, hD, hE⟩, rfl⟩
    obtain ⟨r, hr, hend⟩ := bind_eq_ok.1 ((hnext a hvs (.further hu)).2 ⟨hE, rfl⟩)
    exact ⟨r, bind_eq_ok.2 ⟨(a, u ++ rest'), hread.2 ⟨hD, rfl⟩, hr⟩, hend⟩

/-- **One field after another.** The first item is a field, and what is left are the others. -/
theorem followsItems_element (record : String) (index : Nat) (h : Follows read D)
    {next : α → Reader β} {E : α → List Value → β → Prop}
    (hnext : ∀ a, FollowsItems false (next a) (E a)) :
    FollowsItems (index == 0) (fun t => do let (a, t) ← element record index read t; next a t)
      fun vs b => ∃ v vs' a, vs = v :: vs' ∧ D v a ∧ E a vs' b := by
  intro vs ts t hvs ht rest b u
  cases hvs with
  | nil =>
      -- the list has ended too early
      rw [bind_eq_ok]
      constructor
      · rintro ⟨r, hr, -⟩
        obtain ⟨p, hp, -⟩ := bind_eq_ok.1 hr
        rw [element, nextItem?_nil ht, ok_bind] at hp
        cases hp
      · rintro ⟨⟨v, vs', a, hnil, -⟩, -⟩
        cases hnil
  | @cons v x vs ts hv hvs =>
      obtain ⟨t', ht', hitem⟩ := nextItem?_cons ht (startsValue_written hv)
      have hstep : element record index read (t ++ rest) = read (x ++ (t' ++ rest)) := by
        rw [element, hitem rest, ok_bind]
        rfl
      refine (followsItems_cons h hnext hv hvs ht' hstep).trans (and_congr_left' ?_)
      constructor
      · rintro ⟨a, hD, hE⟩
        exact ⟨v, vs, a, rfl, hD, hE⟩
      · rintro ⟨_, _, a, hcons, hD, hE⟩
        obtain ⟨rfl, rfl⟩ := List.cons.inj hcons
        exact ⟨a, hD, hE⟩

end Elements

end UnitReview.Wire
