import UnitReview.Proofs.Wire.Decoding

/-!
# Records written as objects

All readers of records treat the fields of an object alike: a field of a known name is read once and
kept, a second one of that name is a fault, and a field of any other name is stepped over. `Slots`
says so of a reader of fields. What such a reader has kept in the end does not depend on the order of
the fields: it has a value for a name if and only if exactly one field has that name
(`collects_iff`).
-/

set_option autoImplicit false

namespace UnitReview.Wire

open Json

/-! ## Fields by name -/

/-- No field has the name `k`. -/
def Lacks (k : Text) (ms : List (Text × Value)) : Prop := ∀ m ∈ ms, ¬ Spells k m.1

/-- Two fields have the name `k`. -/
def Repeats (k : Text) (ms : List (Text × Value)) : Prop :=
  ∃ m m', [m, m'].Sublist ms ∧ Spells k m.1 ∧ Spells k m'.1

/-- Exactly one field has the name `k`, and its value is `v`. -/
inductive Once (k : Text) (v : Value) : List (Text × Value) → Prop where
  | here {b : Text} {ms : List (Text × Value)} (hb : Spells k b) (hms : Lacks k ms) :
      Once k v ((b, v) :: ms)
  | later {m : Text × Value} {ms : List (Text × Value)} (hm : ¬ Spells k m.1) (h : Once k v ms) :
      Once k v (m :: ms)

section Names

variable {k : Text} {v : Value} {m : Text × Value} {ms : List (Text × Value)}

theorem lacks_cons : Lacks k (m :: ms) ↔ ¬ Spells k m.1 ∧ Lacks k ms := by
  simp [Lacks]

theorem Once.not_lacks (h : Once k v ms) : ¬ Lacks k ms := by
  induction h with
  | here hb _ => exact fun hlacks => (lacks_cons.1 hlacks).1 hb
  | later _ _ ih => exact fun hlacks => ih (lacks_cons.1 hlacks).2

theorem Once.not_repeats (h : Once k v ms) : ¬ Repeats k ms := by
  rintro ⟨m, m', hsub, hm, hm'⟩
  induction h with
  | here hb hms =>
      -- at most one of the two is the field in front
      cases hsub with
      | cons _ hsub => exact hms m (hsub.subset (by simp)) hm
      | cons_cons _ hsub => exact hms m' (hsub.subset (by simp)) hm'
  | later hother _ ih =>
      cases hsub with
      | cons _ hsub => exact ih hsub
      | cons_cons _ hsub => exact hother hm

/-- A field of that name is the one. -/
theorem Once.eq_of_mem (h : Once k v ms) (hm : m ∈ ms) (hk : Spells k m.1) : m.2 = v := by
  induction h with
  | here hb hms =>
      rcases List.mem_cons.1 hm with rfl | hm
      · rfl
      · exact absurd hk (hms m hm)
  | later hother _ ih =>
      rcases List.mem_cons.1 hm with rfl | hm
      · exact absurd hk hother
      · exact ih hm

theorem Once.exists_mem (h : Once k v ms) : ∃ b, (b, v) ∈ ms ∧ Spells k b := by
  induction h with
  | @here b _ hb _ => exact ⟨b, by simp, hb⟩
  | later _ _ ih =>
      obtain ⟨b, hmem, hb⟩ := ih
      exact ⟨b, by simp [hmem], hb⟩

theorem Once.unique {v' : Value} (h : Once k v ms) (h' : Once k v' ms) : v = v' := by
  obtain ⟨b, hmem, hb⟩ := h.exists_mem
  exact h'.eq_of_mem hmem hb

end Names

/-! ## Slots -/

/-- **How a reader of fields treats them.** The record has a slot for each `i`, with a name and a
reader of values. -/
structure Slots {σ : Type} (ι : Type) (onField : σ → Text → Reader σ) where
  name : ι → String
  Held : ι → Type
  read : (i : ι) → Reader (Held i)
  /-- What has been seen so far. -/
  seen : σ → (i : ι) → Option (Held i)
  put : σ → (i : ι) → Held i → σ
  seen_put : ∀ st i a, seen (put st i a) i = some a
  seen_put_ne : ∀ st i a j, j ≠ i → seen (put st i a) j = seen st j
  name_injective : ∀ i j, name i = name j → i = j
  /-- Nothing is kept besides what the slots hold. -/
  eq_of_seen : ∀ st st', (∀ i, seen st i = seen st' i) → st = st'
  known : ∀ st i t, onField st (name i).toList t =
    (fieldValue (name i) (seen st i) (read i) t).map fun p => (put st i p.1, p.2)
  unknown : ∀ st key t, (∀ i, key ≠ (name i).toList) →
    onField st key t = (skipField t).map fun t => (st, t)

namespace Slots

variable {σ ι : Type} {onField : σ → Text → Reader σ} (S : Slots ι onField)
  (D : (i : ι) → Value → S.Held i → Prop)

/-- The name of a slot as a text. -/
abbrev key (i : ι) : Text := (S.name i).toList

/-- What a field does to what has been seen: it fills an empty slot, or it is of no interest. -/
inductive Step (st : σ) (k : Text) (v : Value) : σ → Prop where
  | known {i : ι} {a : S.Held i} (hk : k = S.key i) (hseen : S.seen st i = none) (hv : D i v a) :
      Step st k v (S.put st i a)
  | unknown (hk : ∀ i, k ≠ S.key i) : Step st k v st

/-- Fields one after the other. -/
inductive Collects : σ → List (Text × Value) → σ → Prop where
  | nil (st : σ) : Collects st [] st
  | cons {st st' st'' : σ} {k b : Text} {v : Value} {ms : List (Text × Value)} (hb : Spells k b)
      (hstep : S.Step D st k v st') (hms : Collects st' ms st'') :
      Collects st ((b, v) :: ms) st''

variable {S D}

theorem key_injective {i j : ι} (h : S.key i = S.key j) : i = j :=
  S.name_injective i j (String.toList_injective h)

theorem fieldValue_eq_ok_iff {α : Type} {read : Reader α} {E : Value → α → Prop}
    (h : Follows read E) {name : String} {seen : Option α} {v : Value} {t w w' rest : Text}
    (hv : Written v t) (hw : Blank w) (hw' : Blank w') (hrest : EndsNumber rest) {a : α}
    {u : Text} : fieldValue name seen read (w ++ ':' :: (w' ++ (t ++ rest))) = .ok (a, u) ↔
      (seen = none ∧ E v a) ∧ u = rest := by
  cases seen with
  | some b =>
      rw [fieldValue, if_pos (Option.isSome_some)]
      constructor
      · intro hread
        cases hread
      · rintro ⟨⟨hseen, -⟩, -⟩
        cases hseen
  | none =>
      rw [fieldValue, if_neg (by simp), colon_token hw, ok_bind, h hv hw' hrest]
      simp

/-- **One field**, after its name: the reader makes a step. -/
theorem onField_eq_ok_iff (h : ∀ i, Follows (S.read i) (D i)) {st st' : σ} {k : Text} {v : Value}
    {t w w' rest u : Text} (hv : Written v t) (hw : Blank w) (hw' : Blank w')
    (hrest : EndsNumber rest) :
    onField st k (w ++ ':' :: (w' ++ (t ++ rest))) = .ok (st', u) ↔
      S.Step D st k v st' ∧ u = rest := by
  by_cases hknown : ∃ i, k = S.key i
  · obtain ⟨i, rfl⟩ := hknown
    rw [S.known, map_eq_ok]
    constructor
    · rintro ⟨⟨a, u'⟩, hread, heq⟩
      obtain ⟨rfl, rfl⟩ := Prod.mk.inj heq
      obtain ⟨⟨hseen, ha⟩, rfl⟩ := (fieldValue_eq_ok_iff (h i) hv hw hw' hrest).1 hread
      exact ⟨.known rfl hseen ha, rfl⟩
    · rintro ⟨hstep, rfl⟩
      cases hstep with
      | @known j a hk hseen ha =>
          obtain rfl := key_injective hk
          exact ⟨(a, u), (fieldValue_eq_ok_iff (h i) hv hw hw' hrest).2 ⟨⟨hseen, ha⟩, rfl⟩, rfl⟩
      | unknown hk => exact absurd rfl (hk i)
  · have hunknown : ∀ i, k ≠ S.key i := fun i hi => hknown ⟨i, hi⟩
    have hskip : skipField (w ++ ':' :: (w' ++ (t ++ rest))) = .ok rest := by
      rw [skipField, colon_token hw, ok_bind, skipValue_written hv hw' hrest]
    rw [S.unknown st k _ hunknown, hskip]
    simp only [Except.map, Except.ok.injEq, Prod.mk.injEq]
    constructor
    · rintro ⟨rfl, rfl⟩
      exact ⟨.unknown hunknown, rfl⟩
    · rintro ⟨hstep, rfl⟩
      cases hstep with
      | known hk _ _ => exact absurd hk (hunknown _)
      | unknown _ => exact ⟨rfl, rfl⟩

end Slots

/-! ## The fields of an object -/

theorem nextKey?_nil {first : Bool} {t : Text} (h : Remaining '\x7d' first [] t) (rest : Text) :
    nextKey? first (t ++ rest) = .ok (false, '\x7d' :: rest) := by
  cases h with
  | opened hw =>
      rw [List.append_assoc, List.singleton_append]
      exact nextKey?_close true hw rest
  | further ht =>
      cases ht with
      | close hw =>
          rw [List.append_assoc, List.singleton_append]
          exact nextKey?_close false hw rest

theorem nextKey?_cons {first : Bool} {x t : Text} {ts : List Text}
    (h : Remaining '\x7d' first (('"' :: x) :: ts) t) :
    ∃ u, Tail '\x7d' ts u ∧
      ∀ rest, nextKey? first (t ++ rest) = .ok (true, '"' :: (x ++ (u ++ rest))) := by
  cases h with
  | @first w _ u _ hw ht =>
      refine ⟨u, ht, fun rest => ?_⟩
      rw [List.append_assoc, List.append_assoc]
      exact nextKey?_first hw (x ++ (u ++ rest))
  | further ht =>
      cases ht with
      | @next w w' _ u _ hw hw' ht =>
          refine ⟨u, ht, fun rest => ?_⟩
          simp only [List.append_assoc, List.cons_append]
          exact nextKey?_comma hw hw' (x ++ (u ++ rest))

namespace Slots

variable {σ ι : Type} {onField : σ → Text → Reader σ} {S : Slots ι onField}
  {D : (i : ι) → Value → S.Held i → Prop}

/-- **All fields**, up to the closing brace. -/
theorem fields_eq_ok_iff (h : ∀ i, Follows (S.read i) (D i)) {ms : List (Text × Value)}
    {us : List Text} {t : Text} {first : Bool} (hms : WrittenFields ms us)
    (ht : Remaining '\x7d' first us t) (rest : Text) {fuel : Nat} (hfuel : us.length < fuel)
    {st st' : σ} {u : Text} :
    fields onField fuel first st (t ++ rest) = .ok (st', u) ↔
      S.Collects D st ms st' ∧ u = '\x7d' :: rest := by
  -- on the fields, with what has been seen as it goes
  induction ms generalizing us t first fuel st with
  | nil =>
      cases hms
      obtain ⟨fuel, rfl⟩ := Nat.exists_eq_succ_of_ne_zero (Nat.ne_zero_of_lt hfuel)
      rw [fields, nextKey?_nil ht, ok_bind]
      simp only [Bool.false_eq_true, if_false, Except.ok.injEq, Prod.mk.injEq]
      constructor
      · rintro ⟨rfl, rfl⟩
        exact ⟨.nil st, rfl⟩
      · rintro ⟨hcollects, rfl⟩
        cases hcollects
        exact ⟨rfl, rfl⟩
  | cons m ms ih =>
      cases hms with
      | @cons b tv _ v _ us hb hv hu hms =>
          cases hu with
          | @field w w' hw hw' =>
              obtain ⟨fuel, rfl⟩ := Nat.exists_eq_succ_of_ne_zero (Nat.ne_zero_of_lt hfuel)
              obtain ⟨t', ht', hnext⟩ := nextKey?_cons ht
              have hrest : EndsNumber (t' ++ rest) :=
                (ht'.delimited (Or.inr rfl) rest).endsNumber
              have hmore : ∀ {st : σ}, fields onField fuel false st (t' ++ rest) = .ok (st', u) ↔
                  S.Collects D st ms st' ∧ u = '\x7d' :: rest :=
                ih hms (.further ht') (Nat.lt_of_succ_lt_succ hfuel)
              have hname : ∀ {k r : Text}, stringTail
                  (b ++ '"' :: (w ++ ':' :: (w' ++ (tv ++ (t' ++ rest))))) = .ok (k, r) ↔
                    Spells k b ∧ r = w ++ ':' :: (w' ++ (tv ++ (t' ++ rest))) :=
                stringTail_eq_ok_iff hb
              rw [fields, hnext rest, ok_bind]
              dsimp only
              rw [if_pos rfl, List.drop_one, List.tail_cons]
              simp only [List.append_assoc, List.cons_append]
              constructor
              · intro hread
                obtain ⟨⟨k, r⟩, hk, hread⟩ := bind_eq_ok.1 hread
                obtain ⟨hspells, rfl⟩ := hname.1 hk
                obtain ⟨⟨st₁, r⟩, hst₁, hread⟩ := bind_eq_ok.1 hread
                obtain ⟨hstep, rfl⟩ := (onField_eq_ok_iff h hv hw hw' hrest).1 hst₁
                obtain ⟨hcollects, rfl⟩ := hmore.1 hread
                exact ⟨.cons hspells hstep hcollects, rfl⟩
              · rintro ⟨hcollects, rfl⟩
                cases hcollects with
                | cons hspells hstep hcollects =>
                    rw [hname.2 ⟨hspells, rfl⟩, ok_bind]
                    dsimp only
                    rw [(onField_eq_ok_iff h hv hw hw' hrest).2 ⟨hstep, rfl⟩, ok_bind]
                    exact hmore.2 ⟨hcollects, rfl⟩

end Slots

/-! ## What the fields hold -/

/-- What the fields say about the name `k`: no field has it, or one field has it, with a value that
stands for what is given. -/
def Filled {α : Type} (k : Text) (E : Value → α → Prop) (ms : List (Text × Value)) :
    Option α → Prop
  | none => Lacks k ms
  | some a => ∃ v, Once k v ms ∧ E v a

/-- The same after some fields: a slot filled by one of them is filled by none of the others. -/
def FilledFrom {α : Type} (k : Text) (E : Value → α → Prop) (ms : List (Text × Value))
    (o : Option α) : Option α → Prop
  | none => Filled k E ms o
  | some a => o = some a ∧ Lacks k ms

section Filled

variable {α : Type} {k b : Text} {E : Value → α → Prop} {v : Value} {ms : List (Text × Value)}

theorem once_cons_of_not_spells {v' : Value} (hb : ¬ Spells k b) :
    Once k v' ((b, v) :: ms) ↔ Once k v' ms := by
  constructor
  · intro h
    cases h with
    | here hb' _ => exact absurd hb' hb
    | later _ h => exact h
  · exact .later hb

theorem once_cons_of_spells {v' : Value} (hb : Spells k b) :
    Once k v' ((b, v) :: ms) ↔ v' = v ∧ Lacks k ms := by
  constructor
  · intro h
    cases h with
    | here _ hms => exact ⟨rfl, hms⟩
    | later hb' _ => exact absurd hb hb'
  · rintro ⟨rfl, hms⟩
    exact .here hb hms

/-- A field of another name is of no interest. -/
theorem filledFrom_cons_of_not_spells (hb : ¬ Spells k b) (o seen : Option α) :
    FilledFrom k E ((b, v) :: ms) o seen ↔ FilledFrom k E ms o seen := by
  cases seen <;> cases o <;>
    simp [FilledFrom, Filled, lacks_cons, once_cons_of_not_spells hb, hb]

/-- A field of that name fills the slot. -/
theorem filledFrom_cons_of_spells (hb : Spells k b) (o seen : Option α) :
    FilledFrom k E ((b, v) :: ms) o seen ↔
      seen = none ∧ ∃ a, E v a ∧ FilledFrom k E ms o (some a) := by
  cases seen with
  | some a => simp [FilledFrom, lacks_cons, hb]
  | none =>
      cases o with
      | none => simp [FilledFrom, Filled, lacks_cons, hb]
      | some a => simp [FilledFrom, Filled, once_cons_of_spells hb, and_comm]

theorem filledFrom_nil (o seen : Option α) : FilledFrom k E [] o seen ↔ seen = o := by
  have honce : ∀ v', ¬ Once k v' [] := fun v' h => by cases h
  cases seen <;> cases o <;> simp [FilledFrom, Filled, Lacks, honce, eq_comm]

end Filled

namespace Slots

variable {σ ι : Type} {onField : σ → Text → Reader σ} (S : Slots ι onField)
  (D : (i : ι) → Value → S.Held i → Prop)

/-- All fields have names, and each slot is filled as `pick` says. -/
def Holds (pick : (i : ι) → Option (S.Held i)) (ms : List (Text × Value)) : Prop :=
  (∀ m ∈ ms, ∃ k, Spells k m.1) ∧ ∀ i, Filled (S.key i) (D i) ms (pick i)

variable {S D}

/-- What a step does to the slots: a field that spells a name fills the slot of that name. -/
theorem step_filledFrom {st : σ} {k b : Text} {v : Value} {ms : List (Text × Value)}
    (hb : Spells k b) (pick : (i : ι) → Option (S.Held i)) :
    (∀ i, FilledFrom (S.key i) (D i) ((b, v) :: ms) (pick i) (S.seen st i)) ↔
      ∃ st', S.Step D st k v st' ∧
        ∀ i, FilledFrom (S.key i) (D i) ms (pick i) (S.seen st' i) := by
  have hother : ∀ {i}, k ≠ S.key i → ¬ Spells (S.key i) b := fun hk hb' => hk (hb.unique hb')
  constructor
  · intro h
    by_cases hknown : ∃ i, k = S.key i
    · obtain ⟨i, rfl⟩ := hknown
      obtain ⟨hseen, a, ha, hi⟩ := (filledFrom_cons_of_spells hb _ _).1 (h i)
      refine ⟨S.put st i a, .known rfl hseen ha, fun j => ?_⟩
      by_cases hj : j = i
      · subst hj
        rwa [S.seen_put]
      · rw [S.seen_put_ne _ _ _ _ hj]
        have hkey : S.key i ≠ S.key j := fun h => hj (key_injective h).symm
        exact (filledFrom_cons_of_not_spells (hother hkey) _ _).1 (h j)
    · have hunknown : ∀ i, k ≠ S.key i := fun i hi => hknown ⟨i, hi⟩
      exact ⟨st, .unknown hunknown, fun i =>
        (filledFrom_cons_of_not_spells (hother (hunknown i)) _ _).1 (h i)⟩
  · rintro ⟨st', hstep, h⟩ j
    cases hstep with
    | @known i a hk hseen ha =>
        subst hk
        have hj := h j
        by_cases hji : j = i
        · subst hji
          rw [S.seen_put] at hj
          exact (filledFrom_cons_of_spells hb _ _).2 ⟨hseen, a, ha, hj⟩
        · rw [S.seen_put_ne _ _ _ _ hji] at hj
          have hkey : S.key i ≠ S.key j := fun h => hji (key_injective h).symm
          exact (filledFrom_cons_of_not_spells (hother hkey) _ _).2 hj
    | unknown hk => exact (filledFrom_cons_of_not_spells (hother (hk j)) _ _).2 (h j)

theorem collects_from_iff {st st' : σ} {ms : List (Text × Value)} :
    S.Collects D st ms st' ↔ (∀ m ∈ ms, ∃ k, Spells k m.1) ∧
      ∀ i, FilledFrom (S.key i) (D i) ms (S.seen st' i) (S.seen st i) := by
  -- on the fields, with the slots that are already filled
  induction ms generalizing st with
  | nil =>
      simp only [filledFrom_nil, List.not_mem_nil, false_imp_iff, implies_true, true_and]
      constructor
      · intro hcollects
        cases hcollects
        exact fun _ => rfl
      · intro hseen
        obtain rfl := S.eq_of_seen _ _ hseen
        exact .nil st
  | cons m ms ih =>
      obtain ⟨b, v⟩ := m
      simp only [List.forall_mem_cons]
      constructor
      · intro hcollects
        cases hcollects with
        | cons hb hstep hms =>
            obtain ⟨hnames, hfilled⟩ := ih.1 hms
            exact ⟨⟨⟨_, hb⟩, hnames⟩, (step_filledFrom hb _).2 ⟨_, hstep, hfilled⟩⟩
      · rintro ⟨⟨⟨k, hb⟩, hnames⟩, hfilled⟩
        obtain ⟨st₁, hstep, hfilled⟩ := (step_filledFrom hb _).1 hfilled
        exact .cons hb hstep (ih.2 ⟨hnames, hfilled⟩)

/-- **The order of the fields does not matter.** From nothing seen, the reader ends up with what the
fields hold. -/
theorem collects_iff {st st' : σ} (hst : ∀ i, S.seen st i = none) {ms : List (Text × Value)} :
    S.Collects D st ms st' ↔ S.Holds D (S.seen st') ms := by
  rw [collects_from_iff, Holds]
  simp only [hst, FilledFrom]

end Slots

/-! ## Records -/

/-- The reader, followed by the end of the object, takes the fields `ms` for `a` if and only if
`D ms a`. -/
def FollowsMembers {α : Type} (read : Reader α) (D : List (Text × Value) → α → Prop) : Prop :=
  ∀ ⦃ms : List (Text × Value)⦄ ⦃us : List Text⦄ ⦃t : Text⦄, WrittenFields ms us →
    Remaining '\x7d' true us t → ∀ {rest : Text} {a : α} {u : Text},
      (do let (a, r) ← read (t ++ rest)
          let r ← endObject r
          .ok (a, r)) = .ok (a, u) ↔ D ms a ∧ u = rest

/-- All fields are read, and then the record is made from what was seen. -/
theorem Slots.followsMembers {σ ι α : Type} {onField : σ → Text → Reader σ} {S : Slots ι onField}
    {D : (i : ι) → Value → S.Held i → Prop} (h : ∀ i, Follows (S.read i) (D i)) (st : σ)
    (hst : ∀ i, S.seen st i = none) {finish : σ → Reader α} {F : σ → α → Prop}
    (hfinish : ∀ st t a u, finish st t = .ok (a, u) ↔ F st a ∧ u = t) :
    FollowsMembers (fun t => do let (st, t) ← fields onField (t.length + 1) true st t; finish st t)
      fun ms a => ∃ st', F st' a ∧ S.Holds D (S.seen st') ms := by
  intro ms us t hms ht rest a u
  have hfuel : us.length < (t ++ rest).length + 1 := by
    have := ht.length_le
    simp only [List.length_append]
    omega
  have hfields : ∀ {st' : σ} {u : Text},
      fields onField ((t ++ rest).length + 1) true st (t ++ rest) = .ok (st', u) ↔
        S.Holds D (S.seen st') ms ∧ u = '\x7d' :: rest := by
    intro st' u
    rw [fields_eq_ok_iff h hms ht rest hfuel, collects_iff hst]
  constructor
  · intro hread
    obtain ⟨⟨a', r⟩, hmade, hend⟩ := bind_eq_ok.1 hread
    obtain ⟨⟨st', r'⟩, hst', hmade⟩ := bind_eq_ok.1 hmade
    obtain ⟨hholds, rfl⟩ := hfields.1 hst'
    obtain ⟨hF, rfl⟩ := (hfinish _ _ _ _).1 hmade
    dsimp only at hend
    rw [endObject_close] at hend
    cases hend
    exact ⟨⟨st', hF, hholds⟩, rfl⟩
  · rintro ⟨⟨st', hF, hholds⟩, rfl⟩
    dsimp only
    rw [hfields.2 ⟨hholds, rfl⟩, ok_bind]
    dsimp only
    rw [(hfinish _ _ _ _).2 ⟨hF, rfl⟩, ok_bind]
    dsimp only
    rw [endObject_close]
    rfl

/-- **Records.** A record is read from the items of a list or from the fields of an object. -/
theorem follows_record {α : Type} {name : String} {fromList fromObject : Reader α}
    {E : List Value → α → Prop} {D : List (Text × Value) → α → Prop}
    (hlist : FollowsItems true fromList E) (hobject : FollowsMembers fromObject D) :
    Follows (record name fromList fromObject) fun v a =>
      (∃ vs, v = .list vs ∧ E vs a) ∨ ∃ ms, v = .object ms ∧ D ms a := by
  intro v t hv w rest hw hrest a u
  by_cases hl : ∃ vs, v = .list vs
  · obtain ⟨vs, rfl⟩ := hl
    simp only [Value.list.injEq, exists_eq_left', reduceCtorEq, false_and, exists_false, or_false]
    cases hv with
    | list hvs ht =>
        obtain ⟨t', rfl, hremaining⟩ := ht.remaining
        rw [List.cons_append, record, skipSpace_token hw rfl]
        exact hlist hvs hremaining
  by_cases ho : ∃ ms, v = .object ms
  · obtain ⟨ms, rfl⟩ := ho
    simp only [Value.object.injEq, exists_eq_left', reduceCtorEq, false_and, exists_false, false_or]
    cases hv with
    | object hms ht =>
        obtain ⟨t', rfl, hremaining⟩ := ht.remaining
        rw [List.cons_append, record, skipSpace_token hw rfl]
        exact hobject hms hremaining
  · obtain ⟨c, t, rfl, hopens⟩ := hv.exists_cons
    have hc := (not_congr hopens.kind.2.2.2.1).2 hl
    have hc' := (not_congr hopens.kind.2.2.2.2).2 ho
    rw [List.cons_append, record, skipSpace_token hw hopens.token.1]
    simp only [if_neg hc, if_neg hc']
    constructor
    · exact fun h => absurd h (wrongType_ne_ok _ _ _)
    · rintro ⟨⟨vs, hvs, -⟩ | ⟨ms, hms, -⟩, -⟩
      · exact absurd ⟨vs, hvs⟩ hl
      · exact absurd ⟨ms, hms⟩ ho

end UnitReview.Wire
