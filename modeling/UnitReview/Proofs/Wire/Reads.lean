import Mathlib.Data.List.Forall2
import UnitReview.Proofs.Json.Layout
import UnitReview.Wire.Reader

/-!
# What readers make of laid out texts

`Reads read t a` says that the reader `read` takes the text `t` for the value `a`, with blanks in
front of it and whatever may follow a value behind it. Simple values are read token by token. A
list is read item by item and an object field by field, so a reader of records is settled by what
it does with each single field (`Takes`).
-/

set_option autoImplicit false

namespace UnitReview.Wire

open Json

/-! ## Reading a value -/

/-- The reader takes `t` for `a` wherever a value ends behind it. -/
def Reads {α : Type} (read : Reader α) (t : Text) (a : α) : Prop :=
  ∀ w rest, Blank w → Delimited rest → read (w ++ (t ++ rest)) = .ok (a, rest)

/-- The reader takes `t` for `a` whatever stands behind it: `t` shows its own end. -/
def ReadsFreely {α : Type} (read : Reader α) (t : Text) (a : α) : Prop :=
  ∀ w rest, Blank w → read (w ++ (t ++ rest)) = .ok (a, rest)

theorem ReadsFreely.reads {α : Type} {read : Reader α} {t : Text} {a : α}
    (h : ReadsFreely read t a) : Reads read t a :=
  fun w rest hw _ => h w rest hw

/-- A value starts with a character that closes no list and is no blank. -/
def StartsValue (t : Text) : Prop := ∃ c u, t = c :: u ∧ isSpace c = false ∧ c ≠ ']'

/-- Machine words are read back. -/
theorem reads_natural {n : Nat} (hn : n < naturalLimit) : Reads natural (toString n).toList n := by
  intro w rest hw hrest
  have hnum := number_toDigits hn hrest.endsNumber
  have hdigit : ∀ d ∈ Nat.toDigits 10 n, isDigit d = true := fun d hd =>
    Nat.isDigit_of_mem_toDigits (by omega) (by omega) hd
  rw [Nat.toString_eq_ofList_toDigits, String.toList_ofList]
  obtain ⟨c, ds, hds⟩ := List.exists_cons_of_ne_nil (Nat.toDigits_ne_nil (n := n) (b := 10))
  rw [hds] at hnum hdigit ⊢
  have hc : isDigit c = true := hdigit c (by simp)
  have hminus : c ≠ '-' := by
    rintro rfl
    exact absurd hc (by decide)
  rw [List.cons_append] at hnum ⊢
  rw [natural, skipSpace_token hw (isSpace_of_isDigit hc)]
  simp only [if_neg hminus, if_pos hc, hnum]
  rfl

theorem stringAs_quote (expected : String) (s : Text) :
    ReadsFreely (stringAs expected) (quote s) s := by
  intro w rest hw
  rw [quote_append, stringAs, skipSpace_token hw rfl]
  simp only [if_true, stringTail_quote]

/-- Texts are read back. -/
theorem readsFreely_text (s : String) : ReadsFreely text (quote s.toList) s := by
  intro w rest hw
  rw [text, stringAs_quote _ _ w rest hw, Except.map, String.ofList_toList]

/-- Severities are read back from their names. -/
theorem readsFreely_severity (v : Severity) : ReadsFreely severity (quote v.name.toList) v := by
  intro w rest hw
  have hname : severityName ('"' :: (v.name.toList.flatMap escapeChar ++ '"' :: rest))
      = .ok (v, rest) := by
    have h := stringAs_quote "variant identifier" v.name.toList [] rest blank_nil
    rw [List.nil_append, quote_append] at h
    rw [severityName, h]
    simp only [bind, Except.bind, String.ofList_toList, Severity.ofName?_name]
  rw [quote_append, severity, skipSpace_token hw rfl]
  simp only [if_true, hname]

theorem startsValue_quote (s : Text) : StartsValue (quote s) :=
  ⟨'"', _, rfl, rfl, by decide⟩

/-- A value that is there is read as itself. -/
theorem reads_optional {α : Type} {read : Reader α} {c : Char} {t : Text} {a : α}
    (hc : isSpace c = false) (hnull : c ≠ 'n') (h : Reads read (c :: t) a) :
    Reads (optional read) (c :: t) (some a) := by
  intro w rest hw hrest
  have hread := h [] rest blank_nil hrest
  rw [List.nil_append, List.cons_append] at hread
  rw [List.cons_append, optional, skipSpace_token hw hc]
  -- only `null` is read as no value
  split
  · next heq => exact absurd (List.cons.inj heq).1 hnull
  · rw [hread]
    rfl

/-! ## Reading a list -/

/-- Right before an item: the reader of lists goes on and has stepped over the blanks. -/
theorem nextItem?_item {x : Text} (hx : StartsValue x) {w : Text} (hw : Blank w) (t : Text) :
    nextItem? true (w ++ (x ++ t)) = .ok (true, x ++ t) := by
  obtain ⟨c, u, rfl, hc, hne⟩ := hx
  rw [List.cons_append, nextItem?, skipSpace_token hw hc]
  simp only [if_neg hne, if_true]

theorem nextItem?_comma {x : Text} (hx : StartsValue x) {w w' : Text} (hw : Blank w)
    (hw' : Blank w') (t : Text) :
    nextItem? false (w ++ ',' :: (w' ++ (x ++ t))) = .ok (true, x ++ t) := by
  obtain ⟨c, u, rfl, hc, hne⟩ := hx
  rw [List.cons_append, nextItem?, skipSpace_token hw rfl]
  simp only [skipSpace_token hw' hc, if_neg hne]
  simp

theorem nextItem?_close (first : Bool) {w : Text} (hw : Blank w) (t : Text) :
    nextItem? first (w ++ ']' :: t) = .ok (false, ']' :: t) := by
  rw [nextItem?, skipSpace_token hw rfl]
  simp

theorem endList_token {w : Text} (hw : Blank w) (t : Text) : endList (w ++ ']' :: t) = .ok t := by
  rw [endList, skipSpace_token hw rfl]
  simp

theorem endList_close (t : Text) : endList (']' :: t) = .ok t := endList_token blank_nil t

/-- The items after one that has been read. -/
theorem items_tail {α : Type} {read : Reader α} {ts : List Text} {xs : List α} {t : Text}
    (hread : List.Forall₂ (Reads read) ts xs) (hstart : ∀ x ∈ ts, StartsValue x)
    (ht : Tail ']' ts t) (rest : Text) {fuel : Nat} (hfuel : ts.length < fuel) :
    items read fuel false (t ++ rest) = .ok (xs, ']' :: rest) := by
  -- on the layout: each comma takes one from the fuel, and there is one more for the bracket
  induction ht generalizing xs fuel with
  | close hw =>
      obtain ⟨fuel, rfl⟩ := Nat.exists_eq_succ_of_ne_zero (Nat.ne_zero_of_lt hfuel)
      cases hread
      rw [List.append_assoc, List.singleton_append, items, nextItem?_close false hw]
      rfl
  | @next w w' x t ts hw hw' ht ih =>
      obtain ⟨fuel, rfl⟩ := Nat.exists_eq_succ_of_ne_zero (Nat.ne_zero_of_lt hfuel)
      cases hread with
      | @cons _ a _ as hx hts =>
          have hrest : Delimited (t ++ rest) := ht.delimited (Or.inl rfl) rest
          have hitem := hx [] (t ++ rest) blank_nil hrest
          have hmore := ih hts (fun y hy => hstart y (by simp [hy]))
            (Nat.lt_of_succ_lt_succ hfuel)
          rw [List.nil_append] at hitem
          simp only [List.append_assoc, List.cons_append]
          rw [items, nextItem?_comma (hstart x (by simp)) hw hw']
          simp only [bind, Except.bind, hitem, hmore]
          rfl

/-- **Lists.** A list is read back if every item is. -/
theorem readsFreely_list {α : Type} {read : Reader α} {ts : List Text} {xs : List α} {t : Text}
    (hread : List.Forall₂ (Reads read) ts xs) (hstart : ∀ x ∈ ts, StartsValue x)
    (ht : Bracketed '[' ']' ts t) : ReadsFreely (list read) t xs := by
  intro w rest hw
  cases ht with
  | empty hw' =>
      cases hread
      rw [List.cons_append, list, skipSpace_token hw rfl]
      simp only [if_true, List.append_assoc, List.singleton_append]
      rw [items, nextItem?_close true hw']
      simp [bind, Except.bind, endList_close]
  | @items w' x u us hw' hu =>
      cases hread with
      | @cons _ a _ as hx hts =>
          have hrest : Delimited (u ++ rest) := hu.delimited (Or.inl rfl) rest
          have hitem := hx [] (u ++ rest) blank_nil hrest
          rw [List.nil_append] at hitem
          -- the reader's fuel is the length of the text, of which every item takes a part
          have hlen : us.length < (w' ++ (x ++ (u ++ rest))).length := by
            have := hu.length_lt
            simp only [List.length_append]
            omega
          have hmore := items_tail hts (fun y hy => hstart y (by simp [hy])) hu rest hlen
          rw [List.cons_append, list, skipSpace_token hw rfl]
          simp only [if_true, List.append_assoc]
          rw [items, nextItem?_item (hstart x (by simp)) hw']
          simp only [bind, Except.bind, if_true, hitem, hmore, endList_close]

/-! ## Reading an object -/

section Fields

variable {σ : Type} {onField : σ → Text → Reader σ}

/-- In the state `st` the field `m`, a key and the text of its value, leads to `st'`. -/
def Takes (onField : σ → Text → Reader σ) (st : σ) (m : Text × Text) (st' : σ) : Prop :=
  ∀ w w' rest, Blank w → Blank w' → Delimited rest →
    onField st m.1 (w ++ ':' :: (w' ++ (m.2 ++ rest))) = .ok (st', rest)

/-- Fields taken one after the other. -/
inductive TakesAll (onField : σ → Text → Reader σ) : σ → List (Text × Text) → σ → Prop where
  | nil (st : σ) : TakesAll onField st [] st
  | cons {st st' st'' : σ} {m : Text × Text} {ms : List (Text × Text)}
      (hm : Takes onField st m st') (hms : TakesAll onField st' ms st'') :
      TakesAll onField st (m :: ms) st''

theorem nextKey?_first {w : Text} (hw : Blank w) (t : Text) :
    nextKey? true (w ++ '"' :: t) = .ok (true, '"' :: t) := by
  rw [nextKey?, skipSpace_token hw rfl]
  simp

theorem nextKey?_comma {w w' : Text} (hw : Blank w) (hw' : Blank w') (t : Text) :
    nextKey? false (w ++ ',' :: (w' ++ '"' :: t)) = .ok (true, '"' :: t) := by
  rw [nextKey?, skipSpace_token hw rfl]
  simp [skipSpace_token hw' (c := '"') rfl]

theorem nextKey?_close (first : Bool) {w : Text} (hw : Blank w) (t : Text) :
    nextKey? first (w ++ '\x7d' :: t) = .ok (false, '\x7d' :: t) := by
  rw [nextKey?, skipSpace_token hw rfl]
  simp

/-- One field: once the reader stands before its key, the field is taken and reading goes on
behind its value. -/
theorem fields_member {st st' : σ} {m : Text × Text} {u s rest : Text} {first : Bool} {fuel : Nat}
    (hm : MemberText m u) (htake : Takes onField st m st') (hrest : Delimited rest)
    (hkey : nextKey? first s = .ok (true, u ++ rest)) :
    fields onField (fuel + 1) first st s = fields onField fuel false st' rest := by
  cases hm with
  | @member w w' k v hw hw' =>
      have hvalue := htake w w' rest hw hw' hrest
      rw [List.append_assoc, List.append_assoc, List.cons_append, List.append_assoc,
        quote_append] at hkey
      rw [fields, hkey]
      simp only [bind, Except.bind, if_true, List.drop_succ_cons, List.drop_zero,
        stringTail_quote, hvalue]

theorem memberText_cons {m : Text × Text} {u : Text} (hm : MemberText m u) :
    ∃ v, u = '"' :: v := by
  cases hm
  exact ⟨_, rfl⟩

/-- The fields after one that has been read. -/
theorem fields_tail {st st' : σ} {ms : List (Text × Text)} {us : List Text} {t : Text}
    (hms : List.Forall₂ MemberText ms us) (htake : TakesAll onField st ms st')
    (ht : Tail '\x7d' us t) (rest : Text) {fuel : Nat} (hfuel : us.length < fuel) :
    fields onField fuel false st (t ++ rest) = .ok (st', '\x7d' :: rest) := by
  -- on the layout as for lists, with the state of the fields seen so far as it goes
  induction ht generalizing st ms fuel with
  | close hw =>
      obtain ⟨fuel, rfl⟩ := Nat.exists_eq_succ_of_ne_zero (Nat.ne_zero_of_lt hfuel)
      cases hms
      cases htake
      rw [List.append_assoc, List.singleton_append, fields, nextKey?_close false hw]
      rfl
  | @next w w' u t us hw hw' ht ih =>
      obtain ⟨fuel, rfl⟩ := Nat.exists_eq_succ_of_ne_zero (Nat.ne_zero_of_lt hfuel)
      cases hms with
      | cons hm hms =>
          cases htake with
          | cons htake htakes =>
              have hrest : Delimited (t ++ rest) := ht.delimited (Or.inr rfl) rest
              obtain ⟨v, rfl⟩ := memberText_cons hm
              have hkey := nextKey?_comma hw hw' (v ++ (t ++ rest))
              simp only [List.append_assoc, List.cons_append]
              rw [fields_member hm htake hrest hkey]
              exact ih hms htakes (Nat.lt_of_succ_lt_succ hfuel)

/-- **Objects.** The fields of an object are read one by one, up to its closing brace. -/
theorem fields_bracketed {st st' : σ} {ms : List (Text × Text)} {us : List Text} {t : Text}
    (hms : List.Forall₂ MemberText ms us) (htake : TakesAll onField st ms st')
    (ht : Bracketed '\x7b' '\x7d' us ('\x7b' :: t)) (rest : Text) :
    fields onField ((t ++ rest).length + 1) true st (t ++ rest)
      = .ok (st', '\x7d' :: rest) := by
  cases ht with
  | empty hw =>
      cases hms
      cases htake
      rw [List.append_assoc, List.singleton_append, fields, nextKey?_close true hw]
      rfl
  | @items w u t us hw hu =>
      cases hms with
      | cons hm hms =>
          cases htake with
          | cons htake htakes =>
              have hrest : Delimited (t ++ rest) := hu.delimited (Or.inr rfl) rest
              have hlen := hu.length_lt
              obtain ⟨v, rfl⟩ := memberText_cons hm
              have hkey := nextKey?_first hw (v ++ (t ++ rest))
              simp only [List.append_assoc, List.cons_append]
              rw [fields_member hm htake hrest hkey]
              refine fields_tail hms htakes hu rest ?_
              simp only [List.length_append, List.length_cons]
              omega

end Fields

theorem colon_token {w : Text} (hw : Blank w) (t : Text) : colon (w ++ ':' :: t) = .ok t := by
  rw [colon, skipSpace_token hw rfl]
  simp

/-- A field that is seen for the first time takes on the value that its reader gives. -/
theorem takes_fieldValue {σ α : Type} {onField : σ → Text → Reader σ} {st : σ} {k v : Text}
    {name : String} {read : Reader α} {a : α} (set : α → σ)
    (hfield : ∀ t, onField st k t
      = (fieldValue name none read t).map fun p => (set p.1, p.2))
    (h : Reads read v a) : Takes onField st (k, v) (set a) := by
  intro w w' rest hw hw' hrest
  rw [hfield, fieldValue, colon_token hw]
  simp only [Option.isSome_none, Bool.false_eq_true, if_false, bind, Except.bind]
  rw [h w' rest hw' hrest]
  rfl

theorem endObject_close (t : Text) : endObject ('\x7d' :: t) = .ok t := by
  rw [endObject, skipSpace_cons rfl]
  simp

/-- **Records.** A record is read back from an object if its fields lead to it. -/
theorem readsFreely_record {α : Type} {name : String} {fromList fromObject : Reader α}
    {t : Text} {a : α}
    (h : ∀ rest, fromObject (t ++ rest) = .ok (a, '\x7d' :: rest)) :
    ReadsFreely (record name fromList fromObject) ('\x7b' :: t) a := by
  intro w rest hw
  rw [List.cons_append, record, skipSpace_token hw rfl]
  simp [bind, Except.bind, h, endObject_close]

end UnitReview.Wire
