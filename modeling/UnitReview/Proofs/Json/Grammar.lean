import Mathlib.Algebra.Group.Nat.Defs
import UnitReview.Proofs.Json.Layout

/-!
# JSON texts and the values they are texts of

The grammar of JSON, apart from any reader. A value keeps its numbers and strings as they are
written, so that a text is told by its value and the blanks between its tokens (`Written`,
`TextOf`). What a string stands for is told on its own (`Spells`): many strings spell the same
text, and some spell none, because half of a character is missing.

The pretty form of a document is one of its texts (`written_prettyAt`).
-/

set_option autoImplicit false

namespace UnitReview.Json

/-! ## Strings -/

/-- The letters of the short escapes, with the characters they stand for. -/
def shortEscapes : List (Char × Char) :=
  [('"', '"'), ('\\', '\\'), ('/', '/'), ('b', Char.ofNat 8), ('f', Char.ofNat 12),
    ('n', '\n'), ('r', '\r'), ('t', '\t')]

/-- Characters that may stand for themselves in a string. -/
def Plain (c : Char) : Prop := c ≠ '"' ∧ c ≠ '\\' ∧ ¬ c.toNat < 0x20

instance (c : Char) : Decidable (Plain c) := inferInstanceAs (Decidable (_ ∧ _))

/-- Four hexadecimal digits and the number they give. -/
inductive HexWord : Nat → Text → Prop where
  | digits {a b c d : Char} {w x y z : Nat} (ha : hexValue? a = some w)
      (hb : hexValue? b = some x) (hc : hexValue? c = some y) (hd : hexValue? d = some z) :
      HexWord (((w * 16 + x) * 16 + y) * 16 + z) [a, b, c, d]

/-- The first half of a character above U+FFFF. -/
def IsHigh (n : Nat) : Prop := 0xD800 ≤ n ∧ n ≤ 0xDBFF

/-- The second half of a character above U+FFFF. -/
def IsLow (n : Nat) : Prop := 0xDC00 ≤ n ∧ n ≤ 0xDFFF

/-- What the grammar allows between the quotes, piece by piece. -/
inductive Piece : Text → Prop where
  | plain {c : Char} (hc : Plain c) : Piece [c]
  | short {l c : Char} (hl : (l, c) ∈ shortEscapes) : Piece ['\\', l]
  | hex {n : Nat} {q : Text} (hq : HexWord n q) : Piece ('\\' :: 'u' :: q)

/-- What stands between the quotes of a string. -/
inductive Body : Text → Prop where
  | nil : Body []
  | cons {p b : Text} (hp : Piece p) (hb : Body b) : Body (p ++ b)

/-- The ways to write one character. -/
inductive SpellsChar : Char → Text → Prop where
  | plain {c : Char} (hc : Plain c) : SpellsChar c [c]
  | short {l c : Char} (hl : (l, c) ∈ shortEscapes) : SpellsChar c ['\\', l]
  | hex {n : Nat} {q : Text} (hq : HexWord n q) (hhigh : ¬ IsHigh n) (hlow : ¬ IsLow n) :
      SpellsChar (Char.ofNat n) ('\\' :: 'u' :: q)
  | pair {m n : Nat} {p q : Text} (hp : HexWord m p) (hm : IsHigh m) (hq : HexWord n q)
      (hn : IsLow n) :
      SpellsChar (Char.ofNat ((m - 0xD800) * 1024 + (n - 0xDC00) + 0x10000))
        ('\\' :: 'u' :: p ++ '\\' :: 'u' :: q)

/-- `Spells s b`: the text `s` may be written as `b` between quotes. -/
inductive Spells : Text → Text → Prop where
  | nil : Spells [] []
  | cons {c : Char} {s p b : Text} (hc : SpellsChar c p) (hs : Spells s b) :
      Spells (c :: s) (p ++ b)

theorem Body.append {a b : Text} (ha : Body a) (hb : Body b) : Body (a ++ b) := by
  induction ha with
  | nil => exact hb
  | cons hp _ ih =>
      rw [List.append_assoc]
      exact .cons hp ih

theorem Piece.body {p : Text} (hp : Piece p) : Body p := by
  have h := Body.cons hp .nil
  rwa [List.append_nil] at h

theorem Spells.body {s b : Text} (h : Spells s b) : Body b := by
  induction h with
  | nil => exact .nil
  | cons hc _ ih =>
      refine Body.append ?_ ih
      cases hc with
      | plain hc => exact (Piece.plain hc).body
      | short hl => exact (Piece.short hl).body
      | hex hq _ _ => exact (Piece.hex hq).body
      | pair hp _ hq _ => exact (Piece.hex hp).body.append (Piece.hex hq).body

/-- The writer's way to write a character is one of them. -/
theorem spellsChar_escapeChar (c : Char) : SpellsChar c (escapeChar c) := by
  have short : ∀ {n : Nat} {l : Char}, c.toNat = n → (l, Char.ofNat n) ∈ shortEscapes →
      SpellsChar c ['\\', l] := by
    intro n l hn hl
    rw [← hn, Char.ofNat_toNat] at hl
    exact .short hl
  unfold escapeChar
  split
  next h => subst h; exact .short (by decide)
  split
  next h => subst h; exact .short (by decide)
  split
  next h => exact short h (by decide)
  split
  next h => exact short h (by decide)
  split
  next h => exact short h (by decide)
  split
  next h => exact short h (by decide)
  split
  next h => exact short h (by decide)
  split
  next h =>
    have h0 : hexValue? '0' = some 0 := by decide
    have hword := HexWord.digits h0 h0 (hexValue?_hexDigit (c.toNat / 16) (by omega))
      (hexValue?_hexDigit (c.toNat % 16) (by omega))
    have hvalue : ((0 * 16 + 0) * 16 + c.toNat / 16) * 16 + c.toNat % 16 = c.toNat := by omega
    rw [hvalue] at hword
    have hspells := SpellsChar.hex hword (by unfold IsHigh; omega) (by unfold IsLow; omega)
    rwa [Char.ofNat_toNat] at hspells
  next hquote hslash _ _ _ _ _ hcontrol => exact .plain ⟨hquote, hslash, hcontrol⟩

theorem spells_escape (s : Text) : Spells s (s.flatMap escapeChar) := by
  induction s with
  | nil => exact .nil
  | cons c s ih =>
      rw [List.flatMap_cons]
      exact .cons (spellsChar_escapeChar c) ih

/-! ## Numbers -/

/-- Digits without a leading zero, or a single zero. -/
inductive WholeText : Text → Prop where
  | zero : WholeText ['0']
  | digits {c : Char} {ds : Text} (hc : isDigit c = true) (hzero : c ≠ '0')
      (hds : ∀ d ∈ ds, isDigit d = true) : WholeText (c :: ds)

/-- The places after the point, if there are any. -/
inductive PlacesText : Text → Prop where
  | none : PlacesText []
  | some {c : Char} {ds : Text} (hc : isDigit c = true) (hds : ∀ d ∈ ds, isDigit d = true) :
      PlacesText ('.' :: c :: ds)

/-- The exponent, if there is one. -/
inductive ExponentText : Text → Prop where
  | none : ExponentText []
  | some {e c : Char} {sign ds : Text} (he : e = 'e' ∨ e = 'E')
      (hsign : sign = [] ∨ sign = ['+'] ∨ sign = ['-']) (hc : isDigit c = true)
      (hds : ∀ d ∈ ds, isDigit d = true) : ExponentText (e :: (sign ++ c :: ds))

/-- A number: an optional minus, a whole part, optional places and an optional exponent. -/
inductive NumberText : Text → Prop where
  | unsigned {i f e : Text} (hi : WholeText i) (hf : PlacesText f) (he : ExponentText e) :
      NumberText (i ++ (f ++ e))
  | negative {i f e : Text} (hi : WholeText i) (hf : PlacesText f) (he : ExponentText e) :
      NumberText ('-' :: (i ++ (f ++ e)))

/-- **A machine word in digits**: `x` is `0` or a row of digits without a leading zero, and its
value `n` is below `2 ^ 64`. -/
structure WordText (x : Text) (n : Nat) : Prop where
  whole : WholeText x
  value : Nat.ofDigitChars 10 x 0 = n
  lt : n < 2 ^ 64

theorem WholeText.exists_cons {x : Text} (h : WholeText x) :
    ∃ c ds, x = c :: ds ∧ (∀ d ∈ c :: ds, isDigit d = true) ∧ (c = '0' → ds = []) := by
  cases h with
  | zero => exact ⟨'0', [], rfl, List.forall_mem_singleton.2 rfl, fun _ => rfl⟩
  | @digits c ds hc hzero hds =>
      refine ⟨c, ds, rfl, ?_, fun h => absurd h hzero⟩
      intro d hd
      rcases List.mem_cons.1 hd with rfl | hd
      · exact hc
      · exact hds d hd

theorem WholeText.digit {x : Text} (h : WholeText x) : ∀ c ∈ x, isDigit c = true := by
  obtain ⟨c, ds, rfl, hdigits, -⟩ := h.exists_cons
  exact hdigits

theorem wholeText_toDigits (n : Nat) : WholeText (Nat.toDigits 10 n) := by
  have hdigit : ∀ d ∈ Nat.toDigits 10 n, isDigit d = true := fun d hd =>
    Nat.isDigit_of_mem_toDigits (by omega) (by omega) hd
  have hzero := toDigits_head n
  cases hds : Nat.toDigits 10 n with
  | nil => exact absurd hds Nat.toDigits_ne_nil
  | cons c ds =>
      rw [hds] at hdigit hzero
      by_cases hc : c = '0'
      · have hn := hzero (by rw [hc]; rfl)
        rw [hn, Nat.toDigits_zero] at hds
        rw [← hds]
        exact .zero
      · exact .digits (hdigit c (by simp)) hc fun d hd => hdigit d (by simp [hd])

theorem toList_toString (n : Nat) : (toString n).toList = Nat.toDigits 10 n := by
  rw [Nat.toString_eq_ofList_toDigits, String.toList_ofList]

/-- Numbers are written as numbers. -/
theorem numberText_toString (n : Nat) : NumberText (toString n).toList := by
  have h := NumberText.unsigned (wholeText_toDigits n) .none .none
  rwa [List.append_nil, List.append_nil, ← toList_toString] at h

theorem wordText_toString {n : Nat} (hn : n < 2 ^ 64) : WordText (toString n).toList n := by
  rw [toList_toString]
  exact ⟨wholeText_toDigits n, Nat.ofDigitChars_ten_toDigits, hn⟩

/-! ## Values -/

/-- A JSON value. Numbers and strings are kept as they are written. -/
inductive Value where
  | null
  | boolean (b : Bool)
  | number (x : Text)
  | string (body : Text)
  | list (items : List Value)
  | object (members : List (Text × Value))

/-- The text of a field: its name in quotes, a colon and the text of its value. -/
inductive FieldText (b t : Text) : Text → Prop where
  | field {w w' : Text} (hw : Blank w) (hw' : Blank w') :
      FieldText b t ('"' :: (b ++ '"' :: (w ++ ':' :: (w' ++ t))))

mutual

/-- The texts of a value, with any blanks between their tokens. -/
inductive Written : Value → Text → Prop where
  | null : Written .null ['n', 'u', 'l', 'l']
  | yes : Written (.boolean true) ['t', 'r', 'u', 'e']
  | no : Written (.boolean false) ['f', 'a', 'l', 's', 'e']
  | number {x : Text} (hx : NumberText x) : Written (.number x) x
  | string {b : Text} (hb : Body b) : Written (.string b) ('"' :: (b ++ ['"']))
  | list {vs : List Value} {ts : List Text} {t : Text} (hvs : WrittenItems vs ts)
      (ht : Bracketed '[' ']' ts t) : Written (.list vs) t
  | object {ms : List (Text × Value)} {us : List Text} {t : Text} (hms : WrittenFields ms us)
      (ht : Bracketed '\x7b' '\x7d' us t) : Written (.object ms) t

/-- The texts of the items of a list. -/
inductive WrittenItems : List Value → List Text → Prop where
  | nil : WrittenItems [] []
  | cons {v : Value} {t : Text} {vs : List Value} {ts : List Text} (hv : Written v t)
      (hvs : WrittenItems vs ts) : WrittenItems (v :: vs) (t :: ts)

/-- The texts of the fields of an object. -/
inductive WrittenFields : List (Text × Value) → List Text → Prop where
  | nil : WrittenFields [] []
  | cons {b t u : Text} {v : Value} {ms : List (Text × Value)} {us : List Text} (hb : Body b)
      (hv : Written v t) (hu : FieldText b t u) (hms : WrittenFields ms us) :
      WrittenFields ((b, v) :: ms) (u :: us)

end

/-- `TextOf v t`: the whole text `t` holds the value `v` and blanks. -/
inductive TextOf (v : Value) : Text → Prop where
  | blanks {w t w' : Text} (hw : Blank w) (ht : Written v t) (hw' : Blank w') :
      TextOf v (w ++ (t ++ w'))

/-- The characters that a text of the value may start with. -/
def Value.Opens : Value → Char → Prop
  | .null, c => c = 'n'
  | .boolean true, c => c = 't'
  | .boolean false, c => c = 'f'
  | .number _, c => c = '-' ∨ isDigit c = true
  | .string _, c => c = '"'
  | .list _, c => c = '['
  | .object _, c => c = '\x7b'

/-- A text of a value shows at its first character what kind of value it is. -/
theorem Written.exists_cons {v : Value} {t : Text} (h : Written v t) :
    ∃ c u, t = c :: u ∧ v.Opens c := by
  cases h with
  | null => exact ⟨_, _, rfl, rfl⟩
  | yes => exact ⟨_, _, rfl, rfl⟩
  | no => exact ⟨_, _, rfl, rfl⟩
  | string hb => exact ⟨_, _, rfl, rfl⟩
  | list hvs ht =>
      obtain ⟨u, rfl⟩ := ht.starts
      exact ⟨_, u, rfl, rfl⟩
  | object hms ht =>
      obtain ⟨u, rfl⟩ := ht.starts
      exact ⟨_, u, rfl, rfl⟩
  | number hx =>
      cases hx with
      | unsigned hi hf he =>
          obtain ⟨c, ds, rfl, hdigit, -⟩ := hi.exists_cons
          exact ⟨c, _, rfl, Or.inr (hdigit c (by simp))⟩
      | negative hi hf he => exact ⟨_, _, rfl, Or.inl rfl⟩

theorem Value.Opens.token {v : Value} {c : Char} (h : v.Opens c) :
    isSpace c = false ∧ c ≠ ']' ∧ c ≠ '\x7d' := by
  have hdigit : isDigit c = true → isSpace c = false ∧ c ≠ ']' ∧ c ≠ '\x7d' := by
    intro hc
    refine ⟨isSpace_of_isDigit hc, ?_, ?_⟩
    all_goals
      rintro rfl
      exact absurd hc (by decide)
  cases v with
  | boolean b => cases b <;> obtain rfl := h <;> decide
  | number x =>
      rcases h with rfl | hc
      · decide
      · exact hdigit hc
  | _ => obtain rfl := h; decide

/-- The first character tells values of different kinds apart. -/
theorem Value.Opens.kind {v : Value} {c : Char} (h : v.Opens c) :
    (c = 'n' ↔ v = .null) ∧ (c = '-' ∨ isDigit c = true ↔ ∃ x, v = .number x) ∧
    (c = '"' ↔ ∃ b, v = .string b) ∧ (c = '[' ↔ ∃ vs, v = .list vs) ∧
    (c = '\x7b' ↔ ∃ ms, v = .object ms) := by
  cases v with
  | boolean b => cases b <;> obtain rfl := h <;> simp [isDigit]
  | number x =>
      have hne : ∀ d, d ≠ '-' → isDigit d = false → c ≠ d := by
        rintro d hminus hdigit rfl
        rcases h with rfl | h
        · exact hminus rfl
        · rw [h] at hdigit
          cases hdigit
      have hnumber : c = '-' ∨ isDigit c = true := h
      simp [hnumber, hne 'n' (by decide) (by decide), hne '"' (by decide) (by decide),
        hne '[' (by decide) (by decide), hne '\x7b' (by decide) (by decide)]
  | _ => obtain rfl := h; simp [isDigit]

/-! ## The pretty form -/

mutual

/-- The value of a document, its strings written as the writer writes them. -/
def value : Json → Value
  | .num n => .number (toString n).toList
  | .str s => .string (s.flatMap escapeChar)
  | .arr xs => .list (valueItems xs)
  | .obj fs => .object (valueFields fs)

/-- The values of several documents. -/
def valueItems : List Json → List Value
  | [] => []
  | x :: xs => value x :: valueItems xs

/-- The values of the fields of a document. -/
def valueFields : List (Text × Json) → List (Text × Value)
  | [] => []
  | (k, x) :: fs => (k.flatMap escapeChar, value x) :: valueFields fs

end

theorem fieldText_prettyMember (level : Nat) (f : Text × Json) :
    FieldText (f.1.flatMap escapeChar) (prettyAt level f.2) (prettyMember level f) := by
  have h : FieldText (f.1.flatMap escapeChar) (prettyAt level f.2) _ :=
    FieldText.field blank_nil (show Blank [' '] by decide)
  rw [prettyMember, quote_append]
  exact h

mutual

/-- **The pretty form of a document is one of its texts.** -/
theorem written_prettyAt (level : Nat) : ∀ j : Json, Written j.value (prettyAt level j)
  | .num n => by
      rw [value, prettyAt]
      exact .number (numberText_toString n)
  | .str s => by
      rw [value, prettyAt, quote, List.cons_append]
      exact .string (spells_escape s).body
  | .arr xs => by
      rw [value]
      exact .list (writtenItems_pretty (level + 1) xs) (bracketed_arr level xs)
  | .obj fs => by
      rw [value]
      exact .object (writtenFields_pretty (level + 1) fs) (bracketed_obj level fs)

theorem writtenItems_pretty (level : Nat) : ∀ xs : List Json,
    WrittenItems (valueItems xs) (xs.map (prettyAt level))
  | [] => .nil
  | x :: xs => .cons (written_prettyAt level x) (writtenItems_pretty level xs)

theorem writtenFields_pretty (level : Nat) : ∀ fs : List (Text × Json),
    WrittenFields (valueFields fs) (fs.map (prettyMember level))
  | [] => .nil
  | (k, x) :: fs =>
      .cons (spells_escape k).body (written_prettyAt level x)
        (fieldText_prettyMember level (k, x)) (writtenFields_pretty level fs)

end

end UnitReview.Json
