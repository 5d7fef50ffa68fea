import UnitReview.Json.Fault

/-!
# Reading JSON texts

Readers take the unread text and give back a value and what is left, or a fault. Here are the
readers for blanks, strings, numbers and words, the reader that steps over any value, and the
fault for a value of the wrong type. Readers for particular documents are built from them.
-/

set_option autoImplicit false

namespace UnitReview

namespace Json

/-- The blanks between JSON tokens. -/
def isSpace (c : Char) : Bool := c == ' ' || c == '\n' || c == '\t' || c == '\r'

/-- Steps over blanks. -/
def skipSpace (t : Text) : Text := t.dropWhile isSpace

/-! ## Strings -/

/-- The value of a hexadecimal digit. -/
def hexValue? (c : Char) : Option Nat :=
  if '0' ≤ c ∧ c ≤ '9' then some (c.toNat - 48)
  else if 'a' ≤ c ∧ c ≤ 'f' then some (c.toNat - 87)
  else if 'A' ≤ c ∧ c ≤ 'F' then some (c.toNat - 55)
  else none

/-- Four hexadecimal digits. Four bytes are taken whatever they are. -/
def hexEscape : Text → Except Fault (Nat × Text)
  | a :: b :: c :: d :: r =>
      match hexValue? a, hexValue? b, hexValue? c, hexValue? d with
      | some w, some x, some y, some z => .ok (((w * 16 + x) * 16 + y) * 16 + z, r)
      | _, _, _, _ => .error ⟨.invalidEscape, a :: b :: c :: d :: r, 4⟩
  | t => if Text.byteLength t < 4 then fault .eofString [] else .error ⟨.invalidEscape, t, 4⟩

/-- The second half of a character above U+FFFF, `high` being the first half. -/
def lowSurrogate (high : Nat) : Text → Except Fault (Char × Text)
  | [] => fault .eofString []
  | '\\' :: [] => fault .eofString []
  | '\\' :: 'u' :: r => do
      let (low, r) ← hexEscape r
      if 0xDC00 ≤ low && low ≤ 0xDFFF then
        .ok (Char.ofNat ((high - 0xD800) * 1024 + (low - 0xDC00) + 0x10000), r)
      else fault .loneSurrogate r
  | '\\' :: c :: r => .error ⟨.endOfHexEscape, c :: r, 1⟩
  | c :: r => .error ⟨.endOfHexEscape, c :: r, 1⟩

/-- The character that an escape stands for, after its backslash. -/
def escape : Text → Except Fault (Char × Text)
  | [] => fault .eofString []
  | '"' :: r => .ok ('"', r)
  | '\\' :: r => .ok ('\\', r)
  | '/' :: r => .ok ('/', r)
  | 'b' :: r => .ok (Char.ofNat 8, r)
  | 'f' :: r => .ok (Char.ofNat 12, r)
  | 'n' :: r => .ok ('\n', r)
  | 'r' :: r => .ok ('\r', r)
  | 't' :: r => .ok ('\t', r)
  | 'u' :: r => do
      let (n, r) ← hexEscape r
      if 0xDC00 ≤ n && n ≤ 0xDFFF then fault .loneSurrogate r
      else if 0xD800 ≤ n && n ≤ 0xDBFF then lowSurrogate n r
      else .ok (Char.ofNat n, r)
  | c :: r => .error ⟨.invalidEscape, c :: r, 1⟩

theorem hexEscape_length {t r : Text} {n : Nat} (h : hexEscape t = .ok (n, r)) :
    r.length < t.length := by
  unfold hexEscape at h
  split at h
  · split at h
    · simp only [Except.ok.injEq, Prod.mk.injEq] at h
      obtain ⟨_, rfl⟩ := h
      simp only [List.length_cons]
      omega
    · cases h
  · split at h <;> cases h

theorem lowSurrogate_length {high : Nat} {t r : Text} {c : Char}
    (h : lowSurrogate high t = .ok (c, r)) : r.length < t.length := by
  unfold lowSurrogate at h
  split at h
  · cases h
  · cases h
  · rename_i s
    cases hs : hexEscape s with
    | error e => simp [hs, bind, Except.bind] at h
    | ok p =>
        obtain ⟨low, r'⟩ := p
        have hl := hexEscape_length hs
        simp only [hs, bind, Except.bind] at h
        split at h
        · simp only [Except.ok.injEq, Prod.mk.injEq] at h
          obtain ⟨_, rfl⟩ := h
          simp only [List.length_cons]
          omega
        · cases h
  · cases h
  · cases h

theorem escape_length {t r : Text} {c : Char} (h : escape t = .ok (c, r)) :
    r.length < t.length := by
  unfold escape at h
  split at h
  case h_1 => cases h
  case h_10 s =>
    cases hs : hexEscape s with
    | error e => simp [hs, bind, Except.bind] at h
    | ok p =>
        obtain ⟨n, r'⟩ := p
        have hl := hexEscape_length hs
        simp only [hs, bind, Except.bind] at h
        split at h
        · cases h
        · split at h
          · have := lowSurrogate_length h
            simp only [List.length_cons]
            omega
          · simp only [Except.ok.injEq, Prod.mk.injEq] at h
            obtain ⟨_, rfl⟩ := h
            simp only [List.length_cons]
            omega
  case h_11 => cases h
  all_goals
    simp only [Except.ok.injEq, Prod.mk.injEq] at h
    obtain ⟨_, rfl⟩ := h
    simp

/-- The rest of a string, after its opening quote. -/
def stringTail (t : Text) : Except Fault (Text × Text) :=
  match t with
  | [] => fault .eofString []
  | c :: r =>
      if c = '"' then .ok ([], r)
      else if c = '\\' then
        match h : escape r with
        | .error e => .error e
        | .ok (d, r') =>
            have : r'.length < r.length := escape_length h
            (stringTail r').map fun p => (d :: p.1, p.2)
      else if c.toNat < 0x20 then .error ⟨.controlCharacter, c :: r, 1⟩
      else (stringTail r).map fun p => (c :: p.1, p.2)
termination_by t.length
decreasing_by all_goals simp only [List.length_cons]; omega

/-- Steps over an escape, after its backslash. -/
def skipEscape : Text → Except Fault Text
  | [] => fault .eofString []
  | 'u' :: r => (hexEscape r).map (·.2)
  | c :: r => if "\"\\/bfnrt".toList.contains c then .ok r else .error ⟨.invalidEscape, c :: r, 1⟩

theorem skipEscape_length {t r : Text} (h : skipEscape t = .ok r) : r.length < t.length := by
  unfold skipEscape at h
  split at h
  · cases h
  · rename_i s
    cases hs : hexEscape s with
    | error e => simp [hs, Except.map] at h
    | ok p =>
        have hl := hexEscape_length (n := p.1) (r := p.2) hs
        simp only [hs, Except.map, Except.ok.injEq] at h
        subst h
        simp only [List.length_cons]
        omega
  · split at h
    · simp only [Except.ok.injEq] at h
      subst h
      simp
    · cases h

/-- Steps over the rest of a string, after its opening quote. -/
def skipStringTail (t : Text) : Except Fault Text :=
  match t with
  | [] => fault .eofString []
  | c :: r =>
      if c = '"' then .ok r
      else if c = '\\' then
        match h : skipEscape r with
        | .error e => .error e
        | .ok r' =>
            have : r'.length < r.length := skipEscape_length h
            skipStringTail r'
      else if c.toNat < 0x20 then fault .controlCharacter (c :: r)
      else skipStringTail r
termination_by t.length
decreasing_by all_goals simp only [List.length_cons]; omega

/-! ## Words -/

/-- Reads the letters of a word, after its first. -/
def wordTail (word : Text) (t : Text) : Except Fault Text :=
  match word, t with
  | [], t => .ok t
  | _ :: _, [] => fault .eofValue []
  | w :: ws, c :: r => if c = w then wordTail ws r else .error ⟨.expectedIdent, c :: r, 1⟩

/-! ## Numbers -/

/-- Naturals are below this limit, which is `2 ^ 64`. -/
def naturalLimit : Nat := 0x10000000000000000

/-- Negative numbers go down to this one below zero, which is `2 ^ 63`. -/
def negativeLimit : Nat := 0x8000000000000000

/-- A number as it was read. What is written otherwise than as a natural or negative number within
its limit is a fraction. -/
inductive Number where
  | natural (n : Nat)
  | negative (n : Nat)
  | fraction (f : Float)

/-- What a number is called where something else was expected. -/
def Number.found : Number → Found
  | .natural n => .natural n
  | .negative n => .negative n
  | .fraction f => .fraction f

/-- A decimal digit. -/
def isDigit (c : Char) : Bool := '0' ≤ c && c ≤ '9'

/-- The value of a decimal digit. -/
def digitValue (c : Char) : Nat := c.toNat - 48

/-- Takes digits into a number for as long as it stays below the limit; also gives how many
digits were taken. -/
def absorb : Nat → List Char → Nat × Nat
  | n, [] => (n, 0)
  | n, c :: cs =>
      if n * 10 + digitValue c < naturalLimit then
        let p := absorb (n * 10 + digitValue c) cs
        (p.1, p.2 + 1)
      else (n, 0)

/-- `10 ^ k` as a double. -/
def powerOfTen (k : Nat) : Float := Float.ofScientific 1 false k

/-- Divides by powers of ten up to the 308th until `k` places are done. -/
def divideByTens : Nat → Float → Nat → Float
  | 0, f, _ => f
  | fuel + 1, f, k =>
      if k ≤ 308 then f / powerOfTen k
      else if f == 0 then f
      else divideByTens fuel (f / powerOfTen 308) (k - 308)

/-- The double for `significand · 10 ^ exponent`, computed in doubles; `none` if it is too large. -/
def scaledFloat? (positive : Bool) (significand : Nat) (exponent : Int) : Option Float :=
  let f := (UInt64.ofNat significand).toFloat
  let signed (x : Float) := if positive then x else -x
  if 0 ≤ exponent then
    if exponent ≤ 308 then
      let g := f * powerOfTen exponent.toNat
      if g.isInf then none else some (signed g)
    else if significand = 0 then some (signed f)
    else none
  else
    let k := exponent.natAbs
    some (signed (divideByTens (k / 308 + 1) f k))

/-- The value of a list of digits. -/
def digitsValue (ds : List Char) : Nat := ds.foldl (fun n c => n * 10 + digitValue c) 0

/-- The largest exponent that is read as such. -/
def maxExponent : Nat := 0x7FFFFFFF

/-- The exponent after its `e`, for a number with the given digits so far. -/
def exponentPart (positive : Bool) (significand : Nat) (exponent : Int) (t : Text) :
    Except Fault (Number × Text) :=
  let (up, t) := match t with
    | '+' :: r => (true, r)
    | '-' :: r => (false, r)
    | r => (true, r)
  match t with
  | [] => fault .eofValue []
  | c :: r =>
      if !isDigit c then .error ⟨.invalidNumber, c :: r, 1⟩
      else
        let digits := (c :: r).takeWhile isDigit
        let rest := (c :: r).dropWhile isDigit
        if digitsValue digits ≤ maxExponent then
          let e : Int := digitsValue digits
          match scaledFloat? positive significand (if up then exponent + e else exponent - e) with
          | some f => .ok (.fraction f, rest)
          | none => fault .numberOutOfRange rest
        else if significand ≠ 0 && up then
          -- The fault lies right after the digit that made the exponent too large.
          let read := (List.range digits.length).find? fun k =>
            maxExponent < digitsValue (digits.take (k + 1))
          fault .numberOutOfRange ((c :: r).drop (read.getD 0 + 1))
        else .ok (.fraction (if positive then 0.0 else -0.0), rest)

/-- The places after the point, for a number with the given digits so far. -/
def decimalPart (positive : Bool) (significand : Nat) (exponent : Int) (t : Text) :
    Except Fault (Number × Text) :=
  let digits := t.takeWhile isDigit
  let rest := t.dropWhile isDigit
  if digits.isEmpty then
    if rest.isEmpty then faultAhead .eofValue [] else faultAhead .invalidNumber rest
  else
    let (significand, taken) := absorb significand digits
    let exponent := exponent - taken
    match rest with
    | 'e' :: r | 'E' :: r => exponentPart positive significand exponent r
    | _ =>
        match scaledFloat? positive significand exponent with
        | some f => .ok (.fraction f, rest)
        | none => fault .numberOutOfRange rest

/-- A number, after its sign. -/
def number (positive : Bool) : Text → Except Fault (Number × Text)
  | [] => fault .eofValue []
  | c :: r =>
      if !isDigit c then .error ⟨.invalidNumber, c :: r, 1⟩
      else if c = '0' && (r.head?.any isDigit) then faultAhead .invalidNumber r
      else
        let digits := (c :: r).takeWhile isDigit
        let rest := (c :: r).dropWhile isDigit
        let (significand, taken) := absorb 0 digits
        let exponent : Int := digits.length - taken
        match rest with
        | '.' :: r' => decimalPart positive significand exponent r'
        | 'e' :: r' | 'E' :: r' => exponentPart positive significand exponent r'
        | _ =>
            if exponent ≠ 0 then
              match scaledFloat? positive significand exponent with
              | some f => .ok (.fraction f, rest)
              | none => fault .numberOutOfRange rest
            else if positive then .ok (.natural significand, rest)
            else if significand = 0 || negativeLimit < significand then
              .ok (.fraction (-(UInt64.ofNat significand).toFloat), rest)
            else .ok (.negative significand, rest)

/-- Steps over the exponent of a number, after its `e`. -/
def skipExponent (t : Text) : Except Fault Text :=
  let t := match t with
    | '+' :: r => r
    | '-' :: r => r
    | r => r
  match t with
  | [] => fault .invalidNumber []
  | c :: r => if isDigit c then .ok (r.dropWhile isDigit) else .error ⟨.invalidNumber, c :: r, 1⟩

/-- Steps over the places of a number, after its point. -/
def skipDecimals (t : Text) : Except Fault Text :=
  let rest := t.dropWhile isDigit
  if t.head?.any isDigit then
    match rest with
    | 'e' :: r | 'E' :: r => skipExponent r
    | _ => .ok rest
  else faultAhead .invalidNumber t

/-- Steps over a number, after its sign. -/
def skipNumber : Text → Except Fault Text
  | [] => fault .invalidNumber []
  | c :: r =>
      if !isDigit c then .error ⟨.invalidNumber, c :: r, 1⟩
      else if c = '0' && (r.head?.any isDigit) then faultAhead .invalidNumber r
      else
        let rest := (c :: r).dropWhile isDigit
        match rest with
        | '.' :: r' => skipDecimals r'
        | 'e' :: r' | 'E' :: r' => skipExponent r'
        | _ => .ok rest

/-! ## Values of the wrong type -/

/-- The fault for a value where `expected` was to stand; the text starts with the value. -/
def wrongType {α : Type} (expected : String) (t : Text) : Except Fault α :=
  match t with
  | 'n' :: r => do
      let r ← wordTail "ull".toList r
      fault (.invalidType .null expected) r
  | 't' :: r => do
      let r ← wordTail "rue".toList r
      fault (.invalidType (.boolean true) expected) r
  | 'f' :: r => do
      let r ← wordTail "alse".toList r
      fault (.invalidType (.boolean false) expected) r
  | '-' :: r => do
      let (n, r) ← number false r
      fault (.invalidType n.found expected) r
  | '"' :: r => do
      let (s, r) ← stringTail r
      fault (.invalidType (.string s) expected) r
  | '[' :: _ => fault (.invalidType .sequence expected) t
  | '\x7b' :: _ => fault (.invalidType .map expected) t
  | [] => faultAhead .expectedValue []
  | c :: _ =>
      if isDigit c then do
        let (n, r) ← number true t
        fault (.invalidType n.found expected) r
      else faultAhead .expectedValue t

/-! ## Stepping over values -/

/-- An open list or object. -/
inductive Frame where
  | list
  | object
  deriving DecidableEq

/-- The fault for a list or object that goes on wrongly. -/
def Frame.expectedEnd : Frame → Cause
  | .list => .expectedListEnd
  | .object => .expectedObjectEnd

/-- The fault for a list or object that is not closed. -/
def Frame.eof : Frame → Cause
  | .list => .eofList
  | .object => .eofObject

/-- The character that closes a list or object. -/
def Frame.closing : Frame → Char
  | .list => ']'
  | .object => '\x7d'

/-- Steps over a key and its colon. -/
def skipKey (t : Text) : Except Fault Text :=
  match skipSpace t with
  | [] => faultAhead .eofObject []
  | c :: r =>
      if c = '"' then do
        let r ← skipStringTail r
        match skipSpace r with
        | [] => faultAhead .eofObject []
        | d :: r' => if d = ':' then .ok r' else faultAhead .expectedColon (d :: r')
      else faultAhead .keyNotString (c :: r)

/-- Steps over what is left of the open lists and objects, innermost first. With `value` a value
comes next, and otherwise a comma or a closing character; `fresh` says that the innermost list or
object has just been opened. -/
def skipOpen : Nat → Bool → Bool → List Frame → Text → Except Fault Text
  | 0, _, _, _, t => fault .eofValue t
  | fuel + 1, true, _, open', t =>
      match skipSpace t with
      | [] => faultAhead .eofValue []
      | c :: r =>
          let done (t : Text) : Except Fault Text :=
            if open'.isEmpty then .ok t else skipOpen fuel false false open' t
          if c = 'n' then (wordTail "ull".toList r).bind done
          else if c = 't' then (wordTail "rue".toList r).bind done
          else if c = 'f' then (wordTail "alse".toList r).bind done
          else if c = '-' then (skipNumber r).bind done
          else if isDigit c then (skipNumber (c :: r)).bind done
          else if c = '"' then (skipStringTail r).bind done
          else if c = '[' then skipOpen fuel false true (.list :: open') r
          else if c = '\x7b' then skipOpen fuel false true (.object :: open') r
          else faultAhead .expectedValue (c :: r)
  | _ + 1, false, _, [], t => .ok t
  | fuel + 1, false, fresh, frame :: open', t =>
      let next (t : Text) : Except Fault Text :=
        match frame with
        | .list => skipOpen fuel true false (frame :: open') t
        | .object => (skipKey t).bind (skipOpen fuel true false (frame :: open'))
      match skipSpace t with
      | [] => faultAhead frame.eof []
      | c :: r =>
          if c = frame.closing then
            (if open'.isEmpty then .ok r else skipOpen fuel false false open' r)
          else if fresh then next (c :: r)
          else if c = ',' then next r
          else faultAhead frame.expectedEnd (c :: r)

/-- Steps over one value of any type. -/
def skipValue (t : Text) : Except Fault Text := skipOpen (2 * t.length + 2) true false [] t

end Json

end UnitReview
