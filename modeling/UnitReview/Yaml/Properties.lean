import UnitReview.Text.Utf8
import UnitReview.Yaml.Scalars

/-!
# Directives, anchors and tags

A tag is a handle and a suffix. Octets of a suffix may be written with a percent sign; they have
to look like the encoding of characters.
-/

set_option autoImplicit false

namespace UnitReview.Yaml.Scan

/-! ## Anchors -/

/-- Characters that may follow an anchor without a blank. -/
def afterAnchor : List Char := ['?', ':', ',', ']', '\x7d', '%', '@', '\x60']

/-- An anchor, or a reference to one. -/
def anchor (reference : Bool) : Scan Token := do
  let start ← place
  skip 1
  let name ← takeWhile isNameChar
  let next ← peek 0
  if name.isEmpty || !(isBlankOrEnd next || next.any afterAnchor.contains) then
    failIn (if reference then "while scanning an alias" else "while scanning an anchor") start
      "did not find expected alphabetic or numeric character"
  pure ⟨if reference then .alias_ name else .anchor name, start, ← place⟩

/-! ## Tags -/

/-- Characters of a tag's suffix besides those of names. -/
def suffixChars : List Char :=
  [';', '/', '?', ':', '@', '&', '=', '+', '$', '.', '%', '!', '~', '*', '\'', '(', ')']

/-- Further characters of a suffix in angle brackets. -/
def verbatimChars : List Char := [',', '[', ']']

/-- Number of octets that an octet opens. -/
def octetWidth? (n : Nat) : Option Nat :=
  if n < 0x80 then some 1
  else if n / 0x20 == 6 then some 2
  else if n / 0x10 == 14 then some 3
  else if n / 0x08 == 30 then some 4
  else none

/-- An octet written with a percent sign. -/
def writtenOctet (context : String) (start : Mark) : Scan Nat := do
  match (← get).rest with
  | '%' :: a :: b :: _ =>
      match hexValue? a, hexValue? b with
      | some x, some y => pure (x * 16 + y)
      | _, _ => failIn context start "did not find URI escaped octet"
  | _ => failIn context start "did not find URI escaped octet"

/-- Octets that follow the first one of a character. -/
def trailingOctets (context : String) (start : Mark) : Nat → Scan (List UInt8)
  | 0 => pure []
  | n + 1 => do
      let o ← writtenOctet context start
      if o / 0x40 != 2 then failIn context start "found an incorrect trailing UTF-8 octet"
      skip 3
      let os ← trailingOctets context start n
      pure (UInt8.ofNat o :: os)

/-- A character written as octets. -/
def writtenChar (context : String) (start : Mark) : Scan Text := do
  let o ← writtenOctet context start
  match octetWidth? o with
  | none => failIn context start "found an incorrect leading UTF-8 octet"
  | some width => do
      skip 3
      let os ← trailingOctets context start (width - 1)
      pure (Text.decodeLossy (UInt8.ofNat o :: os))

/-- Characters of a suffix. -/
def suffixBody (context : String) (start : Mark) (verbatim : Bool) : Nat → Text → Scan Text
  | 0, acc => pure acc
  | fuel + 1, acc => do
      match ← peek 0 with
      | some c =>
          if isNameChar c || suffixChars.contains c || (verbatim && verbatimChars.contains c) then
            if c == '%' then
              let t ← writtenChar context start
              suffixBody context start verbatim fuel (acc ++ t)
            else do
              skip 1
              suffixBody context start verbatim fuel (acc ++ [c])
          else pure acc
      | none => pure acc

/-- A suffix that goes on after `head`; without one it may not be empty. -/
def suffix (directive verbatim : Bool) (head : Option Text) (start : Mark) : Scan Text := do
  let context := if directive then "while parsing a %TAG directive" else "while parsing a tag"
  let text ← suffixBody context start verbatim ((← get).rest.length + 1) ((head.getD []).drop 1)
  if head.isNone && text.isEmpty then failIn context start "did not find expected tag URI"
  pure text

/-- A handle: an exclamation mark, and a name between two of them. -/
def handle (directive : Bool) (start : Mark) : Scan Text := do
  if !(← at_ '!') then
    failIn (if directive then "while scanning a tag directive" else "while scanning a tag") start
      "did not find expected '!'"
  skip 1
  let name ← takeWhile isNameChar
  if ← at_ '!' then
    skip 1
    pure ('!' :: name ++ ['!'])
  else
    if directive && !name.isEmpty then
      failIn "while parsing a tag directive" start "did not find expected '!'"
    pure ('!' :: name)

/-- The words for faults in tags. -/
def tagContext : String := "while scanning a tag"

/-- The handle and the suffix of a tag. -/
def tagParts (start : Mark) : Scan (Text × Text) := do
  if (← peek 1) == some '<' then
    skip 2
    let s ← suffix false true none start
    if !(← at_ '>') then failIn tagContext start "did not find the expected '>'"
    skip 1
    pure ([], s)
  else
    let h ← handle false start
    if h.length > 1 && h.getLast? == some '!' then
      let s ← suffix false false none start
      pure (h, s)
    else
      let s ← suffix false false (some h) start
      pure (if s.isEmpty then ([], ['!']) else (['!'], s))

/-- A tag. -/
def tag : Scan Token := do
  let start ← place
  let (h, s) ← tagParts start
  let inFlow := !(← inBlock)
  let next ← peek 0
  if !(isBlankOrEnd next || (inFlow && next == some ',')) then
    failIn tagContext start "did not find expected whitespace or line break"
  pure ⟨.tag h s, start, ← place⟩

/-! ## Directives -/

/-- The words for faults in directives. -/
def directiveContext : String := "while scanning a directive"

/-- The words for faults in version directives. -/
def versionContext : String := "while scanning a %YAML directive"

/-- The words for faults in tag directives. -/
def tagDirectiveContext : String := "while scanning a %TAG directive"

/-- One number of a version: one to nine digits. -/
def versionNumber (start : Mark) : Scan Nat := do
  let digits := (← get).rest.takeWhile Char.isDigit
  if digits.length > 9 then
    skip 9
    failIn versionContext start "found extremely long version number"
  skip digits.length
  if digits.isEmpty then failIn versionContext start "did not find expected version number"
  pure (digits.foldl (fun n c => n * 10 + (c.toNat - '0'.toNat)) 0)

/-- The numbers of a version directive. -/
def versionValue (start : Mark) : Scan TokenKind := do
  let _ ← takeWhile isBlankChar
  let major ← versionNumber start
  if !(← at_ '.') then
    failIn versionContext start "did not find expected digit or '.' character"
  skip 1
  let minor ← versionNumber start
  pure (.version major minor)

/-- The handle of a tag directive and what it stands for. -/
def tagDirectiveValue (start : Mark) : Scan TokenKind := do
  let _ ← takeWhile isBlankChar
  let h ← handle true start
  if !(← peek 0).any isBlankChar then
    failIn tagDirectiveContext start "did not find expected whitespace"
  let _ ← takeWhile isBlankChar
  let s ← suffix true true none start
  if !isBlankOrEnd (← peek 0) then
    failIn tagDirectiveContext start "did not find expected whitespace or line break"
  pure (.tagDirective h s)

/-- A directive, with the rest of its line. -/
def directive : Scan Token := do
  let start ← place
  skip 1
  let name ← takeWhile isNameChar
  if name.isEmpty then failIn directiveContext start "could not find expected directive name"
  if !isBlankOrEnd (← peek 0) then
    failIn directiveContext start "found unexpected non-alphabetical character"
  let kind ←
    if name == "YAML".toList then versionValue start
    else if name == "TAG".toList then tagDirectiveValue start
    else failIn directiveContext start "found unknown directive name"
  let stop ← place
  let _ ← takeWhile isBlankChar
  if ← at_ '#' then
    let _ ← takeWhile (fun c => !isBreak c)
  if !isBreakOrEnd (← peek 0) then
    failIn directiveContext start "did not find expected comment or line break"
  let _ ← lineEnd
  pure ⟨kind, start, stop⟩

end UnitReview.Yaml.Scan
