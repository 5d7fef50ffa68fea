import UnitReview.Host.OsText

/-!
# Paths

A path is written as names with slashes between them. Paths are joined as they are written: nothing
is normalised, so that a path is shown to the user as it was put together.
-/

set_option autoImplicit false

namespace UnitReview.Host

namespace Path

/-- The byte between names. -/
def slash : UInt8 := 0x2F

/-- Whether a path starts at the root. -/
def isAbsolute (p : OsText) : Bool := p.bytes.head? == some slash

/-- Puts a path after another one. A path that starts at the root stands for itself; otherwise a
slash goes between the two unless the first one is empty or ends with one. -/
def join (a b : OsText) : OsText :=
  if isAbsolute b then b
  else if a.isEmpty || a.bytes.getLast? == some slash then a ++ b
  else a ++ ⟨[slash]⟩ ++ b

/-- Splits bytes at slashes; the parts may be empty. -/
def splitAtSlashes : Text.Bytes → List Text.Bytes
  | [] => [[]]
  | b :: bs =>
      match b == slash, splitAtSlashes bs with
      | true, parts => [] :: parts
      | false, [] => [[b]]
      | false, p :: ps => (b :: p) :: ps

/-- The parts of a path between slashes; the last one is empty if the path ends with a slash. -/
def parts (p : OsText) : List OsText := (splitAtSlashes p.bytes).map OsText.mk

/-- The part of a path after its last slash; slashes at the end are ignored. -/
def fileName (p : OsText) : OsText :=
  ((parts p).filter (fun n => !n.isEmpty)).getLast?.getD ""

end Path

end UnitReview.Host
