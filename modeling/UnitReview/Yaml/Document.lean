import UnitReview.Yaml.Events

/-!
# The first document of a stream

Values are taken from the first document only, and a fault in it matters only when they run out:
what comes before the fault is read first. Anchors are numbered by the names known when they are
set, and a reference leads to the value that was last given its number.
-/

set_option autoImplicit false

namespace UnitReview.Yaml

/-- A piece of a document. -/
inductive Item where
  /-- Nothing: the stream is empty. -/
  | void
  | reference (number : Nat)
  | scalar (tag : Option Text) (value : Text) (style : ScalarStyle)
  | sequenceStart
  | sequenceEnd
  | mappingStart
  | mappingEnd
  deriving Repr, DecidableEq, Inhabited

/-- A document as far as it could be read. -/
structure Document where
  items : Array (Item × Mark)
  /-- Numbers of anchors with the positions of their values, latest first. -/
  targets : List (Nat × Nat)
  /-- What stopped the reader. -/
  fault : Option Fault
  /-- Whether the stream goes on after the document. -/
  continued : Bool
  deriving Repr, Inhabited

namespace Document

/-- Names of anchors with their numbers. -/
abbrev Anchors := List (Text × Nat)

/-- Sets the number of a name. -/
def Anchors.set (as : Anchors) (name : Text) (n : Nat) : Anchors :=
  (name, n) :: as.filter (·.1 != name)

/-- Adds an item; an anchor gets a number. -/
def add (d : Document) (as : Anchors) (anchor : Option Text) (item : Item) (m : Mark) :
    Document × Anchors :=
  let items := d.items.push (item, m)
  match anchor with
  | none => ({ d with items := items }, as)
  | some name =>
      ({ d with items := items, targets := (as.length, d.items.size) :: d.targets },
        as.set name as.length)

/-- Whether more follows after a document. -/
def continues (p : Parser) : Bool :=
  match Parse.next.run p with
  | .ok ((.streamEnd, _), _) => false
  | _ => true

/-- Reads events up to the end of the first document. -/
def collect : Nat → Parser → Document → Anchors → Document
  | 0, _, d, _ => d
  | fuel + 1, p, d, as =>
      match Parse.next.run p with
      | .error f => { d with fault := some f }
      | .ok ((e, m), p) =>
          let more (anchor : Option Text) (item : Item) : Document :=
            let (d, as) := d.add as anchor item m
            collect fuel p d as
          match e with
          | .streamStart | .documentStart => collect fuel p d as
          | .streamEnd => { d with items := d.items.push (.void, m) }
          | .documentEnd => { d with continued := continues p }
          | .reference name =>
              match as.find? (·.1 == name) with
              | some (_, n) => more none (.reference n)
              | none => { d with fault := some (.unknownAnchor m) }
          | .scalar anchor tag value style => more anchor (.scalar tag value style)
          | .sequenceStart anchor => more anchor .sequenceStart
          | .sequenceEnd => more none .sequenceEnd
          | .mappingStart anchor => more anchor .mappingStart
          | .mappingEnd => more none .mappingEnd

/-- The first document of a stream. -/
def ofText (cs : Text) : Document :=
  let tokens := Tokens.ofText cs
  collect (4 * tokens.tokens.length + 16) (Parser.start tokens) ⟨#[], [], none, false⟩ []

end Document

end UnitReview.Yaml
