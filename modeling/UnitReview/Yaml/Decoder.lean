import UnitReview.Yaml.Meaning

/-!
# Reading values from a document

Values are read from positions in a document. A reader gets the path of keys that leads to its
value and gives back the position after it. A fault that has no place yet gets the place and the
path of the value it arose in.
-/

set_option autoImplicit false

namespace UnitReview.Yaml

/-- A reader of a value: from the path of keys and a position to the value and the position
after it. -/
abbrev Decoder (α : Type) := Document → String → Nat → Except Fault (α × Nat)

namespace Decoder

/-! ## Paths -/

/-- The path of an entry of a mapping. -/
def keyPath (path key : String) : String :=
  if path == Fault.rootPath then key else path ++ "." ++ key

/-- The path of an entry of a sequence. -/
def indexPath (path : String) (i : Nat) : String := path ++ "[" ++ toString i ++ "]"

/-! ## Positions -/

/-- What is at a position. Past the last item the fault that stopped the reader shows. -/
def itemAt (d : Document) (p : Nat) : Except Fault (Item × Mark) :=
  match d.items[p]? with
  | some i => .ok i
  | none => .error (d.fault.getD .endOfStream)

/-- The position that a reference leads to. -/
def targetOf (d : Document) (number : Nat) : Nat :=
  ((d.targets.find? (·.1 == number)).map (·.2)).getD d.items.size

/-- Reads a value at a position. A reference is followed, and what comes next is what comes after
the reference. -/
def value {α : Type} (read : Item → Mark → Decoder α) : Decoder α := fun d path p => do
  let located {β : Type} (m : Mark) (r : Except Fault β) : Except Fault β :=
    r.mapError (Fault.located m path)
  match ← itemAt d p with
  | (.reference n, _) => do
      let q := targetOf d n
      let (item, m) ← itemAt d q
      let (a, _) ← located m (read item m d path q)
      pure (a, p + 1)
  | (item, m) => located m (read item m d path p)

/-- The fault for an item that stands where it may not. -/
def wrongItem (item : Item) (expected : String) : Fault :=
  match item with
  | .scalar tag t style => wrongScalar tag t style expected
  | .sequenceStart | .sequenceEnd => invalidType "sequence" expected
  | .mappingStart | .mappingEnd => invalidType "map" expected
  | .void | .reference _ => .endOfStream

/-- Whether an item stands for an empty collection. -/
def isMissing : Item → Bool
  | .void => true
  | .scalar _ t style => t.isEmpty && style == .plain
  | _ => false

/-! ## Readers -/

/-- Passes over a value. `depth` collections are open. -/
def skipFrom (d : Document) : Nat → Nat → Nat → Except Fault Nat
  | 0, _, p => .ok p
  | fuel + 1, depth, p => do
      let depth := match (← itemAt d p).1 with
        | .sequenceStart | .mappingStart => depth + 1
        | .sequenceEnd | .mappingEnd => depth - 1
        | _ => depth
      if depth = 0 then pure (p + 1) else skipFrom d fuel depth (p + 1)

/-- Passes over a value; references in it are not followed. -/
def ignored : Decoder Unit := fun d _ p => do
  pure ((), ← skipFrom d (d.items.size + 1) 0 p)

/-- A scalar as its text, whatever it means. -/
def text (expected : String) : Decoder String :=
  value fun item _ _ _ p =>
    match item with
    | .scalar _ t _ => .ok (String.ofList t, p + 1)
    | _ => .error (wrongItem item expected)

/-- A value that may be missing. A tag other than that of nothing makes a plain scalar a value. -/
def optional {α : Type} (read : Decoder α) : Decoder (Option α) := fun d path p => do
  let (item, q, next) ← match ← itemAt d p with
    | (.reference n, _) => do
        let q := targetOf d n
        pure ((← itemAt d q).1, q, some (p + 1))
    | (item, _) => pure (item, p, none)
  let present : Bool ← match item with
    | .void => pure false
    | .scalar tag t .plain =>
        match tag with
        | none => pure !(t.isEmpty || Meaning.isNull t)
        | some g =>
            if g != standardTag "null" then pure true
            else if Meaning.isNull t then pure false
            else throw (invalidValue t "null")
    | _ => pure true
  if present then
    let (a, r) ← read d path q
    pure (some a, next.getD r)
  else pure (none, next.getD (q + 1))

/-- The entries of a sequence from a position on. -/
def elements {α : Type} (read : Decoder α) (d : Document) (path : String) :
    Nat → Nat → Nat → Except Fault (List α × Nat)
  | 0, _, p => .ok ([], p)
  | fuel + 1, i, p => do
      match (← itemAt d p).1 with
      | .sequenceEnd => pure ([], p + 1)
      | _ => do
          let (a, p) ← read d (indexPath path i) p
          let (as, p) ← elements read d path fuel (i + 1) p
          pure (a :: as, p)

/-- A sequence; a missing value is an empty one. -/
def sequence {α : Type} (read : Decoder α) : Decoder (List α) :=
  value fun item _ d path p =>
    match item with
    | .sequenceStart => elements read d path (d.items.size + 1) 0 (p + 1)
    | _ => if isMissing item then .ok ([], p + 1) else .error (wrongItem item "a sequence")

/-- The entries of a mapping from a position on. -/
def entries {σ : Type} (field : σ → String → Decoder σ) (d : Document) (path : String) :
    Nat → σ → Nat → Except Fault (σ × Nat)
  | 0, s, p => .ok (s, p)
  | fuel + 1, s, p => do
      let item := (← itemAt d p).1
      match item with
      | .mappingEnd | .void => pure (s, p + 1)
      | _ => do
          let (key, p) ← text "field identifier" d path p
          let shown := match item with
            | .scalar _ t _ => String.ofList t
            | _ => "?"
          let (s, p) ← field s key d (keyPath path shown) p
          entries field d path fuel s p

/-- A record: the fields of a mapping are read one after the other into a state, from which the
record is built at the end. A missing value is an empty mapping. -/
def record {σ α : Type} (expected : String) (empty : σ) (field : σ → String → Decoder σ)
    (build : σ → Except Fault α) : Decoder α :=
  value fun item _ d path p =>
    match item with
    | .mappingStart => do
        let (s, p) ← entries field d path (d.items.size + 1) empty (p + 1)
        pure (← build s, p)
    | _ =>
        if isMissing item then do pure (← build empty, p + 1)
        else .error (wrongItem item expected)

/-- Reads a field of a record that may be given only once. -/
def once {α : Type} (known : Option α) (name : String) (read : Decoder α) : Decoder (Option α) :=
  fun d path p => do
    if known.isSome then throw (.mismatch ("duplicate field `" ++ name ++ "`") none)
    let (a, p) ← read d path p
    pure (some a, p)

/-- A field that a record needs. -/
def required {α : Type} (name : String) : Option α → Except Fault α
  | some a => .ok a
  | none => .error (.mismatch ("missing field `" ++ name ++ "`") none)

/-- Reads the only document of a stream. A fault in the document counts when its value has been
read, and what follows the document after that. -/
def run {α : Type} (read : Decoder α) (cs : Text) : Except Fault α := do
  let d := Document.ofText cs
  let (a, _) ← read d Fault.rootPath 0
  match d.fault with
  | some f => throw f
  | none => if d.continued then throw .secondDocument else pure a

end Decoder

end UnitReview.Yaml
