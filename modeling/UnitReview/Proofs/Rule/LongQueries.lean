import UnitReview.Rule.Query

/-!
# What makes a query long

The rule on long query expressions names the first variable that is given a query of more than a
hundred units. The unit is the byte. No text has more characters than bytes, so that every query of
more than a hundred characters is reported, and no character takes more than four bytes, so that a
query of at most 25 characters never is. In between, letters outside ASCII can make a short query a
long one.
-/

set_option autoImplicit false

namespace UnitReview

namespace Text

/-! ## Characters and bytes -/

theorem length_le_byteLength (t : Text) : t.length ≤ byteLength t := by
  induction t with
  | nil => exact Nat.le_refl _
  | cons c t ih =>
      have hpos := c.utf8Size_pos
      rw [List.length_cons, byteLength]
      omega

theorem byteLength_le_mul_length (t : Text) : byteLength t ≤ 4 * t.length := by
  induction t with
  | nil => exact Nat.le_refl _
  | cons c t ih =>
      have hsize := c.utf8Size_le_four
      rw [List.length_cons, byteLength]
      omega

/-- A text of ASCII characters only has as many bytes as characters. -/
theorem byteLength_eq_length {t : Text} (h : ∀ c ∈ t, c.toNat < 128) : byteLength t = t.length := by
  induction t with
  | nil => rfl
  | cons c t ih =>
      obtain ⟨hc, ht⟩ := List.forall_mem_cons.1 h
      have hsize : c.utf8Size = 1 :=
        Char.utf8Size_eq_one_iff.2 (UInt32.le_iff_toNat_le.2 (Nat.le_of_lt_succ hc))
      rw [List.length_cons, byteLength, ih ht, hsize, Nat.add_comm]

end Text

namespace Query

variable {ctx : RuleContext}

/-- A declarator that is given a query which is longer than a limit, in some measure of texts. -/
def HoldsQuery (ctx : RuleContext) (measure : Text → Nat) (limit : Nat) (d : Node) : Prop :=
  ∃ init, d.initializer? = some init ∧ init.kind = .queryExpression ∧
    limit < measure (ctx.text init)

theorem holdsLongQuery_iff {d : Node} :
    holdsLongQuery ctx d = true ↔ HoldsQuery ctx Text.byteLength 100 d := by
  simp only [holdsLongQuery, Option.any_eq_true, Bool.and_eq_true, beq_iff_eq,
    decide_eq_true_eq]
  rfl

theorem HoldsQuery.of_lt {measure measure' : Text → Nat} {limit limit' : Nat} {d : Node}
    (hlt : ∀ t, limit < measure t → limit' < measure' t) (h : HoldsQuery ctx measure limit d) :
    HoldsQuery ctx measure' limit' d := by
  obtain ⟨init, hinit, hkind, hlong⟩ := h
  exact ⟨init, hinit, hkind, hlt _ hlong⟩

/-- The rule speaks exactly if some declarator has a property, and names the first one that has. -/
def NamesFirst (ctx : RuleContext) (p : Node → Prop) : Prop :=
  (longQueryExpression ctx ≠ [] ↔ ∃ d ∈ ctx.nodesOfKind .variableDeclarator, p d) ∧
  ∀ before d after, ctx.nodesOfKind .variableDeclarator = before ++ d :: after →
    (∀ b ∈ before, ¬ p b) → p d →
    longQueryExpression ctx = ["LINQ: Long query expression assigned to '" ++
      Style.declaredName ctx d ++
      "' may be enumerated multiple times. Consider materializing it once."]

theorem namesFirst_of_iff {p : Node → Prop}
    (hp : ∀ d ∈ ctx.nodesOfKind .variableDeclarator, holdsLongQuery ctx d = true ↔ p d) :
    NamesFirst ctx p := by
  constructor
  · constructor
    · intro hspoken
      cases hfound : (ctx.nodesOfKind .variableDeclarator).find? (holdsLongQuery ctx) with
      | none =>
          rw [longQueryExpression, hfound] at hspoken
          exact absurd rfl hspoken
      | some d =>
          have hd := List.mem_of_find?_eq_some hfound
          exact ⟨d, hd, (hp d hd).1 (List.find?_some hfound)⟩
    · rintro ⟨d, hd, hpd⟩
      have hsome : ((ctx.nodesOfKind .variableDeclarator).find? (holdsLongQuery ctx)).isSome :=
        List.find?_isSome.2 ⟨d, hd, (hp d hd).2 hpd⟩
      obtain ⟨first, hfirst⟩ := Option.isSome_iff_exists.1 hsome
      rw [longQueryExpression, hfirst]
      exact List.cons_ne_nil _ _
  · -- the search stops at the first declarator with the property
    intro before d after hsplit hbefore hd
    rw [hsplit] at hp
    have hfirst : (ctx.nodesOfKind .variableDeclarator).find? (holdsLongQuery ctx) = some d := by
      rw [List.find?_eq_some_iff_append]
      refine ⟨(hp d (List.mem_append_right _ List.mem_cons_self)).2 hd, before, after, hsplit, ?_⟩
      intro b hb
      have hshort : ¬ holdsLongQuery ctx b = true := fun hlong =>
        hbefore b hb ((hp b (List.mem_append_left _ hb)).1 hlong)
      rw [Bool.not_eq_true] at hshort
      rw [hshort]
      rfl
    rw [longQueryExpression, hfirst]
    rfl

/-- **A long query has more than a hundred bytes.** The rule names the first variable that is given
such a query, and speaks of nothing else. It speaks whenever some query has more than a hundred
characters, and only if some query has more than 25. Where all queries are in ASCII, their length
may be read as the number of their characters. -/
theorem longQueryExpression_in_bytes (ctx : RuleContext) :
    NamesFirst ctx (HoldsQuery ctx Text.byteLength 100) ∧
    ((∃ d ∈ ctx.nodesOfKind .variableDeclarator, HoldsQuery ctx List.length 100 d) →
      longQueryExpression ctx ≠ []) ∧
    (longQueryExpression ctx ≠ [] →
      ∃ d ∈ ctx.nodesOfKind .variableDeclarator, HoldsQuery ctx List.length 25 d) ∧
    ((∀ d ∈ ctx.nodesOfKind .variableDeclarator, ∀ init, d.initializer? = some init →
        init.kind = .queryExpression → ∀ c ∈ ctx.text init, c.toNat < 128) →
      NamesFirst ctx (HoldsQuery ctx List.length 100)) := by
  have hbytes : NamesFirst ctx (HoldsQuery ctx Text.byteLength 100) :=
    namesFirst_of_iff fun _ _ => holdsLongQuery_iff
  refine ⟨hbytes, ?_, ?_, ?_⟩
  · rintro ⟨d, hd, hlong⟩
    exact hbytes.1.2 ⟨d, hd, hlong.of_lt fun t ht => Nat.lt_of_lt_of_le ht t.length_le_byteLength⟩
  · intro hspoken
    obtain ⟨d, hd, hlong⟩ := hbytes.1.1 hspoken
    refine ⟨d, hd, hlong.of_lt fun t ht => ?_⟩
    -- 25 characters have at most a hundred bytes
    have hbound := t.byteLength_le_mul_length
    omega
  · intro hascii
    refine namesFirst_of_iff fun d hd => holdsLongQuery_iff.trans ?_
    constructor
    · rintro ⟨init, hinit, hkind, hlong⟩
      rw [Text.byteLength_eq_length (hascii d hd init hinit hkind)] at hlong
      exact ⟨init, hinit, hkind, hlong⟩
    · exact HoldsQuery.of_lt fun t ht => Nat.lt_of_lt_of_le ht t.length_le_byteLength

/-- A variable that is given a query of 65 characters, 46 of them of two bytes. -/
def accentedQuery : RuleContext where
  unit :=
    let name : Node := ⟨.identifier, "identifier", some "name", ⟨0, 1, 1, 1, 1, 2⟩, [], []⟩
    let query : Node :=
      ⟨.queryExpression, "query_expression", none, ⟨4, 115, 1, 5, 1, 70⟩, [], []⟩
    { root := ⟨.variableDeclarator, "variable_declarator", none, ⟨0, 115, 1, 1, 1, 70⟩,
        [name, query], []⟩
      source := "q = from o in ".toList ++ List.replicate 46 'é' ++ " select o".toList
      displayName := "Query.cs" }
  diagnostics := []

/-- No query of the unit has more than a hundred characters, and one is reported. -/
theorem longQueryExpression_in_bytes_accented :
    (∀ d ∈ accentedQuery.nodesOfKind .variableDeclarator,
      ¬ HoldsQuery accentedQuery List.length 100 d) ∧
    longQueryExpression accentedQuery =
      ["LINQ: Long query expression assigned to 'q' may be enumerated multiple times. Consider materializing it once."] := by
  have hsplit : accentedQuery.nodesOfKind .variableDeclarator =
      [] ++ accentedQuery.unit.root :: [] := rfl
  have hname : Style.declaredName accentedQuery accentedQuery.unit.root = "q" := by decide +kernel
  have hbytes : HoldsQuery accentedQuery Text.byteLength 100 accentedQuery.unit.root :=
    ⟨_, rfl, rfl, by decide +kernel⟩
  constructor
  · rw [hsplit]
    rintro d hd ⟨init, hinit, -, hlong⟩
    obtain rfl := List.mem_singleton.1 hd
    obtain rfl := Option.some.inj hinit
    exact absurd hlong (by decide +kernel)
  · have hsaid := (longQueryExpression_in_bytes accentedQuery).1.2 [] _ [] hsplit
      (List.forall_mem_nil _) hbytes
    rw [hname] at hsaid
    rw [hsaid]
    decide

end Query

end UnitReview
