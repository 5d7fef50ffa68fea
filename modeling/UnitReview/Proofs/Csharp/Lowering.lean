import Mathlib.Data.List.DropRight
import UnitReview.Csharp.Reader
import UnitReview.Proofs.Rule.Comments
import UnitReview.Proofs.Syntax.Branching

/-!
# What lowering keeps

The generic tree is described by its outline: its nodes in pre-order, each with its depth. The outline
of a lowered tree is read off the occurrences of the concrete tree (`Tree.outline_lower`): the nodes
kept are the proper ones, named and no comments, and the `case` keywords right under switch sections.
Each keeps its depth, for whatever stands above a kept node is kept too. The comments of the lowered
tree are those with a proper sibling after them, in source order (`Tree.leadingComments_lower`).

Only a proper node is looked into, so a node below a comment or a keyword is not reached. The grammar
puts nothing there.
-/

set_option autoImplicit false

namespace UnitReview

/-! ## Outlines -/

/-- What a node of the generic tree holds besides its children, and its depth in the tree. -/
structure Node.Entry where
  depth : Nat
  kind : Kind
  grammarKind : String
  field : Option String
  span : Span
  comments : List String
  deriving Repr, DecidableEq

mutual

/-- The nodes of a tree in pre-order, the root being at the given depth. -/
def Node.outline (depth : Nat) : Node → List Node.Entry
  | ⟨k, g, f, s, cs, l⟩ => ⟨depth, k, g, f, s, l⟩ :: Node.outlineAll (depth + 1) cs

/-- The outlines of several trees, one after the other. -/
def Node.outlineAll (depth : Nat) : List Node → List Node.Entry
  | [] => []
  | n :: ns => n.outline depth ++ Node.outlineAll depth ns

end

/-! ## What becomes of an occurrence -/

namespace Csharp.Tree

/-- A proper node is named and no comment. -/
def isProper (t : Tree) : Bool := t.named && !t.isComment

/-- The text of a comment. -/
def comment (src : Text) (t : Tree) : String := String.ofList (t.text src)

/-- The comments after the last proper node. -/
def lastComments (ts : List Tree) : List Tree :=
  (ts.rtakeWhile (fun t => !t.isProper)).filter isComment

theorem lastComments_concat (ts : List Tree) (t : Tree) : lastComments (ts ++ [t]) =
    if t.isProper then [] else lastComments ts ++ [t].filter isComment := by
  rw [lastComments, List.rtakeWhile_concat]
  by_cases h : t.isProper <;> simp [h, lastComments]

end Csharp.Tree

namespace Occurrence

open Csharp

/-- The siblings after it. -/
def after (o : Occurrence Tree) : List Tree :=
  match o.above with
  | [] => []
  | parent :: _ => parent.children.drop (o.before.length + 1)

/-- Whether every node above it but the root is proper. -/
def isReached (o : Occurrence Tree) : Bool := o.above.dropLast.all Tree.isProper

/-- An anonymous `case` keyword right under a switch section. -/
def isCaseToken (o : Occurrence Tree) : Bool :=
  !o.node.named && o.node.kind == "case" &&
    o.above.head?.any (fun parent => parent.kind == "switch_section")

/-- The nodes kept: the root, proper nodes and the keywords that stand for switch labels. -/
def isKept (o : Occurrence Tree) : Bool :=
  o.isReached && (o.above.isEmpty || o.node.isProper || o.isCaseToken)

/-- A comment with a proper sibling after it. -/
def isAttached (o : Occurrence Tree) : Bool :=
  o.isReached && (o.node.isComment && o.after.any Tree.isProper)

/-- What the generic tree says of an occurrence. A proper node has the comments between the proper
sibling before it and itself. -/
def entry (src : Text) (o : Occurrence Tree) : Node.Entry :=
  { depth := o.above.length
    kind := if o.isCaseToken then .caseSwitchLabel else kindOfGrammar o.node
    grammarKind := o.node.kind
    field := o.node.field
    span := o.node.extent.span
    comments := if o.node.isProper then (Tree.lastComments o.before).map (Tree.comment src) else [] }

end Occurrence

namespace Csharp

namespace Tree

open Branching (above_suffix mem_above_of_mem_occurrences occurrencesAll occurrencesAll_cons
  occurrencesAll_nil occurrencesFrom)

/-! ## Sorts of children -/

theorem lower_eq (src : Text) (t : Tree) : t.lower src =
    ⟨kindOfGrammar t, t.kind, t.field, t.extent.span, lowerAll src t.kind [] t.children, []⟩ := by
  cases t; rw [lower]

section Children

variable (src : Text) (parent : String) (pending : List String) {t : Tree} (ts : List Tree)

@[simp] theorem lowerAll_nil : lowerAll src parent pending [] = [] := by rw [lowerAll]

theorem lowerAll_comment (h : t.isComment) : lowerAll src parent pending (t :: ts) =
    lowerAll src parent (pending ++ [t.comment src]) ts := by
  rw [lowerAll, if_pos h, comment]

theorem lowerAll_proper (h : t.isProper) : lowerAll src parent pending (t :: ts) =
    { t.lower src with leadingComments := pending } :: lowerAll src parent [] ts := by
  obtain ⟨hnamed, hcomment⟩ : t.named = true ∧ ¬ t.isComment = true := by simpa [isProper] using h
  rw [lowerAll, if_neg hcomment, if_pos hnamed]

theorem lowerAll_token (hnamed : t.named = false) (hcomment : t.isComment = false) :
    lowerAll src parent pending (t :: ts) =
      (if t.isCaseKeyword parent then [t.caseLabel] else []) ++ lowerAll src parent pending ts := by
  rw [lowerAll, if_neg (by simp [hcomment]), if_neg (by simp [hnamed])]
  split <;> rfl

end Children

/-- A tree is proper, a comment or an anonymous token. -/
theorem sort_cases (t : Tree) : t.isProper = true ∨ (t.isProper = false ∧ t.isComment = true) ∨
    (t.isProper = false ∧ t.named = false ∧ t.isComment = false) := by
  unfold isProper
  cases t.named <;> cases t.isComment <;> simp

theorem isComment_eq_false_of_isProper {t : Tree} (h : t.isProper = true) :
    t.isComment = false := by
  simp only [isProper, Bool.and_eq_true, Bool.not_eq_true'] at h
  exact h.2

theorem named_of_isProper {t : Tree} (h : t.isProper = true) : t.named = true := by
  simp only [isProper, Bool.and_eq_true] at h
  exact h.1

/-! ## Nodes that are not reached -/

/-- Nothing below a node that is not proper is reached. -/
theorem not_isReached_of_mem {t p : Tree} {rest : List Tree} {o : Occurrence Tree}
    (ht : t.isProper = false) (ho : o ∈ occurrencesAll (t :: p :: rest) [] t.children) :
    o.isReached = false := by
  obtain ⟨l, hl⟩ := above_suffix ho
  have hmem : t ∈ o.above.dropLast := by
    rw [← hl, List.dropLast_append_of_ne_nil (List.cons_ne_nil _ _), List.dropLast_cons_cons]
    simp
  rw [Occurrence.isReached, List.all_eq_false]
  exact ⟨t, hmem, by simp [ht]⟩

/-- Below a proper node that is reached, all nodes above are proper but the root. -/
theorem isProper_above {t p : Tree} {rest : List Tree} (ht : t.isProper = true)
    (h : ∀ a ∈ (p :: rest).dropLast, a.isProper = true) :
    ∀ a ∈ (t :: p :: rest).dropLast, a.isProper = true := by
  rw [List.dropLast_cons_cons]
  exact List.forall_mem_cons.2 ⟨ht, h⟩

/-- Of a tree whose root is not proper only the root can be selected. -/
theorem filter_occurrencesFrom {t p : Tree} {rest before : List Tree} (ht : t.isProper = false)
    {select : Occurrence Tree → Bool} (hselect : ∀ o, select o = true → o.isReached = true) :
    (occurrencesFrom (p :: rest) before t).filter select =
      [⟨p :: rest, before, t⟩].filter select := by
  rw [occurrencesFrom_eq, List.filter_cons, List.filter_cons]
  have hbelow : (occurrencesAll (t :: p :: rest) [] t.children).filter select = [] := by
    rw [List.filter_eq_nil_iff]
    intro o ho hsel
    have hreached := hselect o hsel
    rw [not_isReached_of_mem ht ho] at hreached
    cases hreached
  rw [hbelow, List.filter_nil]

theorem isReached_of_isKept {o : Occurrence Tree} (h : o.isKept = true) : o.isReached = true := by
  simp only [Occurrence.isKept, Bool.and_eq_true] at h
  exact h.1

theorem isReached_of_isAttached {o : Occurrence Tree} (h : o.isAttached = true) :
    o.isReached = true := by
  simp only [Occurrence.isAttached, Bool.and_eq_true] at h
  exact h.1

/-! ## The outline of a lowered tree -/

section Child

variable {p t : Tree} {rest before : List Tree}

theorem isCaseToken_of_isProper (h : t.isProper = true) :
    (⟨p :: rest, before, t⟩ : Occurrence Tree).isCaseToken = false := by
  simp [Occurrence.isCaseToken, named_of_isProper h]

theorem isKept_of_isProper (hreached : (⟨p :: rest, before, t⟩ : Occurrence Tree).isReached = true)
    (h : t.isProper = true) : (⟨p :: rest, before, t⟩ : Occurrence Tree).isKept = true := by
  simp [Occurrence.isKept, hreached, h]

theorem isKept_of_isComment (h : t.isProper = false) (hcomment : t.isComment = true) :
    (⟨p :: rest, before, t⟩ : Occurrence Tree).isKept = false := by
  have hkind : t.kind = commentKind := by simpa [isComment] using hcomment
  simp [Occurrence.isKept, Occurrence.isCaseToken, h, hkind, commentKind]

theorem isKept_token (hreached : (⟨p :: rest, before, t⟩ : Occurrence Tree).isReached = true)
    (h : t.isProper = false) (hnamed : t.named = false) :
    (⟨p :: rest, before, t⟩ : Occurrence Tree).isKept = t.isCaseKeyword p.kind := by
  simp [Occurrence.isKept, Occurrence.isCaseToken, isCaseKeyword, hreached, h, hnamed]

/-- The label made for a `case` keyword is the keyword's entry. -/
theorem outline_caseLabel (src : Text) (h : t.isProper = false) (hnamed : t.named = false)
    (hcase : t.isCaseKeyword p.kind = true) :
    t.caseLabel.outline (p :: rest).length =
      [(⟨p :: rest, before, t⟩ : Occurrence Tree).entry src] := by
  obtain ⟨hkind, hparent⟩ : t.kind = "case" ∧ p.kind = "switch_section" := by
    simpa [isCaseKeyword] using hcase
  have htoken : (⟨p :: rest, before, t⟩ : Occurrence Tree).isCaseToken = true := by
    simp [Occurrence.isCaseToken, hnamed, hkind, hparent]
  rw [caseLabel, Node.outline, Node.outlineAll]
  simp [Occurrence.entry, htoken, h, hkind]

end Child

mutual

theorem outline_lower_below (src : Text) : ∀ (t : Tree) (above : List Tree) (l : List String),
    (∀ a ∈ (t :: above).dropLast, a.isProper = true) →
    Node.outline above.length { t.lower src with leadingComments := l } =
      ⟨above.length, kindOfGrammar t, t.kind, t.field, t.extent.span, l⟩ ::
        ((occurrencesAll (t :: above) [] t.children).filter Occurrence.isKept).map
          (Occurrence.entry src)
  | ⟨k, n, m, f, e, cs⟩, above, l, h => by
      rw [lower_eq, Node.outline]
      congr 1
      exact outlineAll_lowerAll src cs _ above [] h

/-- The comments that wait are those after the last proper node so far. -/
theorem outlineAll_lowerAll (src : Text) : ∀ (ts : List Tree) (p : Tree) (rest before : List Tree),
    (∀ a ∈ (p :: rest).dropLast, a.isProper = true) →
    Node.outlineAll (rest.length + 1)
        (lowerAll src p.kind ((lastComments before).map (comment src)) ts) =
      ((occurrencesAll (p :: rest) before ts).filter Occurrence.isKept).map (Occurrence.entry src)
  | [], p, rest, before, h => by
      rw [lowerAll_nil, Node.outlineAll, occurrencesAll_nil]
      rfl
  | t :: ts, p, rest, before, h => by
      have hreached : (⟨p :: rest, before, t⟩ : Occurrence Tree).isReached = true :=
        List.all_eq_true.2 h
      have hrest := outlineAll_lowerAll src ts p rest (before ++ [t]) h
      rw [lastComments_concat] at hrest
      rw [occurrencesAll_cons, List.filter_append, List.map_append, ← hrest]
      rcases t.sort_cases with ht | ⟨ht, hcomment⟩ | ⟨ht, hnamed, hcomment⟩
      · -- a proper node takes the comments that wait
        have hbelow := outline_lower_below src t (p :: rest)
          ((lastComments before).map (comment src)) (isProper_above ht h)
        rw [List.length_cons] at hbelow
        rw [lowerAll_proper src _ _ ts ht, Node.outlineAll, hbelow, if_pos ht, occurrencesFrom_eq,
          List.filter_cons, if_pos (isKept_of_isProper hreached ht), List.map_cons]
        simp [Occurrence.entry, isCaseToken_of_isProper ht, ht]
      · -- a comment joins those that wait
        rw [lowerAll_comment src _ _ ts hcomment, filter_occurrencesFrom ht @isReached_of_isKept]
        simp [isKept_of_isComment ht hcomment, ht, hcomment]
      · -- a token leaves them waiting, also where it becomes a label
        rw [lowerAll_token src _ _ ts hnamed hcomment,
          filter_occurrencesFrom ht @isReached_of_isKept, List.filter_cons,
          isKept_token hreached ht hnamed]
        by_cases hcase : t.isCaseKeyword p.kind = true
        · simp [hcase, ht, hcomment, Node.outlineAll, ← outline_caseLabel src ht hnamed hcase]
        · simp [hcase, ht, hcomment]

end

/-- **Lowering loses no structure.** The nodes of the lowered tree are the kept nodes of the concrete
one, in the same order and at the same depths. -/
theorem outline_lower (src : Text) (t : Tree) : (t.lower src).outline 0 =
    (t.occurrences.filter Occurrence.isKept).map (Occurrence.entry src) := by
  have hroot : (⟨[], [], t⟩ : Occurrence Tree).isKept = true := rfl
  have hbelow := outline_lower_below src t [] [] (by simp)
  rw [List.length_nil] at hbelow
  rw [occurrences, Branching.occurrences_eq, occurrencesFrom_eq, List.filter_cons, if_pos hroot,
    List.map_cons]
  simpa [lower_eq, Occurrence.entry, Occurrence.isCaseToken, lastComments] using hbelow

/-- Where anonymous nodes and comments are leaves, every node is reached. -/
theorem isReached_of_leaves {t : Tree}
    (hleaves : ∀ s ∈ t.preorder, s.isProper = false → s.children = [])
    {o : Occurrence Tree} (ho : o ∈ t.occurrences) : o.isReached = true := by
  rw [Occurrence.isReached, List.all_eq_true]
  intro a ha
  obtain ⟨hmem, hbelow⟩ := mem_above_of_mem_occurrences ho (List.mem_of_mem_dropLast ha)
  by_contra hproper
  have hchildren : Branching.children a = [] := hleaves a hmem (by simpa using hproper)
  rw [hchildren] at hbelow
  cases hbelow

theorem isKept_of_leaves {t : Tree} (hroot : t.isProper = true)
    (hleaves : ∀ s ∈ t.preorder, s.isProper = false → s.children = [])
    {o : Occurrence Tree} (ho : o ∈ t.occurrences) :
    o.isKept = (o.node.isProper || o.isCaseToken) := by
  rw [Occurrence.isKept, isReached_of_leaves hleaves ho, Bool.true_and]
  by_cases habove : o.above = []
  · rw [Branching.node_eq_of_above_eq_nil ho habove, hroot]
    simp
  · rw [List.isEmpty_eq_false_iff.2 habove, Bool.false_or]

theorem isAttached_of_leaves {t : Tree}
    (hleaves : ∀ s ∈ t.preorder, s.isProper = false → s.children = [])
    {o : Occurrence Tree} (ho : o ∈ t.occurrences) :
    o.isAttached = (o.node.isComment && o.after.any isProper) := by
  rw [Occurrence.isAttached, isReached_of_leaves hleaves ho, Bool.true_and]

/-! ## Comments of a lowered tree -/

mutual

theorem leadingComments_lower_below (src : Text) : ∀ (t : Tree) (above : List Tree),
    (∀ a ∈ (t :: above).dropLast, a.isProper = true) →
    (Node.preorderAll (t.lower src).children).flatMap Node.leadingComments =
      ((occurrencesAll (t :: above) [] t.children).filter Occurrence.isAttached).map
        (fun o => o.node.comment src)
  | ⟨k, n, m, f, e, cs⟩, above, h => by
      have hall := leadingComments_lowerAll src cs ⟨k, n, m, f, e, cs⟩ above [] [] rfl h
      rw [ite_self, List.nil_append] at hall
      rw [lower_eq]
      exact hall

/-- The comments that wait are given out if a proper node is left. -/
theorem leadingComments_lowerAll (src : Text) : ∀ (ts : List Tree) (p : Tree)
    (rest before : List Tree) (pending : List String), p.children = before ++ ts →
    (∀ a ∈ (p :: rest).dropLast, a.isProper = true) →
    (Node.preorderAll (lowerAll src p.kind pending ts)).flatMap Node.leadingComments =
      (if ts.any isProper then pending else []) ++
        ((occurrencesAll (p :: rest) before ts).filter Occurrence.isAttached).map
          (fun o => o.node.comment src)
  | [], p, rest, before, pending, hp, h => by
      rw [lowerAll_nil, occurrencesAll_nil]
      rfl
  | t :: ts, p, rest, before, pending, hp, h => by
      have hreached : (⟨p :: rest, before, t⟩ : Occurrence Tree).isReached = true :=
        List.all_eq_true.2 h
      have hafter : (⟨p :: rest, before, t⟩ : Occurrence Tree).after = ts := by
        simp [Occurrence.after, hp]
      have hrest := fun pending => leadingComments_lowerAll src ts p rest (before ++ [t]) pending
        (by rw [hp, List.append_assoc]; rfl) h
      rw [occurrencesAll_cons, List.filter_append, List.map_append, List.any_cons]
      rcases t.sort_cases with ht | ⟨ht, hcomment⟩ | ⟨ht, hnamed, hcomment⟩
      · have hbelow := leadingComments_lower_below src t (p :: rest) (isProper_above ht h)
        have hself : (⟨p :: rest, before, t⟩ : Occurrence Tree).isAttached = false := by
          simp [Occurrence.isAttached, isComment_eq_false_of_isProper ht]
        rw [lowerAll_proper src _ _ ts ht, Node.preorderAll_cons, List.flatMap_append, hrest [],
          Node.preorder_eq, List.flatMap_cons, hbelow, occurrencesFrom_eq]
        simp [hself, ht]
      · -- what is attached and what waits longer are decided by the same condition
        rw [lowerAll_comment src _ _ ts hcomment, hrest,
          filter_occurrencesFrom ht @isReached_of_isAttached, List.filter_cons]
        simp only [Occurrence.isAttached, hreached, hafter, hcomment, ht]
        by_cases hlater : ts.any isProper = true <;> simp [hlater]
      · have hself : (⟨p :: rest, before, t⟩ : Occurrence Tree).isAttached = false := by
          simp [Occurrence.isAttached, hcomment]
        have hlabel : (Node.preorderAll (if t.isCaseKeyword p.kind then [t.caseLabel] else [])).flatMap
            Node.leadingComments = [] := by
          split <;> simp [caseLabel]
        rw [lowerAll_token src _ _ ts hnamed hcomment, Node.preorderAll_append, List.flatMap_append,
          hrest, hlabel, filter_occurrencesFrom ht @isReached_of_isAttached]
        simp [hself, ht]

end

/-- **Every comment before a proper sibling is kept once**, and the comments kept are in source
order. -/
theorem leadingComments_lower (src : Text) (t : Tree) :
    (t.lower src).preorder.flatMap Node.leadingComments =
      (t.occurrences.filter Occurrence.isAttached).map (fun o => o.node.comment src) := by
  have hroot : (⟨[], [], t⟩ : Occurrence Tree).isAttached = false := by
    simp [Occurrence.isAttached, Occurrence.after]
  have hleading : (t.lower src).leadingComments = [] := by rw [lower_eq]
  rw [Node.preorder_eq, List.flatMap_cons, hleading, List.nil_append,
    leadingComments_lower_below src t [] (by simp), occurrences, Branching.occurrences_eq,
    occurrencesFrom_eq, List.filter_cons_of_neg (by simp [hroot])]

end Tree

/-! ## Trees without comments -/

mutual

/-- The tree with every comment below its root taken out. -/
def Tree.withoutComments : Tree → Tree
  | ⟨k, n, m, f, e, cs⟩ => ⟨k, n, m, f, e, Tree.withoutCommentsAll cs⟩

/-- Several trees with every comment taken out. -/
def Tree.withoutCommentsAll : List Tree → List Tree
  | [] => []
  | t :: ts =>
      if t.isComment then Tree.withoutCommentsAll ts
      else t.withoutComments :: Tree.withoutCommentsAll ts

end

namespace Tree

theorem withoutComments_eq (t : Tree) :
    t.withoutComments = { t with children := withoutCommentsAll t.children } := by
  cases t; rw [withoutComments]

theorem withoutCommentsAll_eq (ts : List Tree) :
    withoutCommentsAll ts = (ts.filter (fun t => !t.isComment)).map withoutComments := by
  induction ts with
  | nil => rw [withoutCommentsAll]; rfl
  | cons t ts ih =>
      rw [withoutCommentsAll, ih]
      by_cases h : t.isComment = true <;> simp [h]

section Parts

variable (t : Tree)

@[simp] theorem withoutComments_kind : t.withoutComments.kind = t.kind := by
  rw [withoutComments_eq]

@[simp] theorem withoutComments_named : t.withoutComments.named = t.named := by
  rw [withoutComments_eq]

@[simp] theorem withoutComments_field : t.withoutComments.field = t.field := by
  rw [withoutComments_eq]

@[simp] theorem withoutComments_isComment : t.withoutComments.isComment = t.isComment := by
  rw [isComment, isComment, withoutComments_kind]

@[simp] theorem withoutComments_isProper : t.withoutComments.isProper = t.isProper := by
  rw [isProper, isProper, withoutComments_named, withoutComments_isComment]

@[simp] theorem withoutComments_kindOfField? (name : String) :
    t.withoutComments.kindOfField? name = t.kindOfField? name := by
  rw [kindOfField?, withoutComments_eq, withoutCommentsAll_eq, List.find?_map, List.find?_filter,
    Option.map_map]
  simp only [Function.comp_def, withoutComments_kind, withoutComments_isComment,
    withoutComments_field, kindOfField?]
  simp only [← Bool.and_eq_true, Bool.decide_eq_true, ← Bool.and_assoc, Bool.and_self]

theorem kindOfGrammar_withoutComments : kindOfGrammar t.withoutComments = kindOfGrammar t := by
  rw [kindOfGrammar, kindOfGrammar, withoutComments_kind, withoutComments_kindOfField?]

end Parts

mutual

/-- **Without its comments a tree is lowered to the same tree without comments.** -/
theorem lower_withoutComments (src : Text) : ∀ t : Tree,
    t.withoutComments.lower src = (t.lower src).uncommented
  | ⟨k, n, m, f, e, cs⟩ => by
      rw [lower_eq, lower_eq, kindOfGrammar_withoutComments, withoutComments, Node.uncommented,
        Node.uncommentedAll_eq_map, ← lowerAll_withoutCommentsAll src k cs []]

theorem lowerAll_withoutCommentsAll (src : Text) (parent : String) : ∀ (ts : List Tree)
    (pending : List String), lowerAll src parent [] (withoutCommentsAll ts) =
      (lowerAll src parent pending ts).map Node.uncommented
  | [], pending => by rw [withoutCommentsAll, lowerAll_nil, lowerAll_nil]; rfl
  | t :: ts, pending => by
      rw [withoutCommentsAll]
      rcases t.sort_cases with ht | ⟨ht, hcomment⟩ | ⟨ht, hnamed, hcomment⟩
      · have hcomment := isComment_eq_false_of_isProper ht
        have hself : ({ t.lower src with leadingComments := pending } : Node).uncommented =
            { t.withoutComments.lower src with leadingComments := [] } := by
          rw [lower_withoutComments src t, lower_eq, Node.uncommented, Node.uncommented]
        rw [if_neg (by simp [hcomment]), lowerAll_proper src _ _ ts ht,
          lowerAll_proper src _ _ _ (by rw [withoutComments_isProper, ht]), List.map_cons, hself,
          lowerAll_withoutCommentsAll src parent ts []]
      · rw [if_pos hcomment, lowerAll_comment src _ _ ts hcomment]
        exact lowerAll_withoutCommentsAll src parent ts _
      · have hself : t.withoutComments.caseLabel = t.caseLabel.uncommented := by
          rw [caseLabel, caseLabel, Node.uncommented, Node.uncommentedAll, withoutComments_eq]
        rw [if_neg (by simp [hcomment]), lowerAll_token src _ _ ts hnamed hcomment,
          lowerAll_token src _ _ _ (by rw [withoutComments_named, hnamed])
            (by rw [withoutComments_isComment, hcomment]),
          lowerAll_withoutCommentsAll src parent ts pending, List.map_append]
        congr 1
        rw [isCaseKeyword, isCaseKeyword, withoutComments_kind, hself]
        split <;> rfl

end

/-! ## Lowering as a whole -/

theorem context_withoutComments (src : Text) (name : String) (diagnostics : List Diagnostic)
    (t : Tree) : t.withoutComments.context src name diagnostics =
      (t.context src name diagnostics).uncommented := by
  rw [context, context, RuleContext.uncommented, lower_withoutComments]

/-- **Lowering keeps the structure and sets comments apart.** The lowered tree has, in pre-order and at
the same depths, one node for each kept node of the concrete tree, with the same word of the grammar,
field and span. Each comment with a proper sibling after it is attached once, to the next such sibling
(`Occurrence.entry`), in source order. Where anonymous nodes and comments are leaves, this is all there
is to say: the nodes kept are the named ones other than comments and the `case` keywords right under
switch sections, and the comments attached are those with a proper sibling after them.

To take all comments out of the concrete tree is to empty the comments of the lowered one. This changes
neither the metrics nor what any built-in rule but the one on documentation says. -/
theorem lower_faithful (src : Text) (t : Tree) :
    (t.lower src).outline 0 =
        (t.occurrences.filter Occurrence.isKept).map (Occurrence.entry src) ∧
      (t.lower src).preorder.flatMap Node.leadingComments =
        (t.occurrences.filter Occurrence.isAttached).map (fun o => o.node.comment src) ∧
      (t.isProper = true → (∀ s ∈ t.preorder, s.isProper = false → s.children = []) →
        ∀ o ∈ t.occurrences, o.isKept = (o.node.isProper || o.isCaseToken) ∧
          o.isAttached = (o.node.isComment && o.after.any isProper)) ∧
      t.withoutComments.lower src = (t.lower src).uncommented ∧
      ∀ (name : String) (diagnostics : List Diagnostic),
        Metrics.compute (t.withoutComments.context src name diagnostics).unit =
            Metrics.compute (t.context src name diagnostics).unit ∧
          ∀ rule ∈ Registry.builtIn.rules, rule.id ≠ "missing-doc" →
            rule.detect (t.withoutComments.context src name diagnostics) =
              rule.detect (t.context src name diagnostics) := by
  refine ⟨outline_lower src t, leadingComments_lower src t, ?_, lower_withoutComments src t, ?_⟩
  · intro hroot hleaves o ho
    exact ⟨isKept_of_leaves hroot hleaves ho, isAttached_of_leaves hleaves ho⟩
  · intro name diagnostics
    rw [context_withoutComments]
    exact ⟨Metrics.compute_uncommented _,
      fun rule hrule hid => Registry.detect_uncommented rule hrule hid _⟩

/-- A switch section with comments before its label, after it and at its end. -/
def commentedSection : Tree :=
  let within (start stop : Nat) : Extent := ⟨⟨start, 0, start⟩, ⟨stop, 0, stop⟩⟩
  ⟨"switch_section", true, false, none, within 0 32,
    [ ⟨commentKind, true, false, none, within 0 5, []⟩
    , ⟨"case", false, false, none, within 6 10, []⟩
    , ⟨"integer_literal", true, false, none, within 11 12, []⟩
    , ⟨":", false, false, none, within 12 13, []⟩
    , ⟨commentKind, true, false, none, within 14 19, []⟩
    , ⟨"break_statement", true, false, none, within 20 26,
        [⟨"break", false, false, none, within 20 25, []⟩, ⟨";", false, false, none, within 25 26, []⟩]⟩
    , ⟨commentKind, true, false, none, within 27 32, []⟩ ]⟩

theorem lower_faithful_section :
    commentedSection.isProper = true ∧
      (∀ s ∈ commentedSection.preorder, s.isProper = false → s.children = []) ∧
      (∀ o ∈ commentedSection.occurrences, o.isKept = (o.node.isProper || o.isCaseToken) ∧
        o.isAttached = (o.node.isComment && o.after.any isProper)) ∧
      ((commentedSection.lower "/*a*/ case 1: /*b*/ break; /*c*/".toList).outline 0).map
          (fun e => (e.depth, e.grammarKind, e.comments)) =
        [(0, "switch_section", []), (1, "case", []), (1, "integer_literal", ["/*a*/"]),
          (1, "break_statement", ["/*b*/"])] := by
  have hroot : commentedSection.isProper = true := by decide
  have hleaves : ∀ s ∈ commentedSection.preorder, s.isProper = false → s.children = [] := by decide
  have h := lower_faithful "/*a*/ case 1: /*b*/ break; /*c*/".toList commentedSection
  refine ⟨hroot, hleaves, h.2.2.1 hroot hleaves, ?_⟩
  decide +kernel

end Tree

end Csharp

end UnitReview
