import Mathlib.Data.List.Forall2
import UnitReview.Proofs.Syntax.Occurrences
import UnitReview.Rule.Security

/-!
# Letter case in the source

Two sources that differ only in the case of ASCII letters have the same boundaries between
characters, so that every node covers the same stretch of both. Cutting out that stretch, trimming
it and searching it for words all commute with making letters small (`Text.lower`). The security
rules that search for words therefore find the same nodes in both sources, and what they say differs
at most in the case of letters that they quote.
-/

set_option autoImplicit false

namespace UnitReview

/-! ## Letters -/

/-- The same character, or one ASCII letter in its two cases. -/
def SameLetter (c d : Char) : Prop :=
  c = d ∨ c.isUpper = true ∧ d = c.toLower ∨ d.isUpper = true ∧ c = d.toLower

theorem toLower_of_not_isUpper {c : Char} (h : ¬ c.isUpper = true) : c.toLower = c := by
  have hrange : ¬ (c.val ≥ 'A'.val ∧ c.val ≤ 'Z'.val) := fun hc => h (decide_eq_true hc)
  exact dif_neg hrange

theorem exists_of_isUpper {c : Char} (h : c.isUpper = true) :
    ∃ n < 26, c = Char.ofNat (n + 65) := by
  have hrange : c.val ≥ 'A'.val ∧ c.val ≤ 'Z'.val := of_decide_eq_true h
  have hlow : 65 ≤ c.toNat := UInt32.le_iff_toNat_le.1 hrange.1
  have hhigh : c.toNat ≤ 90 := UInt32.le_iff_toNat_le.1 hrange.2
  refine ⟨c.toNat - 65, by omega, ?_⟩
  rw [Nat.sub_add_cancel hlow, Char.ofNat_toNat]

/-- What holds of a character and itself, and of every capital and its small letter, holds of every
character and what it is made to. -/
theorem toLower_induction {motive : Char → Char → Prop} (same : ∀ c, motive c c)
    (capital : ∀ n < 26, motive (Char.ofNat (n + 65)) (Char.ofNat (n + 65)).toLower) (c : Char) :
    motive c c.toLower := by
  by_cases h : c.isUpper = true
  · obtain ⟨n, hn, rfl⟩ := exists_of_isUpper h
    exact capital n hn
  · rw [toLower_of_not_isUpper h]
    exact same c

theorem toLower_toLower (c : Char) : c.toLower.toLower = c.toLower :=
  toLower_induction (motive := fun c d => d.toLower = c.toLower) (fun _ => rfl) (by decide) c

@[simp] theorem utf8Size_toLower (c : Char) : c.toLower.utf8Size = c.utf8Size :=
  toLower_induction (motive := fun c d => d.utf8Size = c.utf8Size) (fun _ => rfl) (by decide) c

@[simp] theorem isBlank_toLower (c : Char) : isBlank c.toLower = isBlank c :=
  toLower_induction (motive := fun c d => isBlank d = isBlank c) (fun _ => rfl) (by decide) c

@[simp] theorem foldCase_toLower (c : Char) : foldCase c.toLower = foldCase c :=
  toLower_induction (motive := fun c d => foldCase d = foldCase c) (fun _ => rfl) (by decide) c

theorem sameLetter_iff {c d : Char} : SameLetter c d ↔ c.toLower = d.toLower := by
  constructor
  · rintro (rfl | ⟨-, rfl⟩ | ⟨-, rfl⟩)
    · rfl
    · exact (toLower_toLower c).symm
    · exact toLower_toLower d
  · intro h
    by_cases hc : c.isUpper = true
    · by_cases hd : d.isUpper = true
      · -- two capitals
        obtain ⟨n, hn, rfl⟩ := exists_of_isUpper hc
        obtain ⟨m, hm, rfl⟩ := exists_of_isUpper hd
        have hinj : ∀ n < 26, ∀ m < 26,
            (Char.ofNat (n + 65)).toLower = (Char.ofNat (m + 65)).toLower → n = m := by decide
        exact Or.inl (by rw [hinj n hn m hm h])
      · exact Or.inr (Or.inl ⟨hc, by rw [h, toLower_of_not_isUpper hd]⟩)
    · rw [toLower_of_not_isUpper hc] at h
      by_cases hd : d.isUpper = true
      · exact Or.inr (Or.inr ⟨hd, h⟩)
      · exact Or.inl (by rw [h, toLower_of_not_isUpper hd])

/-! ## Texts -/

namespace Text

/-- Two texts that differ only in the case of ASCII letters. -/
def Recased (s t : Text) : Prop := List.Forall₂ SameLetter s t

/-- Such texts are equal once their letters are small. -/
theorem recased_iff {s t : Text} : Recased s t ↔ lower s = lower t := by
  have hletters : SameLetter = fun c d => c.toLower = d.toLower :=
    funext fun _ => funext fun _ => propext sameLetter_iff
  rw [lower, lower, ← List.forall₂_eq_eq_eq, List.forall₂_map_left_iff, List.forall₂_map_right_iff,
    Recased, hletters]

theorem dropBytes?_lower (n : Nat) (s : Text) :
    dropBytes? n (lower s) = (dropBytes? n s).map lower := by
  fun_induction dropBytes? n s with
  | case1 s => rw [dropBytes?, Option.map_some]
  | case2 n => rfl
  | case3 n c s hle ih =>
      rw [lower, List.map_cons, dropBytes?, utf8Size_toLower, if_pos hle]
      exact ih
  | case4 n c s hgt =>
      rw [lower, List.map_cons, dropBytes?, utf8Size_toLower, if_neg hgt, Option.map_none]

theorem takeBytes?_lower (n : Nat) (s : Text) :
    takeBytes? n (lower s) = (takeBytes? n s).map lower := by
  fun_induction takeBytes? n s with
  | case1 s => rw [takeBytes?]; rfl
  | case2 n => rfl
  | case3 n c s hle ih =>
      rw [lower, List.map_cons, takeBytes?, utf8Size_toLower, if_pos hle, ← lower, ih]
      simp [lower, Function.comp_def]
  | case4 n c s hgt =>
      rw [lower, List.map_cons, takeBytes?, utf8Size_toLower, if_neg hgt, Option.map_none]

theorem slice?_lower (i j : Nat) (s : Text) : slice? i j (lower s) = (slice? i j s).map lower := by
  unfold slice?
  split
  · rw [dropBytes?_lower]
    cases dropBytes? i s with
    | none => rfl
    | some rest => exact takeBytes?_lower _ rest
  · rfl

theorem trim_lower (t : Text) : trim (lower t) = lower (trim t) := by
  have hblank : isBlank ∘ Char.toLower = isBlank := funext isBlank_toLower
  simp only [trim, trimEnd, trimStart, lower, List.dropWhile_map, ← List.map_reverse, hblank]

theorem containsAnyFolded_lower (words : List Text) (t : Text) :
    containsAnyFolded words (lower t) = containsAnyFolded words t := by
  simp only [containsAnyFolded, containsFolded, lower, List.map_map, Function.comp_def,
    foldCase_toLower]

namespace Recased

variable {s t : Text} (h : Recased s t)
include h

/-- Every node covers the same letters in both. -/
theorem text (n : Node) : Recased (n.text s) (n.text t) := by
  have hlower (u : Text) : lower (n.text u) = n.text (lower u) := by
    rw [Node.text, Node.text, slice?_lower]
    cases slice? n.span.startByte n.span.endByte u <;> rfl
  rw [recased_iff, hlower, hlower, recased_iff.1 h]

theorem trim : Recased (trim s) (trim t) := by
  rw [recased_iff, ← trim_lower, ← trim_lower, recased_iff.1 h]

/-- **A search without regard to letter case** answers the same. -/
theorem containsAnyFolded_eq (words : List Text) :
    containsAnyFolded words t = containsAnyFolded words s := by
  rw [← containsAnyFolded_lower, ← recased_iff.1 h, containsAnyFolded_lower]

end Recased

end Text

/-! ## Searches with related answers -/

section Search

variable {α β γ : Type} {R : β → γ → Prop} {f : α → Option β} {g : α → Option γ} {l : List α}

theorem forall₂_filterMap (h : ∀ a ∈ l, Option.Rel R (f a) (g a)) :
    List.Forall₂ R (l.filterMap f) (l.filterMap g) := by
  induction l with
  | nil => exact .nil
  | cons a l ih =>
      have htail := ih fun b hb => h b (List.mem_cons_of_mem a hb)
      have hhead := h a List.mem_cons_self
      rw [List.filterMap_cons, List.filterMap_cons]
      generalize f a = x, g a = y at hhead ⊢
      cases hhead with
      | none => exact htail
      | some hr => exact .cons hr htail

/-- If only the first answers are kept, they are related too. -/
theorem forall₂_findSome? (h : ∀ a ∈ l, Option.Rel R (f a) (g a)) :
    List.Forall₂ R (l.findSome? f).toList (l.findSome? g).toList := by
  have hall := forall₂_filterMap h
  rw [← List.head?_filterMap, ← List.head?_filterMap]
  generalize l.filterMap f = x, l.filterMap g = y at hall ⊢
  cases hall with
  | nil => exact .nil
  | cons hr _ => exact .cons hr .nil

end Search

/-! ## Rules -/

/-- The same tree over another source. -/
def RuleContext.withSource (ctx : RuleContext) (s : Text) : RuleContext :=
  { ctx with unit := { ctx.unit with source := s } }

/-- A declared and an assigned secret, built SQL and a file operation, each in mixed letter case. -/
def RuleContext.mixedCase : RuleContext where
  unit :=
    let node (kind : Kind) (field : String) (start stop : Nat) (children : List Node) : Node :=
      ⟨kind, "", some field, ⟨start, stop, 1, start + 1, 1, stop + 1⟩, children, []⟩
    let declarator := node .variableDeclarator "" 4 16
      [node .identifier "name" 4 12 [], node .stringLiteral "" 13 16 []]
    let assignment := node .assignmentExpression "" 17 29
      [node .memberAccessExpression "left" 17 25 [], node .stringLiteral "right" 26 29 []]
    let sum := node .addExpression "" 32 42
      [node .stringLiteral "left" 32 40 [], node .identifier "right" 41 42 []]
    let call := node .invocationExpression "" 43 55
      [node .memberAccessExpression "function" 43 52 [], node .other "arguments" 52 55 []]
    { root := node .compilationUnit "" 0 56 [declarator, assignment, sum, call]
      source := "var PassWord=\"x\";p.ApiKey=\"s\";q=\"Insert\"+p;File.Move(p);".toList
      displayName := "Mixed.cs" }
  diagnostics := []

namespace Security

open Text

/-- **Two messages of one finding.** They have the same words around a quote of the same node, each
from its own source, with or without the blanks at its ends; and the quotes differ only in the case
of ASCII letters. -/
def SameFinding (root : Node) (s t : Text) (message message' : String) : Prop :=
  ∃ n ∈ root.preorder, ∃ (opening closing : String) (quote quote' : Text),
    (quote = n.text s ∧ quote' = n.text t ∨ quote = (n.text s).trim ∧ quote' = (n.text t).trim) ∧
      Recased quote quote' ∧ message = opening ++ String.ofList quote ++ closing ∧
      message' = opening ++ String.ofList quote' ++ closing

section Findings

variable {ctx : RuleContext} {s : Text} (h : Recased ctx.unit.source s)
include h

theorem sameFinding_text {n : Node} (hn : n ∈ ctx.unit.root.preorder) (opening closing : String) :
    SameFinding ctx.unit.root ctx.unit.source s (opening ++ String.ofList (ctx.text n) ++ closing)
      (opening ++ String.ofList ((ctx.withSource s).text n) ++ closing) :=
  ⟨n, hn, opening, closing, _, _, Or.inl ⟨rfl, rfl⟩, h.text n, rfl, rfl⟩

theorem sameFinding_trim {n : Node} (hn : n ∈ ctx.unit.root.preorder) (opening closing : String) :
    SameFinding ctx.unit.root ctx.unit.source s
      (opening ++ String.ofList (ctx.text n).trim ++ closing)
      (opening ++ String.ofList ((ctx.withSource s).text n).trim ++ closing) :=
  ⟨n, hn, opening, closing, _, _, Or.inr ⟨rfl, rfl⟩, (h.text n).trim, rfl, rfl⟩

/-- Words are found in the text of a node over either source. -/
theorem containsAnyFolded_text (words : List Text) (n : Node) :
    containsAnyFolded words ((ctx.withSource s).text n) = containsAnyFolded words (ctx.text n) :=
  (h.text n).containsAnyFolded_eq words

theorem sqlInjection_withSource : sqlInjection (ctx.withSource s) = sqlInjection ctx := by
  have hbuilds : buildsSql (ctx.withSource s) = buildsSql ctx := by
    funext n
    rw [buildsSql, buildsSql, containsAnyFolded_text h]
  rw [sqlInjection, sqlInjection, hbuilds]
  rfl

/-- A declared secret is named by the same node. -/
theorem declaredSecret?_withSource {d : Node} (hd : d ∈ ctx.unit.root.preorder)
    (opening closing : String) :
    Option.Rel (SameFinding ctx.unit.root ctx.unit.source s)
      ((declaredSecret? ctx d).map fun name => opening ++ String.ofList name ++ closing)
      ((declaredSecret? (ctx.withSource s) d).map fun name =>
        opening ++ String.ofList name ++ closing) := by
  unfold declaredSecret? Node.name?
  cases hname : d.nameNode? with
  | none => exact .none
  | some n =>
      cases d.initializer? with
      | none => exact .none
      | some init =>
          have hchild := Node.mem_children_of_field_or (fun _ => List.mem_of_find?_eq_some) hname
          have hn := Node.preorder_subset_of_mem hd (Node.mem_preorder_of_child hchild)
          -- whether the name looks secret is answered alike
          have hwords := containsAnyFolded_text h secretWords n
          simp only [RuleContext.text] at hwords
          simp only [Option.map_some, Option.bind_eq_bind, Option.bind_some, hwords]
          split
          · exact .some (sameFinding_text h hn opening closing)
          · exact .none

/-- A secret is assigned to the same target. -/
theorem assignedSecret?_withSource {a : Node} (ha : a ∈ ctx.unit.root.preorder) :
    Option.Rel (SameFinding ctx.unit.root ctx.unit.source s) (assignedSecret? ctx a)
      (assignedSecret? (ctx.withSource s) a) := by
  unfold assignedSecret?
  cases hleft : a.left? with
  | none => exact .none
  | some left =>
      cases a.right? with
      | none => exact .none
      | some right =>
          have hmem := Node.mem_preorder_of_child (Node.mem_children_of_left? hleft)
          simp only [Option.bind_eq_bind, Option.bind_some, containsAnyFolded_text h]
          split
          · exact .some (sameFinding_trim h (Node.preorder_subset_of_mem ha hmem) _ _)
          · exact .none

theorem hardcodedSecrets_withSource :
    List.Forall₂ (SameFinding ctx.unit.root ctx.unit.source s) (hardcodedSecrets ctx)
      (hardcodedSecrets (ctx.withSource s)) := by
  refine List.rel_append ?_ (forall₂_filterMap fun a ha => ?_)
  · rw [declaredSecrets, declaredSecrets, List.map_findSome?, List.map_findSome?]
    exact forall₂_findSome? fun d hd => declaredSecret?_withSource h (Node.mem_ofKind.1 hd).1 _ _
  · exact assignedSecret?_withSource h (Node.mem_ofKind.1 ha).1

theorem unsafeFileOperations_withSource :
    List.Forall₂ (SameFinding ctx.unit.root ctx.unit.source s) (unsafeFileOperations ctx)
      (unsafeFileOperations (ctx.withSource s)) := by
  have hnodes : (ctx.withSource s).nodesOfKind .invocationExpression =
      ctx.nodesOfKind .invocationExpression := rfl
  rw [unsafeFileOperations, unsafeFileOperations, hnodes]
  -- one search over both sources, so that there is one find
  simp only [containsAnyFolded_text h]
  cases hfound : ((ctx.nodesOfKind .invocationExpression).filterMap Node.callee?).find? fun c =>
      containsAnyFolded fileOperations (ctx.text c) with
  | none => exact .nil
  | some c =>
      obtain ⟨n, hn, hc⟩ := List.mem_filterMap.1 (List.mem_of_find?_eq_some hfound)
      have hmem := Node.mem_preorder_of_child (Node.mem_children_of_callee? hc)
      exact .cons (sameFinding_trim h
        (Node.preorder_subset_of_mem (Node.mem_ofKind.1 hn).1 hmem) _ _) .nil

end Findings

/-- **Letter case does not matter to the security rules that search for words.** Over two sources
that differ only in the case of ASCII letters, they make the same findings in the same order. A
finding of built SQL is told in the same words, and a finding of a secret or of a file operation in
the same words around the quoted text, which differs only in the case of ASCII letters. -/
theorem findings_ignore_case (ctx : RuleContext) (s : Text) (h : Recased ctx.unit.source s) :
    sqlInjection (ctx.withSource s) = sqlInjection ctx ∧
      List.Forall₂ (SameFinding ctx.unit.root ctx.unit.source s) (hardcodedSecrets ctx)
        (hardcodedSecrets (ctx.withSource s)) ∧
      List.Forall₂ (SameFinding ctx.unit.root ctx.unit.source s) (unsafeFileOperations ctx)
        (unsafeFileOperations (ctx.withSource s)) :=
  ⟨sqlInjection_withSource h, hardcodedSecrets_withSource h, unsafeFileOperations_withSource h⟩

/-- All four findings are there, and they are found again in capitals. -/
theorem findings_ignore_case_capitals :
    let ctx := RuleContext.mixedCase
    let s := "VAR PASSWORD=\"X\";P.APIKEY=\"S\";Q=\"INSERT\"+P;FILE.MOVE(P);".toList
    ((sqlInjection ctx).length = 1 ∧ (hardcodedSecrets ctx).length = 2 ∧
      (unsafeFileOperations ctx).length = 1) ∧ Recased ctx.unit.source s ∧
      sqlInjection (ctx.withSource s) = sqlInjection ctx ∧
      List.Forall₂ (SameFinding ctx.unit.root ctx.unit.source s) (hardcodedSecrets ctx)
        (hardcodedSecrets (ctx.withSource s)) ∧
      List.Forall₂ (SameFinding ctx.unit.root ctx.unit.source s) (unsafeFileOperations ctx)
        (unsafeFileOperations (ctx.withSource s)) := by
  intro ctx s
  have hcase : Recased ctx.unit.source s := recased_iff.2 (by decide +kernel)
  exact ⟨by decide +kernel, hcase, findings_ignore_case ctx s hcase⟩

end Security

end UnitReview
