import UnitReview.Proofs.Text.Lines
import UnitReview.Proofs.Text.Utf8
import UnitReview.Review

/-!
# The text of a file

The content of a file is bytes, and any bytes are read as a text. A lead byte announces how many
bytes follow it, but only bytes that may continue a character are taken for these: before any other
byte reading starts afresh (`decodeLossy_append`), even if the character before it is cut short. A
line feed is such a byte, and no other bytes are read as a line feed. So a file is read line by
line, and what is wrong with the bytes of one line shows in no other.
-/

set_option autoImplicit false

namespace UnitReview

namespace Text

/-! ## Bytes that start afresh -/

/-- Further bytes are asked for in ranges of continuations. The lead byte and the smallest byte that
it allows next are never so small that they could be those of a one-byte character written long. -/
theorem leadByte?_ranges : ∀ k < 256, ∀ r ∈ leadByte? (UInt8.ofNat k),
    1 ≤ r.1 ∧ 0x80 ≤ r.2.1 ∧ r.2.2 ≤ 0xBF ∧
      16 ≤ leadBits (UInt8.ofNat k) r.1 * 64 + (r.2.1.toNat - 128) := by
  decide +kernel

theorem leadByte?_bounds {b lo hi : UInt8} {more : Nat} (h : leadByte? b = some (more, lo, hi)) :
    1 ≤ more ∧ 0x80 ≤ lo ∧ hi ≤ 0xBF ∧ 16 ≤ leadBits b more * 64 + (lo.toNat - 128) := by
  have hb : UInt8.ofNat b.toNat = b := UInt8.ofNat_toNat
  have hranges := leadByte?_ranges b.toNat b.toNat_lt (more, lo, hi) (by rw [hb, h]; rfl)
  rwa [hb] at hranges

/-- A byte that continues nothing ends the further bytes as the end of the file does. -/
theorem takeFurther_append {b : UInt8} (hb : isContinuation b = false) (rest : Bytes) (more : Nat)
    (lo hi : UInt8) (acc : Nat) (bs : Bytes) (hlo : 0x80 ≤ lo) (hhi : hi ≤ 0xBF) :
    takeFurther more lo hi acc (bs ++ b :: rest) = takeFurther more lo hi acc bs := by
  fun_induction takeFurther more lo hi acc bs with
  | case1 => rw [takeFurther]
  | case2 more lo hi acc =>
      -- the bytes end here, and the byte that follows them is outside every range asked for
      have hout : ¬ (decide (lo ≤ b) && decide (b ≤ hi)) = true := by
        simp only [isContinuation, Bool.and_eq_false_iff, decide_eq_false_iff_not,
          Bool.and_eq_true, decide_eq_true_eq] at hb ⊢
        rintro ⟨hle, hge⟩
        exact hb.elim (fun h => h (UInt8.le_trans hlo hle)) fun h => h (UInt8.le_trans hge hhi)
      rw [List.nil_append, takeFurther, if_neg hout]
  | case3 more lo hi acc c bs hin r ih =>
      rw [List.cons_append, takeFurther, if_pos hin, ih (UInt8.le_refl _) (UInt8.le_refl _)]
  | case4 more lo hi acc c bs hout =>
      rw [List.cons_append, takeFurther, if_neg hout]

theorem length_takeFurther_le (more : Nat) (lo hi : UInt8) (acc : Nat) (bs : Bytes) :
    (takeFurther more lo hi acc bs).2.1 ≤ bs.length := by
  fun_induction takeFurther more lo hi acc bs with
  | case1 => exact Nat.zero_le _
  | case2 => exact Nat.zero_le _
  | case3 more lo hi acc c bs hin r ih => exact Nat.succ_le_succ ih
  | case4 => exact Nat.zero_le _

theorem length_firstLossy_le (b : UInt8) (bs : Bytes) : (firstLossy b bs).2 - 1 ≤ bs.length := by
  unfold firstLossy
  split
  · exact Nat.zero_le _
  · split
    · exact Nat.zero_le _
    · exact length_takeFurther_le _ _ _ _ bs

/-- Each character uses up a byte at least. -/
theorem length_drop_firstLossy_lt (b : UInt8) (bs : Bytes) :
    (bs.drop ((firstLossy b bs).2 - 1)).length < (b :: bs).length := by
  rw [List.length_drop, List.length_cons]
  omega

theorem firstLossy_append {b : UInt8} (hb : isContinuation b = false) (first : UInt8)
    (bs rest : Bytes) : firstLossy first (bs ++ b :: rest) = firstLossy first bs := by
  unfold firstLossy
  split
  · rfl
  · cases hlead : leadByte? first with
    | none => rfl
    | some r =>
        obtain ⟨-, hlo, hhi, -⟩ := leadByte?_bounds hlead
        simp only [takeFurther_append hb rest _ _ _ _ bs hlo hhi]

/-- **Before a byte that continues nothing, reading starts afresh.** -/
theorem decodeLossy_append {b : UInt8} (hb : isContinuation b = false) (bs rest : Bytes) :
    decodeLossy (bs ++ b :: rest) = decodeLossy bs ++ decodeLossy (b :: rest) := by
  match bs with
  | [] => rfl
  | first :: bs =>
      have hlength := length_firstLossy_le first bs
      have := length_drop_firstLossy_lt first bs
      -- the first character stays within `bs`, so what is left of `bs` is still before `b`
      rw [List.cons_append, decodeLossy_cons, firstLossy_append hb,
        List.drop_append_of_le_length hlength, decodeLossy_append hb, decodeLossy_cons first bs,
        List.cons_append]
termination_by bs.length

/-- A character of three bytes is cut short by a line feed, which is read all the same. -/
example : decodeLossy [0xE2, 0x82, 0x0A, 0x41] = [replacement, '\n', 'A'] := by decide

/-! ## Line feeds -/

/-- The byte of a line feed. -/
def feedByte : UInt8 := 0x0A

theorem decodeLossy_feed (bs rest : Bytes) :
    decodeLossy (bs ++ feedByte :: rest) = decodeLossy bs ++ '\n' :: decodeLossy rest := by
  have hfeed : isContinuation feedByte = false := by decide
  rw [decodeLossy_append hfeed, decodeLossy_cons]
  rfl

/-- Further bytes only add to the number. -/
theorem le_takeFurther (more : Nat) (lo hi : UInt8) (acc : Nat) (bs : Bytes) :
    acc ≤ (takeFurther more lo hi acc bs).1 := by
  fun_induction takeFurther more lo hi acc bs with
  | case1 => exact Nat.le_refl _
  | case2 => exact Nat.le_refl _
  | case3 more lo hi acc c bs hin r ih =>
      exact Nat.le_trans (by omega) ih
  | case4 => exact Nat.le_refl _

theorem le_takeFurther_of_complete {more acc : Nat} {lo hi : UInt8} {bs : Bytes}
    (hlo : 0x80 ≤ lo) (hhi : hi ≤ 0xBF)
    (h : (takeFurther (more + 1) lo hi acc bs).2.2 = true) :
    acc * 64 + (lo.toNat - 128) ≤ (takeFurther (more + 1) lo hi acc bs).1 := by
  cases bs with
  | nil => cases h
  | cons c bs =>
      rw [takeFurther] at h ⊢
      split at h
      · rename_i hin
        rw [if_pos hin]
        simp only [Bool.and_eq_true, decide_eq_true_eq, UInt8.le_iff_toNat_le] at hin hlo hhi
        have hmore := le_takeFurther more 0x80 0xBF (acc * 64 + c.toNat % 64) bs
        have hsmall : (0x80 : UInt8).toNat = 128 := rfl
        have hlarge : (0xBF : UInt8).toNat = 191 := rfl
        show _ ≤ (takeFurther more 0x80 0xBF (acc * 64 + c.toNat % 64) bs).1
        omega
      · cases h

theorem eq_of_ofNat_eq_feed {n : Nat} (h : Char.ofNat n = '\n') : n = 10 := by
  by_cases hn : n.isValidChar
  · have hchar : Char.ofNat n = Char.ofNatAux n hn := dif_pos hn
    exact congrArg Char.toNat (hchar.symm.trans h)
  · have hchar : Char.ofNat n = '\x00' := dif_neg hn
    cases hchar.symm.trans h

/-- **Only the byte of a line feed is read as a line feed.** -/
theorem eq_feedByte_of_firstLossy {b : UInt8} {bs : Bytes} (h : (firstLossy b bs).1 = '\n') :
    b = feedByte := by
  unfold firstLossy at h
  split at h
  · exact UInt8.toNat_inj.1 (eq_of_ofNat_eq_feed h)
  · split at h
    · cases h
    · rename_i more lo hi hlead
      obtain ⟨hmore, hlo, hhi, hbits⟩ := leadByte?_bounds hlead
      obtain ⟨more, rfl⟩ : ∃ n, more = n + 1 := ⟨more - 1, by omega⟩
      simp only at h
      split at h
      · rename_i hcomplete
        -- the number of a complete character is too large
        have hlarge := le_takeFurther_of_complete hlo hhi hcomplete
        have hten := eq_of_ofNat_eq_feed h
        omega
      · cases h

theorem feed_not_mem_decodeLossy {bs : Bytes} (h : feedByte ∉ bs) : '\n' ∉ decodeLossy bs := by
  match bs with
  | [] => exact List.not_mem_nil
  | b :: bs =>
      have := length_drop_firstLossy_lt b bs
      rw [decodeLossy_cons, List.mem_cons, not_or]
      constructor
      · intro hfeed
        exact h (List.mem_cons.2 (Or.inl (eq_feedByte_of_firstLossy hfeed.symm).symm))
      · apply feed_not_mem_decodeLossy
        exact fun hmem => h (List.mem_cons_of_mem b (List.mem_of_mem_drop hmem))
termination_by bs.length

/-- **A file is read line by line.** -/
theorem splitOn_decodeLossy (bs : Bytes) :
    (decodeLossy bs).splitOn '\n' = (bs.splitOn feedByte).map decodeLossy := by
  induction bs using induction_on_segments feedByte with
  | segment a ha =>
      rw [List.splitOn_eq_singleton ha, List.splitOn_eq_singleton (feed_not_mem_decodeLossy ha)]
      rfl
  | join a b _ iha ihb =>
      rw [decodeLossy_feed, List.splitOn_append_cons_self, List.splitOn_append_cons_self, iha, ihb,
        List.map_append]

theorem count_feed_decodeLossy (bs : Bytes) :
    (decodeLossy bs).count '\n' = bs.count feedByte := by
  have hlength := congrArg List.length (splitOn_decodeLossy bs)
  rw [List.length_map, length_splitOn, length_splitOn] at hlength
  omega

end Text

/-! ## Reviews of files -/

namespace Host.FileSystem

/-- A file system with one file. -/
def single (content : Text.Bytes) : FileSystem := ⟨[(["A.cs"], .file content .plain)]⟩

theorem readFile_single (content : Text.Bytes) :
    (single content).readFile [] "A.cs" = .ok content := rfl

end Host.FileSystem

namespace Reviewer

open Text Host

/-- **The text of a content**: to review a file with that content, wherever it is, is to review that
text under the name of the file. -/
def ReadsAs (content : Bytes) (t : Text) : Prop :=
  ∀ (r : Reviewer) (fs : FileSystem) (cwd : Host.Location) (path : OsText) (name : Option String),
    fs.readFile cwd path = .ok content →
      r.reviewFile fs cwd path name = r.reviewText t (some (name.getD path.display))

/-- A reviewer that fails on every text with the text itself for a message. -/
def echo : Reviewer where
  provider :=
    { language := "", extensions := [], read := fun source _ => .error (String.ofList source) }
  registry := .empty

theorem eq_of_reviewText_echo {s t : Text} {name : String}
    (h : echo.reviewText s (some name) = echo.reviewText t (some name)) : s = t := by
  injection h with h
  injection h with _ h
  exact String.ofList_injective h

/-- The text of a content is what is decoded from it, and it has no other. -/
theorem readsAs_iff {content : Bytes} {t : Text} : ReadsAs content t ↔ t = decodeLossy content := by
  constructor
  · intro h
    have hecho := h echo _ _ _ none (FileSystem.readFile_single content)
    rw [reviewFile, FileSystem.readFile_single] at hecho
    exact (eq_of_reviewText_echo hecho).symm
  · rintro rfl r fs cwd path name hread
    rw [reviewFile, hread]
    rfl

/-- **Files are read line by line.** Every content has exactly one text. Contents that are joined by
a line feed have their texts joined by a line feed; so the text has as many line feeds as the
content, and its lines are the texts of the content's lines. The text of the UTF-8 form of a text is
that text: a file that holds it is reviewed as the text itself is. -/
theorem readsAs_by_lines :
    (∀ content t, ReadsAs content t ↔ t = decodeLossy content) ∧
      (∀ a b : Bytes,
        decodeLossy (a ++ feedByte :: b) = decodeLossy a ++ '\n' :: decodeLossy b) ∧
      (∀ content : Bytes, (decodeLossy content).count '\n' = content.count feedByte ∧
        (decodeLossy content).splitOn '\n' = (content.splitOn feedByte).map decodeLossy) ∧
      ∀ t : Text, ReadsAs (encode t) t := by
  refine ⟨fun _ _ => readsAs_iff, decodeLossy_feed, fun content => ⟨?_, ?_⟩, fun t => ?_⟩
  · exact count_feed_decodeLossy content
  · exact splitOn_decodeLossy content
  · exact readsAs_iff.2 (decodeLossy_encode t).symm

end Reviewer

end UnitReview
