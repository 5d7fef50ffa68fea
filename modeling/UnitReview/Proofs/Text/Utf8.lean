import UnitReview.Text.Utf8

/-!
# Text survives its bytes

`decodeLossy` accepts all bytes and never fails, so that its law is not obvious: the UTF-8 form of
a text is read as that text, whatever bytes follow it (`decodeLossy_encode_append`). The proof
goes character by character; within a character it goes byte by byte, where the lead byte decides
how many bytes follow and which range the first of them is in.
-/

set_option autoImplicit false

namespace UnitReview.Text

/-! ## Bytes of one character -/

/-- Six bits as a byte that follows are taken off again. -/
theorem takeFurther_continuation {more acc x : Nat} {lo hi : UInt8} (bs : Bytes)
    (hlo : lo.toNat ≤ x + 128) (hhi : x + 128 ≤ hi.toNat) (hx : x < 64) :
    takeFurther (more + 1) lo hi acc (UInt8.ofNat (x + 128) :: bs) =
      ((takeFurther more 0x80 0xBF (acc * 64 + x) bs).1,
        (takeFurther more 0x80 0xBF (acc * 64 + x) bs).2.1 + 1,
        (takeFurther more 0x80 0xBF (acc * 64 + x) bs).2.2) := by
  have hb : (UInt8.ofNat (x + 128)).toNat = x + 128 := by
    simp only [UInt8.toNat_ofNat']
    omega
  have hin : (decide (lo ≤ UInt8.ofNat (x + 128)) &&
      decide (UInt8.ofNat (x + 128) ≤ hi)) = true := by
    simp only [UInt8.le_iff_toNat_le, hb, hlo, hhi, decide_true, Bool.and_self]
  have hbits : (UInt8.ofNat (x + 128)).toNat % 64 = x := by omega
  rw [takeFurther, if_pos hin, hbits]

/-- All but the first of the further bytes are in the full range. -/
theorem takeFurther_plain {more acc x : Nat} (bs : Bytes) (hx : x < 64) :
    takeFurther (more + 1) 0x80 0xBF acc (UInt8.ofNat (x + 128) :: bs) =
      ((takeFurther more 0x80 0xBF (acc * 64 + x) bs).1,
        (takeFurther more 0x80 0xBF (acc * 64 + x) bs).2.1 + 1,
        (takeFurther more 0x80 0xBF (acc * 64 + x) bs).2.2) := by
  apply takeFurther_continuation bs _ _ hx
  · show 128 ≤ x + 128
    omega
  · show x + 128 ≤ 191
    omega

/-- The lead bytes of two-byte characters, less the two that would be too long. -/
theorem leadByte?_two : ∀ k < 32, 2 ≤ k →
    leadByte? (UInt8.ofNat (k + 192)) = some (1, 0x80, 0xBF) := by
  decide

/-- The lead bytes of three-byte characters. The first one leaves out forms that are too long, the
one at 13 leaves out surrogates. -/
theorem leadByte?_three : ∀ k < 16,
    leadByte? (UInt8.ofNat (k + 224)) =
      some (2, if k = 0 then 0xA0 else 0x80, if k = 13 then 0x9F else 0xBF) := by
  decide

/-- The lead bytes of four-byte characters. The last one leaves out numbers that are too large. -/
theorem leadByte?_four : ∀ k < 5,
    leadByte? (UInt8.ofNat (k + 240)) =
      some (3, if k = 0 then 0x90 else 0x80, if k = 4 then 0x8F else 0xBF) := by
  decide

/-- The bits of a lead byte. -/
theorem leadBits_ofNat : (∀ k < 32, leadBits (UInt8.ofNat (k + 192)) 1 = k) ∧
    (∀ k < 16, leadBits (UInt8.ofNat (k + 224)) 2 = k) ∧
    (∀ k < 8, leadBits (UInt8.ofNat (k + 240)) 3 = k) := by
  decide

/-- A lead byte with all its further bytes is one character. -/
theorem firstLossy_lead {b : UInt8} {bs : Bytes} {more n : Nat} {lo hi : UInt8} {c : Char}
    (hlead : leadByte? b = some (more, lo, hi)) (hascii : ¬ b < 0x80)
    (htake : takeFurther more lo hi (leadBits b more) bs = (c.toNat, n, true)) :
    firstLossy b bs = (c, n + 1) := by
  rw [firstLossy, if_neg hascii, hlead]
  simp only [htake, if_true, Char.ofNat_toNat]

/-- No byte from 192 on stands for itself. -/
theorem not_ascii_ofNat {k : Nat} (hlo : 192 ≤ k) (hhi : k < 256) : ¬ UInt8.ofNat k < 0x80 := by
  rw [UInt8.lt_iff_toNat_lt]
  simp only [UInt8.toNat_ofNat', UInt8.reduceToNat]
  omega

/-- **The bytes of a character are read as the character**, and all of them are used up. -/
theorem firstLossy_encodeChar (c : Char) (bs : Bytes) :
    ∃ b further, String.utf8EncodeChar c = b :: further ∧
      firstLossy b (further ++ bs) = (c, further.length + 1) := by
  have hvalid : c.toNat < 0xD800 ∨ (0xDFFF < c.toNat ∧ c.toNat < 0x110000) := c.valid
  have hval : c.val.toNat = c.toNat := rfl
  simp only [String.utf8EncodeChar, hval]
  split
  · -- one byte
    refine ⟨_, [], rfl, ?_⟩
    have hb : (UInt8.ofNat c.toNat).toNat = c.toNat := by
      simp only [UInt8.toNat_ofNat']
      omega
    have hascii : UInt8.ofNat c.toNat < 0x80 := by
      rw [UInt8.lt_iff_toNat_lt, hb]
      show c.toNat < 128
      omega
    rw [firstLossy, if_pos hascii, hb, Char.ofNat_toNat]
    rfl
  · split
    · -- two bytes
      refine ⟨_, _, rfl, ?_⟩
      apply firstLossy_lead (leadByte?_two _ (by omega) (by omega))
        (not_ascii_ofNat (by omega) (by omega))
      rw [leadBits_ofNat.1 _ (by omega), List.cons_append, takeFurther_plain _ (by omega)]
      simp only [takeFurther, Prod.mk.injEq, and_true]
      exact ⟨by omega, rfl⟩
    · split
      · -- three bytes: the second one is in a smaller range after two of the lead bytes
        refine ⟨_, _, rfl, ?_⟩
        apply firstLossy_lead (leadByte?_three _ (by omega))
          (not_ascii_ofNat (by omega) (by omega))
        rw [leadBits_ofNat.2.1 _ (by omega), List.cons_append, takeFurther_continuation,
          List.cons_append, takeFurther_plain _ (by omega)]
        · simp only [takeFurther, Prod.mk.injEq, and_true]
          exact ⟨by omega, rfl⟩
        · split <;> simp only [UInt8.reduceToNat] <;> omega
        · split <;> simp only [UInt8.reduceToNat] <;> omega
        · omega
      · -- four bytes, with the same care for the second one
        refine ⟨_, _, rfl, ?_⟩
        apply firstLossy_lead (leadByte?_four _ (by omega))
          (not_ascii_ofNat (by omega) (by omega))
        rw [leadBits_ofNat.2.2 _ (by omega), List.cons_append, takeFurther_continuation,
          List.cons_append, takeFurther_plain _ (by omega), List.cons_append,
          takeFurther_plain _ (by omega)]
        · simp only [takeFurther, Prod.mk.injEq, and_true]
          exact ⟨by omega, rfl⟩
        · split <;> simp only [UInt8.reduceToNat] <;> omega
        · split <;> simp only [UInt8.reduceToNat] <;> omega
        · omega

/-! ## Texts -/

/-- Any bound that is not below the number of bytes is enough. -/
theorem decodeUpTo_eq_of_le {fuel fuel' : Nat} {bs : Bytes} (h : bs.length ≤ fuel)
    (h' : bs.length ≤ fuel') : decodeUpTo fuel bs = decodeUpTo fuel' bs := by
  induction fuel generalizing fuel' bs with
  | zero =>
      have hnil : bs = [] := List.length_eq_zero_iff.1 (by omega)
      cases fuel' <;> simp [hnil, decodeUpTo]
  | succ fuel ih =>
      cases bs with
      | nil => cases fuel' <;> simp [decodeUpTo]
      | cons b bs =>
          cases fuel' with
          | zero => simp at h'
          | succ fuel' =>
              simp only [List.length_cons] at h h'
              simp only [decodeUpTo]
              -- both readers go on with the same bytes, fewer than before
              have hdrop : (bs.drop ((firstLossy b bs).2 - 1)).length ≤ bs.length := by simp
              rw [ih (Nat.le_trans hdrop (Nat.le_of_succ_le_succ h))
                (Nat.le_trans hdrop (Nat.le_of_succ_le_succ h'))]

theorem decodeLossy_nil : decodeLossy [] = [] := rfl

/-- Reading goes on after the first character. -/
theorem decodeLossy_cons (b : UInt8) (bs : Bytes) :
    decodeLossy (b :: bs) =
      (firstLossy b bs).1 :: decodeLossy (bs.drop ((firstLossy b bs).2 - 1)) := by
  show _ :: decodeUpTo bs.length _ = _
  rw [decodeLossy, decodeUpTo_eq_of_le (by rw [List.length_drop]; omega) (Nat.le_refl _)]

/-- **The bytes of a text are read as the text**, and what follows them is read on its own. -/
theorem decodeLossy_encode_append (t : Text) (bs : Bytes) :
    decodeLossy (encode t ++ bs) = t ++ decodeLossy bs := by
  induction t with
  | nil => rfl
  | cons c t ih =>
      obtain ⟨b, further, henc, hfirst⟩ := firstLossy_encodeChar c (encode t ++ bs)
      have hsplit : encode (c :: t) ++ bs = b :: (further ++ (encode t ++ bs)) := by
        simp only [encode, List.flatMap_cons, henc, List.cons_append, List.append_assoc]
      rw [hsplit, decodeLossy_cons, hfirst, Nat.add_sub_cancel, List.drop_left, ih,
        List.cons_append]

@[simp]
theorem decodeLossy_encode (t : Text) : decodeLossy (encode t) = t := by
  have h := decodeLossy_encode_append t []
  rwa [List.append_nil, decodeLossy_nil, List.append_nil] at h

theorem decode?_encode (t : Text) : decode? (encode t) = some t := by
  unfold decode?
  rw [decodeLossy_encode, if_pos rfl]

/-- Nothing but the bytes of a text is read as the text. -/
theorem encode_of_decode? {bs : Bytes} {t : Text} (h : decode? bs = some t) : encode t = bs := by
  unfold decode? at h
  simp only at h
  split at h
  next hbytes =>
    cases h
    exact hbytes
  next => cases h

end UnitReview.Text
