import AsmShell.Proofs.DecodedTexts

/-!
# The order of texts is the order of their bytes

The first bytes of characters lie in ranges of their own for one, two, three and four
bytes, in this order, and in bytes of the same number the bits of the character stand in
their order.  So the bytes of an earlier character come before those of a later one,
whatever follows them.  Hence texts that are compared character by character are
compared as their bytes are.
-/

namespace AsmShell.Text.Utf8

theorem ofNat_cons_lt_iff
    {low high : Nat}
    (lowSmall : low < 256)
    (highSmall : high < 256)
    (behindLow behindHigh : List UInt8) :
    UInt8.ofNat low :: behindLow < UInt8.ofNat high :: behindHigh ↔
      low < high ∨ low = high ∧ behindLow < behindHigh := by
  rw [List.cons_lt_cons_iff, UInt8.lt_iff_toNat_lt, ← UInt8.toNat_inj, toNat_ofNat lowSmall,
    toNat_ofNat highSmall]

/-- The bytes of an earlier character come first, whatever follows. -/
theorem utf8EncodeChar_append_lt
    {earlier later : Char}
    (before : earlier < later)
    (behindEarlier behindLater : List UInt8) :
    String.utf8EncodeChar earlier ++ behindEarlier <
      String.utf8EncodeChar later ++ behindLater := by
  have values : earlier.val.toNat < later.val.toNat := before
  have valid := isValid_toNat later
  simp only [Char.toNat] at valid
  simp only [String.utf8EncodeChar]
  generalize earlier.val.toNat = low at *
  generalize later.val.toNat = high at *
  -- The later character has at least as many bytes.  With more bytes its first byte is greater,
  -- and with as many bytes the first one that differs is.
  by_cases lowOne : low ≤ 0x7F
  · simp only [if_pos lowOne, List.cons_append, List.nil_append]
    split_ifs <;> simp (disch := omega) only [List.cons_append, ofNat_cons_lt_iff] <;> omega
  · by_cases lowTwo : low ≤ 0x7FF
    · rw [if_neg lowOne, if_pos lowTwo, if_neg (show ¬ high ≤ 0x7F by omega)]
      split_ifs <;> simp (disch := omega) only [List.cons_append, ofNat_cons_lt_iff] <;> omega
    · rw [if_neg lowOne, if_neg lowTwo, if_neg (show ¬ high ≤ 0x7F by omega),
        if_neg (show ¬ high ≤ 0x7FF by omega)]
      by_cases lowThree : low ≤ 0xFFFF
      · rw [if_pos lowThree]
        split_ifs <;> simp (disch := omega) only [List.cons_append, ofNat_cons_lt_iff] <;> omega
      · rw [if_neg lowThree, if_neg (show ¬ high ≤ 0xFFFF by omega)]
        have lowFirst : low / 262144 % 8 = low / 262144 := by omega
        have highFirst : high / 262144 % 8 = high / 262144 := by omega
        simp (disch := omega) only [List.cons_append, ofNat_cons_lt_iff, lowFirst, highFirst]
        omega

/-- An earlier text has the earlier bytes. -/
theorem encode_lt_encode
    {earlier later : List Char}
    (before : earlier < later) :
    encode earlier < encode later := by
  induction before with
  | @nil character rest =>
      rcases exists_spells character with ⟨first, following, _, bytes, _⟩
      rw [encode, encode, List.flatMap_nil, List.flatMap_cons, bytes, List.cons_append]
      exact List.nil_lt_cons _ _
  | rel firstBefore =>
      exact utf8EncodeChar_append_lt firstBefore _ _
  | cons _ restHypothesis =>
      rw [encode, encode, List.flatMap_cons, List.flatMap_cons]
      exact List.append_left_lt restHypothesis

theorem toUTF8_lt_toUTF8_iff
    (first second : String) :
    first.toUTF8.data.toList < second.toUTF8.data.toList ↔ first < second := by
  rw [toList_data_toUTF8, toList_data_toUTF8]
  constructor
  · intro bytesBefore
    apply Decidable.by_contra
    intro notBefore
    by_cases behind : second < first
    · exact List.lt_asymm bytesBefore (encode_lt_encode behind)
    · have same : first = second :=
        String.le_antisymm (String.not_lt.1 behind) (String.not_lt.1 notBefore)
      exact List.lt_irrefl _ (same ▸ bytesBefore)
  · exact encode_lt_encode

theorem toUTF8_le_toUTF8_iff
    (first second : String) :
    first.toUTF8.data.toList ≤ second.toUTF8.data.toList ↔ first ≤ second :=
  not_congr (toUTF8_lt_toUTF8_iff second first)

end AsmShell.Text.Utf8
