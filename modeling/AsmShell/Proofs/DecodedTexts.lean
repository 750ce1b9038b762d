import Mathlib.Data.List.Forall2
import AsmShell.Text.Utf8

/-!
# Decoding what was encoded

The bytes of a character are a first byte, which says how many bytes follow and in which
ranges they lie, and bytes in these ranges.  So the decoder takes them as one unit,
whatever follows, and the bits of the unit are those of the character.  Hence a text is
decoded to itself.  All bytes of a character beyond the first 128 have their highest bit
set; a byte without it stands for a character of its own, which is read from no other
bytes.
-/

namespace AsmShell.Text.Utf8

/-! ## The first byte of a character -/

/-- The byte lies in the range. -/
def InRange (range : UInt8 × UInt8) (byte : UInt8) : Prop :=
  range.1 ≤ byte ∧ byte ≤ range.2

theorem toNat_ofNat
    {value : Nat}
    (small : value < 256) :
    (UInt8.ofNat value).toNat = value :=
  UInt8.toNat_ofNat_of_lt' small

theorem inRange_ofNat
    (lower upper : Nat)
    {value : Nat}
    (lowerSmall : lower < 256)
    (upperSmall : upper < 256)
    (above : lower ≤ value)
    (below : value ≤ upper) :
    InRange (UInt8.ofNat lower, UInt8.ofNat upper) (UInt8.ofNat value) := by
  simp only [InRange, UInt8.le_iff_toNat_le, toNat_ofNat lowerSmall, toNat_ofNat upperSmall,
    toNat_ofNat (Nat.lt_of_le_of_lt below upperSmall)]
  exact ⟨above, below⟩

theorem inRange_continuation
    (value : Nat) :
    InRange continuation (UInt8.ofNat (value % 64 + 128)) :=
  inRange_ofNat 0x80 0xBF (by omega) (by omega) (by omega) (by omega)

/-- The bytes are those of a character: the first one is a lead, and the others lie in its
ranges. -/
structure Spells (first : UInt8) (following : List UInt8) (lead : Lead) (character : Char) :
    Prop where
  isLead : lead? first = some lead
  inRanges : List.Forall₂ InRange lead.following following
  codePoint_eq : codePoint lead.bits following = character.toNat

theorem isValid_toNat
    (character : Char) :
    character.toNat < 0xD800 ∨ 0xDFFF < character.toNat ∧ character.toNat < 0x110000 :=
  character.valid

section

variable
    {character : Char}
    {value : Nat}

theorem exists_spells_one
    (isCode : character.toNat = value)
    (small : value ≤ 0x7F) :
    ∃ lead, Spells (UInt8.ofNat value) [] lead character := by
  refine ⟨⟨value, []⟩, ?_, .nil, isCode.symm⟩
  simp only [lead?, toNat_ofNat (show value < 256 by omega)]
  rw [if_pos (by omega)]

theorem exists_spells_two
    (isCode : character.toNat = value)
    (large : 0x7F < value)
    (small : value ≤ 0x7FF) :
    ∃ lead,
      Spells (UInt8.ofNat (value / 64 % 32 + 192)) [UInt8.ofNat (value % 64 + 128)] lead
        character := by
  refine ⟨⟨value / 64 % 32, [continuation]⟩, ?_, ?_, ?_⟩
  · simp only [lead?, toNat_ofNat (show value / 64 % 32 + 192 < 256 by omega)]
    rw [if_neg (by omega), if_neg (by omega), if_pos (by omega), Nat.add_sub_cancel]
  · exact .cons (inRange_continuation _) .nil
  · simp only [codePoint, List.foldl_cons, List.foldl_nil,
      toNat_ofNat (show value % 64 + 128 < 256 by omega), isCode]
    omega

theorem exists_spells_three
    (isCode : character.toNat = value)
    (large : 0x7FF < value)
    (small : value ≤ 0xFFFF) :
    ∃ lead,
      Spells (UInt8.ofNat (value / 4096 % 16 + 224))
        [UInt8.ofNat (value / 64 % 64 + 128), UInt8.ofNat (value % 64 + 128)] lead character := by
  have valid := isValid_toNat character
  have first := toNat_ofNat (show value / 4096 % 16 + 224 < 256 by omega)
  have code :
      codePoint (value / 4096 % 16)
          [UInt8.ofNat (value / 64 % 64 + 128), UInt8.ofNat (value % 64 + 128)] =
        character.toNat := by
    simp only [codePoint, List.foldl_cons, List.foldl_nil,
      toNat_ofNat (show value / 64 % 64 + 128 < 256 by omega),
      toNat_ofNat (show value % 64 + 128 < 256 by omega), isCode]
    omega
  have last : List.Forall₂ InRange [continuation] [UInt8.ofNat (value % 64 + 128)] :=
    .cons (inRange_continuation _) .nil
  -- The second byte lies in a narrower range where the sequence could be shorter or stand for a
  -- surrogate.
  by_cases least : value / 4096 % 16 + 224 = 0xE0
  · refine ⟨⟨value / 4096 % 16, [(0xA0, 0xBF), continuation]⟩, ?_, ?_, code⟩
    · simp only [lead?, first]
      rw [if_neg (by omega), if_neg (by omega), if_neg (by omega), if_pos least]
      rw [show value / 4096 % 16 = 0 by omega]
    · exact .cons (inRange_ofNat 0xA0 0xBF (by omega) (by omega) (by omega) (by omega)) last
  · by_cases surrogate : value / 4096 % 16 + 224 = 0xED
    · refine ⟨⟨value / 4096 % 16, [(0x80, 0x9F), continuation]⟩, ?_, ?_, code⟩
      · simp only [lead?, first]
        rw [if_neg (by omega), if_neg (by omega), if_neg (by omega), if_neg least,
          if_pos surrogate]
        rw [show value / 4096 % 16 = 13 by omega]
      · exact .cons (inRange_ofNat 0x80 0x9F (by omega) (by omega) (by omega) (by omega)) last
    · refine ⟨⟨value / 4096 % 16, [continuation, continuation]⟩, ?_, ?_, code⟩
      · simp only [lead?, first]
        rw [if_neg (by omega), if_neg (by omega), if_neg (by omega), if_neg least,
          if_neg surrogate, if_pos (by omega), Nat.add_sub_cancel]
      · exact .cons (inRange_continuation _) last

theorem exists_spells_four
    (isCode : character.toNat = value)
    (large : 0xFFFF < value) :
    ∃ lead,
      Spells (UInt8.ofNat (value / 262144 % 8 + 240))
        [UInt8.ofNat (value / 4096 % 64 + 128), UInt8.ofNat (value / 64 % 64 + 128),
          UInt8.ofNat (value % 64 + 128)] lead character := by
  have valid := isValid_toNat character
  have first := toNat_ofNat (show value / 262144 % 8 + 240 < 256 by omega)
  have code :
      codePoint (value / 262144 % 8)
          [UInt8.ofNat (value / 4096 % 64 + 128), UInt8.ofNat (value / 64 % 64 + 128),
            UInt8.ofNat (value % 64 + 128)] =
        character.toNat := by
    simp only [codePoint, List.foldl_cons, List.foldl_nil,
      toNat_ofNat (show value / 4096 % 64 + 128 < 256 by omega),
      toNat_ofNat (show value / 64 % 64 + 128 < 256 by omega),
      toNat_ofNat (show value % 64 + 128 < 256 by omega), isCode]
    omega
  have last :
      List.Forall₂ InRange [continuation, continuation]
        [UInt8.ofNat (value / 64 % 64 + 128), UInt8.ofNat (value % 64 + 128)] :=
    .cons (inRange_continuation _)
      (.cons (inRange_continuation _) .nil)
  -- Here the narrower ranges exclude shorter sequences and what lies behind the last character.
  by_cases least : value / 262144 % 8 + 240 = 0xF0
  · refine ⟨⟨value / 262144 % 8, [(0x90, 0xBF), continuation, continuation]⟩, ?_, ?_, code⟩
    · simp only [lead?, first]
      rw [if_neg (by omega), if_neg (by omega), if_neg (by omega), if_neg (by omega),
        if_neg (by omega), if_neg (by omega), if_pos least]
      rw [show value / 262144 % 8 = 0 by omega]
    · exact .cons (inRange_ofNat 0x90 0xBF (by omega) (by omega) (by omega) (by omega)) last
  · by_cases greatest : value / 262144 % 8 + 240 = 0xF4
    · refine ⟨⟨value / 262144 % 8, [(0x80, 0x8F), continuation, continuation]⟩, ?_, ?_, code⟩
      · simp only [lead?, first]
        rw [if_neg (by omega), if_neg (by omega), if_neg (by omega), if_neg (by omega),
          if_neg (by omega), if_neg (by omega), if_neg least, if_neg (by omega),
          if_pos greatest]
        rw [show value / 262144 % 8 = 4 by omega]
      · exact .cons (inRange_ofNat 0x80 0x8F (by omega) (by omega) (by omega) (by omega)) last
    · refine ⟨⟨value / 262144 % 8, [continuation, continuation, continuation]⟩, ?_, ?_, code⟩
      · simp only [lead?, first]
        rw [if_neg (by omega), if_neg (by omega), if_neg (by omega), if_neg (by omega),
          if_neg (by omega), if_neg (by omega), if_neg least, if_pos (by omega),
          Nat.add_sub_cancel]
      · exact .cons (inRange_continuation _) last

end

/-- The bytes of a character spell it. -/
theorem exists_spells
    (character : Char) :
    ∃ first following lead,
      String.utf8EncodeChar character = first :: following ∧
        Spells first following lead character := by
  have isCode : character.toNat = character.val.toNat := rfl
  simp only [String.utf8EncodeChar]
  split
  · rename_i small
    rcases exists_spells_one isCode small with ⟨lead, spells⟩
    exact ⟨_, _, lead, rfl, spells⟩
  · rename_i notOne
    split
    · rename_i small
      rcases exists_spells_two isCode (Nat.lt_of_not_le notOne) small with ⟨lead, spells⟩
      exact ⟨_, _, lead, rfl, spells⟩
    · rename_i notTwo
      split
      · rename_i small
        rcases exists_spells_three isCode (Nat.lt_of_not_le notTwo) small with ⟨lead, spells⟩
        exact ⟨_, _, lead, rfl, spells⟩
      · rename_i notThree
        rcases exists_spells_four isCode (Nat.lt_of_not_le notThree) with ⟨lead, spells⟩
        exact ⟨_, _, lead, rfl, spells⟩

/-! ## Decoding a text -/

theorem fitting_append
    {ranges : List (UInt8 × UInt8)}
    {following : List UInt8}
    (inRanges : List.Forall₂ InRange ranges following)
    (rest : List UInt8) :
    fitting ranges (following ++ rest) = following := by
  induction inRanges with
  | nil =>
      rw [fitting]
      rintro _ _ _ _ ⟨⟩
  | cons inRange _ othersHypothesis =>
      rw [List.cons_append, fitting, othersHypothesis]
      simp [inRange.1, inRange.2]

theorem Spells.firstUnit_append
    {first : UInt8}
    {following : List UInt8}
    {lead : Lead}
    {character : Char}
    (spells : Spells first following lead character)
    (rest : List UInt8) :
    firstUnit first (following ++ rest) = (some character, following.length) := by
  rw [firstUnit, spells.isLead]
  simp only [fitting_append spells.inRanges, spells.inRanges.length_eq, if_true,
    spells.codePoint_eq, Char.ofNat_toNat]

theorem unitsFrom_covered
    (front back : List UInt8) :
    unitsFrom front.length (front ++ back) = unitsFrom 0 back := by
  induction front with
  | nil => rfl
  | cons byte front frontHypothesis => exact frontHypothesis

/-- The bytes of a character are the first unit of every text that begins with it. -/
theorem unitsFrom_utf8EncodeChar_append
    (character : Char)
    (rest : List UInt8) :
    unitsFrom 0 (String.utf8EncodeChar character ++ rest) =
      some character :: unitsFrom 0 rest := by
  rcases exists_spells character with ⟨first, following, lead, bytes, spells⟩
  rw [bytes, List.cons_append, unitsFrom, spells.firstUnit_append]
  exact congrArg (some character :: ·) (unitsFrom_covered following rest)

/-- A text is decoded to itself. -/
theorem decodeLossy_encode
    (text : List Char) :
    decodeLossy (encode text) = text := by
  induction text with
  | nil => rfl
  | cons character rest restHypothesis =>
      have units := unitsFrom_utf8EncodeChar_append character (encode rest)
      rw [encode, List.flatMap_cons, decodeLossy]
      rw [encode] at units
      rw [units]
      exact congrArg (character :: ·) restHypothesis

theorem encode_append
    (front back : List Char) :
    encode (front ++ back) = encode front ++ encode back :=
  List.flatMap_append

/-- The bytes of a string are those of its characters. -/
theorem toList_data_toUTF8
    (text : String) :
    text.toUTF8.data.toList = encode text.toList := by
  rw [String.toUTF8_eq_toByteArray, ← String.utf8Encode_toList, List.utf8Encode,
    List.data_toByteArray]
  rfl

/-! ## Single bytes -/

/-- A byte without its highest bit is the only byte of its character. -/
theorem eq_singleton_of_mem_utf8EncodeChar
    {character : Char}
    {byte : UInt8}
    (member : byte ∈ String.utf8EncodeChar character)
    (low : byte.toNat < 0x80) :
    character.toNat = byte.toNat ∧ String.utf8EncodeChar character = [byte] := by
  have large {value : Nat} (small : value < 256) (high : 0x80 ≤ value)
      (same : byte = UInt8.ofNat value) : False := by
    rw [same, toNat_ofNat small] at low
    omega
  simp only [String.utf8EncodeChar] at member ⊢
  split at member
  · rename_i small
    rw [List.mem_singleton.1 member, if_pos small, toNat_ofNat (by omega)]
    exact ⟨rfl, rfl⟩
  · exfalso
    split at member
    · simp only [List.mem_cons, List.not_mem_nil, or_false] at member
      rcases member with same | same <;> exact large (by omega) (by omega) same
    · split at member <;> simp only [List.mem_cons, List.not_mem_nil, or_false] at member
      · rcases member with same | same | same <;> exact large (by omega) (by omega) same
      · rcases member with same | same | same | same <;> exact large (by omega) (by omega) same

/-! ## Characters that are read from bytes -/

theorem forall₂_fitting
    {ranges : List (UInt8 × UInt8)}
    {bytes : List UInt8}
    (complete : (fitting ranges bytes).length = ranges.length) :
    List.Forall₂ InRange ranges (fitting ranges bytes) := by
  induction ranges generalizing bytes with
  | nil =>
      rw [List.eq_nil_of_length_eq_zero complete]
      exact .nil
  | cons range ranges rangesHypothesis =>
      cases bytes with
      | nil => cases complete
      | cons byte rest =>
          rw [fitting] at complete ⊢
          split at complete
          · rename_i inRange
            rw [if_pos inRange]
            rw [Bool.and_eq_true, decide_eq_true_iff, decide_eq_true_iff] at inRange
            exact .cons inRange (rangesHypothesis (Nat.succ.inj complete))
          · cases complete

/-- The ranges behind a lead leave out what a shorter sequence could spell. -/
theorem lead?_cases
    {first : UInt8}
    {lead : Lead}
    (isLead : lead? first = some lead) :
    (lead.following = [] ∧ lead.bits = first.toNat) ∨
      (∃ range, lead.following = [range] ∧ 2 ≤ lead.bits) ∨
      ∃ range next others,
        lead.following = range :: next :: others ∧
          128 ≤ range.1.toNat ∧ range.2.toNat < 192 ∧ 2 ≤ lead.bits * 64 + range.1.toNat % 64 := by
  have ofBits {bits number : Nat} (positive : 0 < bits) : 2 ≤ bits * 64 + number :=
    Nat.le_add_right_of_le (by omega)
  simp only [lead?] at isLead
  repeat' split at isLead
  · rw [← Option.some.inj isLead]
    exact .inl ⟨rfl, rfl⟩
  · cases isLead
  · rw [← Option.some.inj isLead]
    exact .inr (.inl ⟨_, rfl, show 2 ≤ first.toNat - 0xC0 by omega⟩)
  · rw [← Option.some.inj isLead]
    exact .inr (.inr ⟨_, _, _, rfl, by decide, by decide, by decide⟩)
  · rw [← Option.some.inj isLead]
    exact .inr (.inr ⟨_, _, _, rfl, by decide, by decide, by decide⟩)
  · rw [← Option.some.inj isLead]
    refine .inr (.inr ⟨_, _, _, rfl, by decide, by decide, ofBits ?_⟩)
    show 0 < first.toNat - 0xE0
    omega
  · rw [← Option.some.inj isLead]
    exact .inr (.inr ⟨_, _, _, rfl, by decide, by decide, by decide⟩)
  · rw [← Option.some.inj isLead]
    refine .inr (.inr ⟨_, _, _, rfl, by decide, by decide, ofBits ?_⟩)
    show 0 < first.toNat - 0xF0
    omega
  · rw [← Option.some.inj isLead]
    exact .inr (.inr ⟨_, _, _, rfl, by decide, by decide, by decide⟩)
  · cases isLead

theorem bits_le_codePoint
    (bits : Nat)
    (following : List UInt8) :
    bits ≤ codePoint bits following := by
  induction following generalizing bits with
  | nil => exact Nat.le_refl bits
  | cons byte rest restHypothesis =>
      exact Nat.le_trans (by omega) (restHypothesis (bits * 64 + byte.toNat % 64))

/-- What several bytes spell lies beyond the first 128 characters. -/
theorem le_codePoint_of_following
    {first : UInt8}
    {following : List UInt8}
    {lead : Lead}
    (isLead : lead? first = some lead)
    (inRanges : List.Forall₂ InRange lead.following following)
    (several : lead.following ≠ []) :
    0x80 ≤ codePoint lead.bits following := by
  rcases lead?_cases isLead with ⟨alone, _⟩ | ⟨range, single, large⟩ |
    ⟨range, next, others, ranges, above, below, large⟩
  · exact absurd alone several
  · rw [single] at inRanges
    rcases List.forall₂_cons_left_iff.1 inRanges with ⟨byte, rest, _, isRest, rfl⟩
    have grows := bits_le_codePoint (lead.bits * 64 + byte.toNat % 64) rest
    show 0x80 ≤ codePoint (lead.bits * 64 + byte.toNat % 64) rest
    omega
  · rw [ranges] at inRanges
    rcases List.forall₂_cons_left_iff.1 inRanges with ⟨byte, rest, inRange, othersInRanges, rfl⟩
    rcases List.forall₂_cons_left_iff.1 othersInRanges with ⟨second, behind, _, _, rfl⟩
    have lower : range.1.toNat ≤ byte.toNat := UInt8.le_iff_toNat_le.1 inRange.1
    have upper : byte.toNat ≤ range.2.toNat := UInt8.le_iff_toNat_le.1 inRange.2
    have grows :=
      bits_le_codePoint
        ((lead.bits * 64 + byte.toNat % 64) * 64 + second.toNat % 64) behind
    show 0x80 ≤ codePoint ((lead.bits * 64 + byte.toNat % 64) * 64 + second.toNat % 64) behind
    omega

/-- A code point is that of its character, unless there is none and zero stands for it. -/
theorem toNat_ofNat_of_pos
    {code : Nat}
    (positive : 0 < (Char.ofNat code).toNat) :
    (Char.ofNat code).toNat = code := by
  by_cases valid : code.isValidChar
  · rw [Char.ofNat, dif_pos valid]
    rfl
  · rw [Char.ofNat, dif_neg valid] at positive
    exact absurd positive (by decide)

/-- A unit that stands for one of the first 128 characters is the byte with the same number. -/
theorem toNat_eq_of_firstUnit
    {first : UInt8}
    {rest : List UInt8}
    {character : Char}
    (unit : (firstUnit first rest).1 = some character)
    (positive : 0 < character.toNat)
    (low : character.toNat < 0x80) :
    character.toNat = first.toNat := by
  rw [firstUnit] at unit
  cases isLead : lead? first with
  | none =>
      rw [isLead] at unit
      cases unit
  | some lead =>
      simp only [isLead] at unit
      split at unit
      · rename_i complete
        have inRanges := forall₂_fitting complete
        rw [← Option.some.inj unit] at positive low ⊢
        rw [toNat_ofNat_of_pos positive] at low ⊢
        by_cases alone : lead.following = []
        · rcases lead?_cases isLead with ⟨_, bits⟩ | ⟨_, single, _⟩ | ⟨_, _, _, several, _⟩
          · rw [alone, bits]
            rfl
          · rw [alone] at single
            cases single
          · rw [alone] at several
            cases several
        · have large := le_codePoint_of_following isLead inRanges alone
          omega
      · cases unit

theorem exists_byte_of_mem_unitsFrom
    {covered : Nat}
    {bytes : List UInt8}
    {character : Char}
    (member : some character ∈ unitsFrom covered bytes)
    (positive : 0 < character.toNat)
    (low : character.toNat < 0x80) :
    ∃ byte ∈ bytes, byte.toNat = character.toNat := by
  induction bytes generalizing covered with
  | nil => cases member
  | cons first rest restHypothesis =>
      have further {length : Nat} (inRest : some character ∈ unitsFrom length rest) :
          ∃ byte ∈ first :: rest, byte.toNat = character.toNat := by
        rcases restHypothesis inRest with ⟨byte, inBytes, same⟩
        exact ⟨byte, List.mem_cons_of_mem _ inBytes, same⟩
      cases covered with
      | succ stillCovered => exact further member
      | zero =>
          rw [unitsFrom] at member
          rcases List.mem_cons.1 member with isUnit | inRest
          · exact ⟨first, List.mem_cons_self,
              (toNat_eq_of_firstUnit isUnit.symm positive low).symm⟩
          · exact further inRest

/-- One of the first 128 characters is read only where its byte stands. -/
theorem exists_byte_of_mem_decodeLossy
    {bytes : List UInt8}
    {character : Char}
    (member : character ∈ decodeLossy bytes)
    (positive : 0 < character.toNat)
    (low : character.toNat < 0x80) :
    ∃ byte ∈ bytes, byte.toNat = character.toNat := by
  rcases List.mem_map.1 member with ⟨unit, inUnits, same⟩
  cases unit with
  | some found =>
      rw [show found = character from same] at inUnits
      exact exists_byte_of_mem_unitsFrom inUnits positive low
  | none =>
      rw [← same] at low
      exact absurd low (by decide)

end AsmShell.Text.Utf8
