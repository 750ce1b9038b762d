import AsmShell.Proofs.ArgumentPieces
import AsmShell.Proofs.FloatGrammar
import AsmShell.Proofs.HopelessTokens
import AsmShell.Proofs.LeadingBlanks
import AsmShell.Proofs.PrintedValues
import AsmShell.Proofs.TokenTiling
import Mathlib.Data.Int.ModEq
import Mathlib.Data.List.Basic
import Mathlib.Data.Nat.Digits.Defs

/-!
# What number tokens say

The text of an integer token writes a number in one of four bases.  In base ten it stands
for this number, which has to be in the signed range; in the other bases it stands for the
signed number with the same 64 bits.  Which of the two it is, and that a token out of range
stands for nothing, does not depend on the number of digits.

The spelling of a float token is part of the grammar of floating-point numbers, so every
float token is read as a number, and no line is refused for one.
-/

namespace AsmShell

open Text Text.Pattern

/-! ## The number that an integer token writes -/

/-- The digits of the bases up to sixteen, in the order of their values. -/
def digitsInOrder : List Char :=
  "0123456789abcdef".toList

/-- The value of a digit, whose letters are taken in either case. -/
def digitPlace (digit : Char) : Nat :=
  digitsInOrder.idxOf digit.toLower

/-- The number that digits write, the last of them counting ones. -/
def positionalValue (base : Nat) (digits : List Char) : Nat :=
  Nat.ofDigits base (digits.map digitPlace).reverse

/-- The letters that stand for bases behind a zero. -/
def baseMarks : List (Char × Nat) :=
  [('x', 16), ('X', 16), ('b', 2), ('B', 2), ('o', 8), ('O', 8)]

/-- The text writes the number in the base. -/
inductive WritesNumber : (text : List Char) → (base value : Nat) → Prop where
  | decimal {digits : List Char} :
      digits ≠ [] →
      (∀ digit ∈ digits, digitPlace digit < 10) →
      WritesNumber digits 10 (positionalValue 10 digits)
  | marked {mark : Char} {base : Nat} {digits : List Char} :
      (mark, base) ∈ baseMarks →
      digits ≠ [] →
      (∀ digit ∈ digits, digitPlace digit < base) →
      WritesNumber ('0' :: mark :: digits) base (positionalValue base digits)

/--
What a number written in a base has to be converted to.  In base ten it is the number
itself if it is less than `2 ^ 63`.  In other bases it is the signed number that leaves the
same remainder by `2 ^ 64` if the number is less than `2 ^ 64`.  Otherwise it is nothing.
-/
def ConvertsTo (base value : Nat) : Option Int64 → Prop
  | some number =>
      if base = 10 then value < 2 ^ 63 ∧ number.toInt = value
      else value < 2 ^ 64 ∧ Int.ModEq (2 ^ 64) number.toInt value
  | none =>
      if base = 10 then 2 ^ 63 ≤ value else 2 ^ 64 ≤ value

/-! ## Digits -/

/-- What comes before sixteen in the order of the digits is a letter or a decimal digit. -/
theorem isNameChar_of_digitPlace_lt
    {digit : Char}
    (below : digitPlace digit < 16) :
    isNameChar digit = true := by
  have listed : digit.toLower ∈ digitsInOrder := List.idxOf_lt_length_iff.1 below
  have checked : digitsInOrder.all isNameChar = true := by decide
  by_cases capital : 'A' ≤ digit ∧ digit ≤ 'Z'
  · simp [isNameChar, isNameStart, capital]
  · have same : digit.toLower = digit := dif_neg capital
    rw [same] at listed
    exact List.all_eq_true.1 checked digit listed

theorem digitPlace_eq_digitValue
    {digit : Char}
    (below : digitPlace digit < 16) :
    digitPlace digit = digitValue digit := by
  have checked :
      ∀ digit, isNameChar digit = true → digitPlace digit < 16 →
        digitPlace digit = digitValue digit := by
    apply forall_isNameChar
    decide +kernel
  exact checked digit (isNameChar_of_digitPlace_lt below) below

theorem isDigit_of_digitPlace_lt
    {digit : Char}
    (below : digitPlace digit < 10) :
    isDigit digit = true := by
  have checked :
      ∀ digit, isNameChar digit = true → digitPlace digit < 10 → isDigit digit = true := by
    apply forall_isNameChar
    decide +kernel
  exact checked digit (isNameChar_of_digitPlace_lt (by omega)) below

/-- Digits of a base, checked one by one. -/
theorem digitPlace_lt_of_all
    {digits : List Char}
    {base : Nat}
    (checked : (digits.all fun digit => digitPlace digit < base) = true) :
    ∀ digit ∈ digits, digitPlace digit < base := by
  simpa using checked

theorem digitPlace_of_isDigit
    {digit : Char}
    (accepted : isDigit digit = true) :
    digitPlace digit < 10 :=
  digitPlace_lt_of_all (by decide +kernel) digit (mem_decimalDigits accepted)

theorem digitPlace_of_isOctalDigit
    {digit : Char}
    (accepted : isOctalDigit digit = true) :
    digitPlace digit < 8 := by
  have bounds : '0' ≤ digit ∧ digit ≤ '7' := by simpa [isOctalDigit] using accepted
  have decimal : isDigit digit = true := by
    simp [isDigit, bounds.1, Char.le_trans bounds.2 (show '7' ≤ '9' by decide)]
  have member : digit ∈ decimalDigits.filter isOctalDigit :=
    List.mem_filter.2 ⟨mem_decimalDigits decimal, accepted⟩
  exact digitPlace_lt_of_all (by decide +kernel) digit member

theorem digitPlace_of_isBinaryDigit
    {digit : Char}
    (accepted : isBinaryDigit digit = true) :
    digitPlace digit < 2 := by
  simp only [isBinaryDigit, Bool.or_eq_true, beq_iff_eq] at accepted
  rcases accepted with rfl | rfl
  · decide
  · decide

theorem digitPlace_of_isHexDigit
    {digit : Char}
    (accepted : isHexDigit digit = true) :
    digitPlace digit < 16 := by
  have checked :
      ∀ digit, isNameChar digit = true → isHexDigit digit = true → digitPlace digit < 16 := by
    apply forall_isNameChar
    decide +kernel
  refine checked digit ?_ accepted
  simp only [isHexDigit, Bool.or_eq_true, Bool.and_eq_true, decide_eq_true_eq] at accepted
  rcases accepted with (decimal | ⟨lower, upper⟩) | ⟨lower, upper⟩
  · exact isNameChar_of_isDigit decimal
  · have letter : digit ≤ 'z' := Char.le_trans upper (by decide)
    simp [isNameChar, isNameStart, lower, letter]
  · have letter : digit ≤ 'Z' := Char.le_trans upper (by decide)
    simp [isNameChar, isNameStart, lower, letter]

theorem positionalValue_eq_valueOfDigits
    {digits : List Char}
    (areDigits : ∀ digit ∈ digits, digitPlace digit < 16)
    (base : Nat) :
    positionalValue base digits = valueOfDigits base digits := by
  rw [positionalValue, valueOfDigits, Nat.ofDigits_eq_foldr, List.foldr_reverse, List.foldl_map]
  refine List.foldl_ext _ _ _ fun value digit member => ?_
  rw [digitPlace_eq_digitValue (areDigits digit member), Nat.add_comm, Nat.mul_comm]
  rfl

/-! ## Conversion -/

theorem convertsTo_decimal
    (value : Nat) :
    ConvertsTo 10 value
      (if value < Number.signedBound then some (Int64.ofNat value) else none) := by
  by_cases inRange : value < 2 ^ 63
  · rw [if_pos (show value < Number.signedBound from inRange)]
    exact ⟨inRange, Int64.toInt_ofNat_of_lt inRange⟩
  · rw [if_neg (show ¬ value < Number.signedBound from inRange)]
    exact Nat.le_of_not_lt inRange

theorem convertsTo_bitPattern
    {base : Nat}
    (notTen : base ≠ 10)
    (value : Nat) :
    ConvertsTo base value
      (if value < Number.patternCount then some (Int64.ofNat value) else none) := by
  by_cases inRange : value < 2 ^ 64
  · rw [if_pos (show value < Number.patternCount from inRange), ConvertsTo, if_neg notTen]
    refine ⟨inRange, ?_⟩
    rw [Int64.toInt_ofNat']
    exact Int.bmod_emod
  · rw [if_neg (show ¬ value < Number.patternCount from inRange), ConvertsTo, if_neg notTen]
    exact Nat.le_of_not_lt inRange

theorem readInteger?_marked
    {mark : Char}
    {base : Nat}
    (listed : (mark, base) ∈ baseMarks)
    (digits : List Char) :
    Number.readInteger? (String.ofList ('0' :: mark :: digits)) =
      Number.readBitPattern? base digits := by
  have named : Number.baseOfMark? mark = some base := by
    have checked :
        ∀ entry ∈ baseMarks, Number.baseOfMark? entry.1 = some entry.2 := by decide
    exact checked _ listed
  rw [Number.readInteger?, String.toList_ofList]
  simp only [named]

/-- A text that writes a number is converted to what the number has to be converted to. -/
theorem WritesNumber.convertsTo
    {text : List Char}
    {base value : Nat}
    (writes : WritesNumber text base value) :
    ConvertsTo base value (Number.readInteger? (String.ofList text)) := by
  cases writes with
  | decimal nonempty small =>
      rcases List.exists_cons_of_ne_nil nonempty with ⟨first, rest, rfl⟩
      have allDigits : ∀ digit ∈ first :: rest, isDigit digit = true :=
        fun digit member => isDigit_of_digitPlace_lt (small digit member)
      have areDigits : ∀ digit ∈ first :: rest, digitPlace digit < 16 :=
        fun digit member => Nat.lt_trans (small digit member) (by decide)
      rw [positionalValue_eq_valueOfDigits areDigits, readInteger?_digits allDigits]
      exact convertsTo_decimal _
  | @marked mark _ digits listed nonempty small =>
      have bounds : ∀ entry ∈ baseMarks, entry.2 ≤ 16 ∧ entry.2 ≠ 10 := by decide
      rcases bounds _ listed with ⟨atMost, notTen⟩
      have areDigits : ∀ digit ∈ digits, digitPlace digit < 16 :=
        fun digit member => Nat.lt_of_lt_of_le (small digit member) atMost
      have smallValues : ∀ digit ∈ digits, digitValue digit < base := by
        intro digit member
        rw [← digitPlace_eq_digitValue (areDigits digit member)]
        exact small digit member
      rw [positionalValue_eq_valueOfDigits areDigits, readInteger?_marked listed,
        Number.readBitPattern?,
        readNatural?_digits (Nat.le_trans atMost (by decide)) nonempty smallValues]
      exact convertsTo_bitPattern notTen _

theorem exists_writes_of_based
    {lower upper : Char}
    {base : Nat}
    {isBaseDigit : Char → Bool}
    {text : List Char}
    (lowerListed : (lower, base) ∈ baseMarks)
    (upperListed : (upper, base) ∈ baseMarks)
    (small : ∀ digit, isBaseDigit digit = true → digitPlace digit < base)
    (matched : (Spelling.based lower upper isBaseDigit).Matches text) :
    ∃ base value, WritesNumber text base value := by
  rcases (matches_oneOf_seq_iff _ _ _).1 matched with ⟨zero, behind, rfl, isZero, matched⟩
  rcases (matches_oneOf_seq_iff _ _ _).1 matched with ⟨mark, digits, rfl, isMark, matched⟩
  rcases exists_cons_of_matches_plus matched with ⟨first, rest, rfl, allDigits⟩
  have listed : (mark, base) ∈ baseMarks := by
    simp only [Bool.or_eq_true, beq_iff_eq] at isMark
    rcases isMark with rfl | rfl
    · exact lowerListed
    · exact upperListed
  rw [eq_of_beq isZero]
  exact ⟨base, _, .marked listed (List.cons_ne_nil _ _)
    fun digit member => small digit (allDigits digit member)⟩

/-- What is spelled as an integer writes a number. -/
theorem exists_writes_of_matches_integer
    {text : List Char}
    (matched : Spelling.integer.Matches text) :
    ∃ base value, WritesNumber text base value := by
  rcases (matches_alt_iff _ _ _).1 matched with decimal | matched
  · rcases exists_cons_of_matches_plus decimal with ⟨first, rest, rfl, allDigits⟩
    exact ⟨10, _, .decimal (List.cons_ne_nil _ _)
      fun digit member => digitPlace_of_isDigit (allDigits digit member)⟩
  rcases (matches_alt_iff _ _ _).1 matched with hexadecimal | matched
  · exact exists_writes_of_based (by decide) (by decide)
      (fun _ => digitPlace_of_isHexDigit) hexadecimal
  rcases (matches_alt_iff _ _ _).1 matched with binary | octal
  · exact exists_writes_of_based (by decide) (by decide)
      (fun _ => digitPlace_of_isBinaryDigit) binary
  · exact exists_writes_of_based (by decide) (by decide)
      (fun _ => digitPlace_of_isOctalDigit) octal

/-! ## Tokens of a line -/

/-- The text of a number token of a line is spelled as its kind is. -/
theorem matches_text_of_mem_tokenize
    {line : String}
    {token : Token}
    (member : token ∈ tokenize line)
    (isNumber : token.kind = .integer ∨ token.kind = .float) :
    token.kind.pattern.Matches token.text.toList := by
  have inside : token.kind ≠ .endOfLine := by
    rcases isNumber with kind | kind <;> simp [kind]
  have known : token.kind ≠ .unknown := by
    rcases isNumber with kind | kind <;> simp [kind]
  rcases exists_source_of_mem_tokenize member inside with ⟨back, _, takes, same⟩
  have text_eq : token.text.toList = (token.span.slice line).toList := by
    rw [congrArg Token.text same, Token.ofSource, String.toList_ofList]
    rcases isNumber with kind | kind <;> rw [kind] <;> rfl
  rw [text_eq]
  exact takes.matches_pattern known

theorem matches_float_of_mem_tokenize
    {line : String}
    {token : Token}
    (member : token ∈ tokenize line)
    (isFloat : token.kind = .float) :
    FloatGrammar.float.Matches token.text.toList := by
  have matched := matches_text_of_mem_tokenize member (Or.inr isFloat)
  rw [isFloat] at matched
  exact matches_float_of_spelling matched

/-! ## No line is refused for a float -/

theorem Reading.leaf_eq_invalidFloat
    {token : Token}
    (refused : Reading.leaf token = .error .invalidFloat) :
    token.kind = .float ∧ Number.readFloat? token.text = none := by
  unfold Reading.leaf at refused
  split at refused
  case h_2 =>
      split at refused <;> cases refused
  case h_3 isFloat =>
      split at refused
      · cases refused
      · rename_i unread
        exact ⟨isFloat, unread⟩
  all_goals cases refused

theorem fault_ne_invalidFloat
    {line : String}
    {error : SyntaxError}
    (member : error ∈ (parseLine line).errors) :
    error.fault ≠ .invalidFloat := by
  intro fault
  rcases List.append_of_mem member with ⟨before, after, errors⟩
  rcases exists_readArgument_of_errors errors (by simp [fault]) with
    ⟨reader, _, _, _, isSuffix, failed, _⟩
  rcases Parser.exists_stopped_of_readArgument failed (by simp [fault]) (by simp [fault]) with
    ⟨passed, stopped, rest, _, noLeaf, _⟩
  rw [fault] at noLeaf
  rcases Reading.leaf_eq_invalidFloat noLeaf with ⟨isFloat, unread⟩
  have inLine : stopped.current ∈ tokenize line := by
    apply isSuffix.subset
    rw [rest, stopped.rest_eq_current_cons (by simp [isFloat])]
    exact List.mem_append_right _ List.mem_cons_self
  have read := (isSome_readFloat?_iff _).2 (matches_float_of_mem_tokenize inLine isFloat)
  rw [unread] at read
  cases read

/--
Each integer token of a line writes a number in one of four bases.  It is converted to this
number, to the signed number with the same 64 bits or to nothing, as the base and the size
of the number demand.  Each float token is a text of the grammar of floating-point numbers
and is read as a number, so no error of the line is about a float.
-/
theorem number_tokens_convert_exactly
    (line : String) :
    (∀ token ∈ tokenize line, token.kind = .integer →
      (∃ base value, WritesNumber token.text.toList base value) ∧
        ∀ base value,
          WritesNumber token.text.toList base value →
          ConvertsTo base value (Number.readInteger? token.text)) ∧
    (∀ token ∈ tokenize line, token.kind = .float →
      FloatGrammar.float.Matches token.text.toList ∧
        (Number.readFloat? token.text).isSome = true) ∧
    ∀ error ∈ (parseLine line).errors, error.message ≠ "invalid floating-point literal" := by
  refine ⟨fun token member isInteger => ?_, fun token member isFloat => ?_, ?_⟩
  · have matched := matches_text_of_mem_tokenize member (Or.inl isInteger)
    rw [isInteger] at matched
    refine ⟨exists_writes_of_matches_integer matched, fun base value writes => ?_⟩
    have converted := writes.convertsTo
    rwa [String.ofList_toList] at converted
  · have matched := matches_float_of_mem_tokenize member isFloat
    exact ⟨matched, (isSome_readFloat?_iff _).2 matched⟩
  · intro error member
    have fault := fault_ne_invalidFloat member
    rw [SyntaxError.message]
    cases kind : error.fault with
    | invalidFloat => exact absurd kind fault
    | _ => decide

/-- Leading zeros, a capital mark with the sign bit set, and a number that is one too large. -/
theorem number_tokens_convert_exactly_of_bounds :
    ConvertsTo 10 7 (Number.readInteger? "007") ∧
      ConvertsTo 16 (2 ^ 63) (Number.readInteger? "0X8000000000000000") ∧
      ConvertsTo 10 (2 ^ 63) (Number.readInteger? "9223372036854775808") ∧
      FloatGrammar.float.Matches "1.5e-3".toList ∧
      (Number.readFloat? "1.5e-3").isSome = true := by
  have seven : WritesNumber "007".toList 10 7 :=
    .decimal (by decide) (digitPlace_lt_of_all (by decide))
  have signBit : WritesNumber "0X8000000000000000".toList 16 (2 ^ 63) :=
    .marked (by decide) (by decide) (digitPlace_lt_of_all (by decide))
  have tooLarge : WritesNumber "9223372036854775808".toList 10 (2 ^ 63) :=
    .decimal (by decide) (digitPlace_lt_of_all (by decide))
  let number (span : Span) (text : String) : Token := ⟨.integer, span, text⟩
  have scanned :
      tokenize "007 0X8000000000000000 9223372036854775808 1.5e-3" =
        [number ⟨0, 2⟩ "007", number ⟨4, 21⟩ "0X8000000000000000",
         number ⟨23, 41⟩ "9223372036854775808", ⟨.float, ⟨43, 48⟩, "1.5e-3"⟩,
         .endOfLine 49] := by
    decide +kernel
  rcases number_tokens_convert_exactly "007 0X8000000000000000 9223372036854775808 1.5e-3" with
    ⟨integers, floats, _⟩
  rw [scanned] at integers floats
  exact ⟨(integers (number ⟨0, 2⟩ "007") (by simp) rfl).2 _ _ seven,
    (integers (number ⟨4, 21⟩ "0X8000000000000000") (by simp) rfl).2 _ _ signBit,
    (integers (number ⟨23, 41⟩ "9223372036854775808") (by simp) rfl).2 _ _ tooLarge,
    floats ⟨.float, ⟨43, 48⟩, "1.5e-3"⟩ (by simp) rfl⟩

end AsmShell
