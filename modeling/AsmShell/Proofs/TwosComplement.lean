import AsmShell.Expr
import Mathlib.Data.Int.Bitwise

/-!
# Integers compute in two's complement

An integer of 64 bits stands for a whole number, and every operator on integers is an
operator on whole numbers behind which the result is reduced modulo `2 ^ 64`: a
quotient is cut off toward zero, a shift multiplies by a power of two or divides by it
rounding down, and the operators on bits see the two's complement of a whole number,
which goes on to the left without an end.  Only a zero divisor and a number of places
outside of the word have no result.

`Expr.wholeEval` evaluates an expression in whole numbers.  What it does to the result
of each operator is left open: with `Number.reduced` it is the reference for
evaluation, and with the identity it is exact.  The operators of a ring respect the
reduction, so in a tree without other operators it can be put off to the end.
-/

namespace AsmShell

/-! ## Reduction -/

namespace Number

/-- The whole number from `-2 ^ 63` up to but without `2 ^ 63` that differs from the given one by
a multiple of `2 ^ 64`. -/
def reduced (number : Int) : Int :=
  (number + signedBound) % patternCount - signedBound

theorem reduced_eq_bmod
    (number : Int) :
    reduced number = number.bmod (2 ^ 64) := by
  have bound : (signedBound : Int) = 2 ^ 63 := rfl
  have count : (patternCount : Int) = 2 ^ 64 := rfl
  rw [reduced, bound, count, Int.bmod_def]
  omega

/-- The number of a word is reduced already. -/
theorem reduced_toInt
    (word : Int64) :
    reduced word.toInt = word.toInt := by
  rw [reduced_eq_bmod]
  exact word.toInt_bmod

/-! ## Bits -/

theorem getLsbD_ofInt
    (number : Int)
    {place : Nat}
    (inWord : place < 64) :
    (BitVec.ofInt 64 number).getLsbD place = number.testBit place := by
  cases number with
  | ofNat magnitude =>
      show (BitVec.ofNat 64 magnitude).getLsbD place = magnitude.testBit place
      rw [BitVec.getLsbD_ofNat, decide_eq_true inWord, Bool.true_and]
  | negSucc magnitude =>
      show _ = !magnitude.testBit place
      rw [BitVec.ofInt_negSucc_eq_not_ofNat, BitVec.getLsbD_not, BitVec.getLsbD_ofNat,
        decide_eq_true inWord, Bool.true_and, Bool.true_and]

theorem testBit_toInt
    (word : Int64)
    {place : Nat}
    (inWord : place < 64) :
    word.toInt.testBit place = word.toBitVec.getLsbD place := by
  rw [← getLsbD_ofInt word.toInt inWord, ← Int64.toInt_toBitVec, BitVec.ofInt_toInt]

/-- A word with the lowest bits of a whole number stands for the number reduced. -/
theorem toInt_eq_reduced_of_bits
    {word : Int64}
    {number : Int}
    (sameBits : ∀ place < 64, word.toBitVec.getLsbD place = number.testBit place) :
    word.toInt = reduced number := by
  have sameWord : word.toBitVec = BitVec.ofInt 64 number := by
    apply BitVec.eq_of_getLsbD_eq
    intro place inWord
    rw [sameBits place inWord, getLsbD_ofInt number inWord]
  rw [← Int64.toInt_toBitVec, sameWord, BitVec.toInt_ofInt, reduced_eq_bmod]

/-- An operator that combines words bit by bit combines the bits of the whole numbers. -/
theorem toInt_bitwise
    {combine : Bool → Bool → Bool}
    {left right result : Int64}
    (bits : ∀ place,
      result.toBitVec.getLsbD place =
        combine (left.toBitVec.getLsbD place) (right.toBitVec.getLsbD place)) :
    result.toInt = reduced (Int.bitwise combine left.toInt right.toInt) := by
  apply toInt_eq_reduced_of_bits
  intro place inWord
  rw [bits, Int.testBit_bitwise, testBit_toInt left inWord, testBit_toInt right inWord]

/-- An operator on the bits of words gives the word of what it gives on the numbers, whose signs
go on without end. -/
theorem toInt_and
    (left right : Int64) :
    (left &&& right).toInt = reduced (left.toInt.land right.toInt) := by
  rw [← Int.bitwise_and]
  apply toInt_bitwise
  intro place
  rw [Int64.toBitVec_and, BitVec.getLsbD_and]

theorem toInt_or
    (left right : Int64) :
    (left ||| right).toInt = reduced (left.toInt.lor right.toInt) := by
  rw [← Int.bitwise_or]
  apply toInt_bitwise
  intro place
  rw [Int64.toBitVec_or, BitVec.getLsbD_or]

theorem toInt_xor
    (left right : Int64) :
    (left ^^^ right).toInt = reduced (left.toInt.xor right.toInt) := by
  rw [← Int.bitwise_xor]
  apply toInt_bitwise
  intro place
  rw [Int64.toBitVec_xor, BitVec.getLsbD_xor]

/-- A number with all its bits inverted is one below its negation. -/
theorem lnot_eq
    (number : Int) :
    number.lnot = -number - 1 := by
  cases number with
  | ofNat magnitude =>
      show Int.negSucc magnitude = -(magnitude : Int) - 1
      omega
  | negSucc magnitude =>
      show (magnitude : Int) = -Int.negSucc magnitude - 1
      omega

theorem toInt_not
    (word : Int64) :
    (~~~word).toInt = reduced word.toInt.lnot := by
  rw [Int64.toInt_not, lnot_eq, reduced_eq_bmod]

/-! ## Shifts -/

/-- A number of places inside of the word is not itself reduced by a shift. -/
theorem toNat_smod_of_inWord
    {amount : Int64}
    (nonneg : 0 ≤ amount.toInt)
    (inWord : amount.toInt < 64) :
    (amount.toBitVec.smod 64).toNat = amount.toInt.toNat := by
  have places : (amount.toBitVec.smod 64).toInt = amount.toInt := by
    rw [BitVec.toInt_smod, Int64.toInt_toBitVec]
    exact Int.fmod_eq_of_lt nonneg inWord
  have msb : (amount.toBitVec.smod 64).msb = false := by
    rw [BitVec.msb_eq_toInt, places]
    simp [nonneg]
  rw [BitVec.toInt_eq_msb_cond, msb] at places
  simp only [Bool.false_eq_true, if_false] at places
  omega

theorem toInt_shiftLeft
    (word : Int64)
    {amount : Int64}
    (nonneg : 0 ≤ amount.toInt)
    (inWord : amount.toInt < 64) :
    (word <<< amount).toInt = reduced (word.toInt * 2 ^ amount.toInt.toNat) := by
  rw [← Int64.toInt_toBitVec, Int64.toBitVec_shiftLeft, BitVec.shiftLeft_eq',
    toNat_smod_of_inWord nonneg inWord, BitVec.toInt_shiftLeft, Nat.shiftLeft_eq,
    reduced_eq_bmod, ← Int64.toInt_toBitVec word, BitVec.toInt_eq_toNat_bmod,
    Int.bmod_mul_bmod]
  push_cast
  rfl

/-- Shifting to the right repeats the sign, so it divides towards the least number. -/
theorem toInt_shiftRight
    (word : Int64)
    {amount : Int64}
    (nonneg : 0 ≤ amount.toInt)
    (inWord : amount.toInt < 64) :
    (word >>> amount).toInt = reduced (word.toInt.fdiv (2 ^ amount.toInt.toNat)) := by
  have power : (0 : Int) ≤ 2 ^ amount.toInt.toNat := Int.pow_nonneg (by decide)
  have shifted : (word >>> amount).toInt = word.toInt.fdiv (2 ^ amount.toInt.toNat) := by
    rw [← Int64.toInt_toBitVec, Int64.toBitVec_shiftRight, BitVec.sshiftRight_eq',
      toNat_smod_of_inWord nonneg inWord, BitVec.toInt_sshiftRight, Int.shiftRight_eq_div_pow,
      Int64.toInt_toBitVec, Int.fdiv_eq_ediv_of_nonneg _ power, Int.natCast_pow]
    rfl
  rw [← shifted, reduced_toInt]

end Number

/-! ## Operators on whole numbers -/

/-- The operator on a whole number. -/
def UnaryOp.exact (op : UnaryOp) (operand : Int) : Int :=
  match op with
  | .plus => operand
  | .negate => -operand
  | .not => if operand = 0 then 1 else 0
  | .complement => operand.lnot

/-- The operator on whole numbers, which divides rounding toward zero. -/
def ArithmeticOp.exact (op : ArithmeticOp) (left right : Int) : Except Fault Int :=
  match op with
  | .add => .ok (left + right)
  | .subtract => .ok (left - right)
  | .multiply => .ok (left * right)
  | .divide => if right = 0 then .error .divisionByZero else .ok (left.tdiv right)
  | .remainder => if right = 0 then .error .divisionByZero else .ok (left.tmod right)

/-- The comparison of whole numbers. -/
def ComparisonOp.exact (op : ComparisonOp) (left right : Int) : Bool :=
  match op with
  | .equal => left = right
  | .notEqual => left ≠ right
  | .greater => left > right
  | .less => left < right
  | .greaterEqual => left ≥ right
  | .lessEqual => left ≤ right

/-- The operator on the truth of whole numbers, of which all but zero are true. -/
def LogicOp.exact (op : LogicOp) (left right : Int) : Bool :=
  match op with
  | .and => left ≠ 0 ∧ right ≠ 0
  | .or => left ≠ 0 ∨ right ≠ 0

/-- A shift of a whole number by a number of places that has to be less than the number of bits
of a word. -/
def BitwiseOp.exactShift (amount result : Int) : Except Fault Int :=
  if 0 ≤ amount ∧ amount < 64 then .ok result else .error (.shiftOutOfRange (.ofInt amount))

/-- The operator on the bits of whole numbers. -/
def BitwiseOp.exact (op : BitwiseOp) (left right : Int) : Except Fault Int :=
  match op with
  | .and => .ok (left.land right)
  | .or => .ok (left.lor right)
  | .xor => .ok (left.xor right)
  | .shiftLeft => exactShift right (left * 2 ^ right.toNat)
  | .shiftRight => exactShift right (left.fdiv (2 ^ right.toNat))

/-- The operator on whole numbers; what is true is one, and what is false is zero. -/
def BinaryOp.exact (op : BinaryOp) (left right : Int) : Except Fault Int :=
  match op with
  | .arithmetic op => op.exact left right
  | .comparison op => .ok (if op.exact left right then 1 else 0)
  | .logic op => .ok (if op.exact left right then 1 else 0)
  | .bitwise op => op.exact left right

/-! ## Results that represent whole numbers -/

/-- The result is the integer that stands for the whole number, or both are the same error. -/
inductive Represents {Error : Type} : Except Error Value → Except Error Int → Prop where
  | number (word : Int64) : Represents (.ok (.integer word)) (.ok word.toInt)
  | error (error : Error) : Represents (.error error) (.error error)

theorem Represents.of_toInt_eq
    {Error : Type}
    {word : Int64}
    {number : Int}
    (same : word.toInt = number) :
    Represents (.ok (.integer word) : Except Error Value) (.ok number) := by
  rw [← same]
  exact .number word

/-- Exact results can be computed step by step, each step reduced. -/
theorem Represents.bind
    {Error : Type}
    {result : Except Error Value}
    {number : Except Error Int}
    {next : Value → Except Error Value}
    {nextNumber : Int → Except Error Int}
    (represents : Represents result number)
    (nextRepresents : ∀ word : Int64, Represents (next (.integer word)) (nextNumber word.toInt)) :
    Represents (result >>= next) (number >>= nextNumber) := by
  cases represents with
  | number word => exact nextRepresents word
  | error error => exact .error error

theorem Represents.reportedAt
    {result : Except Fault Value}
    {number : Except Fault Int}
    (represents : Represents result number)
    (span : Span) :
    Represents (Expr.reportedAt span result) (number.mapError fun fault => ⟨fault, span⟩) := by
  cases represents with
  | number word => exact .number word
  | error fault => exact .error _

/-! ## Operators on integers -/

theorem eq_zero_iff_toInt
    {word : Int64} :
    word = 0 ↔ word.toInt = 0 := by
  rw [← Int64.toInt_zero, Int64.toInt_inj]

theorem beq_eq_decide_toInt
    (left right : Int64) :
    (left == right) = decide (left.toInt = right.toInt) := by
  rw [Bool.eq_iff_iff, beq_iff_eq, decide_eq_true_iff, Int64.toInt_inj]

theorem bne_zero_eq_decide_toInt
    (word : Int64) :
    (word != 0) = decide (word.toInt ≠ 0) := by
  rw [bne, beq_eq_decide_toInt, Int64.toInt_zero, decide_not]

theorem Value.represents_ofBool
    {truth exactTruth : Bool}
    (same : truth = exactTruth) :
    Represents (.ok (.ofBool truth) : Except Fault Value)
      (.ok (Number.reduced (if exactTruth then 1 else 0))) := by
  subst same
  cases truth with
  | true => exact .of_toInt_eq rfl
  | false => exact .of_toInt_eq rfl

/-- An operator in front of an integer computes with whole numbers and reduces once. -/
theorem UnaryOp.represents_apply
    (op : UnaryOp)
    (word : Int64) :
    Represents (op.apply (.integer word)) (.ok (Number.reduced (op.exact word.toInt))) := by
  cases op with
  | plus =>
      exact .of_toInt_eq (Number.reduced_toInt word).symm
  | negate =>
      apply Represents.of_toInt_eq
      rw [Int64.toInt_neg, exact, Number.reduced_eq_bmod]
  | not =>
      have falsity : (!(Value.integer word).isTruthy) = decide (word.toInt = 0) := by
        rw [Value.isTruthy, bne_zero_eq_decide_toInt, decide_not, Bool.not_not]
      have represents := Value.represents_ofBool falsity
      simp only [decide_eq_true_eq] at represents
      exact represents
  | complement =>
      exact .of_toInt_eq (Number.toInt_not word)

/-- A quotient that only a zero divisor keeps from being computed. -/
theorem represents_divided
    {right quotient : Int64}
    {exactQuotient : Int}
    (same : quotient.toInt = Number.reduced exactQuotient) :
    Represents
      ((if right = 0 then Except.error Fault.divisionByZero else .ok quotient).map Value.integer)
      ((if right.toInt = 0 then Except.error Fault.divisionByZero else .ok exactQuotient).map
        Number.reduced) := by
  by_cases zero : right = 0
  · rw [if_pos zero, if_pos (eq_zero_iff_toInt.1 zero)]
    exact .error _
  · rw [if_neg zero, if_neg (mt eq_zero_iff_toInt.2 zero)]
    exact .of_toInt_eq same

/-- So does one between integers, which fails where the exact one does. -/
theorem ArithmeticOp.represents_apply
    (op : ArithmeticOp)
    (left right : Int64) :
    Represents (op.apply (.integer left) (.integer right))
      ((op.exact left.toInt right.toInt).map Number.reduced) := by
  cases op with
  | add =>
      apply Represents.of_toInt_eq
      rw [Int64.toInt_add, Number.reduced_eq_bmod]
  | subtract =>
      apply Represents.of_toInt_eq
      rw [Int64.toInt_sub, Number.reduced_eq_bmod]
  | multiply =>
      apply Represents.of_toInt_eq
      rw [Int64.toInt_mul, Number.reduced_eq_bmod]
  | divide =>
      apply represents_divided
      rw [Int64.toInt_div, Number.reduced_eq_bmod]
  | remainder =>
      apply represents_divided
      rw [← Int64.toInt_mod, Number.reduced_toInt]

/-- Integers are compared as the numbers they stand for. -/
theorem ComparisonOp.onIntegers_eq_exact
    (op : ComparisonOp)
    (left right : Int64) :
    op.onIntegers left right = op.exact left.toInt right.toInt := by
  cases op with
  | equal => exact beq_eq_decide_toInt left right
  | notEqual =>
      rw [onIntegers, exact, bne, beq_eq_decide_toInt, decide_not]
  | _ =>
      simp only [onIntegers, exact, Int64.lt_iff_toInt_lt, Int64.le_iff_toInt_le, gt_iff_lt,
        ge_iff_le]

theorem LogicOp.combine_eq_exact
    (op : LogicOp)
    (left right : Int64) :
    op.combine (Value.integer left).isTruthy (Value.integer right).isTruthy =
      op.exact left.toInt right.toInt := by
  rw [Value.isTruthy, Value.isTruthy, bne_zero_eq_decide_toInt, bne_zero_eq_decide_toInt]
  cases op with
  | and => exact (Bool.decide_and _ _).symm
  | or => exact (Bool.decide_or _ _).symm

/-- A word is shifted by fewer places than it has bits. -/
theorem Number.shiftAmount?_eq
    (amount : Int64) :
    shiftAmount? amount =
      if 0 ≤ amount.toInt ∧ amount.toInt < 64 then some amount.toInt.toNat else none := by
  simp only [shiftAmount?, Bool.and_eq_true, decide_eq_true_eq]
  rfl

theorem BitwiseOp.represents_shifted
    {shift : Int64 → Int64 → Int64}
    {left amount : Int64}
    {exactResult : Int}
    (same : 0 ≤ amount.toInt → amount.toInt < 64 →
      (shift left amount).toInt = Number.reduced exactResult) :
    Represents ((shifted shift left amount).map .integer)
      ((exactShift amount.toInt exactResult).map Number.reduced) := by
  rw [shifted, Number.shiftAmount?_eq, exactShift]
  by_cases inWord : 0 ≤ amount.toInt ∧ amount.toInt < 64
  · rw [if_pos inWord, if_pos inWord]
    exact .of_toInt_eq (same inWord.1 inWord.2)
  · rw [if_neg inWord, if_neg inWord, Int64.ofInt_toInt]
    exact .error _

theorem BitwiseOp.represents_apply
    (op : BitwiseOp)
    (left right : Int64) :
    Represents (op.apply (.integer left) (.integer right))
      ((op.exact left.toInt right.toInt).map Number.reduced) := by
  cases op with
  | and => exact .of_toInt_eq (Number.toInt_and left right)
  | or => exact .of_toInt_eq (Number.toInt_or left right)
  | xor => exact .of_toInt_eq (Number.toInt_xor left right)
  | shiftLeft => exact represents_shifted (Number.toInt_shiftLeft left)
  | shiftRight => exact represents_shifted (Number.toInt_shiftRight left)

/-- Every operator between integers computes with whole numbers and reduces once, or fails as the
exact one does. -/
theorem BinaryOp.represents_apply
    (op : BinaryOp)
    (left right : Int64) :
    Represents (op.apply (.integer left) (.integer right))
      ((op.exact left.toInt right.toInt).map Number.reduced) := by
  cases op with
  | arithmetic op => exact op.represents_apply left right
  | comparison op => exact Value.represents_ofBool (op.onIntegers_eq_exact left right)
  | logic op => exact Value.represents_ofBool (op.combine_eq_exact left right)
  | bitwise op => exact op.represents_apply left right

/-! ## Expressions -/

/-- The whole number that an integer stands for. -/
def Value.wholeNumber : Value → Int
  | .integer number => number.toInt
  | _ => 0

namespace Expr

/-- All leaves of the expression are integers or variables that hold integers. -/
def HasIntegerLeaves (lookup : String → Option Value) : Expr → Prop
  | .literal value _ => value.kind = .integer
  | .reference name _ => ∃ value, lookup name = some value ∧ value.kind = .integer
  | .unary _ operand _ => operand.HasIntegerLeaves lookup
  | .binary _ left right _ _ => left.HasIntegerLeaves lookup ∧ right.HasIntegerLeaves lookup

/-- The value of the expression in whole numbers, where the result of every operator is finished
by a function. -/
def wholeEval (finish : Int → Int) (lookup : String → Option Value) :
    Expr → Except EvalError Int
  | .literal value _ => .ok value.wholeNumber
  | .reference name _ => .ok ((lookup name).elim 0 Value.wholeNumber)
  | .unary op operand _ => do
      let number ← operand.wholeEval finish lookup
      return finish (op.exact number)
  | .binary op left right opSpan _ => do
      let leftNumber ← left.wholeEval finish lookup
      let rightNumber ← right.wholeEval finish lookup
      ((op.exact leftNumber rightNumber).map finish).mapError fun fault => ⟨fault, opSpan⟩

theorem exists_integer_of_kind
    {value : Value}
    (isInteger : value.kind = .integer) :
    ∃ word, value = .integer word := by
  cases value with
  | integer word => exact ⟨word, rfl⟩
  | _ => cases isInteger

/-- Evaluation computes what every operator computes exactly and then reduces. -/
theorem represents_eval
    (lookup : String → Option Value)
    (expr : Expr)
    (leaves : expr.HasIntegerLeaves lookup) :
    Represents (expr.eval lookup) (expr.wholeEval Number.reduced lookup) := by
  induction expr with
  | literal value span =>
      rcases exists_integer_of_kind leaves with ⟨word, rfl⟩
      exact .number word
  | reference name span =>
      rcases leaves with ⟨value, found, isInteger⟩
      rcases exists_integer_of_kind isInteger with ⟨word, rfl⟩
      rw [eval, resolve, wholeEval, found]
      exact .number word
  | unary op operand span operandHypothesis =>
      apply (operandHypothesis leaves).bind
      intro word
      exact (op.represents_apply word).reportedAt span
  | binary op left right opSpan span leftHypothesis rightHypothesis =>
      apply (leftHypothesis leaves.1).bind
      intro leftWord
      apply (rightHypothesis leaves.2).bind
      intro rightWord
      exact (op.represents_apply leftWord rightWord).reportedAt opSpan

end Expr

/-! ## One reduction at the end -/

/-- The operators that a ring has. -/
def UnaryOp.IsRingOperator (op : UnaryOp) : Prop :=
  op = .plus ∨ op = .negate ∨ op = .complement

/-- The operators that a ring has. -/
def BinaryOp.IsRingOperator (op : BinaryOp) : Prop :=
  op = .arithmetic .add ∨ op = .arithmetic .subtract ∨ op = .arithmetic .multiply

/-- All operators of the expression are operators of a ring. -/
def Expr.HasRingOperators : Expr → Prop
  | .literal _ _ => True
  | .reference _ _ => True
  | .unary op operand _ => op.IsRingOperator ∧ operand.HasRingOperators
  | .binary op left right _ _ =>
      op.IsRingOperator ∧ left.HasRingOperators ∧ right.HasRingOperators

/-- An operator of a ring gives the same up to reduction for an operand that is reduced. -/
theorem UnaryOp.IsRingOperator.reduced_exact
    {op : UnaryOp}
    (isRing : op.IsRingOperator)
    (number : Int) :
    Number.reduced (op.exact (Number.reduced number)) = Number.reduced (op.exact number) := by
  rcases isRing with rfl | rfl | rfl
  · simp only [exact, Number.reduced_eq_bmod, Int.bmod_bmod]
  · simp only [exact, Number.reduced_eq_bmod, Int.bmod_neg_bmod]
  · have complement (whole : Int) : whole.lnot = -1 - whole := by
      rw [Number.lnot_eq]
      omega
    simp only [exact, complement, Number.reduced_eq_bmod, Int.sub_bmod_bmod]

/-- An operator of a ring has a result for all operands, and the same one up to reduction for
operands that are reduced. -/
theorem BinaryOp.IsRingOperator.exists_exact
    {op : BinaryOp}
    (isRing : op.IsRingOperator) :
    ∃ combine : Int → Int → Int,
      (∀ left right, op.exact left right = .ok (combine left right)) ∧
        ∀ left right,
          Number.reduced (combine (Number.reduced left) (Number.reduced right)) =
            Number.reduced (combine left right) := by
  rcases isRing with rfl | rfl | rfl
  · refine ⟨(· + ·), fun _ _ => rfl, fun left right => ?_⟩
    simp only [Number.reduced_eq_bmod, Int.bmod_add_bmod, Int.add_bmod_bmod]
  · refine ⟨(· - ·), fun _ _ => rfl, fun left right => ?_⟩
    simp only [Number.reduced_eq_bmod, Int.bmod_sub_bmod, Int.sub_bmod_bmod]
  · refine ⟨(· * ·), fun _ _ => rfl, fun left right => ?_⟩
    simp only [Number.reduced_eq_bmod, Int.bmod_mul_bmod, Int.mul_bmod_bmod]

theorem Value.reduced_wholeNumber
    (value : Value) :
    Number.reduced value.wholeNumber = value.wholeNumber := by
  cases value with
  | integer word => exact Number.reduced_toInt word
  | _ => rfl

/-- Where all operators are operators of a ring, the exact value exists, and reducing it gives
what reducing after every operator gives. -/
theorem Expr.exists_wholeEval_of_hasRingOperators
    (lookup : String → Option Value)
    (expr : Expr)
    (operators : expr.HasRingOperators) :
    ∃ number,
      expr.wholeEval id lookup = .ok number ∧
        expr.wholeEval Number.reduced lookup = .ok (Number.reduced number) := by
  induction expr with
  | literal value span =>
      refine ⟨_, rfl, ?_⟩
      rw [wholeEval, value.reduced_wholeNumber]
  | reference name span =>
      refine ⟨_, rfl, ?_⟩
      rw [wholeEval]
      cases lookup name with
      | none => rfl
      | some value => exact congrArg Except.ok value.reduced_wholeNumber.symm
  | unary op operand span operandHypothesis =>
      rcases operandHypothesis operators.2 with ⟨number, exactly, reduced⟩
      refine ⟨op.exact number, ?_, ?_⟩
      · rw [wholeEval, exactly]
        rfl
      · rw [wholeEval, reduced, ← operators.1.reduced_exact]
        rfl
  | binary op left right opSpan span leftHypothesis rightHypothesis =>
      rcases operators with ⟨isRing, leftOperators, rightOperators⟩
      rcases leftHypothesis leftOperators with ⟨leftNumber, leftExactly, leftReduced⟩
      rcases rightHypothesis rightOperators with ⟨rightNumber, rightExactly, rightReduced⟩
      rcases isRing.exists_exact with ⟨combine, combined, respects⟩
      refine ⟨combine leftNumber rightNumber, ?_, ?_⟩
      · rw [wholeEval, leftExactly, rightExactly]
        show (op.exact leftNumber rightNumber |>.map id).mapError _ = _
        rw [combined]
        rfl
      · rw [wholeEval, leftReduced, rightReduced, ← respects]
        show (op.exact _ _ |>.map Number.reduced).mapError _ = _
        rw [combined]
        rfl

/--
An expression over integers has the value that results from computing each operator exactly
in whole numbers and reducing each result, and fails as this computation does.  Where all
operators are operators of a ring, it suffices to reduce the exact value of the whole
expression once.
-/
theorem integers_compute_in_twos_complement
    (lookup : String → Option Value)
    (expr : Expr)
    (leaves : expr.HasIntegerLeaves lookup) :
    Represents (expr.eval lookup) (expr.wholeEval Number.reduced lookup) ∧
      (expr.HasRingOperators →
        ∃ number,
          expr.wholeEval id lookup = .ok number ∧
            Represents (expr.eval lookup) (.ok (Number.reduced number))) := by
  have represents := expr.represents_eval lookup leaves
  refine ⟨represents, ?_⟩
  intro operators
  rcases expr.exists_wholeEval_of_hasRingOperators lookup operators with
    ⟨number, exactly, reduced⟩
  rw [reduced] at represents
  exact ⟨number, exactly, represents⟩

/-- Three times the complement of the least integer: the product leaves the range, and comes back
two places below the greatest integer. -/
theorem integers_compute_in_twos_complement_of_least :
    ∃ (lookup : String → Option Value) (expr : Expr) (number : Int),
      lookup "least" = some (.integer Int64.minValue) ∧
        expr =
          .binary (.arithmetic .multiply)
            (.unary .complement (.reference "least" ⟨1, 6⟩) ⟨0, 6⟩)
            (.literal (.integer 3) ⟨10, 10⟩) ⟨8, 8⟩ ⟨0, 10⟩ ∧
        expr.HasIntegerLeaves lookup ∧ expr.HasRingOperators ∧
        expr.eval lookup = .ok (.integer 9223372036854775805) ∧
        Represents (expr.eval lookup) (expr.wholeEval Number.reduced lookup) ∧
        expr.wholeEval id lookup = .ok number ∧ number = 27670116110564327421 ∧
        Represents (expr.eval lookup) (.ok (Number.reduced number)) := by
  let lookup (_ : String) : Option Value := some (.integer Int64.minValue)
  let expr : Expr :=
    .binary (.arithmetic .multiply)
      (.unary .complement (.reference "least" ⟨1, 6⟩) ⟨0, 6⟩)
      (.literal (.integer 3) ⟨10, 10⟩) ⟨8, 8⟩ ⟨0, 10⟩
  have leaves : expr.HasIntegerLeaves lookup := ⟨⟨_, rfl, rfl⟩, rfl⟩
  have operators : expr.HasRingOperators :=
    ⟨Or.inr (Or.inr rfl), ⟨Or.inr (Or.inr rfl), trivial⟩, trivial⟩
  rcases integers_compute_in_twos_complement lookup expr leaves with ⟨represents, once⟩
  rcases once operators with ⟨number, exactly, representsOnce⟩
  have value : number = 27670116110564327421 := (Except.ok.inj exactly).symm
  exact ⟨lookup, expr, number, rfl, rfl, leaves, operators, rfl, represents, exactly, value,
    representsOnce⟩

end AsmShell
