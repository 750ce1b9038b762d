import AsmShell.Expr
import AsmShell.Proofs.Results

/-!
# How operators fail

An operator in front of its operand fails only because of the kind of the operand.  An
operator between two operands fails because of their kinds, or because of the numbers
themselves: a division and a remainder by a zero divisor, a shift by the number of places.
The lemmas here look into the operators once; which token a fault concerns, and whether
it can be told from the kinds of the operands, is read off their conclusions.
-/

namespace AsmShell

theorem UnaryOp.fault_of_apply
    {op : UnaryOp}
    {operand : Value}
    {fault : Fault}
    (failed : op.apply operand = .error fault) :
    fault = .unaryMismatch op operand.kind := by
  cases op <;> cases operand <;> cases failed <;> rfl

namespace BinaryOp

/-- The faults that an operator can have on numbers that it takes. -/
inductive FailsOnNumbers : BinaryOp → Fault → Prop where
  | divide : FailsOnNumbers (.arithmetic .divide) .divisionByZero
  | remainder : FailsOnNumbers (.arithmetic .remainder) .divisionByZero
  | shiftLeft (amount : Int64) : FailsOnNumbers (.bitwise .shiftLeft) (.shiftOutOfRange amount)
  | shiftRight (amount : Int64) : FailsOnNumbers (.bitwise .shiftRight) (.shiftOutOfRange amount)

/-- The faults that an operator between two operands can have. -/
inductive Fails : BinaryOp → Fault → Prop where
  | mismatch (op : BinaryOp) (left right : Kind) : Fails op (.binaryMismatch op left right)
  | onNumbers {op : BinaryOp} {fault : Fault} : FailsOnNumbers op fault → Fails op fault

/-- A fault that is due to the numbers is an arithmetic one. -/
theorem FailsOnNumbers.kind_eq
    {op : BinaryOp}
    {fault : Fault}
    (fails : FailsOnNumbers op fault) :
    fault.kind = .arithmetic := by
  cases fails <;> rfl

end BinaryOp

namespace ArithmeticOp

/-- Of the operators that divide, a zero divisor is the only fault. -/
theorem divided_eq_error
    {Number : Type}
    {isZero : Prop}
    [Decidable isZero]
    {quotient : Number}
    {fault : Fault}
    (failed : (if isZero then .error .divisionByZero else .ok quotient) = Except.error fault) :
    fault = .divisionByZero := by
  split at failed <;> cases failed
  rfl

theorem failsOnNumbers_of_onIntegers
    {op : ArithmeticOp}
    {left right : Int64}
    {fault : Fault}
    (failed : op.onIntegers left right = .error fault) :
    BinaryOp.FailsOnNumbers (.arithmetic op) fault := by
  cases op with
  | divide => exact divided_eq_error failed ▸ .divide
  | remainder => exact divided_eq_error failed ▸ .remainder
  | _ => cases failed

theorem failsOnNumbers_of_onFloats
    {op : ArithmeticOp}
    {left right : Float}
    {fault : Fault}
    (failed : op.onFloats left right = .error fault) :
    BinaryOp.FailsOnNumbers (.arithmetic op) fault := by
  cases op with
  | divide => exact divided_eq_error failed ▸ .divide
  | remainder => exact divided_eq_error failed ▸ .remainder
  | _ => cases failed

end ArithmeticOp

namespace BitwiseOp

theorem shifted_eq_error
    {shift : Int64 → Int64 → Int64}
    {left amount : Int64}
    {fault : Fault}
    (failed : shifted shift left amount = .error fault) :
    fault = .shiftOutOfRange amount := by
  rw [shifted] at failed
  split at failed <;> cases failed
  rfl

theorem failsOnNumbers_of_onIntegers
    {op : BitwiseOp}
    {left right : Int64}
    {fault : Fault}
    (failed : op.onIntegers left right = .error fault) :
    BinaryOp.FailsOnNumbers (.bitwise op) fault := by
  cases op with
  | shiftLeft => exact shifted_eq_error failed ▸ .shiftLeft right
  | shiftRight => exact shifted_eq_error failed ▸ .shiftRight right
  | _ => cases failed

end BitwiseOp

/-- An operator between two operands fails in one of the ways listed. -/
theorem BinaryOp.fails_of_apply
    {op : BinaryOp}
    {left right : Value}
    {fault : Fault}
    (failed : op.apply left right = .error fault) :
    op.Fails fault := by
  cases op with
  | arithmetic op =>
      rw [apply, ArithmeticOp.apply] at failed
      split at failed
      · exact .onNumbers (ArithmeticOp.failsOnNumbers_of_onIntegers (map_eq_error.1 failed))
      · exact .onNumbers (ArithmeticOp.failsOnNumbers_of_onFloats (map_eq_error.1 failed))
      · cases failed
        exact .mismatch _ _ _
  | comparison op =>
      rw [apply, ComparisonOp.apply] at failed
      split at failed <;> cases failed
      exact .mismatch _ _ _
  | logic op =>
      rw [apply, LogicOp.apply] at failed
      split at failed <;> cases failed
      exact .mismatch _ _ _
  | bitwise op =>
      rw [apply] at failed
      unfold BitwiseOp.apply at failed
      split at failed
      · exact .onNumbers (BitwiseOp.failsOnNumbers_of_onIntegers (map_eq_error.1 failed))
      · cases failed
        exact .mismatch _ _ _

end AsmShell
