import AsmShell.Operator
import AsmShell.Value.Basic

/-!
# Faults of evaluation

Why an argument has no value, and where in the line the fault lies.
-/

namespace AsmShell

/-- Why an argument has no value.  A shift is out of range by a number of places that is negative or
not less than the number of bits. -/
inductive Fault where
  | unresolved (name : String)
  | nonNumeric (name : String)
  | unaryMismatch (op : UnaryOp) (operand : Kind)
  | binaryMismatch (op : BinaryOp) (left right : Kind)
  | divisionByZero
  | shiftOutOfRange (amount : Int64)
deriving DecidableEq, Inhabited

/-- What a fault depends on: which names are defined, the kinds of the operands, or the numbers
themselves. -/
inductive FaultKind where
  | reference
  | type
  | arithmetic
deriving DecidableEq, Inhabited, Repr

namespace Fault

/-- What went wrong, in words. -/
def message : Fault → String
  | .unresolved name => "unresolved reference to `$" ++ name ++ "`"
  | .nonNumeric name => "variable `$" ++ name ++ "` does not hold a number"
  | .unaryMismatch op operand =>
      "type mismatch: cannot apply `" ++ op.symbol ++ "` to " ++ operand.name
  | .binaryMismatch op left right =>
      "type mismatch: cannot apply `" ++ op.symbol ++ "` to " ++ left.name ++ " and " ++
        right.name
  | .divisionByZero => "division by zero"
  | .shiftOutOfRange amount => "shift amount " ++ integerText amount ++ " out of range"

/-- What the fault depends on. -/
def kind : Fault → FaultKind
  | .unresolved _ => .reference
  | .nonNumeric _ | .unaryMismatch _ _ | .binaryMismatch _ _ _ => .type
  | .divisionByZero | .shiftOutOfRange _ => .arithmetic

end Fault

/-- A fault and the place it is reported at. -/
structure EvalError where
  fault : Fault
  span : Span
deriving DecidableEq, Inhabited

namespace EvalError

/-- What went wrong, in words. -/
def message (error : EvalError) : String :=
  error.fault.message

/-- The column the error is reported at. -/
def column (error : EvalError) : Nat :=
  error.span.first

end EvalError

end AsmShell
