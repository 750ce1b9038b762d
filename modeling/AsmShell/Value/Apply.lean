import AsmShell.Number.Binary64
import AsmShell.Value.Fault

/-!
# Operators applied to values

Most operators between two operands first bring them to one kind.  Two values of
the same kind stay as they are, and an integer beside a floating-point number
becomes the nearest floating-point number.

Integers compute modulo `2 ^ 64` in two's complement, division rounds toward
zero, and a zero divisor of either kind of number is a fault.  A comparison or
a logical operator answers with the integer one or zero.
-/

namespace AsmShell

/-- Two operands of the same kind. -/
inductive Operands where
  | integers (left right : Int64)
  | floats (left right : Float)
  | strings (left right : String)
  | identifiers (left right : String)
deriving Inhabited

namespace Operands

/-- The two values brought to one kind, where they have one in common. -/
def promote? : Value → Value → Option Operands
  | .integer left, .integer right => some (.integers left right)
  | .float left, .float right => some (.floats left right)
  | .integer left, .float right => some (.floats (Number.floatOfInteger left) right)
  | .float left, .integer right => some (.floats left (Number.floatOfInteger right))
  | .string left, .string right => some (.strings left right)
  | .identifier left, .identifier right => some (.identifiers left right)
  | _, _ => none

end Operands

namespace UnaryOp

/-- The operator applied to a value. -/
def apply (op : UnaryOp) (operand : Value) : Except Fault Value :=
  match op, operand with
  | .not, _ => .ok (.ofBool !operand.isTruthy)
  | .plus, .integer number => .ok (.integer number)
  | .plus, .float number => .ok (.float number)
  | .negate, .integer number => .ok (.integer (-number))
  | .negate, .float number => .ok (.float (-number))
  | .complement, .integer number => .ok (.integer (~~~number))
  | _, _ => .error (.unaryMismatch op operand.kind)

end UnaryOp

namespace ArithmeticOp

/-- The operator applied to two integers, modulo `2 ^ 64`. -/
def onIntegers (op : ArithmeticOp) (left right : Int64) : Except Fault Int64 :=
  match op with
  | .add => .ok (left + right)
  | .subtract => .ok (left - right)
  | .multiply => .ok (left * right)
  | .divide => if right = 0 then .error .divisionByZero else .ok (left / right)
  | .remainder => if right = 0 then .error .divisionByZero else .ok (left % right)

/-- The operator applied to two floating-point numbers. -/
def onFloats (op : ArithmeticOp) (left right : Float) : Except Fault Float :=
  match op with
  | .add => .ok (left + right)
  | .subtract => .ok (left - right)
  | .multiply => .ok (left * right)
  | .divide => if right == 0.0 then .error .divisionByZero else .ok (left / right)
  | .remainder =>
      if right == 0.0 then .error .divisionByZero
      else .ok (Number.floatRemainder left right)

/-- The operator applied to two values, which have to be numbers. -/
def apply (op : ArithmeticOp) (left right : Value) : Except Fault Value :=
  match Operands.promote? left right with
  | some (.integers a b) => (op.onIntegers a b).map .integer
  | some (.floats a b) => (op.onFloats a b).map .float
  | _ => .error (.binaryMismatch (.arithmetic op) left.kind right.kind)

end ArithmeticOp

namespace ComparisonOp

/-- The comparison of two integers. -/
def onIntegers (op : ComparisonOp) (left right : Int64) : Bool :=
  match op with
  | .equal => left == right
  | .notEqual => left != right
  | .greater => right < left
  | .less => left < right
  | .greaterEqual => right ≤ left
  | .lessEqual => left ≤ right

/-- The comparison of two floating-point numbers, of which one that is no number is unequal to
every number and neither below nor above it. -/
def onFloats (op : ComparisonOp) (left right : Float) : Bool :=
  match op with
  | .equal => left == right
  | .notEqual => left != right
  | .greater => right < left
  | .less => left < right
  | .greaterEqual => right ≤ left
  | .lessEqual => left ≤ right

/-- The comparison of two texts, which are equal or not but have no order. -/
def onTexts? (op : ComparisonOp) (left right : String) : Option Bool :=
  match op with
  | .equal => some (left == right)
  | .notEqual => some (left != right)
  | _ => none

/-- The comparison of two values, where they can be compared. -/
def compare? (op : ComparisonOp) (left right : Value) : Option Bool :=
  match Operands.promote? left right with
  | some (.integers a b) => some (op.onIntegers a b)
  | some (.floats a b) => some (op.onFloats a b)
  | some (.strings a b) => op.onTexts? a b
  | some (.identifiers a b) => op.onTexts? a b
  | none => none

/-- The operator applied to two values. -/
def apply (op : ComparisonOp) (left right : Value) : Except Fault Value :=
  match op.compare? left right with
  | some truth => .ok (.ofBool truth)
  | none => .error (.binaryMismatch (.comparison op) left.kind right.kind)

end ComparisonOp

namespace LogicOp

/-- The operator on two truth values. -/
def combine : LogicOp → Bool → Bool → Bool
  | .and, left, right => left && right
  | .or, left, right => left || right

/-- The operator applied to two values, which have to be numbers. -/
def apply (op : LogicOp) (left right : Value) : Except Fault Value :=
  if left.isNumeric && right.isNumeric then
    .ok (.ofBool (op.combine left.isTruthy right.isTruthy))
  else
    .error (.binaryMismatch (.logic op) left.kind right.kind)

end LogicOp

namespace BitwiseOp

/-- A shift of `left` by a number of places that has to be less than the number of bits. -/
def shifted (shift : Int64 → Int64 → Int64) (left amount : Int64) : Except Fault Int64 :=
  match Number.shiftAmount? amount with
  | some _ => .ok (shift left amount)
  | none => .error (.shiftOutOfRange amount)

/-- The operator applied to two integers; a shift to the right keeps the sign. -/
def onIntegers (op : BitwiseOp) (left right : Int64) : Except Fault Int64 :=
  match op with
  | .and => .ok (left &&& right)
  | .or => .ok (left ||| right)
  | .xor => .ok (left ^^^ right)
  | .shiftLeft => shifted (· <<< ·) left right
  | .shiftRight => shifted (· >>> ·) left right

/-- The operator applied to two values, which have to be integers. -/
def apply (op : BitwiseOp) (left right : Value) : Except Fault Value :=
  match left, right with
  | .integer a, .integer b => (op.onIntegers a b).map .integer
  | _, _ => .error (.binaryMismatch (.bitwise op) left.kind right.kind)

end BitwiseOp

namespace BinaryOp

/-- The operator applied to two values. -/
def apply (op : BinaryOp) (left right : Value) : Except Fault Value :=
  match op with
  | .arithmetic op => op.apply left right
  | .comparison op => op.apply left right
  | .logic op => op.apply left right
  | .bitwise op => op.apply left right

end BinaryOp

end AsmShell
