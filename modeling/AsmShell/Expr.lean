import AsmShell.Value.Apply

/-!
# Expressions and commands

A command line is a name and its arguments, and an expression is the tree of an
argument.  Every node knows the piece of the line it was read from; parentheses
add no node and only widen the span of the node inside them.  The printed form
puts parentheses around every operator, so it shows how the operators group.

Evaluation is strict: both operands of every operator are evaluated, the left
one first, and the first fault ends it.  Variables are looked up in a function
from names to values and have to hold numbers.  A fault of an operator in front
of its operand is reported at the whole node, which begins with the operator;
a fault of an operator between two operands is reported at the operator.
-/

namespace AsmShell

/-- The tree of an argument.  An operator between two operands also knows where it stands itself. -/
inductive Expr where
  | literal (value : Value) (span : Span)
  | reference (name : String) (span : Span)
  | unary (op : UnaryOp) (operand : Expr) (span : Span)
  | binary (op : BinaryOp) (left right : Expr) (opSpan span : Span)
deriving Inhabited

namespace Expr

/-- The piece of the line that the expression was read from. -/
def span : Expr → Span
  | .literal _ span => span
  | .reference _ span => span
  | .unary _ _ span => span
  | .binary _ _ _ _ span => span

/-- The expression with another span at its root. -/
def withSpan (newSpan : Span) : Expr → Expr
  | .literal value _ => .literal value newSpan
  | .reference name _ => .reference name newSpan
  | .unary op operand _ => .unary op operand newSpan
  | .binary op left right opSpan _ => .binary op left right opSpan newSpan

/-- The column of the expression's first character. -/
def column (expr : Expr) : Nat :=
  expr.span.first

/-- The number of nodes on the longest way from the root to a leaf. -/
def height : Expr → Nat
  | .literal _ _ => 1
  | .reference _ _ => 1
  | .unary _ operand _ => operand.height + 1
  | .binary _ left right _ _ => max left.height right.height + 1

/-- The printed form, with parentheses around every operator. -/
def render : Expr → String
  | .literal value _ => value.render
  | .reference name _ => "$" ++ name
  | .unary op operand _ => "(" ++ op.symbol ++ operand.render ++ ")"
  | .binary op left right _ _ =>
      "(" ++ left.render ++ " " ++ op.symbol ++ " " ++ right.render ++ ")"

/-! ## Evaluation -/

/-- The value of a variable, which has to be a number. -/
def resolve (lookup : String → Option Value) (name : String) : Except Fault Value :=
  match lookup name with
  | some value => if value.isNumeric then .ok value else .error (.nonNumeric name)
  | none => .error (.unresolved name)

/-- The result of a step whose fault is reported at the span. -/
def reportedAt (span : Span) (result : Except Fault Value) : Except EvalError Value :=
  result.mapError fun fault => ⟨fault, span⟩

/-- The value of the expression, with variables looked up by name. -/
def eval (lookup : String → Option Value) : Expr → Except EvalError Value
  | .literal value _ => .ok value
  | .reference name span => reportedAt span (resolve lookup name)
  | .unary op operand span => do
      let value ← operand.eval lookup
      reportedAt span (op.apply value)
  | .binary op left right opSpan _ => do
      let leftValue ← left.eval lookup
      let rightValue ← right.eval lookup
      reportedAt opSpan (op.apply leftValue rightValue)

end Expr

/-! ## Commands -/

/-- A name with its arguments. -/
structure Command where
  name : String
  span : Span
  arguments : List Expr
deriving Inhabited

namespace Command

/-- The results of the arguments, each evaluated on its own. -/
def eval (lookup : String → Option Value) (command : Command) :
    List (Except EvalError Value) :=
  command.arguments.map (·.eval lookup)

end Command

end AsmShell
