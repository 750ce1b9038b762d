import AsmShell.Expr
import AsmShell.Parser.Basic

/-!
# Reading expressions

```text
unary      := ("+" | "-" | "!" | "~") unary | primary
primary    := identifier | integer | float | string | reference
            | "(" expression ")"
expression := unary (operator unary)*
```

The readers of the three rules are given the reader of the operands inside them,
so the recursion runs over the number of levels that may still be opened: an
operator in front of an operand opens one level, and so does a parenthesis.  How
these levels are counted is left to the state that the rules are read from.

The operators behind a first operand are folded from left to right.  When the
operator behind a right operand binds tighter than the one in front of it, the
right operand is first extended by the operators that bind tighter, so operators
of one precedence group to the left.
-/

namespace AsmShell.Reading

/-- The expression with one token: a literal, or a reference to a variable. -/
def leaf (token : Token) : Except SyntaxFault Expr :=
  match token.kind with
  | .identifier => .ok (.literal (.identifier token.text) token.span)
  | .integer =>
      match Number.readInteger? token.text with
      | some number => .ok (.literal (.integer number) token.span)
      | none => .error .integerOutOfRange
  | .float =>
      match Number.readFloat? token.text with
      | some number => .ok (.literal (.float number) token.span)
      | none => .error .invalidFloat
  | .string => .ok (.literal (.string token.text) token.span)
  | .reference => .ok (.reference token.text token.span)
  | .closeParen => .error .unmatchedParentheses
  | .unknown => .error .invalidCharacter
  | .unclosedString => .error .unclosedString
  | _ => .error .expectedPrimary

section Grammar

variable
    {State Halt : Type}
    [ReadingState State Halt]

/-- What stands in parentheses, read by `inner`.  The parentheses widen its span. -/
def groupingWith (inner : EStateM Halt State Expr) : EStateM Halt State Expr := do
  let opening ← current
  advance
  let expr ← inner
  let closing ← current
  if closing.kind = .closeParen then
    advance
    return expr.withSpan ⟨opening.column, closing.span.last⟩
  else
    fail .unmatchedParentheses opening.column

/-- A leaf, or what stands in parentheses, read by `inner`.  A token that is neither is not
passed. -/
def primaryWith (inner : EStateM Halt State Expr) : EStateM Halt State Expr := do
  let token ← current
  if token.kind = .openParen then groupingWith inner
  else
    match leaf token with
    | .ok expr =>
        recordHeight 1
        advance
        return expr
    | .error fault => fail fault token.column

/--
Fold the operators of precedence `floor` or more that follow `left`, a tree of
height `leftHeight`, with the operands read by `operand`.  Every operator takes a
step, so the number of steps bounds the depth of the recursion.
-/
def foldOperators (operand : EStateM Halt State Expr) :
    (steps : Nat) → (floor : Int) → (leftHeight : Nat) → (left : Expr) →
      EStateM Halt State Expr
  | 0, _, leftHeight, left => do
      ReadingState.outOfSteps
      recordHeight leftHeight
      return left
  | steps + 1, floor, leftHeight, left => do
      let token ← current
      match token.kind.binaryOp? with
      | none =>
          recordHeight leftHeight
          return left
      | some op =>
          if op.precedence < floor then
            recordHeight leftHeight
            return left
          else
            advance
            let first ← operand
            let next ← current
            let right ←
              if op.precedence < precedenceOf next.kind.binaryOp? then
                foldOperators operand steps (op.precedence + 1) (← recordedHeight) first
              else
                pure first
            let height ← grow (max leftHeight (← recordedHeight)) token.column
            foldOperators operand steps floor height
              (.binary op left right token.span (left.span.through right.span))

/-- Continue `left`, the expression that was read last, with the operators of precedence `floor`
or more that follow it. -/
def continuedWith (operand : EStateM Halt State Expr) (floor : Int) (left : Expr) :
    EStateM Halt State Expr := do
  let state ← get
  foldOperators operand (ReadingState.stepsLeft state) floor (ReadingState.height state) left

/-- An operand and all operators that follow it. -/
def expressionWith (operand : EStateM Halt State Expr) : EStateM Halt State Expr := do
  let left ← operand
  continuedWith operand 0 left

/-- An operator in front of an operand, or a primary; the operands are read by `operand`. -/
def prefixedWith (operand : EStateM Halt State Expr) : EStateM Halt State Expr := do
  let token ← current
  match token.kind.unaryOp? with
  | some op =>
      advance
      let inner ← operand
      let _ ← grow (← recordedHeight) token.column
      return .unary op inner ⟨token.column, inner.span.last⟩
  | none => primaryWith (expressionWith operand)

end Grammar

/-- Operators in front of a primary, where at most `levels` levels may be opened. -/
def unaryWithin : (levels : Nat) → Reading Expr
  | 0 => do
      let token ← current
      fail .nestedTooDeeply token.column
  | levels + 1 => prefixedWith (unaryWithin levels)

/-- Operators in front of a primary. -/
def unary : Reading Expr :=
  unaryWithin nestingLimit

/-- A leaf, or an expression in parentheses. -/
def primary : Reading Expr :=
  primaryWith (expressionWith unary)

/-- Operands with operators between them. -/
def expression : Reading Expr :=
  expressionWith unary

/-- Continue `left`, the expression that was read last, with the operators of precedence `floor`
or more that follow it. -/
def continued (floor : Int) (left : Expr) : Reading Expr :=
  continuedWith unary floor left

end AsmShell.Reading
