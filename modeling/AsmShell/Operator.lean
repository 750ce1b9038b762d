import AsmShell.Token.Basic

/-!
# Operators

Four operators stand in front of their operand.  The operators between two
operands fall into four families, which differ in the operands they take.  An
operator of higher precedence binds tighter, and operators of one precedence
group to the left.
-/

namespace AsmShell

/-- An operator in front of its operand. -/
inductive UnaryOp where
  | plus
  | negate
  | not
  | complement
deriving DecidableEq, Inhabited, Repr

/-- An operator that computes a number from two numbers. -/
inductive ArithmeticOp where
  | add
  | subtract
  | multiply
  | divide
  | remainder
deriving DecidableEq, Inhabited, Repr

/-- An operator that compares two operands. -/
inductive ComparisonOp where
  | equal
  | notEqual
  | greater
  | less
  | greaterEqual
  | lessEqual
deriving DecidableEq, Inhabited, Repr

/-- An operator on the truth of two operands. -/
inductive LogicOp where
  | and
  | or
deriving DecidableEq, Inhabited, Repr

/-- An operator on the bits of two integers. -/
inductive BitwiseOp where
  | and
  | or
  | xor
  | shiftLeft
  | shiftRight
deriving DecidableEq, Inhabited, Repr

/-- An operator between two operands. -/
inductive BinaryOp where
  | arithmetic (op : ArithmeticOp)
  | comparison (op : ComparisonOp)
  | logic (op : LogicOp)
  | bitwise (op : BitwiseOp)
deriving DecidableEq, Inhabited, Repr

namespace UnaryOp

/-- How the operator is written. -/
def symbol : UnaryOp → String
  | .plus => "+"
  | .negate => "-"
  | .not => "!"
  | .complement => "~"

end UnaryOp

namespace BinaryOp

/-- How the operator is written. -/
def symbol : BinaryOp → String
  | .arithmetic .add => "+"
  | .arithmetic .subtract => "-"
  | .arithmetic .multiply => "*"
  | .arithmetic .divide => "/"
  | .arithmetic .remainder => "%"
  | .comparison .equal => "=="
  | .comparison .notEqual => "!="
  | .comparison .greater => ">"
  | .comparison .less => "<"
  | .comparison .greaterEqual => ">="
  | .comparison .lessEqual => "<="
  | .logic .and => "&&"
  | .logic .or => "||"
  | .bitwise .and => "&"
  | .bitwise .or => "|"
  | .bitwise .xor => "^"
  | .bitwise .shiftLeft => "<<"
  | .bitwise .shiftRight => ">>"

/-- How tightly the operator binds. -/
def precedence : BinaryOp → Int
  | .arithmetic .multiply | .arithmetic .divide | .arithmetic .remainder => 700
  | .arithmetic .add | .arithmetic .subtract => 600
  | .bitwise .shiftLeft | .bitwise .shiftRight => 500
  | .comparison .greater | .comparison .less | .comparison .greaterEqual
  | .comparison .lessEqual => 400
  | .comparison .equal | .comparison .notEqual => 300
  | .bitwise .and => 266
  | .bitwise .xor => 233
  | .bitwise .or => 200
  | .logic .and => 150
  | .logic .or => 100

end BinaryOp

/-- The precedence of what may be an operator; what is none ranks below every operator. -/
def precedenceOf : Option BinaryOp → Int
  | some op => op.precedence
  | none => -1

namespace TokenKind

/-- The operator in front of an operand that a token of the kind writes. -/
def unaryOp? : TokenKind → Option UnaryOp
  | .plus => some .plus
  | .minus => some .negate
  | .bang => some .not
  | .tilde => some .complement
  | _ => none

/-- The operator between two operands that a token of the kind writes. -/
def binaryOp? : TokenKind → Option BinaryOp
  | .plus => some (.arithmetic .add)
  | .minus => some (.arithmetic .subtract)
  | .star => some (.arithmetic .multiply)
  | .slash => some (.arithmetic .divide)
  | .percent => some (.arithmetic .remainder)
  | .doubleEqual => some (.comparison .equal)
  | .bangEqual => some (.comparison .notEqual)
  | .greater => some (.comparison .greater)
  | .less => some (.comparison .less)
  | .greaterEqual => some (.comparison .greaterEqual)
  | .lessEqual => some (.comparison .lessEqual)
  | .doubleAmpersand => some (.logic .and)
  | .doubleBar => some (.logic .or)
  | .ampersand => some (.bitwise .and)
  | .bar => some (.bitwise .or)
  | .caret => some (.bitwise .xor)
  | .doubleLess => some (.bitwise .shiftLeft)
  | .doubleGreater => some (.bitwise .shiftRight)
  | _ => none

end TokenKind

end AsmShell
