/-!
# Syntax errors

Why a line could not be read, and the column the reader is pointed to.
-/

namespace AsmShell

/-- Why a line could not be read. -/
inductive SyntaxFault where
  | expectedCommand
  | unmatchedParentheses
  | invalidCharacter
  | unclosedString
  | expectedPrimary
  | integerOutOfRange
  | nestedTooDeeply
  | invalidFloat
deriving DecidableEq, Inhabited, Repr

/-- What went wrong, in words. -/
def SyntaxFault.message : SyntaxFault → String
  | .expectedCommand => "expected command"
  | .unmatchedParentheses => "unmatched parentheses"
  | .invalidCharacter => "invalid character in input"
  | .unclosedString => "unterminated string literal"
  | .expectedPrimary => "expected primary expression"
  | .integerOutOfRange => "integer literal out of range"
  | .nestedTooDeeply => "expression nested too deeply"
  | .invalidFloat => "invalid floating-point literal"

/-- A syntax fault and its column. -/
structure SyntaxError where
  fault : SyntaxFault
  column : Nat
deriving DecidableEq, Inhabited, Repr

/-- What went wrong, in words. -/
def SyntaxError.message (error : SyntaxError) : String :=
  error.fault.message

end AsmShell
