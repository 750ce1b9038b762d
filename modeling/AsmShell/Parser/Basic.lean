import AsmShell.Parser.SyntaxError
import AsmShell.Token.Scan

/-!
# The state of the parser

The parser looks at one token at a time, the first one it has not yet passed.
It never passes the end of the line, so tokens behind a first end of the line
have no influence.  Beside its place it remembers the height of the expression
that was read last, which is what the limit on the height of a tree is checked
against.  A reading that fails keeps the place it had reached.

The grammar asks little of the state that it is read from, so it is stated for every
state that offers this much.
-/

namespace AsmShell

/-- The most levels that a tree may have, and the most levels of operators in front of an operand
and of parentheses that may be open at once. -/
def nestingLimit : Nat :=
  256

/-- Where the parser stands. -/
structure Parser where
  rest : List Token
  height : Nat
deriving DecidableEq, Inhabited, Repr

/-- The tokens behind the first one; the end of the line is never passed. -/
def dropToken : List Token → List Token
  | [] => []
  | token :: rest => if token.kind = .endOfLine then token :: rest else rest

namespace Parser

/-- A parser in front of the tokens.  Where no end of the line closes them, one is put right
behind the last token. -/
def ofTokens (tokens : List Token) : Parser :=
  match tokens.getLast? with
  | none => ⟨[Token.endOfLine 0], 0⟩
  | some last =>
      if last.kind = .endOfLine then ⟨tokens, 0⟩
      else ⟨tokens ++ [Token.endOfLine (last.span.last + 1)], 0⟩

/-- A parser in front of the tokens of a line. -/
def ofLine (line : String) : Parser :=
  ofTokens (tokenize line)

/-- The token the parser stands in front of. -/
def current (parser : Parser) : Token :=
  parser.rest.headD (Token.endOfLine 0)

/-- The parser behind the current token. -/
def advanced (parser : Parser) : Parser :=
  { parser with rest := dropToken parser.rest }

end Parser

/-- A state from which the grammar can be read, and what a reading of it halts with. -/
class ReadingState (State : Type) (Halt : outParam Type) where
  current : State → Token
  advanced : State → State
  height : State → Nat
  withHeight : Nat → State → State
  failed : SyntaxError → Halt
  /-- No loop of the grammar takes as many steps from the state on. -/
  stepsLeft : State → Nat
  /-- What a loop does that has used up its steps. -/
  outOfSteps : EStateM Halt State Unit

instance : ReadingState Parser SyntaxError where
  current := Parser.current
  advanced := Parser.advanced
  height := Parser.height
  withHeight := fun height parser => { parser with height := height }
  failed := fun error => error
  stepsLeft := fun parser => parser.rest.length
  outOfSteps := pure ()

/-- A reading that moves the parser and gives a result or a syntax error. -/
abbrev Reading (Result : Type) : Type :=
  EStateM SyntaxError Parser Result

namespace Reading

variable
    {State Halt Result : Type}
    [ReadingState State Halt]

/-- The token the state stands in front of. -/
def current : EStateM Halt State Token := do
  return ReadingState.current (← get)

/-- Pass the current token. -/
def advance : EStateM Halt State Unit :=
  modify ReadingState.advanced

/-- The height of the expression that was read last. -/
def recordedHeight : EStateM Halt State Nat := do
  return ReadingState.height (← get)

/-- Remember the height of an expression. -/
def recordHeight (height : Nat) : EStateM Halt State Unit :=
  modify (ReadingState.withHeight height)

/-- Fail at the column. -/
def fail (fault : SyntaxFault) (column : Nat) : EStateM Halt State Result :=
  throw (ReadingState.failed State ⟨fault, column⟩)

/-- Remember the height of a node above a tree of height `below`, which has to stay within the
limit, and give it. -/
def grow (below column : Nat) : EStateM Halt State Nat := do
  if nestingLimit < below + 1 then fail .nestedTooDeeply column
  else
    recordHeight (below + 1)
    return below + 1

end Reading

end AsmShell
