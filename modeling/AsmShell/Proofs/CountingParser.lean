import AsmShell.Proofs.ParserCalls

/-!
# A parser that counts

The parser of this library keeps what is left of the tokens, and the levels that may
still be opened bound its recursion.  The counting parser keeps all tokens and a position
in them, and counts the open levels and the open parentheses up and down.  It halts where
a count at zero is to be decremented, and where a loop runs on behind its bound.  It also
notes the furthest position and the greatest depth that it has ever reached.

Both read the same grammar, each from its own state.  What is counted, and how a command
passes over what it skips, is said here.
-/

namespace AsmShell

/-- Why a counted reading gives no result: the tokens cannot be read, a count at zero was to be
decremented, or a loop ran on behind its bound. -/
inductive Halt where
  | failed (error : SyntaxError)
  | belowZero
  | endless

/-- A parser with all its tokens, a position in them, and the number of levels that are open.  It
also notes the furthest position and the greatest depth so far. -/
structure CountingParser where
  tokens : List Token
  position : Nat
  depth : Nat
  height : Nat
  furthest : Nat
  deepest : Nat

/-- A reading that moves and counts. -/
abbrev CountedReading (Result : Type) : Type :=
  EStateM Halt CountingParser Result

namespace CountingParser

/-- A counting parser in front of the tokens, closed as for any parser. -/
def ofTokens (tokens : List Token) : CountingParser where
  tokens := (Parser.ofTokens tokens).rest
  position := 0
  depth := 0
  height := 0
  furthest := 0
  deepest := 0

/-- The token at the position, or the last one where the position is behind it. -/
def current (parser : CountingParser) : Token :=
  parser.tokens.getD (min parser.position (parser.tokens.length - 1)) (Token.endOfLine 0)

/-- The parser behind the current token; the end of the line is never passed. -/
def advanced (parser : CountingParser) : CountingParser :=
  if parser.current.kind = .endOfLine then parser
  else
    { parser with
      position := parser.position + 1
      furthest := max parser.furthest (parser.position + 1) }

/-- The parser one level further in. -/
def entered (parser : CountingParser) : CountingParser :=
  { parser with
    depth := parser.depth + 1
    deepest := max parser.deepest (parser.depth + 1) }

/-- The parser one level further out. -/
def left (parser : CountingParser) : CountingParser :=
  { parser with depth := parser.depth - 1 }

end CountingParser

instance : ReadingState CountingParser Halt where
  current := CountingParser.current
  advanced := CountingParser.advanced
  height := CountingParser.height
  withHeight := fun height parser => { parser with height := height }
  failed := Halt.failed
  stepsLeft := fun parser => parser.tokens.length - parser.position
  outOfSteps := throw .endless

namespace CountedReading

open AsmShell.Reading (current advance fail prefixedWith)

/-! ## Levels -/

/-- Open a level. -/
def enter : CountedReading Unit := do
  let parser ← get
  if nestingLimit ≤ parser.depth then fail .nestedTooDeeply parser.current.column
  else set parser.entered

/-- Close a level. -/
def leave : CountedReading Unit := do
  let parser ← get
  if parser.depth = 0 then throw .belowZero
  else set parser.left

/-- The outcome of a reading; only a reading that halts for another reason than its tokens has
none. -/
def outcome {Result : Type} (reading : CountedReading Result) :
    CountedReading (Except SyntaxError Result) := fun parser =>
  match reading.run parser with
  | .ok value after => .ok (.ok value) after
  | .error (.failed error) after => .ok (.error error) after
  | .error halt after => .error halt after

/-- Read one level further in; the level is closed whatever the outcome is. -/
def nested (reading : CountedReading Expr) : CountedReading Expr := do
  enter
  let read ← outcome reading
  leave
  match read with
  | .ok expr => return expr
  | .error error => throw (.failed error)

/-- Operators in front of a primary, nested at most `levels` times. -/
def unaryWithin : (levels : Nat) → CountedReading Expr
  | 0 => throw .endless
  | levels + 1 => nested (prefixedWith (unaryWithin levels))

/-- Operators in front of a primary.  Beyond the limit no level is opened any more. -/
def unary : CountedReading Expr :=
  unaryWithin (nestingLimit + 1)

/-! ## Commands -/

/-- Pass operators, at most `steps` times. -/
def skipOperators : (steps : Nat) → CountedReading Unit
  | 0 => throw .endless
  | steps + 1 => do
      let token ← current
      if token.kind.unaryOp?.isSome then
        advance
        skipOperators steps
      else
        return ()

/-- The number of open parentheses behind a token. -/
def countParens (opened : Nat) : TokenKind → CountedReading Nat
  | .openParen => return opened + 1
  | .closeParen => if opened = 0 then throw .belowZero else return opened - 1
  | _ => return opened

/-- Pass tokens until no parenthesis is open, at most `steps` times. -/
def skipGroup : (steps opened : Nat) → CountedReading Unit
  | 0, _ => throw .endless
  | steps + 1, opened => do
      let token ← current
      if token.kind = .endOfLine then return ()
      else
        let stillOpened ← countParens opened token.kind
        advance
        if stillOpened = 0 then return () else skipGroup steps stillOpened

/-- Pass operators, and then one token or a group. -/
def skipArgument : CountedReading Unit := do
  let steps := (← get).tokens.length
  skipOperators steps
  let token ← current
  if token.kind = .openParen then skipGroup steps 0 else advance

/-- Go back to a position. -/
def rewind (position : Nat) : CountedReading Unit :=
  modify fun parser => { parser with position := position }

/-- Read an argument, or pass what is skipped for it. -/
def argument : CountedReading (Except SyntaxError Expr) := do
  let start := (← get).position
  let read ← outcome unary
  match read with
  | .ok expr => return .ok expr
  | .error error =>
      if error.fault = .nestedTooDeeply then
        rewind start
        skipArgument
      else
        advance
      return .error error

/-- Read arguments up to the end of the line, at most `steps` times. -/
def arguments : (steps : Nat) → CountedReading (List (Except SyntaxError Expr))
  | 0 => throw .endless
  | steps + 1 => do
      let token ← current
      if token.kind = .endOfLine then return []
      else
        let read ← argument
        let others ← arguments steps
        return read :: others

/-- Read a name and its arguments: the command and the errors. -/
def command : CountedReading (Option Command × List SyntaxError) := do
  let token ← current
  if token.kind = .identifier then
    advance
    let outcomes ← arguments (← get).tokens.length
    let command : Command := ⟨token.text, token.span, outcomes.filterMap (·.toOption)⟩
    let errors := outcomes.filterMap fun
      | .ok _ => none
      | .error error => some error
    return (some command, errors)
  else
    return (none, [⟨.expectedCommand, token.column⟩])

end CountedReading

/-! ## Calls -/

namespace CountingParser

open AsmShell.Parser (Call Answer)
open AsmShell.Reading (continuedWith expressionWith primaryWith)

/-- The counted reading that a call asks for, unless it asks for a command. -/
def reading? : Call → Option (CountedReading Expr)
  | .primary => some (primaryWith (expressionWith CountedReading.unary))
  | .unary => some CountedReading.unary
  | .expression => some (expressionWith CountedReading.unary)
  | .continued floor left => some (continuedWith CountedReading.unary floor left)
  | .command => none

/-- The answer to a call, unless a count goes below zero or a loop does not end. -/
def perform (parser : CountingParser) (call : Call) : Option (Answer × CountingParser) :=
  match reading? call with
  | some reading =>
      match (CountedReading.outcome reading).run parser with
      | .ok read after => some (.reading read, after)
      | .error _ _ => none
  | none =>
      match CountedReading.command.run parser with
      | .ok (command, errors) after => some (.parsed command errors, after)
      | .error _ _ => none

/-- The answers to calls that are made one after the other. -/
def performAll (parser : CountingParser) : List Call → Option (List Answer × CountingParser)
  | [] => some ([], parser)
  | call :: calls => do
      let (answer, after) ← parser.perform call
      let (answers, final) ← after.performAll calls
      return (answer :: answers, final)

end CountingParser

end AsmShell
