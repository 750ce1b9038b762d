import AsmShell.Parser.Expression

/-!
# Reading command lines

A command line is a name and its arguments, each of them a unary expression: an
operator between two arguments is not combined with them unless it stands in
parentheses.  An argument that cannot be read is reported once, and reading goes
on behind the token that stopped it.  An argument that is nested too deeply is
skipped as a whole instead.  So the tokens behind the name fall into consecutive
pieces, each of which gives one argument or one error.
-/

namespace AsmShell

/-- The tokens behind the parenthesis that closes a group in which `inner` further groups are
open; the end of the line is never passed. -/
def skipGroup : (inner : Nat) → List Token → List Token
  | _, [] => []
  | inner, token :: rest =>
      match token.kind, inner with
      | .endOfLine, _ => token :: rest
      | .openParen, _ => skipGroup (inner + 1) rest
      | .closeParen, 0 => rest
      | .closeParen, stillInner + 1 => skipGroup stillInner rest
      | _, _ => skipGroup inner rest

/-- The tokens behind a first argument, which is told by its tokens alone: operators in front,
then one token or a group in parentheses. -/
def skipArgument (tokens : List Token) : List Token :=
  match tokens.dropWhile fun token => token.kind.unaryOp?.isSome with
  | [] => []
  | token :: rest =>
      if token.kind = .openParen then skipGroup 0 rest else dropToken (token :: rest)

/-- What became of a line: the command, unless the line has no name, the errors in the order of
their columns, and where the parser stands. -/
structure ParsedCommand where
  command : Option Command
  errors : List SyntaxError
  parser : Parser
deriving Inhabited

namespace Parser

/-- Read one argument, and move behind it or behind what is skipped for it. -/
def readArgument (parser : Parser) : Except SyntaxError Expr × Parser :=
  match Reading.unary.run parser with
  | .ok expr after => (.ok expr, after)
  | .error error after =>
      if error.fault = .nestedTooDeeply then
        (.error error, { after with rest := skipArgument parser.rest })
      else
        (.error error, after.advanced)

/-- Read arguments up to the end of the line.  Every step passes a token, so the number of tokens
that are left bounds the number of steps. -/
def readArguments : (tokensLeft : Nat) → Parser → List (Except SyntaxError Expr) × Parser
  | 0, parser => ([], parser)
  | tokensLeft + 1, parser =>
      if parser.current.kind = .endOfLine then ([], parser)
      else
        let (outcome, after) := parser.readArgument
        let (outcomes, final) := readArguments tokensLeft after
        (outcome :: outcomes, final)

/-- Read a name and its arguments. -/
def readCommand (parser : Parser) : ParsedCommand :=
  let token := parser.current
  if token.kind = .identifier then
    let (outcomes, final) := parser.advanced.readArguments parser.rest.length
    { command := some ⟨token.text, token.span, outcomes.filterMap (·.toOption)⟩
      errors := outcomes.filterMap fun
        | .ok _ => none
        | .error error => some error
      parser := final }
  else
    { command := none
      errors := [⟨.expectedCommand, token.column⟩]
      parser := parser }

end Parser

/-- Read a line as a command. -/
def parseLine (line : String) : ParsedCommand :=
  (Parser.ofLine line).readCommand

/-- Read a line as a command and evaluate its arguments: the command with the results, where the
line has a name, and the syntax errors. -/
def interpretLine (lookup : String → Option Value) (line : String) :
    Option (Command × List (Except EvalError Value)) × List SyntaxError :=
  let parsed := parseLine line
  (parsed.command.map fun command => (command, command.eval lookup), parsed.errors)

end AsmShell
