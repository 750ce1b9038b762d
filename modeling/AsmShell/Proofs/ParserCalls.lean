import AsmShell.Parser.CommandLine

/-!
# Calls of a parser

A parser can be called from outside for a primary, a unary expression, an expression, a
command, and to go on with an expression.  Every call leaves the parser at some place and
with some recorded height, whether it succeeds or fails, and the next call begins there.
-/

namespace AsmShell.Parser

/-- A call of a parser from outside. -/
inductive Call where
  | primary
  | unary
  | expression
  | continued (floor : Int) (left : Expr)
  | command

/-- What a call answers. -/
inductive Answer where
  | reading (outcome : Except SyntaxError Expr)
  | parsed (command : Option Command) (errors : List SyntaxError)

/-- The expressions of an answer. -/
def Answer.exprs : Answer → List Expr
  | .reading (.ok expr) => [expr]
  | .reading (.error _) => []
  | .parsed none _ => []
  | .parsed (some command) _ => command.arguments

/-- The reading that a call asks for, unless it asks for a command. -/
def Call.reading? : Call → Option (Reading Expr)
  | .primary => some Reading.primary
  | .unary => some Reading.unary
  | .expression => some Reading.expression
  | .continued floor left => some (Reading.continued floor left)
  | .command => none

/-- The answer and the parser that a reading gives. -/
def answered : EStateM.Result SyntaxError Parser Expr → Answer × Parser
  | .ok expr after => (.reading (.ok expr), after)
  | .error error after => (.reading (.error error), after)

/-- Answer a call. -/
def perform (parser : Parser) (call : Call) : Answer × Parser :=
  match call.reading? with
  | some reading => answered (reading.run parser)
  | none =>
      let parsed := parser.readCommand
      (.parsed parsed.command parsed.errors, parsed.parser)

/-- Answer calls one after the other. -/
def performAll (parser : Parser) : List Call → List Answer × Parser
  | [] => ([], parser)
  | call :: calls =>
      let (answer, after) := parser.perform call
      let (answers, final) := after.performAll calls
      (answer :: answers, final)

theorem performAll_concat
    (parser : Parser)
    (calls : List Call)
    (last : Call) :
    parser.performAll (calls ++ [last]) =
      ((parser.performAll calls).1 ++ [((parser.performAll calls).2.perform last).1],
        ((parser.performAll calls).2.perform last).2) := by
  induction calls generalizing parser with
  | nil =>
      rfl
  | cons call calls callsHypothesis =>
      simp only [List.cons_append, performAll, callsHypothesis]

end AsmShell.Parser
