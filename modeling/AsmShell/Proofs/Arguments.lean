import AsmShell.Parser.CommandLine
import AsmShell.Proofs.AcceptedOperands

/-!
# The arguments of a command line

A reader only ever moves forward over the tokens, whether it succeeds or fails, and
so does the recovery from an error.  Hence whatever was reported before it, an
argument of a command is an operand whose tokens stand one after the other in the
line.
-/

namespace AsmShell

/-! ## Readers move forward -/

/-- The parser that a reading leaves behind. -/
def leftBehind {Result : Type} : EStateM.Result SyntaxError Parser Result → Parser
  | .ok _ after => after
  | .error _ after => after

/-- No token is put back. -/
theorem dropToken_suffix
    (tokens : List Token) :
    dropToken tokens <:+ tokens := by
  cases tokens with
  | nil =>
      exact List.suffix_refl []
  | cons token rest =>
      rw [dropToken]
      split
      · exact List.suffix_refl _
      · exact List.suffix_cons token rest

namespace Reading

variable {Value Result : Type}

/-- Whatever its outcome, the reading leaves an end of the tokens behind. -/
def MovesForward (reading : Reading Result) : Prop :=
  ∀ parser, (leftBehind (reading.run parser)).rest <:+ parser.rest

/-- Readings that move forward do so one after the other. -/
theorem MovesForward.bind
    {reading : Reading Value}
    {next : Value → Reading Result}
    (forward : MovesForward reading)
    (nextForward : ∀ value, MovesForward (next value)) :
    MovesForward (reading >>= next) := by
  intro parser
  have first := forward parser
  rw [EStateM.run_bind]
  cases ran : reading.run parser with
  | error error between =>
      rw [ran] at first
      exact first
  | ok value between =>
      rw [ran] at first
      exact (nextForward value between).trans first

theorem movesForward_pure
    (value : Value) :
    MovesForward (pure value : Reading Value) :=
  fun parser => List.suffix_refl parser.rest

theorem movesForward_current :
    MovesForward current :=
  fun parser => List.suffix_refl parser.rest

theorem movesForward_recordedHeight :
    MovesForward recordedHeight :=
  fun parser => List.suffix_refl parser.rest

theorem movesForward_recordHeight
    (height : Nat) :
    MovesForward (recordHeight height) :=
  fun parser => List.suffix_refl parser.rest

/-- Passing the current token is the only step that moves. -/
theorem movesForward_advance :
    MovesForward advance :=
  fun parser => dropToken_suffix parser.rest

theorem movesForward_fail
    (fault : SyntaxFault)
    (column : Nat) :
    MovesForward (fail fault column : Reading Result) :=
  fun parser => List.suffix_refl parser.rest

/-- Recording a height does not move, and neither does refusing one. -/
theorem movesForward_grow
    (below column : Nat) :
    MovesForward (grow below column) := by
  rw [grow]
  split
  · exact movesForward_fail _ _
  · exact (movesForward_recordHeight _).bind fun _ => movesForward_pure _

theorem MovesForward.groupingWith
    {inner : Reading Expr}
    (forward : MovesForward inner) :
    MovesForward (groupingWith inner) := by
  refine movesForward_current.bind fun opening => movesForward_advance.bind fun _ =>
    forward.bind fun expr => movesForward_current.bind fun closing => ?_
  split
  · exact movesForward_advance.bind fun _ => movesForward_pure _
  · exact movesForward_fail _ _

theorem MovesForward.primaryWith
    {inner : Reading Expr}
    (forward : MovesForward inner) :
    MovesForward (primaryWith inner) := by
  refine movesForward_current.bind fun token => ?_
  split
  · exact forward.groupingWith
  · split
    · exact (movesForward_recordHeight _).bind fun _ =>
        movesForward_advance.bind fun _ => movesForward_pure _
    · exact movesForward_fail _ _

/-- A fold moves forward as its operands do, however many operators it finds. -/
theorem MovesForward.foldOperators
    {operand : Reading Expr}
    (forward : MovesForward operand)
    (tokensLeft : Nat)
    (floor : Int)
    (leftHeight : Nat)
    (left : Expr) :
    MovesForward (foldOperators operand tokensLeft floor leftHeight left) := by
  induction tokensLeft generalizing floor leftHeight left with
  | zero =>
      exact (movesForward_recordHeight _).bind fun _ => movesForward_pure _
  | succ tokensLeft shorter =>
      refine movesForward_current.bind fun token => ?_
      split
      · exact (movesForward_recordHeight _).bind fun _ => movesForward_pure _
      · split
        · exact (movesForward_recordHeight _).bind fun _ => movesForward_pure _
        · refine movesForward_advance.bind fun _ => forward.bind fun first =>
            movesForward_current.bind fun next => ?_
          split
          · exact movesForward_recordedHeight.bind fun _ => (shorter _ _ _).bind fun _ =>
              movesForward_recordedHeight.bind fun _ => (movesForward_grow _ _).bind fun _ =>
                shorter _ _ _
          · exact (movesForward_pure _).bind fun _ => movesForward_recordedHeight.bind fun _ =>
              (movesForward_grow _ _).bind fun _ => shorter _ _ _

theorem MovesForward.expressionWith
    {operand : Reading Expr}
    (forward : MovesForward operand) :
    MovesForward (expressionWith operand) := by
  refine forward.bind fun left parser => ?_
  exact forward.foldOperators _ _ _ _ parser

/-- Whether it succeeds or fails, a unary expression moves forward. -/
theorem movesForward_unaryWithin
    (levels : Nat) :
    MovesForward (unaryWithin levels) := by
  induction levels with
  | zero =>
      exact movesForward_current.bind fun _ => movesForward_fail _ _
  | succ levels lower =>
      refine movesForward_current.bind fun token => ?_
      split
      · exact movesForward_advance.bind fun _ => lower.bind fun _ =>
          movesForward_recordedHeight.bind fun _ => (movesForward_grow _ _).bind fun _ =>
            movesForward_pure _
      · exact lower.expressionWith.primaryWith

end Reading

/-! ## Recovery moves forward -/

/-- Skipping a group passes tokens and nothing else. -/
theorem skipGroup_suffix
    (inner : Nat)
    (tokens : List Token) :
    skipGroup inner tokens <:+ tokens := by
  induction tokens generalizing inner with
  | nil =>
      exact List.suffix_refl []
  | cons token rest restHypothesis =>
      unfold skipGroup
      split
      · exact List.suffix_refl _
      · exact (restHypothesis _).trans (List.suffix_cons token rest)
      · exact List.suffix_cons token rest
      · exact (restHypothesis _).trans (List.suffix_cons token rest)
      · exact (restHypothesis _).trans (List.suffix_cons token rest)

theorem skipArgument_suffix
    (tokens : List Token) :
    skipArgument tokens <:+ tokens := by
  have dropped :
      (tokens.dropWhile fun token => token.kind.unaryOp?.isSome) <:+ tokens :=
    List.dropWhile_suffix _
  rw [skipArgument]
  split
  · exact List.nil_suffix
  · rename_i token rest behind
    rw [behind] at dropped
    split
    · exact ((skipGroup_suffix 0 rest).trans (List.suffix_cons token rest)).trans dropped
    · exact (dropToken_suffix _).trans dropped

/-! ## Arguments are operands -/

namespace Parser

/-- An argument passes tokens, also where it is skipped: the skip begins at its own first token.
-/
theorem readArgument_suffix
    (parser : Parser) :
    parser.readArgument.2.rest <:+ parser.rest := by
  have forward := Reading.movesForward_unaryWithin nestingLimit parser
  rw [readArgument, Reading.unary]
  cases ran : (Reading.unaryWithin nestingLimit).run parser with
  | ok expr after =>
      rw [ran] at forward
      exact forward
  | error error after =>
      rw [ran] at forward
      simp only
      split
      · exact skipArgument_suffix parser.rest
      · exact (dropToken_suffix after.rest).trans forward

/-- An argument that is read is a derived operand within the limits, which stands in front. -/
theorem readArgument_eq_ok
    {parser : Parser}
    {expr : Expr}
    (read : parser.readArgument.1 = .ok expr) :
    ∃ operand : Operand,
      operand.Within nestingLimit ∧ expr = operand.tree ∧
        operand.tokens <+: parser.rest := by
  rw [readArgument, Reading.unary] at read
  cases ran : (Reading.unaryWithin nestingLimit).run parser with
  | ok tree after =>
      simp only [ran, Except.ok.injEq] at read
      subst read
      rcases (Reading.unaryWithin_reads _ _ _ _).1 ran with
        ⟨operand, within, passed, rfl, _⟩
      exact ⟨operand, within, rfl, after.rest, passed.symm⟩
  | error error after =>
      simp only [ran] at read
      split at read <;> cases read

/-- Whatever was skipped before it, an argument is an operand that stands in the line. -/
theorem exists_operand_of_mem_readArguments
    (tokensLeft : Nat)
    (parser : Parser)
    (expr : Expr)
    (member : .ok expr ∈ (parser.readArguments tokensLeft).1) :
    ∃ operand : Operand,
      operand.Within nestingLimit ∧ expr = operand.tree ∧
        operand.tokens <:+: parser.rest := by
  induction tokensLeft generalizing parser with
  | zero =>
      simp [readArguments] at member
  | succ tokensLeft shorter =>
      rw [readArguments] at member
      split at member
      · simp at member
      · rcases List.mem_cons.1 member with isFirst | inOthers
        · rcases readArgument_eq_ok isFirst.symm with ⟨operand, within, tree, isPrefix⟩
          exact ⟨operand, within, tree, isPrefix.isInfix⟩
        · rcases shorter _ inOthers with ⟨operand, within, tree, isInfix⟩
          exact ⟨operand, within, tree, isInfix.trans parser.readArgument_suffix.isInfix⟩

/-- Each argument of a command is a derived operand whose tokens stand together in the line. -/
theorem exists_operand_of_mem_arguments
    {parser : Parser}
    {command : Command}
    (parsed : parser.readCommand.command = some command)
    (argument : Expr)
    (member : argument ∈ command.arguments) :
    ∃ operand : Operand,
      operand.Within nestingLimit ∧ argument = operand.tree ∧
        operand.tokens <:+: parser.rest := by
  rw [readCommand] at parsed
  split at parsed
  · cases parsed
    rcases List.mem_filterMap.1 member with ⟨outcome, outcomeMember, isArgument⟩
    cases outcome with
    | error error =>
        cases isArgument
    | ok expr =>
        cases isArgument
        rcases exists_operand_of_mem_readArguments _ _ _ outcomeMember with
          ⟨operand, within, tree, isInfix⟩
        exact ⟨operand, within, tree, isInfix.trans (dropToken_suffix parser.rest).isInfix⟩
  · cases parsed

end Parser

end AsmShell
