import AsmShell.Proofs.ArgumentPieces
import AsmShell.Proofs.Columns

/-!
# Reading tokens at other columns

No reader looks at a column: columns are copied from tokens into trees and errors, and
that is all.  So where all columns of the tokens are moved, every reader takes the same
steps and leaves the same tokens behind, and the columns of what it gives are moved in the
same way.  `Reading.Carries` says this of a reading; it is passed on from the parts of a
reading to the whole by one lemma, and the recovery behind an argument that cannot be read
has it because it looks at kinds of tokens only.

A parser that stands behind all tokens sees an end of the line that is at no token's
column.  A line ends with a token of its own, which no reader passes, so this never
happens on the tokens of a line.
-/

namespace AsmShell

variable (move : Nat → Nat)

/-! ## Moving parsers and outcomes -/

/-- The error with its column moved. -/
def SyntaxError.moveColumns (error : SyntaxError) : SyntaxError :=
  { error with column := move error.column }

/-- The parser in front of the tokens with their columns moved. -/
def Parser.moveColumns (parser : Parser) : Parser :=
  { parser with rest := parser.rest.map (Token.moveColumns move) }

/-- The outcome of a reading with its columns moved, those of the value in a way of its own. -/
def movedOutcome {Value : Type} (moveValue : Value → Value) :
    EStateM.Result SyntaxError Parser Value → EStateM.Result SyntaxError Parser Value
  | .ok value after => .ok (moveValue value) (after.moveColumns move)
  | .error error after => .error (error.moveColumns move) (after.moveColumns move)

/-- Only the place of a token is moved, so the parser decides as before. -/
@[simp]
theorem Token.kind_moveColumns
    (token : Token) :
    (token.moveColumns move).kind = token.kind :=
  rfl

theorem dropToken_moveColumns
    (tokens : List Token) :
    dropToken (tokens.map (Token.moveColumns move)) =
      (dropToken tokens).map (Token.moveColumns move) := by
  cases tokens with
  | nil =>
      rfl
  | cons token rest =>
      simp only [List.map_cons, dropToken, Token.moveColumns]
      split <;> rfl

namespace Parser

theorem advanced_moveColumns
    (parser : Parser) :
    (parser.moveColumns move).advanced = parser.advanced.moveColumns move := by
  simp only [advanced, moveColumns, dropToken_moveColumns]

/-- In front of an end of the line there is a token, so no default is needed whose column would
stay. -/
theorem current_moveColumns
    {parser : Parser}
    (hasEnd : HasEnd parser.rest) :
    (parser.moveColumns move).current = parser.current.moveColumns move := by
  rcases hasEnd.exists_behind with ⟨behind, inFront⟩
  rw [current, moveColumns, inFront]
  rfl

end Parser

/-! ## Readings that carry columns along -/

namespace Reading

variable
    {Value Result : Type}
    {moveValue : Value → Value}
    {moveResult : Result → Result}

/-- On tokens with moved columns, the second reading does what the first one does, and the
columns of the outcome are moved.  The end of the line is not passed. -/
def Carries (moveValue : Value → Value) (reading moved : Reading Value) : Prop :=
  ∀ parser,
    HasEnd parser.rest →
    HasEnd (leftBehind (reading.run parser)).rest ∧
      moved.run (parser.moveColumns move) = movedOutcome move moveValue (reading.run parser)

variable {move}

/-- Moved columns are carried through a sequence. -/
theorem Carries.bind
    {reading moved : Reading Value}
    {next movedNext : Value → Reading Result}
    (carries : Carries move moveValue reading moved)
    (nextCarries : ∀ value, Carries move moveResult (next value) (movedNext (moveValue value))) :
    Carries move moveResult (reading >>= next) (moved >>= movedNext) := by
  intro parser hasEnd
  rcases carries parser hasEnd with ⟨afterEnd, ran⟩
  rw [EStateM.run_bind, EStateM.run_bind, ran]
  cases outcome : reading.run parser with
  | error error after =>
      rw [outcome] at afterEnd
      exact ⟨afterEnd, rfl⟩
  | ok value after =>
      rw [outcome] at afterEnd
      exact nextCarries value after afterEnd

theorem carries_pure
    (value : Value) :
    Carries move moveValue (pure value) (pure (moveValue value)) :=
  fun _ hasEnd => ⟨hasEnd, rfl⟩

theorem carries_current :
    Carries move (Token.moveColumns move) current current := by
  intro parser hasEnd
  refine ⟨hasEnd, ?_⟩
  rw [current_run, current_run, Parser.current_moveColumns move hasEnd]
  rfl

theorem carries_advance :
    Carries move id advance advance := by
  intro parser hasEnd
  refine ⟨hasEnd_dropToken hasEnd, ?_⟩
  rw [advance_run, advance_run, Parser.advanced_moveColumns]
  rfl

theorem carries_recordedHeight :
    Carries move id recordedHeight recordedHeight :=
  fun _ hasEnd => ⟨hasEnd, rfl⟩

theorem carries_recordHeight
    (height : Nat) :
    Carries move id (recordHeight height) (recordHeight height) :=
  fun _ hasEnd => ⟨hasEnd, rfl⟩

theorem carries_outOfSteps :
    Carries move id (ReadingState.outOfSteps : Reading Unit) ReadingState.outOfSteps :=
  fun _ hasEnd => ⟨hasEnd, rfl⟩

/-- An error is moved as the token at which it is found. -/
theorem carries_fail
    (fault : SyntaxFault)
    (column : Nat) :
    Carries move moveValue (fail fault column) (fail fault (move column)) :=
  fun _ hasEnd => ⟨hasEnd, rfl⟩

theorem carries_grow
    (below column : Nat) :
    Carries move id (grow below column) (grow below (move column)) := by
  rw [grow, grow]
  split
  · exact carries_fail _ column
  · exact (carries_recordHeight _).bind fun _ => carries_pure _

/-! ## The readers of the grammar -/

/-- A leaf has the columns of its token. -/
theorem leaf_moveColumns
    (token : Token) :
    leaf (token.moveColumns move) = (leaf token).map (Expr.moveColumns move) := by
  rcases token with ⟨kind, span, text⟩
  cases kind with
  | integer =>
      simp only [leaf, Token.moveColumns]
      cases Number.readInteger? text <;> rfl
  | float =>
      simp only [leaf, Token.moveColumns]
      cases Number.readFloat? text <;> rfl
  | _ =>
      rfl

theorem Carries.groupingWith
    {inner moved : Reading Expr}
    (carries : Carries move (Expr.moveColumns move) inner moved) :
    Carries move (Expr.moveColumns move) (groupingWith inner) (groupingWith moved) := by
  refine carries_current.bind fun opening => carries_advance.bind fun _ =>
    carries.bind fun expr => carries_current.bind fun closing => ?_
  rw [Token.kind_moveColumns]
  split
  · refine carries_advance.bind fun _ => ?_
    have widened := Expr.withSpan_moveColumns move ⟨opening.column, closing.span.last⟩ expr
    exact widened ▸ carries_pure _
  · exact carries_fail _ opening.column

theorem Carries.primaryWith
    {inner moved : Reading Expr}
    (carries : Carries move (Expr.moveColumns move) inner moved) :
    Carries move (Expr.moveColumns move) (primaryWith inner) (primaryWith moved) := by
  refine carries_current.bind fun token => ?_
  rw [Token.kind_moveColumns]
  split
  · exact carries.groupingWith
  · rw [leaf_moveColumns]
    cases leaf token with
    | ok expr =>
        exact (carries_recordHeight 1).bind fun _ => carries_advance.bind fun _ =>
          carries_pure expr
    | error fault =>
        exact carries_fail fault token.column

/-- Precedences and heights, on which a fold depends, are not moved. -/
theorem Carries.foldOperators
    {operand moved : Reading Expr}
    (carries : Carries move (Expr.moveColumns move) operand moved)
    (tokensLeft : Nat)
    (floor : Int)
    (leftHeight : Nat)
    (left : Expr) :
    Carries move (Expr.moveColumns move)
      (foldOperators operand tokensLeft floor leftHeight left)
      (foldOperators moved tokensLeft floor leftHeight (left.moveColumns move)) := by
  induction tokensLeft generalizing floor leftHeight left with
  | zero =>
      exact carries_outOfSteps.bind fun _ =>
        (carries_recordHeight _).bind fun _ => carries_pure left
  | succ tokensLeft shorter =>
      refine carries_current.bind fun token => ?_
      rw [Token.kind_moveColumns]
      cases token.kind.binaryOp? with
      | none =>
          exact (carries_recordHeight _).bind fun _ => carries_pure left
      | some op =>
          -- The two ways to find the right operand go on in the same way.
          have joined (right : Expr) :
              Carries move (Expr.moveColumns move)
                (do
                  let height ← grow (max leftHeight (← recordedHeight)) token.column
                  Reading.foldOperators operand tokensLeft floor height
                    (.binary op left right token.span (left.span.through right.span)))
                (do
                  let height ← grow (max leftHeight (← recordedHeight)) (move token.column)
                  Reading.foldOperators moved tokensLeft floor height
                    (.binary op (left.moveColumns move) (right.moveColumns move)
                      (token.span.moveColumns move)
                      ((left.moveColumns move).span.through (right.moveColumns move).span))) := by
            refine carries_recordedHeight.bind fun rightHeight =>
              (carries_grow _ token.column).bind fun height => ?_
            rw [Expr.span_moveColumns, Expr.span_moveColumns]
            exact shorter floor height
              (.binary op left right token.span (left.span.through right.span))
          dsimp only
          split
          · exact (carries_recordHeight _).bind fun _ => carries_pure left
          · refine carries_advance.bind fun _ => carries.bind fun first =>
              carries_current.bind fun next => ?_
            rw [Token.kind_moveColumns]
            split
            · exact carries_recordedHeight.bind fun _ => (shorter _ _ first).bind joined
            · exact (carries_pure first).bind joined

theorem Carries.expressionWith
    {operand moved : Reading Expr}
    (carries : Carries move (Expr.moveColumns move) operand moved) :
    Carries move (Expr.moveColumns move) (expressionWith operand) (expressionWith moved) := by
  refine carries.bind fun left parser hasEnd => ?_
  have folded := carries.foldOperators parser.rest.length 0 parser.height left parser hasEnd
  rw [continuedWith_run, continuedWith_run]
  simpa only [Parser.moveColumns, List.length_map] using folded

/-- The levels that may be opened do not depend on columns. -/
theorem carries_unaryWithin
    (levels : Nat) :
    Carries move (Expr.moveColumns move) (unaryWithin levels) (unaryWithin levels) := by
  induction levels with
  | zero =>
      exact carries_current.bind fun token => carries_fail _ token.column
  | succ levels lower =>
      refine carries_current.bind fun token => ?_
      rw [Token.kind_moveColumns]
      cases token.kind.unaryOp? with
      | some op =>
          refine carries_advance.bind fun _ => lower.bind fun operand =>
            carries_recordedHeight.bind fun height =>
              (carries_grow height token.column).bind fun _ => ?_
          rw [Expr.span_moveColumns]
          exact carries_pure (Expr.unary op operand ⟨token.column, operand.span.last⟩)
      | none =>
          exact lower.expressionWith.primaryWith

end Reading

/-! ## Recovery -/

/-- Parentheses are matched by the kinds of tokens alone. -/
theorem skipGroup_moveColumns
    (inner : Nat)
    (tokens : List Token) :
    skipGroup inner (tokens.map (Token.moveColumns move)) =
      (skipGroup inner tokens).map (Token.moveColumns move) := by
  induction tokens generalizing inner with
  | nil =>
      rfl
  | cons token rest restHypothesis =>
      rcases token with ⟨kind, span, text⟩
      simp only [List.map_cons, Token.moveColumns, skipGroup]
      split
      · rfl
      · exact restHypothesis _
      · rfl
      · exact restHypothesis _
      · exact restHypothesis _

theorem skipArgument_moveColumns
    (tokens : List Token) :
    skipArgument (tokens.map (Token.moveColumns move)) =
      (skipArgument tokens).map (Token.moveColumns move) := by
  have sameKinds :
      (fun token : Token => token.kind.unaryOp?.isSome) ∘ Token.moveColumns move =
        fun token => token.kind.unaryOp?.isSome :=
    rfl
  rw [skipArgument, skipArgument, List.dropWhile_map, sameKinds]
  cases tokens.dropWhile fun token => token.kind.unaryOp?.isSome with
  | nil =>
      rfl
  | cons token rest =>
      simp only [List.map_cons]
      show (if token.kind = .openParen then _ else _) = _
      split
      · exact skipGroup_moveColumns move 0 rest
      · exact dropToken_moveColumns move (token :: rest)

/-! ## Command lines -/

/-- What became of an argument, with its columns moved. -/
def movedArgument : Except SyntaxError Expr → Except SyntaxError Expr
  | .ok expr => .ok (expr.moveColumns move)
  | .error error => .error (error.moveColumns move)

/-- The arguments of moved outcomes are the moved arguments. -/
theorem arguments_movedArgument
    (outcomes : List (Except SyntaxError Expr)) :
    (outcomes.map (movedArgument move)).filterMap (·.toOption) =
      (outcomes.filterMap (·.toOption)).map (Expr.moveColumns move) := by
  rw [List.filterMap_map, List.map_filterMap]
  congr 1
  funext outcome
  cases outcome <;> rfl

/-- The errors of moved outcomes are the moved errors. -/
theorem errors_movedArgument
    (outcomes : List (Except SyntaxError Expr)) :
    ((outcomes.map (movedArgument move)).filterMap fun
        | .ok _ => none
        | .error error => some error) =
      (outcomes.filterMap fun
        | .ok _ => none
        | .error error => some error).map (SyntaxError.moveColumns move) := by
  rw [List.filterMap_map, List.map_filterMap]
  congr 1
  funext outcome
  cases outcome <;> rfl

/-- The command with its columns moved. -/
def Command.moveColumns (command : Command) : Command where
  name := command.name
  span := command.span.moveColumns move
  arguments := command.arguments.map (Expr.moveColumns move)

/-- What became of a line, with its columns moved. -/
def ParsedCommand.moveColumns (parsed : ParsedCommand) : ParsedCommand where
  command := parsed.command.map (Command.moveColumns move)
  errors := parsed.errors.map (SyntaxError.moveColumns move)
  parser := parsed.parser.moveColumns move

namespace Parser

/-- An argument is read, or skipped, in the same way when all tokens are moved. -/
theorem readArgument_moveColumns
    {parser after : Parser}
    {outcome : Except SyntaxError Expr}
    (hasEnd : HasEnd parser.rest)
    (read : parser.readArgument = (outcome, after)) :
    HasEnd after.rest ∧
      (parser.moveColumns move).readArgument =
        (movedArgument move outcome, after.moveColumns move) := by
  have carries :
      Reading.Carries move (Expr.moveColumns move) (Reading.unaryWithin nestingLimit)
        (Reading.unaryWithin nestingLimit) :=
    Reading.carries_unaryWithin nestingLimit
  rcases carries parser hasEnd with ⟨behindEnd, ran⟩
  rw [readArgument, Reading.unary] at read ⊢
  rw [ran]
  cases unaryRead : (Reading.unaryWithin nestingLimit).run parser with
  | ok expr behind =>
      rw [unaryRead] at read behindEnd
      cases read
      exact ⟨behindEnd, rfl⟩
  | error error behind =>
      rw [unaryRead] at behindEnd
      simp only [unaryRead] at read
      by_cases tooDeep : error.fault = .nestedTooDeeply
      · rw [if_pos tooDeep] at read
        cases read
        refine ⟨hasEnd_skipArgument hasEnd, ?_⟩
        simp only [movedOutcome, SyntaxError.moveColumns, if_pos tooDeep, moveColumns,
          skipArgument_moveColumns, movedArgument]
      · rw [if_neg tooDeep] at read
        cases read
        refine ⟨hasEnd_dropToken behindEnd, ?_⟩
        simp only [movedOutcome, SyntaxError.moveColumns, if_neg tooDeep, advanced_moveColumns,
          movedArgument]

theorem readArguments_moveColumns
    (tokensLeft : Nat)
    {parser : Parser}
    (hasEnd : HasEnd parser.rest) :
    (parser.moveColumns move).readArguments tokensLeft =
      ((parser.readArguments tokensLeft).1.map (movedArgument move),
        (parser.readArguments tokensLeft).2.moveColumns move) := by
  induction tokensLeft generalizing parser with
  | zero =>
      rfl
  | succ tokensLeft shorter =>
      have sameKind :
          (parser.moveColumns move).current.kind = parser.current.kind := by
        rw [current_moveColumns move hasEnd, Token.kind_moveColumns]
      rw [readArguments, readArguments, sameKind]
      split
      · rfl
      · rcases read : parser.readArgument with ⟨outcome, after⟩
        rcases readArgument_moveColumns move hasEnd read with ⟨afterEnd, movedRead⟩
        simp only [movedRead, shorter afterEnd, List.map_cons]

/-- A parser in front of moved tokens reads the moved command. -/
theorem readCommand_moveColumns
    {parser : Parser}
    (hasEnd : HasEnd parser.rest) :
    (parser.moveColumns move).readCommand = parser.readCommand.moveColumns move := by
  have length : (parser.moveColumns move).rest.length = parser.rest.length :=
    List.length_map _
  rw [readCommand, readCommand, current_moveColumns move hasEnd, advanced_moveColumns, length,
    readArguments_moveColumns move _ (hasEnd_dropToken hasEnd), Token.kind_moveColumns]
  split
  · simp only [ParsedCommand.moveColumns, Option.map_some, Command.moveColumns,
      ParsedCommand.mk.injEq, Option.some.injEq, Command.mk.injEq, and_true]
    exact ⟨⟨rfl, rfl, arguments_movedArgument move _⟩, errors_movedArgument move _⟩
  · rfl

end Parser

theorem hasEnd_tokenize
    (line : String) :
    HasEnd (tokenize line) := by
  rcases exists_getLast?_tokensFrom 0 line.toList with ⟨ending, isLast⟩
  exact ⟨_, List.mem_of_getLast? isLast, rfl⟩

/-- The tokens of a line at other columns are read as the same command, with the same errors, at
these columns. -/
theorem readCommand_moveColumns_tokenize
    (line : String) :
    (Parser.mk ((tokenize line).map (Token.moveColumns move)) 0).readCommand =
      (parseLine line).moveColumns move := by
  have hasEnd : HasEnd (Parser.mk (tokenize line) 0).rest := hasEnd_tokenize line
  rw [parseLine, Parser.ofLine_eq]
  exact Parser.readCommand_moveColumns move hasEnd

/-- Two lines with the same tokens up to columns give the same command and the same errors, with
the columns moved likewise. -/
theorem parseLine_moveColumns
    {line other : String}
    (moved : tokenize other = (tokenize line).map (Token.moveColumns move)) :
    parseLine other = (parseLine line).moveColumns move := by
  rw [← readCommand_moveColumns_tokenize, ← moved, parseLine, Parser.ofLine_eq]

end AsmShell
