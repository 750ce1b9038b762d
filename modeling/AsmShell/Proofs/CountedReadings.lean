import AsmShell.Proofs.Arguments
import AsmShell.Proofs.CountingParser

/-!
# Counted readings agree with readings

A counting parser mirrors a parser: the tokens from its position on are those that the
parser has not passed, as far as the first end of the line.  Behind this token, the two
may have different tokens.  A counted reading and the reading of the same rule keep this:
they succeed with the same result or fail with the same error, and the counted one neither
takes a count below zero nor runs on behind the bound of a loop.  All levels that it opens
are closed again, and it does not move backwards.
-/

namespace AsmShell

/-- Tokens up to their first end of the line. -/
structure ClosedLine where
  tokens : List Token
  ending : Token
  inside : ∀ token ∈ tokens, token.kind ≠ .endOfLine
  isEnd : ending.kind = .endOfLine

/-- The counting parser stands where the parser stands. -/
structure Mirrors
    (line : ClosedLine)
    (behind : List Token)
    (counting : CountingParser)
    (parser : Parser) :
    Prop where
  tokens_eq : ∃ others, counting.tokens = line.tokens ++ line.ending :: others
  rest_eq : parser.rest = line.tokens.drop counting.position ++ line.ending :: behind
  height_eq : counting.height = parser.height
  position_le : counting.position ≤ counting.furthest
  furthest_le : counting.furthest ≤ line.tokens.length
  deepest_le : counting.deepest ≤ nestingLimit

/-- No level is left open, and the parser has not moved backwards. -/
structure Steady (before after : CountingParser) : Prop where
  tokens_eq : after.tokens = before.tokens
  depth_eq : after.depth = before.depth
  position_le : before.position ≤ after.position

theorem Steady.refl
    (parser : CountingParser) :
    Steady parser parser :=
  ⟨rfl, rfl, Nat.le_refl _⟩

theorem Steady.trans
    {first second third : CountingParser}
    (firstSteady : Steady first second)
    (secondSteady : Steady second third) :
    Steady first third where
  tokens_eq := secondSteady.tokens_eq.trans firstSteady.tokens_eq
  depth_eq := secondSteady.depth_eq.trans firstSteady.depth_eq
  position_le := Nat.le_trans firstSteady.position_le secondSteady.position_le

variable
    {line : ClosedLine}
    {behind : List Token}

/-! ## The current token -/

namespace Mirrors

variable
    {counting : CountingParser}
    {parser : Parser}

/-- The position is never behind the first end of the line. -/
theorem inLine
    (mirrors : Mirrors line behind counting parser) :
    counting.position ≤ line.tokens.length :=
  Nat.le_trans mirrors.position_le mirrors.furthest_le

/-- The parsers stand in front of the end of the line, or of a token inside it. -/
theorem current_cases
    (mirrors : Mirrors line behind counting parser) :
    counting.current = parser.current ∧
      (counting.position = line.tokens.length ∧ parser.rest = line.ending :: behind ∧
          parser.current.kind = .endOfLine ∨
        counting.position < line.tokens.length ∧
          parser.current.kind ≠ .endOfLine ∧
          parser.advanced.rest =
            line.tokens.drop (counting.position + 1) ++ line.ending :: behind) := by
  rcases mirrors.tokens_eq with ⟨others, tokens_eq⟩
  have rest_eq := mirrors.rest_eq
  have inLine := mirrors.inLine
  have place : min counting.position (counting.tokens.length - 1) = counting.position := by
    rw [tokens_eq]
    simp
    omega
  have current_eq :
      counting.current =
        (line.tokens ++ line.ending :: others).getD counting.position (Token.endOfLine 0) := by
    rw [CountingParser.current, place, tokens_eq]
  rcases Nat.lt_or_eq_of_le inLine with before | atEnd
  · rw [List.drop_eq_getElem_cons before, List.cons_append] at rest_eq
    have parser_current := Parser.current_of_rest_eq rest_eq
    have inside := line.inside _ (List.getElem_mem before)
    refine ⟨?_, Or.inr ⟨before, parser_current ▸ inside, ?_⟩⟩
    · rw [current_eq, parser_current]
      simp [List.getD, List.getElem?_append_left, before]
    · rw [Parser.advanced, rest_eq, dropToken, if_neg inside]
  · rw [atEnd, List.drop_length, List.nil_append] at rest_eq
    have parser_current := Parser.current_of_rest_eq rest_eq
    refine ⟨?_, Or.inl ⟨atEnd, rest_eq, parser_current ▸ line.isEnd⟩⟩
    rw [current_eq, parser_current, atEnd]
    simp [List.getD]

/-- Both parsers see the same token. -/
theorem current_eq
    (mirrors : Mirrors line behind counting parser) :
    counting.current = parser.current :=
  mirrors.current_cases.1

/-- Passing a token inside the line moves forward. -/
theorem advanced
    (mirrors : Mirrors line behind counting parser) :
    Mirrors line behind counting.advanced parser.advanced ∧
      Steady counting counting.advanced ∧
      (parser.current.kind ≠ .endOfLine → counting.position < counting.advanced.position) := by
  rcases mirrors.current_cases with
    ⟨current_eq, ⟨atEnd, rest_eq, ends⟩ | ⟨before, inside, rest_eq⟩⟩
  · have counting_eq : counting.advanced = counting := by
      rw [CountingParser.advanced, current_eq, if_pos ends]
    have parser_eq : parser.advanced = parser := by
      rw [Parser.advanced, rest_eq, dropToken, if_pos line.isEnd, ← rest_eq]
    rw [counting_eq, parser_eq]
    exact ⟨mirrors, Steady.refl counting, fun inside => absurd ends inside⟩
  · have counting_eq :
        counting.advanced =
          { counting with
            position := counting.position + 1
            furthest := max counting.furthest (counting.position + 1) } := by
      rw [CountingParser.advanced, current_eq, if_neg inside]
    rw [counting_eq]
    refine ⟨⟨mirrors.tokens_eq, rest_eq, mirrors.height_eq, Nat.le_max_right _ _, ?_,
      mirrors.deepest_le⟩, ⟨rfl, rfl, Nat.le_succ _⟩, fun _ => Nat.lt_succ_self _⟩
    exact Nat.max_le.2 ⟨mirrors.furthest_le, before⟩

theorem recorded
    (mirrors : Mirrors line behind counting parser)
    (height : Nat) :
    Mirrors line behind { counting with height := height } { parser with height := height } :=
  ⟨mirrors.tokens_eq, mirrors.rest_eq, rfl, mirrors.position_le, mirrors.furthest_le,
    mirrors.deepest_le⟩

end Mirrors

/-! ## Results that agree -/

variable {Value Result : Type}

/-- The counted reading has the result of the reading, and the parsers it leaves are mirrored. -/
inductive Agrees (line : ClosedLine) (behind : List Token) (before : CountingParser) :
    EStateM.Result Halt CountingParser Result → EStateM.Result SyntaxError Parser Result → Prop where
  | ok {value : Result} {counting : CountingParser} {parser : Parser} :
      Steady before counting →
      Mirrors line behind counting parser →
      Agrees line behind before (.ok value counting) (.ok value parser)
  | failed {error : SyntaxError} {counting : CountingParser} {parser : Parser} :
      Steady before counting →
      Mirrors line behind counting parser →
      Agrees line behind before (.error (.failed error) counting) (.error error parser)

/-- A reading that agrees from some place on also agrees from an earlier one. -/
theorem Agrees.from_earlier
    {before between : CountingParser}
    {counted : EStateM.Result Halt CountingParser Result}
    {result : EStateM.Result SyntaxError Parser Result}
    (steady : Steady before between)
    (agrees : Agrees line behind between counted result) :
    Agrees line behind before counted result := by
  cases agrees with
  | ok after mirrors => exact .ok (steady.trans after) mirrors
  | failed after mirrors => exact .failed (steady.trans after) mirrors

theorem Agrees.exists_ok
    {before : CountingParser}
    {counted : EStateM.Result Halt CountingParser Result}
    {value : Result}
    {parser : Parser}
    (agrees : Agrees line behind before counted (.ok value parser)) :
    ∃ after,
      counted = .ok value after ∧ Steady before after ∧ Mirrors line behind after parser := by
  cases agrees with
  | ok steady mirrors => exact ⟨_, rfl, steady, mirrors⟩

/-- What follows a counted reading that succeeds begins where this one has ended. -/
theorem Agrees.bind_ok
    {before : CountingParser}
    {counted : CountedReading Value}
    {countedNext : Value → CountedReading Result}
    {value : Value}
    {between : Parser}
    {result : EStateM.Result SyntaxError Parser Result}
    (agrees : Agrees line behind before (counted.run before) (.ok value between))
    (next : ∀ after,
      Steady before after →
      Mirrors line behind after between →
      Agrees line behind after ((countedNext value).run after) result) :
    Agrees line behind before ((counted >>= countedNext).run before) result := by
  rcases agrees.exists_ok with ⟨after, ran, steady, mirrors⟩
  rw [EStateM.run_bind, ran]
  exact (next after steady mirrors).from_earlier steady

/-- What is made of a result that agrees agrees. -/
theorem Agrees.map_ok
    {before : CountingParser}
    {counted : CountedReading Value}
    {value : Value}
    {between : Parser}
    (agrees : Agrees line behind before (counted.run before) (.ok value between))
    (make : Value → Result) :
    Agrees line behind before ((counted >>= fun value => pure (make value)).run before)
      (.ok (make value) between) :=
  agrees.bind_ok fun after _ mirrors => .ok (Steady.refl after) mirrors

/-- From the position `least` on, and with so many levels open, the counted reading agrees with the
reading. -/
def Counts
    (line : ClosedLine)
    (behind : List Token)
    (depth least : Nat)
    (counted : CountedReading Result)
    (reading : Reading Result) :
    Prop :=
  ∀ counting parser,
    counting.depth = depth →
    least ≤ counting.position →
    Mirrors line behind counting parser →
    Agrees line behind counting (counted.run counting) (reading.run parser)

namespace CountedReading

open AsmShell.Reading (current advance fail recordedHeight recordHeight grow groupingWith
  primaryWith foldOperators continuedWith expressionWith prefixedWith)

variable
    {depth least : Nat}

/-- Readings that agree do so one after the other, and the levels are as many in front of the
second as in front of the first. -/
theorem counts_bind
    {counted : CountedReading Value}
    {reading : Reading Value}
    {countedNext : Value → CountedReading Result}
    {next : Value → Reading Result}
    (counts : Counts line behind depth least counted reading)
    (nextCounts : ∀ value, Counts line behind depth least (countedNext value) (next value)) :
    Counts line behind depth least (counted >>= countedNext) (reading >>= next) := by
  intro counting parser atDepth inFront mirrors
  have agrees := counts counting parser atDepth inFront mirrors
  rw [EStateM.run_bind, EStateM.run_bind]
  generalize counted.run counting = countedResult at *
  generalize reading.run parser = result at *
  cases agrees with
  | failed steady mirrors => exact .failed steady mirrors
  | @ok value between betweenParser steady mirrors =>
      exact (nextCounts value between betweenParser (steady.depth_eq.trans atDepth)
        (Nat.le_trans inFront steady.position_le) mirrors).from_earlier steady

theorem counts_pure
    (value : Value) :
    Counts line behind depth least (pure value : CountedReading Value) (pure value) :=
  fun counting _ _ _ mirrors => .ok (Steady.refl counting) mirrors

theorem counts_fail
    (fault : SyntaxFault)
    (column : Nat) :
    Counts line behind depth least (fail fault column : CountedReading Result)
      (fail fault column) :=
  fun counting _ _ _ mirrors => .failed (Steady.refl counting) mirrors

theorem counts_current :
    Counts line behind depth least current current := by
  intro counting parser _ _ mirrors
  rw [Reading.current_run, ← mirrors.current_eq]
  exact .ok (Steady.refl counting) mirrors

/-- Passing a token keeps the positions alike; only the end of the line is not passed, by either
parser. -/
theorem counts_advance :
    Counts line behind depth least advance advance :=
  fun _ _ _ _ mirrors => .ok mirrors.advanced.2.1 mirrors.advanced.1

theorem counts_recordedHeight :
    Counts line behind depth least recordedHeight recordedHeight := by
  intro counting parser _ _ mirrors
  rw [Reading.recordedHeight_run, ← mirrors.height_eq]
  exact .ok (Steady.refl counting) mirrors

theorem counts_recordHeight
    (height : Nat) :
    Counts line behind depth least (recordHeight height) (recordHeight height) :=
  fun _ _ _ _ mirrors => .ok ⟨rfl, rfl, Nat.le_refl _⟩ (mirrors.recorded height)

/-- The limit on heights is checked in the same way, for the recorded heights are the same. -/
theorem counts_grow
    (below column : Nat) :
    Counts line behind depth least (grow below column) (grow below column) := by
  unfold grow
  split
  · exact counts_fail _ _
  · exact counts_bind (counts_recordHeight _) fun _ => counts_pure _

theorem outcome_run
    (reading : CountedReading Result)
    (parser : CountingParser) :
    (outcome reading).run parser =
      match reading.run parser with
      | .ok value after => .ok (.ok value) after
      | .error (.failed error) after => .ok (.error error) after
      | .error halt after => .error halt after :=
  rfl

/-- Looking at the current token halts for no reason. -/
theorem current_bind_run
    (next : Token → CountedReading Result)
    (parser : CountingParser) :
    (current >>= next).run parser = (next parser.current).run parser :=
  rfl

/-! ## The grammar -/

theorem counts_groupingWith
    {counted : CountedReading Expr}
    {inner : Reading Expr}
    (counts : Counts line behind depth least counted inner) :
    Counts line behind depth least (groupingWith counted) (groupingWith inner) := by
  refine counts_bind counts_current fun opening => counts_bind counts_advance fun _ =>
    counts_bind counts fun expr => counts_bind counts_current fun closing => ?_
  split
  · exact counts_bind counts_advance fun _ => counts_pure _
  · exact counts_fail _ _

/-- A rule of the grammar agrees with itself where the readings of what stands inside agree. -/
theorem counts_primaryWith
    {counted : CountedReading Expr}
    {inner : Reading Expr}
    (counts : Counts line behind depth least counted inner) :
    Counts line behind depth least (primaryWith counted) (primaryWith inner) := by
  refine counts_bind counts_current fun token => ?_
  split
  · exact counts_groupingWith counts
  · cases Reading.leaf token with
    | ok expr =>
        exact counts_bind (counts_recordHeight 1) fun _ =>
          counts_bind counts_advance fun _ => counts_pure _
    | error fault => exact counts_fail _ _

/-- Every step of a fold passes a token, so the bounds of both folds are wide enough. -/
theorem counts_foldOperators
    {counted : CountedReading Expr}
    {operand : Reading Expr}
    (counts : ∀ least, Counts line behind depth least counted operand)
    (steps tokensLeft : Nat)
    (floor : Int)
    (leftHeight : Nat)
    (left : Expr)
    (least : Nat)
    (enoughSteps : line.tokens.length < steps + least)
    (enoughLeft : line.tokens.length < tokensLeft + least) :
    Counts line behind depth least (foldOperators counted steps floor leftHeight left)
      (foldOperators operand tokensLeft floor leftHeight left) := by
  induction steps generalizing tokensLeft floor leftHeight left least with
  | zero =>
      intro counting parser _ inFront mirrors
      have := mirrors.inLine
      omega
  | succ steps shorter =>
      intro counting parser atDepth inFront mirrors
      cases tokensLeft with
      | zero =>
          have := mirrors.inLine
          omega
      | succ tokensLeft =>
          have stopped :
              Agrees line behind counting
                ((recordHeight leftHeight >>= fun _ => pure left : CountedReading Expr).run counting)
                ((recordHeight leftHeight >>= fun _ => pure left : Reading Expr).run
                  parser) :=
            counts_bind (counts_recordHeight _) (fun _ => counts_pure _) counting parser atDepth
              inFront mirrors
          rw [foldOperators, foldOperators, current_bind_run, mirrors.current_eq,
            EStateM.run_bind, Reading.current_run]
          cases written : parser.current.kind.binaryOp? with
          | none =>
              simp only [written]
              exact stopped
          | some op =>
              simp only [written]
              by_cases below : op.precedence < floor
              · simp only [if_pos below]
                exact stopped
              · simp only [if_neg below]
                rcases mirrors.advanced with ⟨advancedMirrors, steady, moves⟩
                have moved := moves (TokenKind.ne_endOfLine_of_binaryOp? written)
                have folds (floor : Int) (leftHeight : Nat) (left : Expr) :
                    Counts line behind depth (least + 1)
                      (foldOperators counted steps floor leftHeight left)
                      (foldOperators operand tokensLeft floor leftHeight left) :=
                  shorter tokensLeft floor leftHeight left (least + 1) (by omega) (by omega)
                rw [EStateM.run_bind, EStateM.run_bind]
                refine Agrees.from_earlier steady ?_
                refine counts_bind (counts (least + 1)) (fun first =>
                  counts_bind counts_current fun next => ?_) counting.advanced parser.advanced
                  (steady.depth_eq.trans atDepth) (by omega) advancedMirrors
                split
                · exact counts_bind counts_recordedHeight fun _ => counts_bind (folds _ _ _)
                    fun right => counts_bind counts_recordedHeight fun _ =>
                      counts_bind (counts_grow _ _) fun height => folds _ _ _
                · exact counts_bind (counts_pure first) fun right =>
                    counts_bind counts_recordedHeight fun _ =>
                      counts_bind (counts_grow _ _) fun height => folds _ _ _

/-- The tokens behind the position are enough steps for one parser, and the tokens that were not
passed for the other. -/
theorem counts_continuedWith
    {counted : CountedReading Expr}
    {operand : Reading Expr}
    (counts : ∀ least, Counts line behind depth least counted operand)
    (floor : Int)
    (left : Expr) :
    Counts line behind depth least (continuedWith counted floor left)
      (continuedWith operand floor left) := by
  intro counting parser atDepth inFront mirrors
  have inLine := mirrors.inLine
  have enoughSteps :
      line.tokens.length < counting.tokens.length - counting.position + counting.position := by
    rcases mirrors.tokens_eq with ⟨others, tokens_eq⟩
    rw [tokens_eq, List.length_append, List.length_cons]
    omega
  have enoughLeft : line.tokens.length < parser.rest.length + counting.position := by
    rw [mirrors.rest_eq, List.length_append, List.length_drop, List.length_cons]
    omega
  rw [Reading.continuedWith_run, ← mirrors.height_eq]
  exact counts_foldOperators counts _ _ floor counting.height left counting.position enoughSteps
    enoughLeft counting parser atDepth (Nat.le_refl _) mirrors

theorem counts_expressionWith
    {counted : CountedReading Expr}
    {operand : Reading Expr}
    (counts : ∀ least, Counts line behind depth least counted operand) :
    Counts line behind depth least (expressionWith counted) (expressionWith operand) :=
  counts_bind (counts least) fun left => counts_continuedWith counts 0 left

theorem counts_prefixedWith
    {counted : CountedReading Expr}
    {operand : Reading Expr}
    (counts : ∀ least, Counts line behind depth least counted operand) :
    Counts line behind depth least (prefixedWith counted) (prefixedWith operand) := by
  refine counts_bind counts_current fun token => ?_
  cases token.kind.unaryOp? with
  | some op =>
      exact counts_bind counts_advance fun _ => counts_bind (counts least) fun operand =>
        counts_bind counts_recordedHeight fun _ => counts_bind (counts_grow _ _) fun _ =>
          counts_pure _
  | none =>
      exact counts_primaryWith (counts_expressionWith counts)

/-! ## Levels -/

/-- A level is opened below the limit. -/
theorem enter_run
    {parser : CountingParser}
    (below : parser.depth < nestingLimit) :
    enter.run parser = .ok () parser.entered := by
  show (if nestingLimit ≤ parser.depth then _ else _ : CountedReading Unit).run parser = _
  rw [if_neg (Nat.not_le.2 below)]
  rfl

/-- At the limit the current token is refused. -/
theorem enter_run_of_full
    {parser : CountingParser}
    (full : nestingLimit ≤ parser.depth) :
    enter.run parser =
      .error (.failed ⟨.nestedTooDeeply, parser.current.column⟩) parser := by
  show (if nestingLimit ≤ parser.depth then _ else _ : CountedReading Unit).run parser = _
  rw [if_pos full]
  rfl

/-- Closing a level halts where none is open. -/
theorem leave_run
    (parser : CountingParser) :
    leave.run parser =
      if parser.depth = 0 then .error .belowZero parser else .ok () parser.left := by
  show (if parser.depth = 0 then _ else _ : CountedReading Unit).run parser = _
  split <;> rfl

theorem leave_bind_run
    (next : Unit → CountedReading Result)
    (parser : CountingParser) :
    (leave >>= next).run parser =
      if parser.depth = 0 then .error .belowZero parser else (next ()).run parser.left := by
  rw [EStateM.run_bind, leave_run]
  by_cases atZero : parser.depth = 0
  · simp only [if_pos atZero]
  · simp only [if_neg atZero]

/-- What a nested reading does where a level can be opened. -/
theorem nested_run
    {counted : CountedReading Expr}
    {parser : CountingParser}
    (below : parser.depth < nestingLimit) :
    (nested counted).run parser =
      match counted.run parser.entered with
      | .ok expr after =>
          if after.depth = 0 then .error .belowZero after else .ok expr after.left
      | .error (.failed error) after =>
          if after.depth = 0 then .error .belowZero after else .error (.failed error) after.left
      | .error halt after => .error halt after := by
  rw [nested, EStateM.run_bind, enter_run below]
  show EStateM.run (_ >>= _) parser.entered = _
  rw [EStateM.run_bind, outcome_run]
  cases counted.run parser.entered with
  | ok expr after =>
      exact leave_bind_run _ after
  | error halt after =>
      cases halt with
      | failed error => exact leave_bind_run _ after
      | belowZero => rfl
      | endless => rfl

/-- A level that is opened is closed again. -/
theorem counts_nested
    {counted : CountedReading Expr}
    {reading : Reading Expr}
    (below : depth < nestingLimit)
    (counts : Counts line behind (depth + 1) least counted reading) :
    Counts line behind depth least (nested counted) reading := by
  intro counting parser atDepth inFront mirrors
  have enteredMirrors : Mirrors line behind counting.entered parser :=
    { mirrors with deepest_le := Nat.max_le.2 ⟨mirrors.deepest_le, atDepth ▸ below⟩ }
  have agrees :=
    counts counting.entered parser (congrArg (· + 1) atDepth) inFront enteredMirrors
  -- The level is still open when the reading inside has ended, however it has ended.
  have closed {after : CountingParser} {other : Parser}
      (steady : Steady counting.entered after)
      (mirrors : Mirrors line behind after other) :
      after.depth ≠ 0 ∧ Steady counting after.left ∧ Mirrors line behind after.left other := by
    have depth_eq : after.depth = counting.depth + 1 := steady.depth_eq
    refine ⟨by omega, ⟨steady.tokens_eq, ?_, steady.position_le⟩, { mirrors with }⟩
    show after.depth - 1 = counting.depth
    omega
  rw [nested_run (atDepth ▸ below)]
  generalize counted.run counting.entered = countedResult at *
  generalize reading.run parser = result at *
  cases agrees with
  | ok steady mirrors =>
      rcases closed steady mirrors with ⟨opened, steady, mirrors⟩
      simp only [if_neg opened]
      exact .ok steady mirrors
  | failed steady mirrors =>
      rcases closed steady mirrors with ⟨opened, steady, mirrors⟩
      simp only [if_neg opened]
      exact .failed steady mirrors

/-- The open levels and the levels that may still be opened make up the limit. -/
theorem counts_unaryWithin
    (levels depth least : Nat)
    (limited : depth + levels = nestingLimit) :
    Counts line behind depth least (unaryWithin (levels + 1)) (Reading.unaryWithin levels) := by
  induction levels generalizing depth least with
  | zero =>
      intro counting parser atDepth _ mirrors
      have full : nestingLimit ≤ counting.depth := by omega
      rw [unaryWithin, nested, EStateM.run_bind, enter_run_of_full full, mirrors.current_eq,
        Reading.unaryWithin_zero_run]
      exact .failed (Steady.refl counting) mirrors
  | succ levels lower =>
      have below : depth < nestingLimit := by omega
      exact counts_nested below
        (counts_prefixedWith fun least => lower (depth + 1) least (by omega))

/-- From no open level on, the counted unary expression has all levels that the other one may
open. -/
theorem counts_unary
    (least : Nat) :
    Counts line behind 0 least unary Reading.unary :=
  counts_unaryWithin nestingLimit 0 least (Nat.zero_add nestingLimit)

end CountedReading

end AsmShell
