import AsmShell.Proofs.ArgumentPieces
import AsmShell.Proofs.CountedReadings

/-!
# Counts and positions of a parser are safe

Skipping an argument closes no parenthesis that it has not opened, and reading an
argument passes a token.  So a counting parser that mirrors a parser mirrors it after
every call: no count goes below zero, no loop runs on, all levels are closed again, and
the position moves forward, up to the first end of the line.  As the tokens behind this
end are not mirrored, they have no influence on what a parser answers.
-/

namespace AsmShell

variable
    {line : ClosedLine}
    {behind : List Token}
    {counting : CountingParser}
    {parser : Parser}

/-! ## Bounds -/

namespace Mirrors

/-- The end of the line is never passed, so there always is a current token. -/
theorem exists_rest_eq_cons
    (mirrors : Mirrors line behind counting parser) :
    ∃ others, parser.rest = parser.current :: others := by
  rcases mirrors.current_cases with ⟨_, ⟨_, rest_eq, _⟩ | ⟨_, inside, _⟩⟩
  · exact ⟨behind, (Parser.current_of_rest_eq rest_eq).symm ▸ rest_eq⟩
  · exact ⟨_, parser.rest_eq_current_cons inside⟩

/-- The position and the tokens that were not passed make up the line. -/
theorem length_rest
    (mirrors : Mirrors line behind counting parser) :
    parser.rest.length + counting.position = line.tokens.length + 1 + behind.length := by
  have inLine := mirrors.inLine
  rw [mirrors.rest_eq, List.length_append, List.length_drop, List.length_cons]
  omega

/-- All tokens are more than those in front of the end of the line, so as many steps are enough
for each loop. -/
theorem length_lt
    (mirrors : Mirrors line behind counting parser) :
    line.tokens.length < counting.tokens.length := by
  rcases mirrors.tokens_eq with ⟨others, tokens_eq⟩
  rw [tokens_eq, List.length_append, List.length_cons]
  omega

end Mirrors

namespace CountedReading

open AsmShell.Reading (current)

/-! ## Skipping -/

theorem skipOperators_succ_run
    (steps : Nat)
    (parser : CountingParser) :
    (skipOperators (steps + 1)).run parser =
      if parser.current.kind.unaryOp?.isSome then (skipOperators steps).run parser.advanced
      else .ok () parser := by
  rw [skipOperators, current_bind_run]
  split <;> rfl

/-- Passing operators one by one drops them all. -/
theorem skipOperators_agrees
    (steps : Nat)
    (mirrors : Mirrors line behind counting parser)
    (enough : line.tokens.length < steps + counting.position) :
    Agrees line behind counting ((skipOperators steps).run counting)
      (.ok () { parser with
        rest := parser.rest.dropWhile fun token => token.kind.unaryOp?.isSome }) := by
  induction steps generalizing counting parser with
  | zero =>
      have := mirrors.inLine
      omega
  | succ steps shorter =>
      rcases mirrors.exists_rest_eq_cons with ⟨others, rest_eq⟩
      rw [skipOperators_succ_run, mirrors.current_eq]
      cases written : parser.current.kind.unaryOp? with
      | none =>
          have kept :
              (parser.rest.dropWhile fun token => token.kind.unaryOp?.isSome) = parser.rest := by
            rw [rest_eq, List.dropWhile_cons_of_neg (by simp [written])]
          rw [kept, if_neg (by simp)]
          exact .ok (Steady.refl counting) mirrors
      | some op =>
          have inside := TokenKind.ne_endOfLine_of_unaryOp? written
          rcases mirrors.advanced with ⟨advancedMirrors, steady, moves⟩
          have moved := moves inside
          have passed :
              (parser.rest.dropWhile fun token => token.kind.unaryOp?.isSome) =
                parser.advanced.rest.dropWhile fun token => token.kind.unaryOp?.isSome := by
            rw [parser.rest_eq_current_cons inside, List.dropWhile_cons_of_pos (by simp [written])]
          rw [passed, if_pos (by simp)]
          exact (shorter advancedMirrors (by omega)).from_earlier steady

theorem skipGroup_succ_run
    (steps opened : Nat)
    (parser : CountingParser) :
    (skipGroup (steps + 1) opened).run parser =
      if parser.current.kind = .endOfLine then .ok () parser
      else
        match (countParens opened parser.current.kind).run parser with
        | .ok stillOpened after =>
            if stillOpened = 0 then .ok () after.advanced
            else (skipGroup steps stillOpened).run after.advanced
        | .error halt after => .error halt after := by
  rw [skipGroup, current_bind_run]
  split
  · rfl
  · rw [EStateM.run_bind]
    cases (countParens opened parser.current.kind).run parser with
    | error halt after =>
        rfl
    | ok stillOpened after =>
        show EStateM.run (ite _ _ _) after.advanced = _
        simp only
        split <;> rfl

/-- Where parentheses are open, no more of them are closed. -/
theorem skipGroup_agrees
    (steps inner : Nat)
    (mirrors : Mirrors line behind counting parser)
    (enough : line.tokens.length < steps + counting.position) :
    Agrees line behind counting ((skipGroup steps (inner + 1)).run counting)
      (.ok () { parser with rest := AsmShell.skipGroup inner parser.rest }) := by
  induction steps generalizing inner counting parser with
  | zero =>
      have := mirrors.inLine
      omega
  | succ steps shorter =>
      rcases mirrors.exists_rest_eq_cons with ⟨others, rest_eq⟩
      rw [skipGroup_succ_run, mirrors.current_eq]
      by_cases ends : parser.current.kind = .endOfLine
      · have kept : AsmShell.skipGroup inner parser.rest = parser.rest := by
          rw [rest_eq]
          simp [AsmShell.skipGroup, ends]
        rw [if_pos ends, kept]
        exact .ok (Steady.refl counting) mirrors
      · rcases mirrors.advanced with ⟨advancedMirrors, steady, moves⟩
        have moved := moves ends
        rw [if_neg ends, parser.rest_eq_current_cons ends]
        by_cases opens : parser.current.kind = .openParen
        · rw [skipGroup_openParen opens, opens]
          exact (shorter (inner + 1) advancedMirrors (by omega)).from_earlier steady
        · by_cases closes : parser.current.kind = .closeParen
          · cases inner with
            | zero =>
                have closed :
                    AsmShell.skipGroup 0 (parser.current :: parser.advanced.rest) =
                      parser.advanced.rest := by
                  simp [AsmShell.skipGroup, closes]
                rw [closed, closes]
                exact .ok steady advancedMirrors
            | succ inner =>
                have closed :
                    AsmShell.skipGroup (inner + 1) (parser.current :: parser.advanced.rest) =
                      AsmShell.skipGroup inner parser.advanced.rest := by
                  simp [AsmShell.skipGroup, closes]
                rw [closed, closes]
                exact (shorter inner advancedMirrors (by omega)).from_earlier steady
          · have counted :
                (countParens (inner + 1) parser.current.kind).run counting =
                  .ok (inner + 1) counting := by
              rw [countParens.eq_def]
              split <;> first | contradiction | rfl
            rw [skipGroup_plain ends opens closes, counted]
            exact (shorter inner advancedMirrors (by omega)).from_earlier steady

/-- What is skipped for an argument is the same by positions as by tokens. -/
theorem skipArgument_agrees
    (mirrors : Mirrors line behind counting parser) :
    Agrees line behind counting (skipArgument.run counting)
      (.ok () { parser with rest := AsmShell.skipArgument parser.rest }) := by
  have enough := mirrors.length_lt
  rw [skipArgument]
  show Agrees line behind counting
    (EStateM.run (skipOperators counting.tokens.length >>= _) counting) _
  refine (skipOperators_agrees _ mirrors (by omega)).bind_ok fun after _ afterMirrors => ?_
  have current_eq := afterMirrors.current_eq
  rcases afterMirrors.exists_rest_eq_cons with ⟨others, rest_eq⟩
  rcases afterMirrors.advanced with ⟨advancedMirrors, advancedSteady, moves⟩
  rw [current_bind_run, AsmShell.skipArgument]
  generalize (parser.rest.dropWhile fun token => token.kind.unaryOp?.isSome) = rest at *
  replace rest_eq : rest = Parser.current ⟨rest, parser.height⟩ :: others := rest_eq
  rw [current_eq]
  generalize Parser.current ⟨rest, parser.height⟩ = token at *
  subst rest_eq
  by_cases opens : token.kind = .openParen
  · have inside : token.kind ≠ .endOfLine := by simp [opens]
    have moved := moves inside
    rw [Parser.advanced_cons _ _ _ inside] at advancedMirrors
    simp only [if_pos opens]
    cases length_eq : counting.tokens.length with
    | zero =>
        omega
    | succ steps =>
        rw [skipGroup_succ_run, current_eq, if_neg inside, opens]
        exact (skipGroup_agrees steps 0 advancedMirrors (by omega)).from_earlier advancedSteady
  · simp only [if_neg opens]
    exact .ok advancedSteady advancedMirrors

end CountedReading

/-! ## Arguments -/

/-- Reading an argument passes a token, unless it stands in front of the end of the line. -/
theorem Parser.readArgument_suffix_dropToken
    (parser : Parser) :
    parser.readArgument.2.rest <:+ dropToken parser.rest := by
  have forward := Reading.movesForward_unaryWithin nestingLimit parser
  rw [readArgument, Reading.unary]
  cases ran : (Reading.unaryWithin nestingLimit).run parser with
  | ok expr after =>
      rcases (Reading.unaryWithin_reads _ _ _ _).1 ran with ⟨operand, within, passed, _, _⟩
      rcases within.derived.covers with ⟨first, _, isFirst, _⟩
      rcases List.head?_eq_some_iff.1 isFirst with ⟨others, tokens_eq⟩
      have inside : first.kind ≠ .endOfLine :=
        within.derived.kind_ne_endOfLine first (by simp [tokens_eq])
      rw [passed, tokens_eq, List.cons_append, dropToken, if_neg inside]
      exact List.suffix_append others after.rest
  | error error after =>
      rw [ran] at forward
      simp only
      split
      · cases parser.rest with
        | nil => exact List.suffix_refl _
        | cons token rest => exact skipArgument_cons_suffix token rest
      · exact dropToken_suffix_dropToken forward

namespace CountedReading

/-- An argument is read, skipped or passed over in the same way. -/
theorem argument_agrees
    (atOuter : counting.depth = 0)
    (mirrors : Mirrors line behind counting parser) :
    Agrees line behind counting (argument.run counting)
      (.ok parser.readArgument.1 parser.readArgument.2) := by
  have agrees := counts_unary counting.position counting parser atOuter (Nat.le_refl _) mirrors
  rw [Parser.readArgument, argument]
  show Agrees line behind counting (EStateM.run (outcome unary >>= _) counting) _
  rw [EStateM.run_bind, outcome_run]
  generalize unary.run counting = countedResult at *
  generalize Reading.unary.run parser = result at *
  cases agrees with
  | ok steady mirrors => exact .ok steady mirrors
  | @failed error after afterParser steady afterMirrors =>
      simp only
      by_cases tooDeep : error.fault = .nestedTooDeeply
      · simp only [if_pos tooDeep]
        -- Back at its first token, the argument is skipped as a whole.
        have backMirrors :
            Mirrors line behind { after with position := counting.position }
              { afterParser with rest := parser.rest } :=
          { afterMirrors with
            rest_eq := mirrors.rest_eq
            position_le := Nat.le_trans steady.position_le afterMirrors.position_le }
        have back : Steady counting { after with position := counting.position } :=
          { steady with position_le := Nat.le_refl _ }
        refine Agrees.from_earlier back ?_
        exact (skipArgument_agrees backMirrors).map_ok
          fun _ => (.error error : Except SyntaxError Expr)
      · simp only [if_neg tooDeep]
        rcases afterMirrors.advanced with ⟨advancedMirrors, advancedSteady, _⟩
        exact .ok (steady.trans advancedSteady) advancedMirrors

/-- Every argument passes a token, so the bounds of both loops are wide enough. -/
theorem arguments_agree
    (steps tokensLeft : Nat)
    (atOuter : counting.depth = 0)
    (mirrors : Mirrors line behind counting parser)
    (enoughSteps : line.tokens.length < steps + counting.position)
    (enoughLeft : line.tokens.length ≤ tokensLeft + counting.position) :
    Agrees line behind counting ((arguments steps).run counting)
      (.ok (parser.readArguments tokensLeft).1 (parser.readArguments tokensLeft).2) := by
  induction steps generalizing tokensLeft counting parser with
  | zero =>
      have := mirrors.inLine
      omega
  | succ steps shorter =>
      rw [arguments, current_bind_run]
      rcases mirrors.current_cases with
        ⟨current_eq, ⟨_, _, ends⟩ | ⟨before, inside, _⟩⟩
      · have nothing : parser.readArguments tokensLeft = ([], parser) := by
          cases tokensLeft with
          | zero => rfl
          | succ tokensLeft => rw [Parser.readArguments, if_pos ends]
        rw [current_eq, if_pos ends, nothing]
        exact .ok (Steady.refl counting) mirrors
      · cases tokensLeft with
        | zero =>
            omega
        | succ tokensLeft =>
            rw [current_eq, if_neg inside, Parser.readArguments, if_neg inside]
            refine (argument_agrees atOuter mirrors).bind_ok fun after steady afterMirrors => ?_
            have moved : counting.position < after.position := by
              have passed := parser.readArgument_suffix_dropToken.length_le
              have lengths := mirrors.length_rest
              have afterLengths := afterMirrors.length_rest
              rw [parser.rest_eq_current_cons inside, dropToken, if_neg inside] at passed
              rw [parser.rest_eq_current_cons inside, List.length_cons] at lengths
              omega
            exact (shorter tokensLeft (steady.depth_eq.trans atOuter) afterMirrors (by omega)
              (by omega)).map_ok _

/-- A command is read with the same arguments and the same errors. -/
theorem command_agrees
    (atOuter : counting.depth = 0)
    (mirrors : Mirrors line behind counting parser) :
    Agrees line behind counting (command.run counting)
      (.ok (parser.readCommand.command, parser.readCommand.errors) parser.readCommand.parser) := by
  rw [command, current_bind_run, Parser.readCommand]
  simp only [mirrors.current_eq]
  by_cases named : parser.current.kind = .identifier
  · simp only [if_pos named]
    rcases mirrors.advanced with ⟨advancedMirrors, steady, moves⟩
    have moved := moves (by simp [named])
    have enoughSteps := advancedMirrors.length_lt
    have enoughLeft := mirrors.length_rest
    refine Agrees.from_earlier steady ?_
    exact (arguments_agree counting.advanced.tokens.length parser.rest.length
      (steady.depth_eq.trans atOuter) advancedMirrors (by omega) (by omega)).map_ok _
  · simp only [if_neg named]
    exact .ok (Steady.refl counting) mirrors

end CountedReading

/-! ## Calls -/

namespace CountingParser

open AsmShell.Parser (Call Answer)

/-- A call that asks for a reading is answered as the reading ends. -/
theorem perform_of_counts
    {call : Call}
    {counted : CountedReading Expr}
    {reading : Reading Expr}
    (countedAsks : reading? call = some counted)
    (asks : call.reading? = some reading)
    (counts : Counts line behind 0 0 counted reading)
    (atOuter : counting.depth = 0)
    (mirrors : Mirrors line behind counting parser) :
    ∃ after,
      counting.perform call = some ((parser.perform call).1, after) ∧
        Steady counting after ∧ Mirrors line behind after (parser.perform call).2 := by
  have agrees := counts counting parser atOuter (Nat.zero_le _) mirrors
  rw [perform, countedAsks, Parser.perform, asks]
  simp only [CountedReading.outcome_run]
  generalize counted.run counting = countedResult at *
  generalize reading.run parser = result at *
  cases agrees with
  | ok steady mirrors => exact ⟨_, rfl, steady, mirrors⟩
  | failed steady mirrors => exact ⟨_, rfl, steady, mirrors⟩

/-- The counting parser answers a call as the parser does. -/
theorem exists_perform
    (atOuter : counting.depth = 0)
    (mirrors : Mirrors line behind counting parser)
    (call : Call) :
    ∃ after,
      counting.perform call = some ((parser.perform call).1, after) ∧
        Steady counting after ∧ Mirrors line behind after (parser.perform call).2 := by
  have unary (least : Nat) :
      Counts line behind 0 least CountedReading.unary Reading.unary :=
    CountedReading.counts_unary least
  cases call with
  | primary =>
      exact perform_of_counts rfl rfl
        (CountedReading.counts_primaryWith (CountedReading.counts_expressionWith unary)) atOuter
        mirrors
  | unary => exact perform_of_counts rfl rfl (unary 0) atOuter mirrors
  | expression =>
      exact perform_of_counts rfl rfl (CountedReading.counts_expressionWith unary) atOuter mirrors
  | continued floor left =>
      exact perform_of_counts rfl rfl (CountedReading.counts_continuedWith unary floor left)
        atOuter mirrors
  | command =>
      rcases (CountedReading.command_agrees atOuter mirrors).exists_ok with
        ⟨after, ran, steady, afterMirrors⟩
      refine ⟨after, ?_, steady, afterMirrors⟩
      simp only [perform, reading?, ran, Parser.perform, Call.reading?]

/-- By induction over the calls: each one leaves parsers that mirror each other for the next. -/
theorem exists_performAll
    (atOuter : counting.depth = 0)
    (mirrors : Mirrors line behind counting parser)
    (calls : List Call) :
    ∃ final,
      counting.performAll calls = some ((parser.performAll calls).1, final) ∧
        Steady counting final ∧ Mirrors line behind final (parser.performAll calls).2 := by
  induction calls generalizing counting parser with
  | nil =>
      exact ⟨counting, rfl, Steady.refl counting, mirrors⟩
  | cons call calls callsHypothesis =>
      rcases exists_perform atOuter mirrors call with ⟨after, performed, steady, afterMirrors⟩
      rcases callsHypothesis (steady.depth_eq.trans atOuter) afterMirrors with
        ⟨final, performedAll, finalSteady, finalMirrors⟩
      refine ⟨final, ?_, steady.trans finalSteady, finalMirrors⟩
      simp [performAll, performed, performedAll, Parser.performAll]

end CountingParser

/-! ## Tokens with ends of the line inside -/

/-- Tokens with an end of the line are cut at their first one, which does not depend on what stands
behind the other one. -/
theorem exists_closedLine
    (front : List Token)
    {ending : Token}
    (isEnd : ending.kind = .endOfLine) :
    ∃ (line : ClosedLine) (between : List Token),
      ∀ others, front ++ ending :: others = line.tokens ++ line.ending :: (between ++ others) := by
  induction front with
  | nil =>
      exact ⟨⟨[], ending, List.forall_mem_nil _, isEnd⟩, [], fun _ => rfl⟩
  | cons token front frontHypothesis =>
      by_cases ends : token.kind = .endOfLine
      · exact ⟨⟨[], token, List.forall_mem_nil _, ends⟩, front ++ [ending], by simp⟩
      · rcases frontHypothesis with ⟨line, between, parts⟩
        refine ⟨⟨token :: line.tokens, line.ending, ?_, line.isEnd⟩, between, fun others => ?_⟩
        · exact List.forall_mem_cons.2 ⟨ends, line.inside⟩
        · exact congrArg (token :: ·) (parts others)

namespace Parser

/-- A parser has the tokens in front of it, and perhaps an end of the line that closes them. -/
theorem exists_rest_ofTokens
    (tokens : List Token) :
    ∃ closing, (ofTokens tokens).rest = tokens ++ closing := by
  rw [ofTokens]
  split
  · rename_i empty
    rw [List.getLast?_eq_none_iff.1 empty]
    exact ⟨_, rfl⟩
  · split
    · exact ⟨[], (List.append_nil tokens).symm⟩
    · exact ⟨_, rfl⟩

/-- The tokens of a parser are closed by an end of the line. -/
theorem exists_end_ofTokens
    (tokens : List Token) :
    ∃ front ending, ending.kind = .endOfLine ∧ (ofTokens tokens).rest = front ++ [ending] := by
  rw [ofTokens]
  split
  · exact ⟨[], _, rfl, rfl⟩
  · rename_i last isLast
    split
    · rename_i ends
      rcases List.getLast?_eq_some_iff.1 isLast with ⟨front, parts⟩
      exact ⟨front, last, ends, parts⟩
    · exact ⟨tokens, _, rfl, rfl⟩

end Parser

/-- In front of tokens with the same first line, a counting parser mirrors a parser. -/
theorem mirrors_ofTokens
    {tokens otherTokens others : List Token}
    (countingParts : (Parser.ofTokens tokens).rest = line.tokens ++ line.ending :: others)
    (parts : (Parser.ofTokens otherTokens).rest = line.tokens ++ line.ending :: behind) :
    Mirrors line behind (CountingParser.ofTokens tokens) (Parser.ofTokens otherTokens) where
  tokens_eq := ⟨others, countingParts⟩
  rest_eq := parts
  height_eq := by
    rw [Parser.ofTokens]
    split
    · rfl
    · split <;> rfl
  position_le := Nat.le_refl 0
  furthest_le := Nat.zero_le _
  deepest_le := Nat.zero_le _

/--
Let a parser in front of any tokens be called in any order.  The counting parser gives the
same answers and stands at the same place: so none of its counts goes below zero and none of
its loops runs on, in calls that fail no less than in calls that succeed.  After the calls no
level is open, and at most 256 were ever open at once.  In front of the furthest position
that was ever reached there is no end of the line.  A further call does not move backwards.
The tokens behind an end of the line have no influence on the answers.
-/
theorem counts_and_position_stay_safe
    (tokens : List Token)
    (calls : List Parser.Call) :
    ∃ final,
      (CountingParser.ofTokens tokens).performAll calls =
          some (((Parser.ofTokens tokens).performAll calls).1, final) ∧
        final.tokens = (Parser.ofTokens tokens).rest ∧
        final.tokens.drop final.position = ((Parser.ofTokens tokens).performAll calls).2.rest ∧
        final.depth = 0 ∧
        final.deepest ≤ 256 ∧
        final.position ≤ final.furthest ∧
        (∀ token ∈ final.tokens.take final.furthest, token.kind ≠ .endOfLine) ∧
        (∀ call, ∃ answer after,
          final.perform call = some (answer, after) ∧
            after.depth = 0 ∧ final.position ≤ after.position) ∧
        ∀ front ending behind others,
          tokens = front ++ ending :: behind →
          ending.kind = .endOfLine →
          ((Parser.ofTokens (front ++ ending :: others)).performAll calls).1 =
            ((Parser.ofTokens tokens).performAll calls).1 := by
  rcases Parser.exists_end_ofTokens tokens with ⟨front, ending, isEnd, parts⟩
  rcases exists_closedLine front isEnd with ⟨line, between, cut⟩
  rw [cut [], List.append_nil] at parts
  have mirrors := mirrors_ofTokens parts parts
  rcases CountingParser.exists_performAll rfl mirrors calls with
    ⟨final, performed, steady, finalMirrors⟩
  have tokens_eq : final.tokens = line.tokens ++ line.ending :: between :=
    steady.tokens_eq.trans parts
  refine ⟨final, performed, steady.tokens_eq, ?_, steady.depth_eq, finalMirrors.deepest_le,
    finalMirrors.position_le, ?_, ?_, ?_⟩
  · rw [finalMirrors.rest_eq, tokens_eq, List.drop_append_of_le_length finalMirrors.inLine]
  · intro token member
    rw [tokens_eq, List.take_append_of_le_length finalMirrors.furthest_le] at member
    exact line.inside token (List.mem_of_mem_take member)
  · intro call
    rcases CountingParser.exists_perform steady.depth_eq finalMirrors call with
      ⟨after, answered, afterSteady, _⟩
    exact ⟨_, after, answered, afterSteady.depth_eq.trans steady.depth_eq,
      afterSteady.position_le⟩
  · rintro front ending behind others rfl isEnd
    rcases exists_closedLine front isEnd with ⟨line, between, cut⟩
    rcases Parser.exists_rest_ofTokens (front ++ ending :: behind) with ⟨closing, parts⟩
    rcases Parser.exists_rest_ofTokens (front ++ ending :: others) with ⟨otherClosing, otherParts⟩
    rw [List.append_assoc, List.cons_append, cut (behind ++ closing)] at parts
    rw [List.append_assoc, List.cons_append, cut (others ++ otherClosing)] at otherParts
    -- One counting parser mirrors both parsers.
    rcases CountingParser.exists_performAll rfl (mirrors_ofTokens parts parts) calls with
      ⟨_, answers, _, _⟩
    rcases CountingParser.exists_performAll rfl (mirrors_ofTokens parts otherParts) calls with
      ⟨_, otherAnswers, _, _⟩
    rw [answers, Option.some.injEq, Prod.mk.injEq] at otherAnswers
    exact otherAnswers.1.symm

end AsmShell
