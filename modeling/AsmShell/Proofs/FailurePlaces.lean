import AsmShell.Proofs.Skipping

/-!
# Where readings fail

An error points to a token of the line: the one at which the reading stopped, or an
operator or a parenthesis that was passed before.  In either case the reading has
reached the token, and it has closed no group in front of it that it did not open.
This is shown for each reader from what the readers it calls do.

The end of the line is never passed, so a parser in front of tokens with an end
always stands in front of a token.
-/

namespace AsmShell

/-! ## The end of the line is never passed -/

/-- An end of the line stands among the tokens. -/
def HasEnd (tokens : List Token) : Prop :=
  ∃ token ∈ tokens, token.kind = .endOfLine

theorem HasEnd.of_append
    {front back : List Token}
    (hasEnd : HasEnd (front ++ back))
    (inside : ∀ token ∈ front, token.kind ≠ .endOfLine) :
    HasEnd back := by
  rcases hasEnd with ⟨token, member, ends⟩
  rcases List.mem_append.1 member with inFront | inBack
  · exact absurd ends (inside token inFront)
  · exact ⟨token, inBack, ends⟩

theorem HasEnd.exists_behind
    {parser : Parser}
    (hasEnd : HasEnd parser.rest) :
    ∃ behind, parser.rest = parser.current :: behind := by
  rcases parser with ⟨rest, height⟩
  cases rest with
  | nil =>
      rcases hasEnd with ⟨token, member, _⟩
      cases member
  | cons token rest =>
      exact ⟨rest, rfl⟩

theorem HasEnd.advanced
    {parser : Parser}
    (hasEnd : HasEnd parser.rest)
    (inside : parser.current.kind ≠ .endOfLine) :
    HasEnd parser.advanced.rest := by
  rw [parser.rest_eq_current_cons inside, ← List.singleton_append] at hasEnd
  exact hasEnd.of_append (by simpa using inside)

/-! ## Pointing to a token -/

/--
The column is that of a token of the list.  What stands in front of the token is one of
the fronts, and nothing in front of the token is left, but an end of the line is.
-/
def PointsInto
    (fronts : List Token → Prop)
    (tokens left : List Token)
    (column : Nat) :
    Prop :=
  ∃ front token behind,
    fronts front ∧ tokens = front ++ token :: behind ∧
      column = token.column ∧ left <:+ token :: behind ∧ HasEnd left

variable
    {fronts : List Token → Prop}
    {tokens left : List Token}
    {column : Nat}

/-- A reading that cannot begin points to the token in front of it. -/
theorem HasEnd.pointsInto_current
    {parser : Parser}
    (hasEnd : HasEnd parser.rest)
    (empty : fronts []) :
    PointsInto fronts parser.rest parser.rest parser.current.column := by
  rcases hasEnd.exists_behind with ⟨behind, inFront⟩
  exact ⟨[], parser.current, behind, empty, inFront, rfl, inFront ▸ List.suffix_refl _, hasEnd⟩

theorem PointsInto.prepend
    {widened : List Token → Prop}
    (points : PointsInto fronts tokens left column)
    (more : List Token)
    (widens : ∀ front, fronts front → widened (more ++ front)) :
    PointsInto widened (more ++ tokens) left column := by
  rcases points with ⟨front, token, behind, isFront, rfl, place, isSuffix⟩
  exact ⟨more ++ front, token, behind, widens front isFront, by rw [List.append_assoc], place,
    isSuffix⟩

/-- A reading can point back to a token in front of what it has passed. -/
theorem pointsInto_passed
    {token : Token}
    {passed : List Token}
    (empty : fronts [])
    (hasEnd : HasEnd left) :
    PointsInto fronts (token :: (passed ++ left)) left token.column :=
  ⟨[], token, passed ++ left, empty, rfl, rfl,
    (List.suffix_append _ _).trans (List.suffix_cons _ _), hasEnd⟩

namespace Reading

variable
    {operand : Reading Expr}
    {levels : Nat}

/-- Where the reading fails, it points to a token that it has reached behind one of the fronts. -/
def FailsBehind (fronts : List Token → Prop) (reading : Reading Expr) : Prop :=
  ∀ parser error after,
    HasEnd parser.rest →
    reading.run parser = .error error after →
    PointsInto fronts parser.rest after.rest error.column

/-! ## Folding operators -/

/-- The ways a fold fails behind an operator. -/
theorem foldOperators_succ_run_eq_error
    {tokensLeft leftHeight : Nat}
    {floor : Int}
    {left : Expr}
    {parser after : Parser}
    {error : SyntaxError}
    (failed :
      (foldOperators operand (tokensLeft + 1) floor leftHeight left).run parser =
        .error error after) :
    ∃ op,
      parser.current.kind.binaryOp? = some op ∧
        (operand.run parser.advanced = .error error after ∨
          ∃ first behindFirst,
            operand.run parser.advanced = .ok first behindFirst ∧
              (extendedRight operand tokensLeft op first behindFirst = .error error after ∨
                ∃ right behindRight,
                  extendedRight operand tokensLeft op first behindFirst =
                      .ok right behindRight ∧
                    (error = ⟨.nestedTooDeeply, parser.current.column⟩ ∧ after = behindRight ∨
                      (foldOperators operand tokensLeft floor
                        (max leftHeight behindRight.height + 1)
                        (.binary op left right parser.current.span
                          (left.span.through right.span))).run
                          { behindRight with
                              height := max leftHeight behindRight.height + 1 } =
                        .error error after))) := by
  rw [foldOperators_succ_run] at failed
  cases written : parser.current.kind.binaryOp? with
  | none =>
      simp [written] at failed
  | some op =>
      refine ⟨op, rfl, ?_⟩
      simp only [written] at failed
      by_cases below : op.precedence < floor
      · simp [if_pos below] at failed
      · rw [if_neg below] at failed
        cases firstRead : operand.run parser.advanced with
        | error firstError between =>
            rw [firstRead] at failed
            exact Or.inl failed
        | ok first behindFirst =>
            simp only [firstRead] at failed
            refine Or.inr ⟨first, behindFirst, rfl, ?_⟩
            cases rightRead : extendedRight operand tokensLeft op first behindFirst with
            | error rightError between =>
                rw [rightRead] at failed
                exact Or.inl failed
            | ok right behindRight =>
                simp only [rightRead] at failed
                refine Or.inr ⟨right, behindRight, rfl, ?_⟩
                by_cases tall : nestingLimit < max leftHeight behindRight.height + 1
                · rw [if_pos tall, EStateM.Result.error.injEq] at failed
                  exact Or.inl ⟨failed.1.symm, failed.2.symm⟩
                · rw [if_neg tall] at failed
                  exact Or.inr failed

/-- A fold points to a token behind whole operands, or inside an operand. -/
theorem foldOperators_pointsInto
    (reads : Reads operand (Operand.Within levels))
    (fails : FailsBehind OperandFront operand)
    (tokensLeft : Nat)
    (floor : Int)
    (leftHeight : Nat)
    (left : Expr)
    (parser : Parser)
    (error : SyntaxError)
    (after : Parser)
    (enough : parser.rest.length ≤ tokensLeft)
    (hasEnd : HasEnd parser.rest)
    (failed :
      (foldOperators operand tokensLeft floor leftHeight left).run parser =
        .error error after) :
    PointsInto Unclosed parser.rest after.rest error.column := by
  induction tokensLeft generalizing floor leftHeight left parser after with
  | zero =>
      cases failed
  | succ tokensLeft shorter =>
      rcases foldOperators_succ_run_eq_error failed with ⟨op, written, failed⟩
      have isOperator :
          parser.current.kind.unaryOp?.isSome ∨ parser.current.kind.binaryOp?.isSome :=
        Or.inr (by simp [written])
      have inside := TokenKind.ne_endOfLine_of_binaryOp? written
      have inFront := parser.rest_eq_current_cons inside
      have advancedEnd := hasEnd.advanced inside
      rw [inFront, List.length_cons] at enough
      rcases failed with firstFailed | ⟨first, behindFirst, firstRead, failed⟩
      · rw [inFront]
        exact (fails _ _ _ advancedEnd firstFailed).prepend [parser.current]
          fun front isFront => isFront.unclosed.operator_cons isOperator
      · rcases (reads _ _ _).1 firstRead with ⟨firstOperand, firstWithin, firstPassed, rfl, _⟩
        have firstDerived := firstWithin.derived
        have firstEnd : HasEnd behindFirst.rest := by
          rw [firstPassed] at advancedEnd
          exact advancedEnd.of_append firstDerived.kind_ne_endOfLine
        have firstShorter : behindFirst.rest.length ≤ tokensLeft := by
          rw [firstPassed, List.length_append] at enough
          omega
        rcases failed with rightFailed | ⟨right, behindRight, rightRead, failed⟩
        · rw [extendedRight_eq] at rightFailed
          rw [inFront, firstPassed, ← List.cons_append]
          exact (shorter _ _ _ _ _ firstShorter firstEnd rightFailed).prepend _
            fun front unclosed =>
              (Unclosed.whole firstDerived.balanced firstDerived.kind_ne_endOfLine
                unclosed).operator_cons isOperator
        · rw [extendedRight_eq] at rightRead
          rcases exists_folded_of_foldOperators reads _ _ _ _ _ _ _ firstShorter rightRead with
            ⟨tighter, rightFolded, _⟩
          have chainDerived : Chain.Derived ⟨firstOperand, tighter⟩ :=
            ⟨firstDerived, fun joint member => (rightFolded.admitted joint member).operator,
              fun joint member => (rightFolded.admitted joint member).operand.derived⟩
          have chainPassed :
              parser.advanced.rest = Chain.tokens ⟨firstOperand, tighter⟩ ++ behindRight.rest := by
            rw [firstPassed, rightFolded.passed, Chain.tokens, List.append_assoc]
          have rightEnd : HasEnd behindRight.rest := by
            rw [chainPassed] at advancedEnd
            exact advancedEnd.of_append chainDerived.kind_ne_endOfLine
          rw [inFront, chainPassed]
          rcases failed with ⟨rfl, rfl⟩ | failed
          · exact pointsInto_passed .nil rightEnd
          · have rightShorter : behindRight.rest.length ≤ tokensLeft := by
              rw [rightFolded.passed, List.length_append] at firstShorter
              omega
            rw [← List.cons_append]
            exact (shorter _ _ _ ⟨behindRight.rest, max leftHeight behindRight.height + 1⟩ _
              rightShorter rightEnd failed).prepend _ fun front unclosed =>
                (Unclosed.whole chainDerived.balanced chainDerived.kind_ne_endOfLine
                  unclosed).operator_cons isOperator

/-! ## The readers of the grammar -/

theorem FailsBehind.expressionWith
    (reads : Reads operand (Operand.Within levels))
    (fails : FailsBehind OperandFront operand) :
    FailsBehind Unclosed (expressionWith operand) := by
  intro parser error after hasEnd failed
  rw [expressionWith_run] at failed
  cases firstRead : operand.run parser with
  | error firstError between =>
      rw [firstRead] at failed
      exact (fails _ _ _ hasEnd (firstRead.trans failed)).prepend []
        fun front isFront => isFront.unclosed
  | ok left between =>
      simp only [firstRead, continuedWith_run] at failed
      rcases (reads _ _ _).1 firstRead with ⟨first, within, passed, rfl, _⟩
      have derived := within.derived
      have betweenEnd : HasEnd between.rest := by
        rw [passed] at hasEnd
        exact hasEnd.of_append derived.kind_ne_endOfLine
      rw [passed]
      exact (foldOperators_pointsInto reads fails _ _ _ _ _ _ _ (Nat.le_refl _) betweenEnd
        failed).prepend _ fun front unclosed =>
          .whole derived.balanced derived.kind_ne_endOfLine unclosed

theorem FailsBehind.primaryWith
    (reads : Reads operand (Operand.Within levels))
    (fails : FailsBehind OperandFront operand) :
    FailsBehind OperandFront (primaryWith (Reading.expressionWith operand)) := by
  intro parser error after hasEnd failed
  rw [primaryWith_run] at failed
  by_cases opens : parser.current.kind = .openParen
  · have inside : parser.current.kind ≠ .endOfLine := by simp [opens]
    have inFront := parser.rest_eq_current_cons inside
    rw [if_pos opens, groupingWith_run] at failed
    rw [inFront]
    cases innerRead : (Reading.expressionWith operand).run parser.advanced with
    | error innerError between =>
        rw [innerRead] at failed
        exact (fails.expressionWith reads _ _ _ (hasEnd.advanced inside)
          (innerRead.trans failed)).prepend [parser.current]
            fun front unclosed => .group opens unclosed
    | ok inner between =>
        -- The inner reading went through, so the group is not closed and the error is about its
        -- opening parenthesis.
        rcases (expressionWith_run_eq_ok_iff reads _ _ _).1 innerRead with
          ⟨chain, within, passed, _, _, _⟩
        have betweenEnd : HasEnd between.rest := by
          have advancedEnd := hasEnd.advanced inside
          rw [passed] at advancedEnd
          exact advancedEnd.of_append within.derived.kind_ne_endOfLine
        simp only [innerRead] at failed
        split at failed
        · cases failed
        · rw [EStateM.Result.error.injEq] at failed
          rcases failed with ⟨rfl, rfl⟩
          rw [passed]
          exact pointsInto_passed .nil betweenEnd
  · rw [if_neg opens] at failed
    cases read : leaf parser.current with
    | ok tree =>
        simp [read] at failed
    | error fault =>
        simp only [read, EStateM.Result.error.injEq] at failed
        rcases failed with ⟨rfl, rfl⟩
        exact hasEnd.pointsInto_current .nil

/-- Where the reader of operands fails, only operators and one open group are in front. -/
theorem failsBehind_unaryWithin
    (levels : Nat) :
    FailsBehind OperandFront (unaryWithin levels) := by
  induction levels with
  | zero =>
      intro parser error after hasEnd failed
      rw [unaryWithin_zero_run, EStateM.Result.error.injEq] at failed
      rcases failed with ⟨rfl, rfl⟩
      exact hasEnd.pointsInto_current .nil
  | succ levels lower =>
      have reads := unaryWithin_reads levels
      intro parser error after hasEnd failed
      rw [unaryWithin_succ_run] at failed
      cases written : parser.current.kind.unaryOp? with
      | none =>
          rw [written] at failed
          exact lower.primaryWith reads _ _ _ hasEnd failed
      | some op =>
          have inside := TokenKind.ne_endOfLine_of_unaryOp? written
          simp only [written] at failed
          rw [parser.rest_eq_current_cons inside]
          cases operandRead : (unaryWithin levels).run parser.advanced with
          | error operandError between =>
              rw [operandRead] at failed
              exact (lower _ _ _ (hasEnd.advanced inside) (operandRead.trans failed)).prepend
                [parser.current] fun front isFront => .prefixed written isFront
          | ok tree between =>
              rcases (reads _ _ _).1 operandRead with ⟨operand, within, passed, _, _⟩
              have betweenEnd : HasEnd between.rest := by
                have advancedEnd := hasEnd.advanced inside
                rw [passed] at advancedEnd
                exact advancedEnd.of_append within.derived.kind_ne_endOfLine
              simp only [operandRead] at failed
              split at failed
              · rw [EStateM.Result.error.injEq] at failed
                rcases failed with ⟨rfl, rfl⟩
                rw [passed]
                exact pointsInto_passed .nil betweenEnd
              · cases failed

end Reading

end AsmShell
