import AsmShell.Parser.Expression

/-!
# What one step of a reader does

For each reader, its result on a parser in terms of the results of the readers it
calls.  The other modules on the parser cite these equations and never look into a
reader again.
-/

namespace AsmShell

/-! ## The token in front -/

namespace Parser

/-- A token other than the end of the line is passed. -/
theorem rest_eq_current_cons
    (parser : Parser)
    (inside : parser.current.kind ≠ .endOfLine) :
    parser.rest = parser.current :: parser.advanced.rest := by
  rcases parser with ⟨rest, height⟩
  cases rest with
  | nil =>
      exact absurd rfl inside
  | cons token rest =>
      have passed : dropToken (token :: rest) = rest := if_neg inside
      show token :: rest = token :: dropToken (token :: rest)
      rw [passed]

@[simp]
theorem current_cons
    (token : Token)
    (rest : List Token)
    (height : Nat) :
    current ⟨token :: rest, height⟩ = token :=
  rfl

/-- The first token that was not passed is the current one. -/
theorem current_of_rest_eq
    {parser : Parser}
    {token : Token}
    {behind : List Token}
    (rest : parser.rest = token :: behind) :
    parser.current = token := by
  rw [current, rest]
  rfl

theorem advanced_cons
    (token : Token)
    (rest : List Token)
    (height : Nat)
    (inside : token.kind ≠ .endOfLine) :
    advanced ⟨token :: rest, height⟩ = ⟨rest, height⟩ := by
  have passed : dropToken (token :: rest) = rest := if_neg inside
  show (⟨dropToken (token :: rest), height⟩ : Parser) = ⟨rest, height⟩
  rw [passed]

end Parser

/-- The end of the line is no operator, so a parser passes every operator. -/
theorem TokenKind.ne_endOfLine_of_binaryOp?
    {kind : TokenKind}
    {op : BinaryOp}
    (written : kind.binaryOp? = some op) :
    kind ≠ .endOfLine := by
  rintro rfl
  cases written

/-- Nor is it an operator in front of an operand. -/
theorem TokenKind.ne_endOfLine_of_unaryOp?
    {kind : TokenKind}
    {op : UnaryOp}
    (written : kind.unaryOp? = some op) :
    kind ≠ .endOfLine := by
  rintro rfl
  cases written

namespace Reading

/-! ## The readers that look at one token -/

@[simp]
theorem current_run
    (parser : Parser) :
    current.run parser = .ok parser.current parser :=
  rfl

@[simp]
theorem advance_run
    (parser : Parser) :
    advance.run parser = .ok () parser.advanced :=
  rfl

@[simp]
theorem recordedHeight_run
    (parser : Parser) :
    recordedHeight.run parser = .ok parser.height parser :=
  rfl

@[simp]
theorem fail_run
    {Result : Type}
    (fault : SyntaxFault)
    (column : Nat)
    (parser : Parser) :
    (fail fault column : Reading Result).run parser = .error ⟨fault, column⟩ parser :=
  rfl

/-- A node that would be too tall is refused at its column, and no height is recorded. -/
theorem grow_run
    (below column : Nat)
    (parser : Parser) :
    (grow below column).run parser =
      if nestingLimit < below + 1 then .error ⟨.nestedTooDeeply, column⟩ parser
      else .ok (below + 1) { parser with height := below + 1 } := by
  rw [grow]
  split <;> rfl

/-! ## The readers of the grammar -/

/-- What stands in parentheses is read behind the opening one; where the closing one is missing,
the error is at the opening one. -/
theorem groupingWith_run
    (inner : Reading Expr)
    (parser : Parser) :
    (groupingWith inner).run parser =
      match inner.run parser.advanced with
      | .error error after => .error error after
      | .ok expr after =>
          if after.current.kind = .closeParen then
            .ok (expr.withSpan ⟨parser.current.column, after.current.span.last⟩) after.advanced
          else .error ⟨.unmatchedParentheses, parser.current.column⟩ after := by
  simp only [groupingWith, EStateM.run_bind, current_run, advance_run]
  cases inner.run parser.advanced with
  | error error after =>
      rfl
  | ok expr after =>
      by_cases closed : after.current.kind = .closeParen
      · simp only [if_pos closed, EStateM.run_bind, advance_run, EStateM.run_pure]
      · simp only [if_neg closed, fail_run]

/-- A leaf has the height one.  A token that is no leaf and opens no group is refused, and not
passed. -/
theorem primaryWith_run
    (inner : Reading Expr)
    (parser : Parser) :
    (primaryWith inner).run parser =
      if parser.current.kind = .openParen then (groupingWith inner).run parser
      else
        match leaf parser.current with
        | .ok expr => .ok expr { parser.advanced with height := 1 }
        | .error fault => .error ⟨fault, parser.current.column⟩ parser := by
  simp only [primaryWith, EStateM.run_bind, current_run]
  split
  · rfl
  · cases leaf parser.current <;> rfl

/-- Where no level may be opened, every token is refused. -/
theorem unaryWithin_zero_run
    (parser : Parser) :
    (unaryWithin 0).run parser =
      .error ⟨.nestedTooDeeply, parser.current.column⟩ parser :=
  rfl

/-- An operator in front opens a level for its operand; a parenthesis opens one for what it
encloses. -/
theorem unaryWithin_succ_run
    (levels : Nat)
    (parser : Parser) :
    (unaryWithin (levels + 1)).run parser =
      match parser.current.kind.unaryOp? with
      | none => (primaryWith (expressionWith (unaryWithin levels))).run parser
      | some op =>
          match (unaryWithin levels).run parser.advanced with
          | .error error after => .error error after
          | .ok operand after =>
              if nestingLimit < after.height + 1 then
                .error ⟨.nestedTooDeeply, parser.current.column⟩ after
              else
                .ok (.unary op operand ⟨parser.current.column, operand.span.last⟩)
                  { after with height := after.height + 1 } := by
  simp only [unaryWithin, prefixedWith, EStateM.run_bind, current_run]
  cases parser.current.kind.unaryOp? with
  | none =>
      rfl
  | some op =>
      simp only [EStateM.run_bind, advance_run]
      cases (unaryWithin levels).run parser.advanced with
      | error error after =>
          rfl
      | ok operand after =>
          simp only [recordedHeight_run, grow_run]
          by_cases tall : nestingLimit < after.height + 1
          · simp only [if_pos tall]
          · simp only [if_neg tall, EStateM.run_pure]

/-- The right operand of an operator whose first operand was read: it is extended by the
operators that bind tighter. -/
def extendedRight
    (operand : Reading Expr)
    (tokensLeft : Nat)
    (op : BinaryOp)
    (first : Expr)
    (parser : Parser) :
    EStateM.Result SyntaxError Parser Expr :=
  if op.precedence < precedenceOf parser.current.kind.binaryOp? then
    (foldOperators operand tokensLeft (op.precedence + 1) parser.height first).run parser
  else .ok first parser

/-- Out of steps, a fold ends as it does in front of a token that is no operator. -/
theorem foldOperators_zero_run
    (operand : Reading Expr)
    (floor : Int)
    (leftHeight : Nat)
    (left : Expr)
    (parser : Parser) :
    (foldOperators operand 0 floor leftHeight left).run parser =
      .ok left { parser with height := leftHeight } :=
  rfl

/-- One step of a fold: it ends in front of a token that is no operator of the floor, or joins
`left` and the next operand, extended where the operator behind it binds tighter, and goes on. -/
theorem foldOperators_succ_run
    (operand : Reading Expr)
    (tokensLeft : Nat)
    (floor : Int)
    (leftHeight : Nat)
    (left : Expr)
    (parser : Parser) :
    (foldOperators operand (tokensLeft + 1) floor leftHeight left).run parser =
      match parser.current.kind.binaryOp? with
      | none => .ok left { parser with height := leftHeight }
      | some op =>
          if op.precedence < floor then .ok left { parser with height := leftHeight }
          else
            match operand.run parser.advanced with
            | .error error after => .error error after
            | .ok first behindFirst =>
                match extendedRight operand tokensLeft op first behindFirst with
                | .error error after => .error error after
                | .ok right behindRight =>
                    if nestingLimit < max leftHeight behindRight.height + 1 then
                      .error ⟨.nestedTooDeeply, parser.current.column⟩ behindRight
                    else
                      (foldOperators operand tokensLeft floor
                        (max leftHeight behindRight.height + 1)
                        (.binary op left right parser.current.span
                          (left.span.through right.span))).run
                        { behindRight with
                            height := max leftHeight behindRight.height + 1 } := by
  simp only [foldOperators, EStateM.run_bind, current_run]
  cases parser.current.kind.binaryOp? with
  | none =>
      rfl
  | some op =>
      by_cases below : op.precedence < floor
      · simp only [if_pos below]
        rfl
      · simp only [if_neg below, EStateM.run_bind, advance_run]
        cases operand.run parser.advanced with
        | error error after =>
            rfl
        | ok first behindFirst =>
            -- Both ways to find the right operand go on in the same way.
            have joined (right : Expr) (behindRight : Parser) :
                (do
                    let rightHeight ← recordedHeight
                    let height ← grow (max leftHeight rightHeight) parser.current.column
                    foldOperators operand tokensLeft floor height
                      (.binary op left right parser.current.span
                        (left.span.through right.span)) : Reading Expr).run behindRight =
                  if nestingLimit < max leftHeight behindRight.height + 1 then
                    .error ⟨.nestedTooDeeply, parser.current.column⟩ behindRight
                  else
                    (foldOperators operand tokensLeft floor
                      (max leftHeight behindRight.height + 1)
                      (.binary op left right parser.current.span
                        (left.span.through right.span))).run
                      { behindRight with
                          height := max leftHeight behindRight.height + 1 } := by
              simp only [EStateM.run_bind, recordedHeight_run, grow_run]
              by_cases tall : nestingLimit < max leftHeight behindRight.height + 1
              · simp only [if_pos tall]
              · simp only [if_neg tall]
            simp only [current_run, extendedRight]
            by_cases tighter :
                op.precedence < precedenceOf behindFirst.current.kind.binaryOp?
            · simp only [if_pos tighter]
              rw [EStateM.run_bind, recordedHeight_run]
              show EStateM.run (_ >>= _) behindFirst = _
              rw [EStateM.run_bind]
              simp only [joined]
              cases (foldOperators operand tokensLeft (op.precedence + 1) behindFirst.height
                first).run behindFirst <;> rfl
            · simp only [if_neg tighter]
              rw [EStateM.run_bind, EStateM.run_pure]
              exact joined first behindFirst

/-- There are as many steps as tokens that were not passed. -/
theorem continuedWith_run
    (operand : Reading Expr)
    (floor : Int)
    (left : Expr)
    (parser : Parser) :
    (continuedWith operand floor left).run parser =
      (foldOperators operand parser.rest.length floor parser.height left).run parser :=
  rfl

/-- An expression is read from its first operand on, with no floor. -/
theorem expressionWith_run
    (operand : Reading Expr)
    (parser : Parser) :
    (expressionWith operand).run parser =
      match operand.run parser with
      | .error error after => .error error after
      | .ok left after => (continuedWith operand 0 left).run after := by
  simp only [expressionWith, EStateM.run_bind]
  cases operand.run parser <;> rfl

end Reading

end AsmShell
