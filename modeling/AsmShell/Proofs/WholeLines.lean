import AsmShell.Proofs.AcceptedOperands
import AsmShell.Proofs.Scanning

/-!
# Lines that are one expression

A line that is split into the tokens of a chain and the end of the line is read as
one expression, which is the tree of the chain.  So the tree of a chain is decided
by its tokens.
-/

namespace AsmShell

/-! ## The end of a line -/

theorem exists_getLast?_tokensFrom
    (column : Nat)
    (text : List Char) :
    ∃ ending, (tokensFrom column 0 text).getLast? = some (Token.endOfLine ending) := by
  induction column, text using scan_induction with
  | finished column =>
      exact ⟨column, rfl⟩
  | token column kind front back takes backHypothesis =>
      rcases backHypothesis with ⟨ending, isLast⟩
      refine ⟨ending, ?_⟩
      rw [takes.tokensFrom_eq, List.getLast?_cons, isLast]
      rfl
  | separators column front back longest backHypothesis =>
      rw [tokensFrom_separators longest]
      exact backHypothesis

/-- A parser in front of a line stands in front of the tokens of the line. -/
theorem Parser.ofLine_eq
    (line : String) :
    Parser.ofLine line = ⟨tokenize line, 0⟩ := by
  rcases exists_getLast?_tokensFrom 0 line.toList with ⟨ending, isLast⟩
  have closed : (tokenize line).getLast? = some (Token.endOfLine ending) := isLast
  rw [Parser.ofLine, Parser.ofTokens, closed]
  rfl

/-! ## Reading a chain up to the end -/

theorem Chain.Within.expressionWith_run
    {levels : Nat}
    {chain : Chain}
    (within : chain.Within levels)
    (ending height : Nat) :
    (Reading.expressionWith (Reading.unaryWithin levels)).run
        ⟨chain.tokens ++ [Token.endOfLine ending], height⟩ =
      .ok chain.tree ⟨[Token.endOfLine ending], chain.tree.height⟩ :=
  (Reading.expressionWith_run_eq_ok_iff (Reading.unaryWithin_reads levels) _ _ _).2
    ⟨chain, within, rfl, rfl, rfl, rfl⟩

/-- A line with the tokens of a chain is read as the tree of the chain. -/
theorem Chain.Within.expression_run_ofLine
    {chain : Chain}
    (within : chain.Within nestingLimit)
    {line : String}
    {ending : Nat}
    (scanned : tokenize line = chain.tokens ++ [Token.endOfLine ending]) :
    Reading.expression.run (Parser.ofLine line) =
      .ok chain.tree ⟨[Token.endOfLine ending], chain.tree.height⟩ := by
  rw [Parser.ofLine_eq, scanned]
  exact within.expressionWith_run ending 0

/-- The tokens of a chain decide its tree. -/
theorem Chain.Within.tree_eq_of_tokens_eq
    {levels : Nat}
    {chain other : Chain}
    (within : chain.Within levels)
    (otherWithin : other.Within levels)
    (sameTokens : chain.tokens = other.tokens) :
    chain.tree = other.tree := by
  have read := within.expressionWith_run 0 0
  rw [sameTokens, otherWithin.expressionWith_run 0 0, EStateM.Result.ok.injEq] at read
  exact read.1.symm

end AsmShell
