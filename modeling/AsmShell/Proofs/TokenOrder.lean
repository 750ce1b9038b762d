import AsmShell.Proofs.Scanning

/-!
# The order of the tokens of a line

The tokens of a line stand in it one behind the other, each covers at least one
column, and the end of the line, which stands behind all of them, is the only token
of its kind.
-/

namespace AsmShell

open Text

/-- One token ends before another one begins. -/
def Token.EndsBefore (earlier later : Token) : Prop :=
  earlier.span.last < later.column

/-- No lexeme is the end of the line. -/
theorem TakesToken.kind_ne_endOfLine
    {kind : TokenKind}
    {front back : List Char}
    (takes : TakesToken kind front back) :
    kind ≠ .endOfLine := by
  cases takes with
  | unmatched _ =>
      decide
  | matched longest =>
      rintro rfl
      exact absurd (matches_of_longestMatch longest).1 (by decide)

theorem exists_body_of_tokensFrom
    (column : Nat)
    (text : List Char) :
    ∃ body,
      tokensFrom column 0 text = body ++ [Token.endOfLine (column + text.length)] ∧
        ∀ token ∈ body, token.kind ≠ .endOfLine := by
  induction column, text using scan_induction with
  | finished column =>
      exact ⟨[], rfl, by simp⟩
  | token column kind front back takes backHypothesis =>
      rcases backHypothesis with ⟨body, scanned, inside⟩
      refine ⟨Token.ofSource kind column front :: body, ?_, ?_⟩
      · rw [takes.tokensFrom_eq, scanned, List.length_append, Nat.add_assoc]
        rfl
      · intro token member
        rcases List.mem_cons.1 member with rfl | inBody
        · exact takes.kind_ne_endOfLine
        · exact inside token inBody
  | separators column front back longest backHypothesis =>
      rcases backHypothesis with ⟨body, scanned, inside⟩
      refine ⟨body, ?_, inside⟩
      rw [tokensFrom_separators longest, scanned, List.length_append, Nat.add_assoc]

/-- A token stands behind the place where the scan began, and it covers a column. -/
theorem columns_of_mem_tokensFrom
    (column : Nat)
    (text : List Char) :
    ∀ token ∈ tokensFrom column 0 text,
      column ≤ token.column ∧ token.column ≤ token.span.last := by
  induction column, text using scan_induction with
  | finished column =>
      intro token member
      rw [List.mem_singleton.1 member]
      exact ⟨Nat.le_refl column, Nat.le_refl column⟩
  | token column kind front back takes backHypothesis =>
      intro token member
      rw [takes.tokensFrom_eq] at member
      rcases List.mem_cons.1 member with rfl | inBack
      · exact ⟨Nat.le_refl column, Nat.le_add_right column _⟩
      · have behind := backHypothesis token inBack
        omega
  | separators column front back longest backHypothesis =>
      intro token member
      rw [tokensFrom_separators longest] at member
      have behind := backHypothesis token member
      omega

/-- The tokens of a text stand one behind the other. -/
theorem pairwise_endsBefore_tokensFrom
    (column : Nat)
    (text : List Char) :
    (tokensFrom column 0 text).Pairwise Token.EndsBefore := by
  induction column, text using scan_induction with
  | finished column =>
      exact List.pairwise_singleton _ _
  | token column kind front back takes backHypothesis =>
      rw [takes.tokensFrom_eq, List.pairwise_cons]
      refine ⟨?_, backHypothesis⟩
      intro later member
      have behind := (columns_of_mem_tokensFrom _ _ later member).1
      have positive := takes.length_pos
      show column + (front.length - 1) < later.column
      omega
  | separators column front back longest backHypothesis =>
      rw [tokensFrom_separators longest]
      exact backHypothesis

/-- Tokens that stand one behind the other and cover at least one column each. -/
structure InOrder (tokens : List Token) : Prop where
  covering : ∀ token ∈ tokens, token.column ≤ token.span.last
  ordered : tokens.Pairwise Token.EndsBefore

theorem InOrder.of_sublist
    {tokens some : List Token}
    (inOrder : InOrder tokens)
    (isSublist : List.Sublist some tokens) :
    InOrder some :=
  ⟨fun token member => inOrder.covering token (isSublist.subset member),
    inOrder.ordered.sublist isSublist⟩

theorem inOrder_tokenize
    (line : String) :
    InOrder (tokenize line) :=
  ⟨fun token member => (columns_of_mem_tokensFrom 0 _ token member).2,
    pairwise_endsBefore_tokensFrom 0 _⟩

end AsmShell
