import AsmShell.Proofs.Arguments
import AsmShell.Proofs.PrecedenceChains

/-!
# What is skipped for an argument

An argument that is nested too deeply is skipped by its tokens alone: operators in
front, then one token or everything up to the matching parenthesis.  For a derived
operand, this is the operand.  For other tokens, it is at least everything up to a
token at which a reading of the argument can have failed, because the reading has
closed no group that it did not open.
-/

namespace AsmShell

/-! ## Skipping a group -/

theorem skipGroup_openParen
    {token : Token}
    (opens : token.kind = .openParen)
    (inner : Nat)
    (rest : List Token) :
    skipGroup inner (token :: rest) = skipGroup (inner + 1) rest := by
  simp [skipGroup, opens]

theorem skipGroup_plain
    {token : Token}
    (inside : token.kind ≠ .endOfLine)
    (notOpen : token.kind ≠ .openParen)
    (notClose : token.kind ≠ .closeParen)
    (inner : Nat)
    (rest : List Token) :
    skipGroup inner (token :: rest) = skipGroup inner rest := by
  rw [skipGroup.eq_def]
  split <;> simp_all

/-- The end of the line stops the skipping, and every other token is passed. -/
theorem skipGroup_cons_suffix
    (inner : Nat)
    (token : Token)
    (rest : List Token) :
    skipGroup inner (token :: rest) <:+ dropToken (token :: rest) := by
  by_cases ends : token.kind = .endOfLine
  · simp [skipGroup, dropToken, ends]
  · rw [dropToken, if_neg ends]
    unfold skipGroup
    split
    · contradiction
    · exact skipGroup_suffix _ rest
    · exact List.suffix_refl rest
    · exact skipGroup_suffix _ rest
    · exact skipGroup_suffix _ rest

theorem Balanced.skipGroup_append
    {tokens : List Token}
    (balanced : Balanced tokens)
    (inside : ∀ token ∈ tokens, token.kind ≠ .endOfLine)
    (inner : Nat)
    (rest : List Token) :
    skipGroup inner (tokens ++ rest) = skipGroup inner rest := by
  induction balanced generalizing inner rest with
  | nil =>
      rfl
  | @plain token tokens notOpen notClose _ tokensHypothesis =>
      rw [List.forall_mem_cons] at inside
      rw [List.cons_append, skipGroup_plain inside.1 notOpen notClose,
        tokensHypothesis inside.2]
  | @group opening closing group tokens opens _ closes _ groupHypothesis tokensHypothesis =>
      simp only [List.forall_mem_cons, List.forall_mem_append] at inside
      rcases inside with ⟨_, groupInside, _, tokensInside⟩
      have closed (others : List Token) :
          skipGroup (inner + 1) (closing :: others) = skipGroup inner others := by
        simp [skipGroup, closes]
      rw [List.cons_append, List.append_assoc, List.cons_append, skipGroup_openParen opens,
        groupHypothesis groupInside, closed, tokensHypothesis tokensInside]

theorem Chain.Derived.balanced
    {chain : Chain}
    (derived : chain.Derived) :
    Balanced chain.tokens :=
  .chain derived.operators derived.first.balanced
    (fun joint member => (derived.operands joint member).balanced)

/-- Tokens inside a line in which no group is closed that was opened before them. -/
inductive Unclosed : List Token → Prop where
  | nil : Unclosed []
  | whole {front back : List Token} :
      Balanced front →
      (∀ token ∈ front, token.kind ≠ .endOfLine) →
      Unclosed back →
      Unclosed (front ++ back)
  | opening {opening : Token} {back : List Token} :
      opening.kind = .openParen →
      Unclosed back →
      Unclosed (opening :: back)

theorem Unclosed.operator_cons
    {operator : Token}
    {tokens : List Token}
    (written : operator.kind.unaryOp?.isSome ∨ operator.kind.binaryOp?.isSome)
    (unclosed : Unclosed tokens) :
    Unclosed (operator :: tokens) := by
  refine .whole (Balanced.nil.operator_cons written) ?_ unclosed
  intro token member ends
  rw [List.mem_singleton.1 member] at ends
  simp [ends, TokenKind.unaryOp?, TokenKind.binaryOp?] at written

/-- The skipping of a group goes on behind tokens that do not close it. -/
theorem Unclosed.exists_skipGroup_append
    {tokens : List Token}
    (unclosed : Unclosed tokens)
    (inner : Nat)
    (rest : List Token) :
    ∃ deeper, skipGroup inner (tokens ++ rest) = skipGroup deeper rest := by
  induction unclosed generalizing inner with
  | nil =>
      exact ⟨inner, rfl⟩
  | whole balanced inside _ backHypothesis =>
      rw [List.append_assoc, balanced.skipGroup_append inside]
      exact backHypothesis inner
  | opening opens _ backHypothesis =>
      rw [List.cons_append, skipGroup_openParen opens]
      exact backHypothesis (inner + 1)

/-! ## Skipping an argument -/

theorem skipArgument_operator
    {operator : Token}
    {op : UnaryOp}
    (written : operator.kind.unaryOp? = some op)
    (rest : List Token) :
    skipArgument (operator :: rest) = skipArgument rest := by
  simp [skipArgument, written]

theorem skipArgument_openParen
    {opening : Token}
    (opens : opening.kind = .openParen)
    (rest : List Token) :
    skipArgument (opening :: rest) = skipGroup 0 rest := by
  simp [skipArgument, opens, TokenKind.unaryOp?]

/-- What is skipped for an argument begins with its first token. -/
theorem skipArgument_cons_suffix
    (token : Token)
    (rest : List Token) :
    skipArgument (token :: rest) <:+ dropToken (token :: rest) := by
  cases written : token.kind.unaryOp? with
  | some op =>
      have inside := TokenKind.ne_endOfLine_of_unaryOp? written
      rw [skipArgument_operator written, dropToken, if_neg inside]
      exact skipArgument_suffix rest
  | none =>
      by_cases opens : token.kind = .openParen
      · rw [skipArgument_openParen opens, dropToken, if_neg (by simp [opens])]
        exact skipGroup_suffix 0 rest
      · have single : skipArgument (token :: rest) = dropToken (token :: rest) := by
          simp [skipArgument, written, opens]
        exact single ▸ List.suffix_refl _

/-- A derived operand is skipped as a whole and alone. -/
theorem Operand.Derived.skipArgument_append
    {operand : Operand}
    (derived : operand.Derived)
    (rest : List Token) :
    skipArgument (operand.tokens ++ rest) = rest := by
  induction derived with
  | @leaf token tree leaf =>
      show skipArgument (token :: rest) = rest
      simp [skipArgument, leaf.unaryOp?_eq_none, leaf.kind_ne_openParen, dropToken,
        leaf.kind_ne_endOfLine]
  | @prefixed operator op operand written _ operandHypothesis =>
      show skipArgument (operator :: (operand.tokens ++ rest)) = rest
      rw [skipArgument_operator written, operandHypothesis]
  | @group opening closing first joints opens firstDerived operators operands closes _ _ =>
      have chainDerived : Chain.Derived ⟨first, joints⟩ := ⟨firstDerived, operators, operands⟩
      have closed : skipGroup 0 (closing :: rest) = rest := by
        simp [skipGroup, closes]
      show skipArgument (opening :: (Chain.tokens ⟨first, joints⟩ ++ [closing] ++ rest)) = rest
      rw [skipArgument_openParen opens, List.append_assoc,
        chainDerived.balanced.skipGroup_append chainDerived.kind_ne_endOfLine]
      exact closed

/-- What a reading of an operand can have passed in front of a token at which it fails. -/
inductive OperandFront : List Token → Prop where
  | nil : OperandFront []
  | prefixed {operator : Token} {op : UnaryOp} {front : List Token} :
      operator.kind.unaryOp? = some op →
      OperandFront front →
      OperandFront (operator :: front)
  | group {opening : Token} {inner : List Token} :
      opening.kind = .openParen →
      Unclosed inner →
      OperandFront (opening :: inner)

theorem OperandFront.unclosed
    {front : List Token}
    (isFront : OperandFront front) :
    Unclosed front := by
  induction isFront with
  | nil => exact .nil
  | prefixed written _ frontHypothesis =>
      exact frontHypothesis.operator_cons (Or.inl (by simp [written]))
  | group opens unclosed => exact .opening opens unclosed

/-- A token at which a reading can have failed is skipped, unless it ends the line. -/
theorem OperandFront.skipArgument_suffix
    {front : List Token}
    (isFront : OperandFront front)
    (token : Token)
    (behind : List Token) :
    skipArgument (front ++ token :: behind) <:+ dropToken (token :: behind) := by
  induction isFront with
  | nil =>
      exact skipArgument_cons_suffix token behind
  | prefixed written _ frontHypothesis =>
      rw [List.cons_append, skipArgument_operator written]
      exact frontHypothesis
  | group opens unclosed =>
      rcases unclosed.exists_skipGroup_append 0 (token :: behind) with ⟨deeper, skipped⟩
      rw [List.cons_append, skipArgument_openParen opens, skipped]
      exact skipGroup_cons_suffix deeper token behind

end AsmShell
