import AsmShell.Proofs.AcceptedOperands

/-!
# Chains are grouped by precedence

Where a chain of operands stands in front of the parser, a successful reading has
passed exactly this chain and its tree is the grouped one.  The operands of the
chain are told by their outer form alone: a group may have any content in which the
parentheses match, and whether it can be read is left to the reading.

That the reading ends where the chain does rests on outer forms being prefix-free:
no operand is a proper beginning of another one.
-/

namespace AsmShell

/-! ## The outer form of an operand -/

/-- Tokens in which every parenthesis has its partner. -/
inductive Balanced : List Token → Prop where
  | nil : Balanced []
  | plain {token : Token} {tokens : List Token} :
      token.kind ≠ .openParen →
      token.kind ≠ .closeParen →
      Balanced tokens →
      Balanced (token :: tokens)
  | group {opening closing : Token} {inner tokens : List Token} :
      opening.kind = .openParen →
      Balanced inner →
      closing.kind = .closeParen →
      Balanced tokens →
      Balanced (opening :: (inner ++ closing :: tokens))

/-- Operators in front of a literal, a reference or a group with any content. -/
inductive OperandShape : List Token → Prop where
  | leaf {token : Token} :
      token.kind ∈ [TokenKind.identifier, .integer, .float, .string, .reference] →
      OperandShape [token]
  | prefixed {operator : Token} {tokens : List Token} :
      operator.kind.unaryOp?.isSome →
      OperandShape tokens →
      OperandShape (operator :: tokens)
  | group {opening closing : Token} {inner : List Token} :
      opening.kind = .openParen →
      Balanced inner →
      closing.kind = .closeParen →
      OperandShape (opening :: (inner ++ [closing]))

theorem Balanced.append
    {front back : List Token}
    (frontBalanced : Balanced front)
    (backBalanced : Balanced back) :
    Balanced (front ++ back) := by
  induction frontBalanced with
  | nil =>
      exact backBalanced
  | plain notOpen notClose _ tokensHypothesis =>
      exact .plain notOpen notClose tokensHypothesis
  | @group opening closing inner tokens opens innerBalanced closes _ _ tokensHypothesis =>
      rw [List.cons_append, List.append_assoc, List.cons_append]
      exact .group opens innerBalanced closes tokensHypothesis

theorem Balanced.operator_cons
    {operator : Token}
    {tokens : List Token}
    (written : operator.kind.unaryOp?.isSome ∨ operator.kind.binaryOp?.isSome)
    (balanced : Balanced tokens) :
    Balanced (operator :: tokens) := by
  refine .plain ?_ ?_ balanced
  · intro opens
    simp [opens, TokenKind.unaryOp?, TokenKind.binaryOp?] at written
  · intro closes
    simp [closes, TokenKind.unaryOp?, TokenKind.binaryOp?] at written

theorem Balanced.chain
    {chain : Chain}
    (operators : ∀ joint ∈ chain.joints, joint.operator.kind.binaryOp? = some joint.op)
    (firstBalanced : Balanced chain.first.tokens)
    (operandsBalanced : ∀ joint ∈ chain.joints, Balanced joint.operand.tokens) :
    Balanced chain.tokens := by
  refine firstBalanced.append ?_
  generalize chain.joints = joints at operators operandsBalanced
  induction joints with
  | nil =>
      exact .nil
  | cons joint others othersHypothesis =>
      rw [List.forall_mem_cons] at operators operandsBalanced
      have jointBalanced : Balanced joint.tokens :=
        operandsBalanced.1.operator_cons (Or.inr (by simp [operators.1]))
      exact jointBalanced.append (othersHypothesis operators.2 operandsBalanced.2)

/-- The content of a group ends at the first closing parenthesis that is left over. -/
theorem Balanced.append_closing_inj
    {left right leftRest rightRest : List Token}
    {leftClosing rightClosing : Token}
    (leftBalanced : Balanced left)
    (rightBalanced : Balanced right)
    (leftCloses : leftClosing.kind = .closeParen)
    (rightCloses : rightClosing.kind = .closeParen)
    (same : left ++ leftClosing :: leftRest = right ++ rightClosing :: rightRest) :
    left = right ∧ leftClosing = rightClosing ∧ leftRest = rightRest := by
  induction leftBalanced generalizing right leftClosing rightClosing leftRest rightRest with
  | nil =>
      cases rightBalanced with
      | nil =>
          exact ⟨rfl, List.cons.inj same⟩
      | plain _ notClose _ =>
          have heads := (List.cons.inj same).1
          exact absurd (heads ▸ leftCloses) notClose
      | group opens _ _ _ =>
          have heads := (List.cons.inj same).1
          rw [← heads, leftCloses] at opens
          cases opens
  | @plain token tokens notOpen notClose _ tokensHypothesis =>
      cases rightBalanced with
      | nil =>
          have heads := (List.cons.inj same).1
          exact absurd (heads ▸ rightCloses) notClose
      | plain _ _ rightTokensBalanced =>
          rcases List.cons.inj same with ⟨rfl, tails⟩
          rcases tokensHypothesis rightTokensBalanced leftCloses rightCloses tails with
            ⟨rfl, closings⟩
          exact ⟨rfl, closings⟩
      | group opens _ _ _ =>
          have heads := (List.cons.inj same).1
          exact absurd (heads ▸ opens) notOpen
  | @group opening closing inner tokens opens _ closes _ innerHypothesis tokensHypothesis =>
      cases rightBalanced with
      | nil =>
          have heads := (List.cons.inj same).1
          rw [heads, rightCloses] at opens
          cases opens
      | plain notOpen _ _ =>
          have heads := (List.cons.inj same).1
          exact absurd (heads ▸ opens) notOpen
      | group _ rightInnerBalanced rightInnerCloses rightTokensBalanced =>
          simp only [List.cons_append, List.append_assoc, List.cons.injEq] at same
          rcases same with ⟨rfl, tails⟩
          rcases innerHypothesis rightInnerBalanced closes rightInnerCloses tails with
            ⟨rfl, rfl, behind⟩
          rcases tokensHypothesis rightTokensBalanced leftCloses rightCloses behind with
            ⟨rfl, closings⟩
          exact ⟨rfl, closings⟩

theorem OperandShape.leaf_kind
    {token : Token}
    (leaf : token.kind ∈ [TokenKind.identifier, .integer, .float, .string, .reference]) :
    token.kind.unaryOp? = none ∧ token.kind ≠ .openParen := by
  simp only [List.mem_cons, List.not_mem_nil, or_false] at leaf
  rcases leaf with kind | kind | kind | kind | kind <;> simp [kind, TokenKind.unaryOp?]

/-- No outer form of an operand is a proper beginning of another one. -/
theorem OperandShape.append_inj
    {left right leftRest rightRest : List Token}
    (leftShape : OperandShape left)
    (rightShape : OperandShape right)
    (same : left ++ leftRest = right ++ rightRest) :
    left = right ∧ leftRest = rightRest := by
  induction leftShape generalizing right with
  | @leaf token leaf =>
      rcases OperandShape.leaf_kind leaf with ⟨noOperator, notOpen⟩
      cases rightShape with
      | leaf _ =>
          rcases List.cons.inj same with ⟨rfl, tails⟩
          exact ⟨rfl, tails⟩
      | prefixed operator _ =>
          rw [← (List.cons.inj same).1, noOperator] at operator
          cases operator
      | group opens _ _ =>
          exact absurd ((List.cons.inj same).1 ▸ opens) notOpen
  | @prefixed token tokens operator _ tokensHypothesis =>
      cases rightShape with
      | leaf leaf =>
          rw [(List.cons.inj same).1, (OperandShape.leaf_kind leaf).1] at operator
          cases operator
      | prefixed _ rightTokensShape =>
          rcases List.cons.inj same with ⟨rfl, tails⟩
          rcases tokensHypothesis rightTokensShape tails with ⟨rfl, rests⟩
          exact ⟨rfl, rests⟩
      | group opens _ _ =>
          rw [(List.cons.inj same).1, opens] at operator
          cases operator
  | @group opening closing inner opens innerBalanced closes =>
      cases rightShape with
      | leaf leaf =>
          exact absurd ((List.cons.inj same).1 ▸ opens) (OperandShape.leaf_kind leaf).2
      | prefixed operator _ =>
          rw [← (List.cons.inj same).1, opens] at operator
          cases operator
      | group _ rightInnerBalanced rightCloses =>
          simp only [List.cons_append, List.append_assoc, List.nil_append,
            List.cons.injEq] at same
          rcases same with ⟨rfl, tails⟩
          rcases innerBalanced.append_closing_inj rightInnerBalanced closes rightCloses tails with
            ⟨rfl, rfl, rests⟩
          exact ⟨rfl, rests⟩

/-! ## Derived operands have this form -/

theorem LeafToken.kind_mem
    {token : Token}
    {tree : Expr}
    (leaf : LeafToken token tree) :
    token.kind ∈ [TokenKind.identifier, .integer, .float, .string, .reference] := by
  cases leaf <;> simp_all

theorem Operand.Derived.balanced
    {operand : Operand}
    (derived : operand.Derived) :
    Balanced operand.tokens := by
  induction derived with
  | @leaf token tree leaf =>
      refine .plain leaf.kind_ne_openParen ?_ .nil
      intro closes
      have member := leaf.kind_mem
      simp [closes] at member
  | prefixed written _ operandHypothesis =>
      exact operandHypothesis.operator_cons (Or.inl (by simp [written]))
  | group opens _ operators _ closes firstHypothesis operandsHypothesis =>
      exact .group opens (.chain operators firstHypothesis operandsHypothesis) closes .nil

theorem Operand.Derived.shape
    {operand : Operand}
    (derived : operand.Derived) :
    OperandShape operand.tokens := by
  induction derived with
  | leaf leaf =>
      exact .leaf leaf.kind_mem
  | prefixed written _ operandHypothesis =>
      exact .prefixed (by simp [written]) operandHypothesis
  | @group opening closing first joints opens firstDerived operators operands closes _ _ =>
      have chainBalanced : Balanced (Chain.tokens ⟨first, joints⟩) :=
        .chain operators firstDerived.balanced
          (fun joint member => (operands joint member).balanced)
      exact .group opens chainBalanced closes

/-! ## Where a chain ends -/

/-- An operator between two operands, with the tokens of the operand behind it. -/
structure ChainStep where
  operator : Token
  operand : List Token

namespace ChainStep

def tokens (step : ChainStep) : List Token :=
  step.operator :: step.operand

end ChainStep

/-- The joint without what its operand is read as. -/
def Joint.step (joint : Joint) : ChainStep :=
  ⟨joint.operator, joint.operand.tokens⟩

/-- Two ways to go on behind an operand are the same if neither could go on further. -/
theorem map_step_eq_of_append_eq
    (joints : List Joint)
    (steps : List ChainStep)
    (jointsRest stepsRest : List Token)
    (written : ∀ joint ∈ joints, joint.operator.kind.binaryOp? = some joint.op)
    (derived : ∀ joint ∈ joints, joint.operand.Derived)
    (stepsWritten : ∀ step ∈ steps, step.operator.kind.binaryOp?.isSome)
    (stepsShape : ∀ step ∈ steps, OperandShape step.operand)
    (jointsStop : StopsAt 0 jointsRest)
    (stepsStop : StopsAt 0 stepsRest)
    (same :
      joints.flatMap Joint.tokens ++ jointsRest = steps.flatMap ChainStep.tokens ++ stepsRest) :
    joints.map Joint.step = steps ∧ jointsRest = stepsRest := by
  have notStopped
      (operator : Token) (tokens : List Token) (op : BinaryOp)
      (isOperator : operator.kind.binaryOp? = some op) :
      ¬ StopsAt 0 (operator :: tokens) := by
    intro stops
    have := stops operator rfl op isOperator
    have := op.precedence_nonneg
    omega
  induction joints generalizing steps with
  | nil =>
      cases steps with
      | nil =>
          exact ⟨rfl, same⟩
      | cons step others =>
          rcases Option.isSome_iff_exists.1 (stepsWritten step List.mem_cons_self) with
            ⟨op, isOperator⟩
          have same : jointsRest = step.operator :: _ := same
          rw [same] at jointsStop
          exact absurd jointsStop (notStopped _ _ op isOperator)
  | cons joint others othersHypothesis =>
      rw [List.forall_mem_cons] at written derived
      cases steps with
      | nil =>
          have same : joint.operator :: _ = stepsRest := same
          rw [← same] at stepsStop
          exact absurd stepsStop (notStopped _ _ joint.op written.1)
      | cons step otherSteps =>
          rw [List.forall_mem_cons] at stepsWritten stepsShape
          simp only [List.flatMap_cons, Joint.tokens, ChainStep.tokens, List.cons_append,
            List.append_assoc, List.cons.injEq] at same
          rcases same with ⟨sameOperator, tails⟩
          rcases derived.1.shape.append_inj stepsShape.1 tails with ⟨sameOperand, behind⟩
          rcases othersHypothesis otherSteps written.2 derived.2 stepsWritten.2 stepsShape.2
              behind with
            ⟨sameSteps, sameRest⟩
          refine ⟨?_, sameRest⟩
          rw [List.map_cons, sameSteps, Joint.step, sameOperator, sameOperand]

/-! ## The tree of a chain -/

/-- A reading of these tokens alone gives the tree and stops at the end of the line. -/
def ReadAlone (tokens : List Token) (tree : Expr) : Prop :=
  ∃ after,
    Reading.unary.run (Parser.ofTokens tokens) = .ok tree after ∧
      after.current.kind = .endOfLine

theorem Operand.Within.readAlone
    {operand : Operand}
    (within : operand.Within nestingLimit) :
    ReadAlone operand.tokens operand.tree := by
  have ends :
      ∃ column,
        Parser.ofTokens operand.tokens = ⟨operand.tokens ++ [Token.endOfLine column], 0⟩ := by
    rw [Parser.ofTokens]
    cases final : operand.tokens.getLast? with
    | none =>
        rw [List.getLast?_eq_none_iff.1 final]
        exact ⟨0, rfl⟩
    | some token =>
        have inside : token.kind ≠ .endOfLine :=
          within.derived.kind_ne_endOfLine token (List.mem_of_getLast? final)
        exact ⟨token.span.last + 1, if_neg inside⟩
  rcases ends with ⟨column, parser⟩
  refine ⟨⟨[Token.endOfLine column], operand.tree.height⟩, ?_, rfl⟩
  rw [parser]
  exact (Reading.unaryWithin_reads nestingLimit _ _ _).2 ⟨operand, within, rfl, rfl, rfl⟩

/--
A successful reading of an expression in front of a chain of operands, with no further
operator behind it, has passed exactly the chain and gives its grouped tree, the
operands being what they are read as alone.  In front of any tokens, a successful
continuation of `left` has passed the operators, with their operands, up to the first
one that is below the floor, and gives the grouped tree of `left` and what was passed.
-/
theorem readings_group_by_precedence :
    (∀ (first : List Token) (steps : List ChainStep) (rest : List Token) (height : Nat)
      (expr : Expr) (after : Parser),
      OperandShape first →
      (∀ step ∈ steps, step.operator.kind.binaryOp?.isSome ∧ OperandShape step.operand) →
      (Parser.mk rest height).current.kind.binaryOp? = none →
      Reading.expression.run ⟨first ++ steps.flatMap ChainStep.tokens ++ rest, height⟩ =
        .ok expr after →
      after.rest = rest ∧
        ∃ (tree : Expr) (joints : List Joint),
          ReadAlone first tree ∧
          joints.map Joint.step = steps ∧
          (∀ joint ∈ joints,
            joint.operator.kind.binaryOp? = some joint.op ∧
              ReadAlone joint.operand.tokens joint.operand.tree) ∧
          expr = grouped tree (joints.map Joint.link)) ∧
    ∀ (floor : Int) (left : Expr) (parser : Parser) (expr : Expr) (after : Parser),
      (Reading.continued floor left).run parser = .ok expr after →
      ∃ joints : List Joint,
        parser.rest = joints.flatMap Joint.tokens ++ after.rest ∧
        (∀ joint ∈ joints,
          joint.operator.kind.binaryOp? = some joint.op ∧
            floor ≤ joint.op.precedence ∧
            ReadAlone joint.operand.tokens joint.operand.tree) ∧
        (∀ op ∈ after.current.kind.binaryOp?, op.precedence < floor) ∧
        expr = grouped left (joints.map Joint.link) := by
  have reads := Reading.unaryWithin_reads nestingLimit
  refine ⟨?_, ?_⟩
  · intro first steps rest height expr after firstShape stepsShape stops ran
    rcases (Reading.expressionWith_run_eq_ok_iff reads _ _ _).1 ran with
      ⟨chain, within, passed, chainStops, rfl, _⟩
    rcases (Chain.within_iff _ _).1 within with ⟨firstWithin, jointsWithin, _⟩
    rw [Chain.tokens, List.append_assoc, List.append_assoc] at passed
    rcases firstWithin.derived.shape.append_inj firstShape passed.symm with
      ⟨sameFirst, tails⟩
    rcases map_step_eq_of_append_eq chain.joints steps after.rest rest
        (fun joint member => (jointsWithin joint member).1)
        (fun joint member => (jointsWithin joint member).2.derived)
        (fun step member => (stepsShape step member).1)
        (fun step member => (stepsShape step member).2)
        (after.stopsAt_zero_iff.2 chainStops)
        ((Parser.mk rest height).stopsAt_zero_iff.2 stops) tails with
      ⟨sameSteps, sameRest⟩
    refine ⟨sameRest, chain.first.tree, chain.joints, sameFirst ▸ firstWithin.readAlone,
      sameSteps, ?_, rfl⟩
    intro joint member
    exact ⟨(jointsWithin joint member).1, (jointsWithin joint member).2.readAlone⟩
  · intro floor left parser expr after ran
    rw [Reading.continued, Reading.continuedWith_run] at ran
    rcases Reading.exists_folded_of_foldOperators reads _ _ _ _ _ _ _ (Nat.le_refl _) ran with
      ⟨joints, folded, _⟩
    refine ⟨joints, folded.passed, ?_, (after.stopsAt_rest_iff floor).1 folded.stops,
      folded.tree⟩
    intro joint member
    have admitted := folded.admitted joint member
    exact ⟨admitted.operator, admitted.precedence, admitted.operand.readAlone⟩

/-- The chain `a - b * c`, and `a` continued over `* b - c` by tight operators only. -/
theorem readings_group_by_precedence_of_names :
    (∃ (expr : Expr) (after : Parser) (tree : Expr) (joints : List Joint),
      Reading.expression.run
          ⟨[⟨.identifier, ⟨0, 0⟩, "a"⟩, ⟨.minus, ⟨2, 2⟩, "-"⟩, ⟨.identifier, ⟨4, 4⟩, "b"⟩,
            ⟨.star, ⟨6, 6⟩, "*"⟩, ⟨.identifier, ⟨8, 8⟩, "c"⟩, Token.endOfLine 9], 0⟩ =
        .ok expr after ∧
      after.rest = [Token.endOfLine 9] ∧
      joints.map Joint.step =
        [⟨⟨.minus, ⟨2, 2⟩, "-"⟩, [⟨.identifier, ⟨4, 4⟩, "b"⟩]⟩,
          ⟨⟨.star, ⟨6, 6⟩, "*"⟩, [⟨.identifier, ⟨8, 8⟩, "c"⟩]⟩] ∧
      expr = grouped tree (joints.map Joint.link)) ∧
    ∃ (expr : Expr) (after : Parser) (joints : List Joint),
      (Reading.continued 700 (.literal (.identifier "a") ⟨0, 0⟩)).run
          ⟨[⟨.star, ⟨2, 2⟩, "*"⟩, ⟨.identifier, ⟨4, 4⟩, "b"⟩, ⟨.minus, ⟨6, 6⟩, "-"⟩,
            ⟨.identifier, ⟨8, 8⟩, "c"⟩, Token.endOfLine 9], 1⟩ =
        .ok expr after ∧
      after.rest =
        [⟨.minus, ⟨6, 6⟩, "-"⟩, ⟨.identifier, ⟨8, 8⟩, "c"⟩, Token.endOfLine 9] ∧
      expr = grouped (.literal (.identifier "a") ⟨0, 0⟩) (joints.map Joint.link) := by
  refine ⟨?_, ?_⟩
  · rcases readings_group_by_precedence.1 [⟨.identifier, ⟨0, 0⟩, "a"⟩]
        [⟨⟨.minus, ⟨2, 2⟩, "-"⟩, [⟨.identifier, ⟨4, 4⟩, "b"⟩]⟩,
          ⟨⟨.star, ⟨6, 6⟩, "*"⟩, [⟨.identifier, ⟨8, 8⟩, "c"⟩]⟩]
        [Token.endOfLine 9] 0 _ _ (.leaf (by decide))
        (by
          intro step member
          simp only [List.mem_cons, List.not_mem_nil, or_false] at member
          rcases member with rfl | rfl <;> exact ⟨rfl, .leaf (by decide)⟩)
        rfl rfl with
      ⟨behind, tree, joints, _, steps, _, tree_eq⟩
    exact ⟨_, _, tree, joints, rfl, behind, steps, tree_eq⟩
  · rcases readings_group_by_precedence.2 700 (.literal (.identifier "a") ⟨0, 0⟩)
        ⟨[⟨.star, ⟨2, 2⟩, "*"⟩, ⟨.identifier, ⟨4, 4⟩, "b"⟩, ⟨.minus, ⟨6, 6⟩, "-"⟩,
          ⟨.identifier, ⟨8, 8⟩, "c"⟩, Token.endOfLine 9], 1⟩ _ _ rfl with
      ⟨joints, _, _, _, tree_eq⟩
    exact ⟨_, _, joints, rfl, rfl, tree_eq⟩

end AsmShell
