import AsmShell.Proofs.PrecedenceChains

/-!
# The grammar is unambiguous

The tokens of a derived operand decide the operand: its tree, and how deeply each of
its tokens is enclosed.  The outer form of an operand tells where it ends, so two
derivations of the same tokens take the same operators, operands and parentheses from
them, one after the other.
-/

namespace AsmShell

theorem LeafToken.tree_unique
    {token : Token}
    {tree other : Expr}
    (leaf : LeafToken token tree)
    (otherLeaf : LeafToken token other) :
    tree = other := by
  have read := (leaf_eq_ok_iff token tree).2 leaf
  rw [(leaf_eq_ok_iff token other).2 otherLeaf, Except.ok.injEq] at read
  exact read.symm

/-- Joints are decided by their operators and the tokens of their operands. -/
theorem joints_eq_of_map_step_eq
    (joints others : List Joint)
    (operators : ∀ joint ∈ joints, joint.operator.kind.binaryOp? = some joint.op)
    (otherOperators : ∀ joint ∈ others, joint.operator.kind.binaryOp? = some joint.op)
    (otherOperands : ∀ joint ∈ others, joint.operand.Derived)
    (unique :
      ∀ joint ∈ joints, ∀ other : Operand, other.Derived →
        joint.operand.tokens = other.tokens → joint.operand = other)
    (sameSteps : joints.map Joint.step = others.map Joint.step) :
    joints = others := by
  induction joints generalizing others with
  | nil =>
      exact (List.map_eq_nil_iff.1 sameSteps.symm).symm
  | cons joint rest restHypothesis =>
      cases others with
      | nil =>
          cases sameSteps
      | cons other otherRest =>
          rw [List.forall_mem_cons] at operators otherOperators otherOperands unique
          rw [List.map_cons, List.map_cons, List.cons.injEq] at sameSteps
          rcases sameSteps with ⟨sameStep, sameRest⟩
          have sameOperator : joint.operator = other.operator :=
            congrArg ChainStep.operator sameStep
          have sameOperand : joint.operand = other.operand :=
            unique.1 other.operand otherOperands.1 (congrArg ChainStep.operand sameStep)
          have sameOp : joint.op = other.op := by
            have written := operators.1
            rw [sameOperator, otherOperators.1, Option.some.injEq] at written
            exact written.symm
          have sameJoint : joint = other := by
            rcases joint with ⟨operator, op, operand⟩
            rcases other with ⟨otherOperator, otherOp, otherOperand⟩
            exact (Joint.mk.injEq ..).mpr ⟨sameOperator, sameOp, sameOperand⟩
          rw [sameJoint, restHypothesis otherRest operators.2 otherOperators.2 otherOperands.2
            unique.2 sameRest]

/-- The tokens of a derived chain decide it, if those of its operands do. -/
theorem Chain.Derived.eq_of_operands
    {chain other : Chain}
    (derived : chain.Derived)
    (otherDerived : other.Derived)
    (firstUnique :
      ∀ operand : Operand, operand.Derived →
        chain.first.tokens = operand.tokens → chain.first = operand)
    (jointsUnique :
      ∀ joint ∈ chain.joints, ∀ operand : Operand, operand.Derived →
        joint.operand.tokens = operand.tokens → joint.operand = operand)
    (same : chain.tokens = other.tokens) :
    chain = other := by
  rcases chain with ⟨first, joints⟩
  rcases other with ⟨otherFirst, others⟩
  rcases derived.first.shape.append_inj otherDerived.first.shape same with
    ⟨sameFirst, sameJoints⟩
  have stops : StopsAt 0 [] := by
    simp [StopsAt]
  have stepTokens :
      (others.map Joint.step).flatMap ChainStep.tokens = others.flatMap Joint.tokens := by
    rw [List.flatMap_map]
    rfl
  have sameSteps : joints.map Joint.step = others.map Joint.step := by
    refine (map_step_eq_of_append_eq joints (others.map Joint.step) [] [] derived.operators
      derived.operands ?_ ?_ stops stops ?_).1
    · intro step member
      rcases List.mem_map.1 member with ⟨joint, jointMember, rfl⟩
      exact Option.isSome_of_eq_some (otherDerived.operators joint jointMember)
    · intro step member
      rcases List.mem_map.1 member with ⟨joint, jointMember, rfl⟩
      exact (otherDerived.operands joint jointMember).shape
    · rw [stepTokens, sameJoints]
  have joints_eq : joints = others :=
    joints_eq_of_map_step_eq joints others derived.operators otherDerived.operators
      otherDerived.operands jointsUnique sameSteps
  have first_eq : first = otherFirst := firstUnique otherFirst otherDerived.first sameFirst
  rw [first_eq, joints_eq]

/-- No two derived operands have the same tokens. -/
theorem Operand.Derived.eq_of_tokens_eq
    {operand other : Operand}
    (derived : operand.Derived)
    (otherDerived : other.Derived)
    (same : operand.tokens = other.tokens) :
    operand = other := by
  induction derived generalizing other with
  | @leaf token tree leaf =>
      cases otherDerived with
      | @leaf otherToken otherTree otherLeaf =>
          cases same
          rw [leaf.tree_unique otherLeaf]
      | prefixed written _ =>
          have heads := (List.cons.inj same).1
          rw [← heads, leaf.unaryOp?_eq_none] at written
          cases written
      | group opens _ _ _ _ =>
          have heads := (List.cons.inj same).1
          exact absurd (heads ▸ opens) leaf.kind_ne_openParen
  | @prefixed operator op operand written _ operandHypothesis =>
      cases otherDerived with
      | leaf leaf =>
          have heads := (List.cons.inj same).1
          rw [heads, leaf.unaryOp?_eq_none] at written
          cases written
      | prefixed otherWritten innerDerived =>
          rcases List.cons.inj same with ⟨rfl, tails⟩
          rw [written, Option.some.injEq] at otherWritten
          rw [otherWritten, operandHypothesis innerDerived tails]
      | group opens _ _ _ _ =>
          have heads := (List.cons.inj same).1
          rw [heads, opens] at written
          cases written
  | @group opening closing first joints opens firstDerived operators operands closes
      firstHypothesis operandsHypothesis =>
      cases otherDerived with
      | leaf leaf =>
          have heads := (List.cons.inj same).1
          exact absurd (heads ▸ opens) leaf.kind_ne_openParen
      | prefixed written _ =>
          have heads := (List.cons.inj same).1
          rw [← heads, opens] at written
          cases written
      | @group otherOpening otherClosing otherFirst otherJoints otherOpens otherFirstDerived
          otherOperators otherOperands otherCloses =>
          rcases List.cons.inj same with ⟨rfl, tails⟩
          rcases List.append_inj' tails rfl with ⟨sameChain, sameClosing⟩
          cases sameClosing
          have chain_eq : (⟨first, joints⟩ : Chain) = ⟨otherFirst, otherJoints⟩ :=
            Chain.Derived.eq_of_operands ⟨firstDerived, operators, operands⟩
              ⟨otherFirstDerived, otherOperators, otherOperands⟩
              (fun operand operandDerived => firstHypothesis operandDerived)
              (fun joint member operand operandDerived =>
                operandsHypothesis joint member operandDerived)
              sameChain
          rw [chain_eq]

end AsmShell
