import AsmShell.Proofs.OperatorFolding

/-!
# The parser accepts the grammar within its limits

Each reader of the grammar succeeds exactly where a piece of the line is derived
by its rule and respects the limits: the tree of the piece has at most
`nestingLimit` levels, and no token of it is enclosed by as many operators and
parentheses as there are levels left.  The recursion of the readers is on the
number of levels, and so are the inductions here.
-/

namespace AsmShell

/-! ## Pieces within the limits -/

/-- An operand that can be read while `levels` levels may still be opened. -/
structure Operand.Within (levels : Nat) (operand : Operand) : Prop where
  derived : operand.Derived
  short : operand.tree.height ≤ nestingLimit
  shallow : ∀ count ∈ operand.enclosures, count < levels

/-- A chain that can be read while `levels` levels may still be opened. -/
structure Chain.Within (levels : Nat) (chain : Chain) : Prop where
  derived : chain.Derived
  short : chain.tree.height ≤ nestingLimit
  shallow : ∀ count ∈ chain.enclosures, count < levels

theorem Operand.Within.mono
    {fewer more : Nat}
    {operand : Operand}
    (within : operand.Within fewer)
    (fewer_le : fewer ≤ more) :
    operand.Within more :=
  ⟨within.derived, within.short, fun count member =>
    Nat.lt_of_lt_of_le (within.shallow count member) fewer_le⟩

theorem Chain.Within.mono
    {fewer more : Nat}
    {chain : Chain}
    (within : chain.Within fewer)
    (fewer_le : fewer ≤ more) :
    chain.Within more :=
  ⟨within.derived, within.short, fun count member =>
    Nat.lt_of_lt_of_le (within.shallow count member) fewer_le⟩

theorem Operand.Within.levels_pos
    {levels : Nat}
    {operand : Operand}
    (within : operand.Within levels) :
    0 < levels :=
  within.shallow 0 within.derived.zero_mem_enclosures

theorem Operand.within_leaf
    {token : Token}
    {tree : Expr}
    (leaf : LeafToken token tree)
    (levels : Nat) :
    (Operand.leaf token tree).Within (levels + 1) where
  derived := .leaf leaf
  short := by
    show tree.height ≤ nestingLimit
    rw [leaf.height_eq_one]
    decide
  shallow := by simp [Operand.leaf]

theorem Operand.within_prefixed_iff
    {operator : Token}
    {op : UnaryOp}
    {operand : Operand}
    {levels : Nat}
    (written : operator.kind.unaryOp? = some op)
    (derived : operand.Derived) :
    (Operand.prefixed operator op operand).Within (levels + 1) ↔
      operand.Within levels ∧ operand.tree.height + 1 ≤ nestingLimit := by
  constructor
  · intro within
    have taller : operand.tree.height + 1 ≤ nestingLimit := within.short
    refine ⟨⟨derived, by omega, ?_⟩, taller⟩
    intro count member
    have deeper := within.shallow (count + 1)
      (List.mem_cons_of_mem _ (List.mem_map_of_mem member))
    omega
  · rintro ⟨within, taller⟩
    refine ⟨.prefixed written derived, taller, ?_⟩
    intro count member
    rcases List.mem_cons.1 member with rfl | member
    · omega
    · rcases List.mem_map.1 member with ⟨inner, innerMember, rfl⟩
      have := within.shallow inner innerMember
      omega

theorem Operand.within_group_iff
    {opening closing : Token}
    {chain : Chain}
    {levels : Nat}
    (opens : opening.kind = .openParen)
    (closes : closing.kind = .closeParen)
    (derived : chain.Derived) :
    (Operand.group opening chain closing).Within (levels + 1) ↔ chain.Within levels := by
  constructor
  · intro within
    have short := within.short
    rw [Operand.group, Expr.height_withSpan] at short
    refine ⟨derived, short, ?_⟩
    intro count member
    have deeper := within.shallow (count + 1)
      (List.mem_cons_of_mem _ (List.mem_append_left _ (List.mem_map_of_mem member)))
    omega
  · intro within
    refine ⟨.group opens derived.first derived.operators derived.operands closes, ?_, ?_⟩
    · rw [Operand.group, Expr.height_withSpan]
      exact within.short
    · intro count member
      rcases List.mem_cons.1 member with rfl | member
      · omega
      · rcases List.mem_append.1 member with member | member
        · rcases List.mem_map.1 member with ⟨inner, innerMember, rfl⟩
          have := within.shallow inner innerMember
          omega
        · have : count = 0 := List.mem_singleton.1 member
          omega

/-- A chain is within the limits if its tree is not too tall and its operands are. -/
theorem Chain.within_iff
    (chain : Chain)
    (levels : Nat) :
    chain.Within levels ↔
      chain.first.Within levels ∧
        (∀ joint ∈ chain.joints,
          joint.operator.kind.binaryOp? = some joint.op ∧ joint.operand.Within levels) ∧
        chain.tree.height ≤ nestingLimit := by
  constructor
  · intro within
    refine ⟨⟨within.derived.first, ?_, ?_⟩, ?_, within.short⟩
    · exact Nat.le_trans (height_le_height_grouped _ _) within.short
    · intro count member
      exact within.shallow count (List.mem_append_left _ member)
    · intro joint member
      refine ⟨within.derived.operators joint member, within.derived.operands joint member,
        ?_, ?_⟩
      · exact Nat.le_trans
          (right_height_le_height_grouped _ _ joint.link (List.mem_map_of_mem member))
          within.short
      · intro count countMember
        refine within.shallow count (List.mem_append_right _ ?_)
        exact List.mem_flatMap.2 ⟨joint, member, List.mem_cons_of_mem _ countMember⟩
  · rintro ⟨firstWithin, jointsWithin, short⟩
    refine ⟨⟨firstWithin.derived, fun joint member => (jointsWithin joint member).1,
      fun joint member => (jointsWithin joint member).2.derived⟩, short, ?_⟩
    intro count member
    rcases List.mem_append.1 member with inFirst | inJoints
    · exact firstWithin.shallow count inFirst
    · rcases List.mem_flatMap.1 inJoints with ⟨joint, jointMember, inJoint⟩
      rcases List.mem_cons.1 inJoint with rfl | inOperand
      · exact firstWithin.levels_pos
      · exact (jointsWithin joint jointMember).2.shallow count inOperand

theorem Operand.Within.chain
    {levels : Nat}
    {operand : Operand}
    (within : operand.Within levels) :
    Chain.Within levels ⟨operand, []⟩ := by
  refine (Chain.within_iff _ _).2 ⟨within, by simp, ?_⟩
  rw [Chain.tree_single]
  exact within.short

/-! ## Chains -/

theorem BinaryOp.precedence_nonneg
    (op : BinaryOp) :
    0 ≤ op.precedence := by
  cases op with
  | arithmetic op => cases op <;> decide
  | comparison op => cases op <;> decide
  | logic op => cases op <;> decide
  | bitwise op => cases op <;> decide

theorem Parser.stopsAt_zero_iff
    (parser : Parser) :
    StopsAt 0 parser.rest ↔ parser.current.kind.binaryOp? = none := by
  rw [parser.stopsAt_rest_iff 0]
  cases written : parser.current.kind.binaryOp? with
  | none =>
      simp
  | some op =>
      have := op.precedence_nonneg
      simp
      omega

namespace Reading

variable
    {operand : Reading Expr}
    {levels : Nat}

/-- The reader of expressions accepts the chains of what the reader of operands accepts. -/
theorem expressionWith_run_eq_ok_iff
    (reads : Reads operand (Operand.Within levels))
    (parser after : Parser)
    (expr : Expr) :
    (expressionWith operand).run parser = .ok expr after ↔
      ∃ chain : Chain,
        chain.Within levels ∧ parser.rest = chain.tokens ++ after.rest ∧
          after.current.kind.binaryOp? = none ∧
          expr = chain.tree ∧ after.height = chain.tree.height := by
  rw [expressionWith_run]
  constructor
  · intro ran
    cases firstRead : operand.run parser with
    | error error between =>
        simp [firstRead] at ran
    | ok left between =>
        simp only [firstRead, continuedWith_run] at ran
        rcases (reads _ _ _).1 firstRead with ⟨first, firstWithin, firstPassed, rfl, recorded⟩
        rcases exists_folded_of_foldOperators reads _ _ _ _ _ _ _ (Nat.le_refl _) ran with
          ⟨joints, folded, heights⟩
        rcases heights recorded with ⟨exprRecorded, exprShort⟩
        have tree : expr = Chain.tree ⟨first, joints⟩ := folded.tree
        have short : (Chain.tree ⟨first, joints⟩).height ≤ nestingLimit := by
          rcases exprShort with rfl | exprShort
          · show (grouped first.tree []).height ≤ nestingLimit
            rw [grouped_nil]
            exact firstWithin.short
          · exact tree ▸ exprShort
        refine ⟨⟨first, joints⟩, (Chain.within_iff _ _).2 ⟨firstWithin, ?_, short⟩, ?_,
          after.stopsAt_zero_iff.1 folded.stops, tree, tree ▸ exprRecorded⟩
        · intro joint member
          have admitted := folded.admitted joint member
          exact ⟨admitted.operator, admitted.operand⟩
        · rw [firstPassed, folded.passed, Chain.tokens, List.append_assoc]
  · rintro ⟨chain, within, passed, stops, rfl, recorded⟩
    rcases (Chain.within_iff _ _).1 within with ⟨firstWithin, jointsWithin, short⟩
    rw [Chain.tokens, List.append_assoc] at passed
    have firstRead :
        operand.run parser =
          .ok chain.first.tree
            ⟨chain.joints.flatMap Joint.tokens ++ after.rest, chain.first.tree.height⟩ :=
      (reads _ _ _).2 ⟨chain.first, firstWithin, passed, rfl, rfl⟩
    have folded :
        Folded (Operand.Within levels) 0 chain.first.tree
          (chain.joints.flatMap Joint.tokens ++ after.rest) chain.joints chain.tree
          after.rest := by
      refine ⟨?_, rfl, after.stopsAt_zero_iff.2 stops, rfl⟩
      intro joint member
      exact ⟨(jointsWithin joint member).1, (jointsWithin joint member).2,
        joint.op.precedence_nonneg⟩
    simp only [firstRead, continuedWith_run]
    exact foldOperators_run_of_folded reads folded (Nat.le_refl _) short recorded

/-! ## Operands -/

/-- The reader of groups accepts the chains in parentheses. -/
theorem groupingWith_run_eq_ok_iff
    (reads : Reads operand (Operand.Within levels))
    (parser after : Parser)
    (expr : Expr)
    (opens : parser.current.kind = .openParen) :
    (groupingWith (expressionWith operand)).run parser = .ok expr after ↔
      ∃ (chain : Chain) (closing : Token),
        chain.Within levels ∧ closing.kind = .closeParen ∧
          parser.rest = parser.current :: (chain.tokens ++ closing :: after.rest) ∧
          expr = chain.tree.withSpan ⟨parser.current.column, closing.span.last⟩ ∧
          after.height = chain.tree.height := by
  have inFront : parser.rest = parser.current :: parser.advanced.rest :=
    parser.rest_eq_current_cons (by simp [opens])
  rw [groupingWith_run]
  constructor
  · intro ran
    cases innerRead : (expressionWith operand).run parser.advanced with
    | error error between =>
        simp [innerRead] at ran
    | ok inner between =>
        simp only [innerRead] at ran
        by_cases closes : between.current.kind = .closeParen
        · rw [if_pos closes, EStateM.Result.ok.injEq] at ran
          rcases ran with ⟨rfl, rfl⟩
          rcases (expressionWith_run_eq_ok_iff reads _ _ _).1 innerRead with
            ⟨chain, within, passed, _, rfl, recorded⟩
          have behind : between.rest = between.current :: between.advanced.rest :=
            between.rest_eq_current_cons (by simp [closes])
          refine ⟨chain, between.current, within, closes, ?_, rfl, recorded⟩
          rw [← behind, ← passed]
          exact inFront
        · simp [if_neg closes] at ran
  · rintro ⟨chain, closing, within, closes, passed, rfl, recorded⟩
    have innerPassed : parser.advanced.rest = chain.tokens ++ closing :: after.rest := by
      rw [inFront] at passed
      exact (List.cons.inj passed).2
    have stops : closing.kind.binaryOp? = none := by
      simp [closes, TokenKind.binaryOp?]
    have innerRead :
        (expressionWith operand).run parser.advanced =
          .ok chain.tree ⟨closing :: after.rest, chain.tree.height⟩ :=
      (expressionWith_run_eq_ok_iff reads _ _ _).2
        ⟨chain, within, innerPassed, stops, rfl, rfl⟩
    have inside : closing.kind ≠ .endOfLine := by
      simp [closes]
    simp only [innerRead, Parser.current_cons, if_pos closes,
      Parser.advanced_cons _ _ _ inside, ← recorded]

/-- Where no operator stands in front, the reader of primaries accepts the operands. -/
theorem primaryWith_run_eq_ok_iff
    (reads : Reads operand (Operand.Within levels))
    (parser after : Parser)
    (expr : Expr)
    (plain : parser.current.kind.unaryOp? = none) :
    (primaryWith (expressionWith operand)).run parser = .ok expr after ↔
      ∃ primary : Operand,
        primary.Within (levels + 1) ∧ parser.rest = primary.tokens ++ after.rest ∧
          expr = primary.tree ∧ after.height = primary.tree.height := by
  rw [primaryWith_run]
  constructor
  · intro ran
    by_cases opens : parser.current.kind = .openParen
    · rw [if_pos opens, groupingWith_run_eq_ok_iff reads _ _ _ opens] at ran
      rcases ran with ⟨chain, closing, within, closes, passed, rfl, recorded⟩
      refine ⟨.group parser.current chain closing,
        (Operand.within_group_iff opens closes within.derived).2 within, ?_, rfl, ?_⟩
      · rw [passed]
        simp [Operand.group]
      · rw [recorded, Operand.group, Expr.height_withSpan]
    · rw [if_neg opens] at ran
      cases read : leaf parser.current with
      | error fault =>
          simp [read] at ran
      | ok tree =>
          simp only [read, EStateM.Result.ok.injEq] at ran
          rcases ran with ⟨rfl, rfl⟩
          have isLeaf := (leaf_eq_ok_iff _ _).1 read
          refine ⟨.leaf parser.current tree, Operand.within_leaf isLeaf levels, ?_, rfl,
            isLeaf.height_eq_one.symm⟩
          exact parser.rest_eq_current_cons isLeaf.kind_ne_endOfLine
  · rintro ⟨primary, within, passed, rfl, recorded⟩
    rcases parser with ⟨tokens, height⟩
    have passed : tokens = primary.tokens ++ after.rest := passed
    subst passed
    cases within.derived with
    | @leaf token tree isLeaf =>
        have tall : after.height = 1 := recorded.trans isLeaf.height_eq_one
        have read : leaf token = .ok tree := (leaf_eq_ok_iff _ _).2 isLeaf
        simp only [Operand.leaf, List.singleton_append, Parser.current_cons,
          if_neg isLeaf.kind_ne_openParen, read,
          Parser.advanced_cons _ _ _ isLeaf.kind_ne_endOfLine, ← tall]
    | @prefixed operator op operand written derived =>
        have same : operator.kind.unaryOp? = none := plain
        rw [written] at same
        cases same
    | @group opening closing first joints opens firstDerived operators operands closes =>
        have derived : Chain.Derived ⟨first, joints⟩ := ⟨firstDerived, operators, operands⟩
        have chainWithin := (Operand.within_group_iff opens closes derived).1 within
        have isOpen :
            (Parser.current ⟨(Operand.group opening ⟨first, joints⟩ closing).tokens ++ after.rest,
              height⟩).kind = .openParen := opens
        rw [if_pos isOpen, groupingWith_run_eq_ok_iff reads _ _ _ isOpen]
        refine ⟨⟨first, joints⟩, closing, chainWithin, closes, ?_, rfl, ?_⟩
        · simp [Operand.group]
        · rw [recorded, Operand.group, Expr.height_withSpan]

/-- Where an operator stands in front, one level less is left for its operand. -/
theorem unaryWithin_succ_run_eq_ok_iff
    (reads : Reads (unaryWithin levels) (Operand.Within levels))
    (parser after : Parser)
    (expr : Expr)
    {op : UnaryOp}
    (written : parser.current.kind.unaryOp? = some op) :
    (unaryWithin (levels + 1)).run parser = .ok expr after ↔
      ∃ unary : Operand,
        unary.Within (levels + 1) ∧ parser.rest = unary.tokens ++ after.rest ∧
          expr = unary.tree ∧ after.height = unary.tree.height := by
  have inFront : parser.rest = parser.current :: parser.advanced.rest :=
    parser.rest_eq_current_cons (TokenKind.ne_endOfLine_of_unaryOp? written)
  rw [unaryWithin_succ_run, written]
  constructor
  · intro ran
    cases operandRead : (unaryWithin levels).run parser.advanced with
    | error error between =>
        simp [operandRead] at ran
    | ok tree between =>
        simp only [operandRead] at ran
        by_cases tall : nestingLimit < between.height + 1
        · rw [if_pos tall] at ran
          cases ran
        · rw [if_neg tall, EStateM.Result.ok.injEq] at ran
          rcases ran with ⟨rfl, rfl⟩
          rcases (reads _ _ _).1 operandRead with
            ⟨operand, within, passed, rfl, recorded⟩
          refine ⟨.prefixed parser.current op operand,
            (Operand.within_prefixed_iff written within.derived).2
              ⟨within, recorded ▸ Nat.not_lt.1 tall⟩, ?_, rfl, ?_⟩
          · rw [inFront, passed]
            rfl
          · show between.height + 1 = operand.tree.height + 1
            rw [recorded]
  · rintro ⟨unary, within, passed, rfl, recorded⟩
    rcases parser with ⟨tokens, height⟩
    have passed : tokens = unary.tokens ++ after.rest := passed
    subst passed
    cases within.derived with
    | @leaf token tree isLeaf =>
        have same : token.kind.unaryOp? = some op := written
        rw [isLeaf.unaryOp?_eq_none] at same
        cases same
    | @group opening closing first joints opens _ _ _ _ =>
        have same : opening.kind.unaryOp? = some op := written
        rw [opens] at same
        cases same
    | @prefixed operator innerOp inner innerWritten derived =>
        have same : operator.kind.unaryOp? = some op := written
        rw [innerWritten, Option.some.injEq] at same
        subst same
        rcases (Operand.within_prefixed_iff innerWritten derived).1 within with
          ⟨innerWithin, notTall⟩
        have innerRead :
            (unaryWithin levels).run ⟨inner.tokens ++ after.rest, height⟩ =
              .ok inner.tree ⟨after.rest, inner.tree.height⟩ :=
          (reads _ _ _).2 ⟨inner, innerWithin, rfl, rfl, rfl⟩
        have taller : after.height = inner.tree.height + 1 := recorded
        have inside := TokenKind.ne_endOfLine_of_unaryOp? innerWritten
        simp only [Operand.prefixed, List.cons_append, Parser.advanced_cons _ _ _ inside,
          innerRead, if_neg (Nat.not_lt.2 notTall), Parser.current_cons]
        rw [← taller]

/-- The reader of operands accepts the derived operands within the limits. -/
theorem unaryWithin_reads
    (levels : Nat) :
    Reads (unaryWithin levels) (Operand.Within levels) := by
  -- The operands inside are read with one level less, whatever opened the level.
  induction levels with
  | zero =>
      intro parser expr after
      rw [unaryWithin_zero_run]
      constructor
      · intro ran
        cases ran
      · rintro ⟨operand, within, _⟩
        exact absurd within.levels_pos (Nat.lt_irrefl 0)
  | succ levels lowerReads =>
      intro parser expr after
      cases written : parser.current.kind.unaryOp? with
      | none =>
          rw [unaryWithin_succ_run, written]
          exact primaryWith_run_eq_ok_iff lowerReads parser after expr written
      | some op =>
          exact unaryWithin_succ_run_eq_ok_iff lowerReads parser after expr written

/-- The reader succeeds and passes exactly the next `count` tokens. -/
def Passes (reading : Reading Expr) (parser : Parser) (count : Nat) : Prop :=
  ∃ expr after,
    reading.run parser = .ok expr after ∧
      count ≤ parser.rest.length ∧ after.rest = parser.rest.drop count

/--
A unary reading passes exactly the next `count` tokens if and only if these tokens are
derived by the grammar, the tree of the derivation has at most 256 levels, and each of
the tokens is enclosed by at most 255 operators and parentheses.  No two numbers of
tokens are passed.
-/
theorem unary_passes_iff_derived
    (parser : Parser) :
    (∀ count,
      Passes unary parser count ↔
        ∃ operand : Operand,
          operand.Derived ∧
            count ≤ parser.rest.length ∧ operand.tokens = parser.rest.take count ∧
            operand.tree.height ≤ 256 ∧
            ∀ enclosing ∈ operand.enclosures, enclosing ≤ 255) ∧
    ∀ count other,
      Passes unary parser count → Passes unary parser other → count = other := by
  refine ⟨fun count => ⟨?_, ?_⟩, ?_⟩
  · rintro ⟨expr, after, ran, inLine, behind⟩
    rcases (unaryWithin_reads nestingLimit _ _ _).1 ran with
      ⟨operand, within, passed, _, _⟩
    refine ⟨operand, within.derived, inLine, ?_, within.short, ?_⟩
    · -- Both ways to split the tokens of the parser end with the same rest.
      rw [← List.take_append_drop count parser.rest, ← behind] at passed
      exact (List.append_cancel_right passed).symm
    · intro enclosing member
      exact Nat.le_of_lt_succ (within.shallow enclosing member)
  · rintro ⟨operand, derived, inLine, tokens, short, shallow⟩
    refine ⟨operand.tree, ⟨parser.rest.drop count, operand.tree.height⟩, ?_, inLine, rfl⟩
    refine (unaryWithin_reads nestingLimit _ _ _).2 ⟨operand, ⟨derived, short, ?_⟩, ?_, rfl, rfl⟩
    · intro enclosing member
      exact Nat.lt_succ_of_le (shallow enclosing member)
    · rw [tokens, List.take_append_drop]
  · rintro count other ⟨_, after, ran, inLine, behind⟩
      ⟨_, otherAfter, otherRan, otherInLine, otherBehind⟩
    rw [ran, EStateM.Result.ok.injEq] at otherRan
    have lengths := congrArg List.length (behind.symm.trans (otherRan.2 ▸ otherBehind))
    rw [List.length_drop, List.length_drop] at lengths
    omega

end Reading

end AsmShell
