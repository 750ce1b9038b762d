import AsmShell.Proofs.Arguments
import AsmShell.Proofs.Slices
import AsmShell.Proofs.WholeLines

/-!
# Every node covers its source

Each node of an argument stands for a chain of operands, and its span reaches from
the first token of this chain to the last.  So the characters that the span covers
are split into the tokens of the chain again, and an expression reading of them
gives back the node, with its columns counted from the beginning of the piece.
-/

namespace AsmShell

/-- The expression and all expressions inside it. -/
def Expr.nodes : Expr → List Expr
  | .literal value span => [.literal value span]
  | .reference name span => [.reference name span]
  | .unary op operand span => .unary op operand span :: operand.nodes
  | .binary op left right opSpan span =>
      .binary op left right opSpan span :: (left.nodes ++ right.nodes)

/-- Widening its span changes the root of a tree only. -/
theorem Expr.mem_nodes_withSpan
    {span : Span}
    {node expr : Expr}
    (member : node ∈ (expr.withSpan span).nodes) :
    node = expr.withSpan span ∨ node ∈ expr.nodes := by
  cases expr with
  | literal value oldSpan =>
      exact Or.inl (List.mem_singleton.1 member)
  | reference name oldSpan =>
      exact Or.inl (List.mem_singleton.1 member)
  | unary op operand oldSpan =>
      rcases List.mem_cons.1 member with isRoot | inside
      · exact Or.inl isRoot
      · exact Or.inr (List.mem_cons_of_mem _ inside)
  | binary op left right opSpan oldSpan =>
      rcases List.mem_cons.1 member with isRoot | inside
      · exact Or.inl isRoot
      · exact Or.inr (List.mem_cons_of_mem _ inside)

/-! ## The span of a chain -/

/-- The span reaches from the first of the tokens to the last. -/
def Span.Covers (span : Span) (tokens : List Token) : Prop :=
  ∃ first last,
    tokens.head? = some first ∧ tokens.getLast? = some last ∧
      span = ⟨first.column, last.span.last⟩

/-- The span through both sides of an operator covers the tokens of both and the operator. -/
theorem Span.Covers.join
    {frontSpan backSpan : Span}
    {front back : List Token}
    (frontCovers : frontSpan.Covers front)
    (backCovers : backSpan.Covers back)
    (middle : Token) :
    (frontSpan.through backSpan).Covers (front ++ middle :: back) := by
  rcases frontCovers with ⟨first, _, isFirst, _, rfl⟩
  rcases backCovers with ⟨_, last, _, isLast, rfl⟩
  refine ⟨first, last, ?_, ?_, rfl⟩
  · rw [List.head?_append, isFirst]
    rfl
  · rw [List.getLast?_append, List.getLast?_cons, isLast]
    rfl

theorem Chain.covers_of_operands
    (chain : Chain)
    (firstCovers : chain.first.tree.span.Covers chain.first.tokens)
    (operandsCover :
      ∀ joint ∈ chain.joints, joint.operand.tree.span.Covers joint.operand.tokens) :
    chain.tree.span.Covers chain.tokens := by
  induction chain using chain_induction with
  | single first =>
      simpa [Chain.tree, Chain.tokens] using firstCovers
  | joined first before joint after splits beforeHypothesis afterHypothesis =>
      simp only [List.forall_mem_append, List.forall_mem_cons] at operandsCover
      rcases operandsCover with ⟨beforeCover, jointCovers, afterCover⟩
      rw [splits.chain_tree_eq, Chain.tokens_append]
      exact (beforeHypothesis firstCovers beforeCover).join
        (afterHypothesis jointCovers afterCover) joint.operator

/-- The span of a derived operand reaches from its first token to its last one. -/
theorem Operand.Derived.covers
    {operand : Operand}
    (derived : operand.Derived) :
    operand.tree.span.Covers operand.tokens := by
  induction derived with
  | @leaf token tree leaf =>
      refine ⟨token, token, rfl, rfl, ?_⟩
      cases leaf <;> rfl
  | @prefixed operator op operand written _ operandHypothesis =>
      rcases operandHypothesis with ⟨_, last, _, isLast, covered⟩
      refine ⟨operator, last, rfl, ?_, ?_⟩
      · show (operator :: operand.tokens).getLast? = some last
        rw [List.getLast?_cons, isLast]
        rfl
      · show (⟨operator.column, operand.tree.span.last⟩ : Span) = _
        rw [covered]
  | @group opening closing first joints opens _ operators _ closes firstHypothesis
      operandsHypothesis =>
      refine ⟨opening, closing, rfl, ?_, ?_⟩
      · show (opening :: (_ ++ [closing])).getLast? = some closing
        rw [← List.cons_append, List.getLast?_concat]
      · show (Expr.withSpan _ _).span = _
        cases Chain.tree ⟨first, joints⟩ <;> rfl

/-- So does that of a derived chain, whatever grouping its operators lead to. -/
theorem Chain.Derived.covers
    {chain : Chain}
    (derived : chain.Derived) :
    chain.tree.span.Covers chain.tokens :=
  Chain.covers_of_operands chain derived.first.covers fun joint member =>
    (derived.operands joint member).covers

/-! ## The chain behind a node -/

/-- The node is the tree of a chain whose tokens stand among these one after the other. -/
def ReadFrom (tokens : List Token) (node : Expr) : Prop :=
  ∃ chain : Chain,
    chain.Within nestingLimit ∧ node = chain.tree ∧ chain.tokens <:+: tokens

/-- A node stands in every list of tokens that holds its own. -/
theorem ReadFrom.widen
    {inner outer : List Token}
    {node : Expr}
    (readFrom : ReadFrom inner node)
    (isInfix : inner <:+: outer) :
    ReadFrom outer node := by
  rcases readFrom with ⟨chain, within, tree, chainInfix⟩
  exact ⟨chain, within, tree, chainInfix.trans isInfix⟩

/-- The tokens of an operand within the limits read back as its tree. -/
theorem Operand.Within.readFrom_tree
    {operand : Operand}
    (within : operand.Within nestingLimit) :
    ReadFrom operand.tokens operand.tree := by
  refine ⟨⟨operand, []⟩, within.chain, (Chain.tree_single operand).symm, ?_⟩
  have tokens := Chain.tokens_single operand
  exact tokens ▸ List.infix_refl _

/-- A chain is split into chains within the same limits. -/
theorem Chain.Within.split
    {levels : Nat}
    {first : Operand}
    {before after : List Joint}
    {joint : Joint}
    (within : Chain.Within levels ⟨first, before ++ joint :: after⟩)
    (splits : SplitsAt (before.map Joint.link) joint.link (after.map Joint.link)) :
    Chain.Within levels ⟨first, before⟩ ∧ Chain.Within levels ⟨joint.operand, after⟩ := by
  rcases (Chain.within_iff _ _).1 within with ⟨firstWithin, jointsWithin, short⟩
  simp only [List.forall_mem_append, List.forall_mem_cons] at jointsWithin
  rcases jointsWithin with ⟨beforeWithin, jointWithin, afterWithin⟩
  rw [splits.chain_tree_eq, Link.node, Expr.height] at short
  refine ⟨(Chain.within_iff _ _).2 ⟨firstWithin, beforeWithin, by omega⟩,
    (Chain.within_iff _ _).2 ⟨jointWithin.2, afterWithin, by omega⟩⟩

/-- A node of a chain belongs to an operand or joins a part of the chain, whose tokens stand
together. -/
theorem Chain.readFrom_nodes
    (chain : Chain)
    (within : chain.Within nestingLimit)
    (firstNodes : ∀ node ∈ chain.first.tree.nodes, ReadFrom chain.first.tokens node)
    (operandsNodes :
      ∀ joint ∈ chain.joints, ∀ node ∈ joint.operand.tree.nodes,
        ReadFrom joint.operand.tokens node) :
    ∀ node ∈ chain.tree.nodes, ReadFrom chain.tokens node := by
  induction chain using chain_induction with
  | single first =>
      simpa [Chain.tree, Chain.tokens] using firstNodes
  | joined first before joint after splits beforeHypothesis afterHypothesis =>
      -- A node of the tree is its root, or it is a node of one of the two shorter chains.
      rcases within.split splits with ⟨beforeWithin, afterWithin⟩
      simp only [List.forall_mem_append, List.forall_mem_cons] at operandsNodes
      rcases operandsNodes with ⟨beforeNodes, jointNodes, afterNodes⟩
      intro node member
      rw [splits.chain_tree_eq, Link.node, Expr.nodes] at member
      rcases List.mem_cons.1 member with isRoot | member
      · refine ⟨_, within, ?_, List.infix_refl _⟩
        rw [isRoot, splits.chain_tree_eq, Link.node]
      · rw [Chain.tokens_append]
        rcases List.mem_append.1 member with inLeft | inRight
        · exact (beforeHypothesis beforeWithin firstNodes beforeNodes node inLeft).widen
            (List.prefix_append _ _).isInfix
        · exact (afterHypothesis afterWithin jointNodes afterNodes node inRight).widen
            ((List.suffix_cons _ _).trans (List.suffix_append _ _)).isInfix

/-- Every node of an operand is read from a chain that stands in the operand. -/
theorem Operand.Derived.readFrom_nodes
    {operand : Operand}
    (derived : operand.Derived)
    (within : operand.Within nestingLimit) :
    ∀ node ∈ operand.tree.nodes, ReadFrom operand.tokens node := by
  induction derived with
  | @leaf token tree leaf =>
      intro node member
      have alone : node = tree := by
        cases leaf <;> exact List.mem_singleton.1 member
      rw [alone]
      exact within.readFrom_tree
  | @prefixed operator op operand written derived operandHypothesis =>
      have operandWithin : operand.Within nestingLimit :=
        ((Operand.within_prefixed_iff written derived).1 within).1.mono (Nat.le_succ _)
      intro node member
      rcases List.mem_cons.1 member with rfl | member
      · exact within.readFrom_tree
      · exact (operandHypothesis operandWithin node member).widen
          (List.suffix_cons operator operand.tokens).isInfix
  | @group opening closing first joints opens firstDerived operators derived closes
      firstHypothesis operandsHypothesis =>
      have chainWithin : Chain.Within nestingLimit ⟨first, joints⟩ :=
        ((Operand.within_group_iff opens closes ⟨firstDerived, operators, derived⟩).1
          within).mono (Nat.le_succ _)
      rcases (Chain.within_iff _ _).1 chainWithin with ⟨firstWithin, jointsWithin, _⟩
      intro node member
      rcases Expr.mem_nodes_withSpan member with rfl | inside
      · exact within.readFrom_tree
      · have readInside : ReadFrom (Chain.tokens ⟨first, joints⟩) node := by
          refine Chain.readFrom_nodes _ chainWithin (firstHypothesis firstWithin) ?_ node inside
          intro joint jointMember
          exact operandsHypothesis joint jointMember (jointsWithin joint jointMember).2
        exact readInside.widen ⟨[opening], [closing], by simp [Operand.group]⟩

/-! ## Reading the source of a node -/

/-- Columns that were moved to the right are moved back. -/
theorem Token.map_moveColumns_add_sub
    (columns : Nat)
    (tokens : List Token) :
    (tokens.map (Token.moveColumns (· + columns))).map (Token.moveColumns (· - columns)) =
      tokens := by
  have back (token : Token) :
      (token.moveColumns (· + columns)).moveColumns (· - columns) = token := by
    simp [Token.moveColumns, Span.moveColumns]
  rw [List.map_map]
  simp [Function.comp_def, back]

/--
The characters that the span of a node covers are read as an expression that ends where
they end.  It is the node with all its columns counted from the first of them, which
cuts off none.
-/
theorem node_span_covers_source
    (line : String)
    (command : Command)
    (parsed : (parseLine line).command = some command)
    (argument : Expr)
    (member : argument ∈ command.arguments)
    (node : Expr)
    (inside : node ∈ argument.nodes) :
    ∃ result after,
      Reading.expression.run (Parser.ofLine (node.span.slice line)) = .ok result after ∧
        after.current.kind = .endOfLine ∧
        result = node.moveColumns (· - node.span.first) ∧
        result.moveColumns (· + node.span.first) = node := by
  rcases Parser.exists_operand_of_mem_arguments parsed argument member with
    ⟨operand, operandWithin, rfl, operandInside⟩
  rcases operandWithin.derived.readFrom_nodes operandWithin node inside with
    ⟨chain, within, rfl, chainInside⟩
  rw [Parser.ofLine_eq] at operandInside
  rcases chainInside.trans operandInside with ⟨before, after, scanned⟩
  rcases within.derived.covers with ⟨first, last, isFirst, isLast, covered⟩
  rw [List.append_assoc] at scanned
  have sliceTokens :=
    tokenize_slice line before chain.tokens after first last scanned.symm isFirst isLast
      (within.derived.kind_ne_endOfLine last (List.mem_of_getLast? isLast))
  rw [covered]
  generalize Span.slice ⟨first.column, last.span.last⟩ line = slice at sliceTokens ⊢
  have moved := within.moveColumns (· - first.column)
  have sliceScanned :
      tokenize slice =
        (chain.moveColumns (· - first.column)).tokens ++
          [Token.endOfLine (last.span.last + 1 - first.column)] := by
    rw [← Token.map_moveColumns_add_sub first.column (tokenize slice), sliceTokens,
      List.map_append, Chain.tokens_moveColumns]
    rfl
  refine ⟨_, _, moved.expression_run_ofLine sliceScanned, rfl, chain.tree_moveColumns _, ?_⟩
  -- Moved back, the chain has the tokens it had in the line, and these decide the tree.
  rw [← Chain.tree_moveColumns]
  apply (moved.moveColumns _).tree_eq_of_tokens_eq within
  rw [sliceScanned, List.map_append, ← Chain.tokens_moveColumns] at sliceTokens
  exact (List.append_inj' sliceTokens rfl).1

/-- The product of two names is read from the whole line. -/
theorem node_span_covers_source_of_product :
    ∃ result after,
      Reading.expression.run (Parser.ofLine "b*c") = .ok result after ∧
        after.current.kind = .endOfLine ∧
        result =
          .binary (.arithmetic .multiply)
            (.literal (.identifier "b") ⟨0, 0⟩) (.literal (.identifier "c") ⟨2, 2⟩)
            ⟨1, 1⟩ ⟨0, 2⟩ := by
  let product : Expr :=
    .binary (.arithmetic .multiply)
      (.literal (.identifier "b") ⟨8, 8⟩) (.literal (.identifier "c") ⟨10, 10⟩) ⟨9, 9⟩ ⟨8, 10⟩
  let argument : Expr :=
    .unary .negate
      (.binary (.arithmetic .add) (.literal (.identifier "a") ⟨4, 4⟩) product ⟨6, 6⟩ ⟨3, 11⟩)
      ⟨2, 11⟩
  rcases node_span_covers_source "p -(a + b*c)" ⟨"p", ⟨0, 0⟩, [argument]⟩ rfl argument
      List.mem_cons_self product (by simp [argument, product, Expr.nodes]) with
    ⟨result, after, ran, ended, moved, _⟩
  exact ⟨result, after, ran, ended, moved⟩

end AsmShell
