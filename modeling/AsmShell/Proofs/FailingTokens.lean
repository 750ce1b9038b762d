import AsmShell.Proofs.FirstFailure
import AsmShell.Proofs.OperatorFaults
import AsmShell.Proofs.SourceSpans
import AsmShell.Proofs.TokenOrder

/-!
# Where an argument fails

Every node of an argument other than a literal has a token of its own in the line: the
name of a variable, or an operator.  A fault of an operator between two operands is
reported at this token.  A variable and an operator in front of its operand are
reported with the span of their node, which begins at their token unless parentheses
stand directly around the node: these widen the span, so the fault is reported at the
outermost of them.
-/

namespace AsmShell

/-! ## The token of a node -/

/-- The grammar derives the expression from the tokens. -/
def Writes (tokens : List Token) (expr : Expr) : Prop :=
  ∃ chain : Chain, chain.Derived ∧ chain.tokens = tokens ∧ chain.tree = expr

namespace Expr

/-- The tokens write the node, `own` is its token, and `opens` are the opening parentheses that
stand directly around it, the outermost first. -/
inductive Marked : (opens : List Token) → (own : Token) → (tokens : List Token) → Expr → Prop where
  | reference {own : Token} :
      own.kind = .reference →
      Marked [] own [own] (.reference own.text own.span)
  | unary {own : Token} {op : UnaryOp} {tokens : List Token} {operand : Expr} :
      own.kind.unaryOp? = some op →
      Writes tokens operand →
      Marked [] own (own :: tokens) (.unary op operand ⟨own.column, operand.span.last⟩)
  | binary {own : Token} {op : BinaryOp} {leftTokens rightTokens : List Token}
      {left right : Expr} :
      own.kind.binaryOp? = some op →
      Writes leftTokens left →
      Writes rightTokens right →
      Marked [] own (leftTokens ++ own :: rightTokens)
        (.binary op left right own.span (left.span.through right.span))
  | group {opening closing own : Token} {opens tokens : List Token} {node : Expr} :
      opening.kind = .openParen →
      closing.kind = .closeParen →
      Marked opens own tokens node →
      Marked (opening :: opens) own (opening :: (tokens ++ [closing]))
        (node.withSpan ⟨opening.column, closing.span.last⟩)

def IsLiteral : Expr → Prop
  | .literal _ _ => True
  | _ => False

theorem isLiteral_withSpan
    (span : Span)
    (expr : Expr) :
    (expr.withSpan span).IsLiteral ↔ expr.IsLiteral := by
  cases expr <;> exact Iff.rfl

end Expr

/-- The root of a chain is its last operator of least precedence, or the root of its only
operand. -/
theorem Chain.Derived.exists_marked
    {chain : Chain}
    (derived : chain.Derived)
    (firstMarked :
      ¬ chain.first.tree.IsLiteral →
        ∃ opens own, chain.first.tree.Marked opens own chain.first.tokens)
    (notLiteral : ¬ chain.tree.IsLiteral) :
    ∃ opens own, chain.tree.Marked opens own chain.tokens := by
  induction chain using chain_induction with
  | single first =>
      rw [Chain.tree_single] at notLiteral ⊢
      rw [Chain.tokens_single]
      exact firstMarked notLiteral
  | joined first before joint after splits _ _ =>
      rcases derived with ⟨firstDerived, operators, operands⟩
      simp only [List.forall_mem_append, List.forall_mem_cons] at operators operands
      refine ⟨[], joint.operator, ?_⟩
      rw [splits.chain_tree_eq, Chain.tokens_append]
      exact .binary operators.2.1
        ⟨⟨first, before⟩, ⟨firstDerived, operators.1, operands.1⟩, rfl, rfl⟩
        ⟨⟨joint.operand, after⟩, ⟨operands.2.1, operators.2.2, operands.2.2⟩, rfl, rfl⟩

theorem Operand.Derived.exists_marked
    {operand : Operand}
    (derived : operand.Derived)
    (notLiteral : ¬ operand.tree.IsLiteral) :
    ∃ opens own, operand.tree.Marked opens own operand.tokens := by
  induction derived with
  | @leaf token tree leaf =>
      cases leaf with
      | reference isReference => exact ⟨[], token, .reference isReference⟩
      | _ => exact absurd trivial notLiteral
  | @prefixed operator op operand written derived _ =>
      refine ⟨[], operator, .unary written ⟨⟨operand, []⟩, ?_, ?_, ?_⟩⟩
      · exact ⟨derived, by simp, by simp⟩
      · exact Chain.tokens_single operand
      · exact Chain.tree_single operand
  | @group opening closing first joints opens firstDerived operators operands closes
      firstHypothesis _ =>
      have chainDerived : Chain.Derived ⟨first, joints⟩ := ⟨firstDerived, operators, operands⟩
      rw [Operand.group, Expr.isLiteral_withSpan] at notLiteral
      rcases chainDerived.exists_marked firstHypothesis notLiteral with
        ⟨innerOpens, own, marked⟩
      exact ⟨opening :: innerOpens, own, .group opens closes marked⟩

/-! ## Spans and tokens of nodes -/

namespace Expr

variable
    {opens tokens : List Token}
    {own : Token}
    {node : Expr}

/-- What a node says is said by its own token.  The span of a variable or of an operator in front
of its operand begins at `first`, and an operator between two operands stands at its token. -/
def OwnedBy (first own : Token) : Expr → Prop
  | .literal _ _ => False
  | .reference name span =>
      own.kind = .reference ∧ own.text = name ∧ span.first = first.column
  | .unary op _ span => own.kind.unaryOp? = some op ∧ span.first = first.column
  | .binary op _ _ opSpan _ => own.kind.binaryOp? = some op ∧ opSpan = own.span

theorem Marked.ownedBy
    (marked : node.Marked opens own tokens) :
    node.OwnedBy (opens.headD own) own := by
  induction marked with
  | reference isReference => exact ⟨isReference, rfl, rfl⟩
  | unary written _ => exact ⟨written, rfl⟩
  | binary written _ _ => exact ⟨written, rfl⟩
  | @group opening closing own opens tokens node _ _ _ inner =>
      cases node with
      | literal value span => exact inner
      | reference name span => exact ⟨inner.1, inner.2.1, rfl⟩
      | unary op operand span => exact ⟨inner.1, rfl⟩
      | binary op left right opSpan span => exact inner

/-- The token of a node stands behind the parentheses that are directly around the node. -/
theorem Marked.exists_tokens_eq
    (marked : node.Marked opens own tokens) :
    ∃ between behind, tokens = opens ++ (between ++ own :: behind) := by
  induction marked with
  | reference _ => exact ⟨[], [], rfl⟩
  | unary _ _ => exact ⟨[], _, rfl⟩
  | binary _ _ _ => exact ⟨_, _, rfl⟩
  | @group opening closing own opens tokens node _ _ _ inner =>
      rcases inner with ⟨between, behind, rfl⟩
      exact ⟨between, behind ++ [closing], by simp⟩

theorem mem_nodes_of_mem_postorder
    {expr : Expr}
    (member : node ∈ expr.postorder) :
    node ∈ expr.nodes := by
  induction expr with
  | literal value span => exact member
  | reference name span => exact member
  | unary op operand span operandHypothesis =>
      rcases List.mem_append.1 member with inOperand | isRoot
      · exact List.mem_cons_of_mem _ (operandHypothesis inOperand)
      · rw [List.mem_singleton.1 isRoot]
        exact List.mem_cons_self
  | binary op left right opSpan span leftHypothesis rightHypothesis =>
      simp only [postorder, List.mem_append, List.mem_singleton] at member
      rcases member with inLeft | inRight | rfl
      · exact List.mem_cons_of_mem _ (List.mem_append_left _ (leftHypothesis inLeft))
      · exact List.mem_cons_of_mem _ (List.mem_append_right _ (rightHypothesis inRight))
      · exact List.mem_cons_self

end Expr

/-- Every node of an argument, other than a literal, is written in the line around a token of its
own. -/
theorem exists_marked_of_mem_nodes
    {line : String}
    {command : Command}
    (parsed : (parseLine line).command = some command)
    {argument node : Expr}
    (member : argument ∈ command.arguments)
    (inside : node ∈ argument.nodes)
    (notLiteral : ¬ node.IsLiteral) :
    ∃ opens own tokens, node.Marked opens own tokens ∧ tokens <:+: tokenize line := by
  rcases Parser.exists_operand_of_mem_arguments parsed argument member with
    ⟨operand, operandWithin, rfl, operandInside⟩
  rw [Parser.ofLine_eq] at operandInside
  rcases operandWithin.derived.readFrom_nodes operandWithin node inside with
    ⟨chain, within, rfl, chainInside⟩
  rcases within.derived.exists_marked within.derived.first.exists_marked notLiteral with
    ⟨opens, own, marked⟩
  exact ⟨opens, own, chain.tokens, marked, chainInside.trans operandInside⟩

/-! ## Faults and tokens -/

namespace Fault

/-- Whether the fault is one of an operator between two operands. -/
def isInfix : Fault → Bool
  | .binaryMismatch _ _ _ | .divisionByZero | .shiftOutOfRange _ => true
  | .unresolved _ | .nonNumeric _ | .unaryMismatch _ _ => false

/-- The token is of the sort that has the fault: the variable it names, or an operator that can
fail with it. -/
def Concerns (fault : Fault) (token : Token) : Prop :=
  match fault with
  | .unresolved name | .nonNumeric name => token.kind = .reference ∧ token.text = name
  | .unaryMismatch op _ => token.kind.unaryOp? = some op
  | .binaryMismatch op _ _ => token.kind.binaryOp? = some op
  | .divisionByZero =>
      token.kind.binaryOp? = some (.arithmetic .divide) ∨
        token.kind.binaryOp? = some (.arithmetic .remainder)
  | .shiftOutOfRange _ =>
      token.kind.binaryOp? = some (.bitwise .shiftLeft) ∨
        token.kind.binaryOp? = some (.bitwise .shiftRight)

end Fault

theorem BinaryOp.Fails.isInfix
    {op : BinaryOp}
    {fault : Fault}
    (fails : op.Fails fault) :
    fault.isInfix = true := by
  cases fails with
  | mismatch => rfl
  | onNumbers spoiled => cases spoiled <;> rfl

theorem BinaryOp.Fails.concerns
    {op : BinaryOp}
    {fault : Fault}
    (fails : op.Fails fault)
    {token : Token}
    (written : token.kind.binaryOp? = some op) :
    fault.Concerns token := by
  cases fails with
  | mismatch => exact written
  | onNumbers spoiled =>
      cases spoiled with
      | divide => exact Or.inl written
      | remainder => exact Or.inr written
      | shiftLeft => exact Or.inl written
      | shiftRight => exact Or.inr written

namespace Expr

variable
    {lookup : String → Option Value}
    {node : Expr}
    {error : EvalError}

theorem FailsItself.not_isLiteral
    (fails : node.FailsItself lookup error) :
    ¬ node.IsLiteral := by
  cases fails <;> exact id

/-- The fault of a node concerns the token of the node.  It is reported at this token if it is one
of an operator between two operands, and otherwise where the span of the node begins. -/
theorem FailsItself.concerns
    (fails : node.FailsItself lookup error)
    {first own : Token}
    (owned : node.OwnedBy first own) :
    error.fault.Concerns own ∧
      error.column = if error.fault.isInfix then own.column else first.column := by
  cases fails with
  | unresolved _ => exact ⟨⟨owned.1, owned.2.1⟩, owned.2.2⟩
  | nonNumeric _ _ => exact ⟨⟨owned.1, owned.2.1⟩, owned.2.2⟩
  | unary _ failed =>
      rw [UnaryOp.fault_of_apply failed]
      exact ⟨owned.1, owned.2⟩
  | binary _ _ failed =>
      have fails := BinaryOp.fails_of_apply failed
      refine ⟨fails.concerns owned.1, ?_⟩
      rw [if_pos fails.isInfix, EvalError.column, owned.2]
      rfl

/-- Evaluation fails with the error of the first node that fails by itself. -/
theorem exists_failsItself_of_eval
    {expr : Expr}
    (failed : expr.eval lookup = .error error) :
    ∃ earlier node later,
      expr.postorder = earlier ++ node :: later ∧
        node.FailsItself lookup error ∧
        ∀ other ∈ earlier, ∀ otherError, ¬ other.FailsItself lookup otherError := by
  rw [← error?_eq_some_iff, ← findSome?_ownError?_postorder, List.findSome?_eq_some_iff] at failed
  simp only [ownError?_eq_some_iff, Option.eq_none_iff_forall_ne_some, ne_eq] at failed
  exact failed

end Expr

/-! ## Arguments of a line -/

/-- Of tokens in order, the first stands at the column of another one only if it is that one. -/
theorem InOrder.column_headD_eq_iff
    {opens between behind : List Token}
    {own : Token}
    (inOrder : InOrder (opens ++ (between ++ own :: behind))) :
    (opens.headD own).column = own.column ↔ opens = [] := by
  cases opens with
  | nil => simp
  | cons opening others =>
      have before : opening.EndsBefore own := by
        apply List.rel_of_pairwise_cons inOrder.ordered
        simp
      have covers := inOrder.covering opening List.mem_cons_self
      have strictly : opening.span.last < own.column := before
      constructor
      · intro same
        have same : opening.column = own.column := same
        omega
      · intro impossible
        cases impossible

/--
The failure of an argument is that of its first node that fails by itself.  The token of
this node is the variable or the operator at fault, and the failure is reported at its
column, unless the node is a variable or an operator in front of its operand and
parentheses stand directly around it: then it is reported at the outermost of them, and
never at the token.
-/
theorem failures_point_at_token_or_parenthesis
    (line : String)
    (command : Command)
    (parsed : (parseLine line).command = some command)
    (argument : Expr)
    (member : argument ∈ command.arguments)
    (lookup : String → Option Value)
    (error : EvalError)
    (failed : argument.eval lookup = .error error) :
    ∃ (earlier later : List Expr) (node : Expr)
        (before tokens behind opens : List Token) (own : Token),
      argument.postorder = earlier ++ node :: later ∧
        node.FailsItself lookup error ∧
        (∀ other ∈ earlier, ∀ otherError, ¬ other.FailsItself lookup otherError) ∧
        tokenize line = before ++ tokens ++ behind ∧
        node.Marked opens own tokens ∧
        error.fault.Concerns own ∧
        error.column = (if error.fault.isInfix then own.column else (opens.headD own).column) ∧
        (error.column = own.column ↔ error.fault.isInfix = true ∨ opens = []) := by
  rcases Expr.exists_failsItself_of_eval failed with ⟨earlier, node, later, split, fails, first⟩
  have inside : node ∈ argument.nodes := by
    apply Expr.mem_nodes_of_mem_postorder
    simp [split]
  rcases exists_marked_of_mem_nodes parsed member inside fails.not_isLiteral with
    ⟨opens, own, tokens, marked, before, behind, scanned⟩
  rcases fails.concerns marked.ownedBy with ⟨concerns, column⟩
  refine ⟨earlier, later, node, before, tokens, behind, opens, own, split, fails, first,
    scanned.symm, marked, concerns, column, ?_⟩
  rcases marked.exists_tokens_eq with ⟨between, rest, rfl⟩
  have inOrder : InOrder (opens ++ (between ++ own :: rest)) := by
    apply (inOrder_tokenize line).of_sublist
    rw [← scanned]
    exact ((List.sublist_append_right _ _).trans (List.sublist_append_left _ _))
  rw [column]
  cases error.fault.isInfix with
  | true => simp
  | false => simpa using inOrder.column_headD_eq_iff

/-- A division in two pairs of parentheses is reported at its operator. -/
theorem failures_point_at_token_or_parenthesis_of_division :
    ∃ (command : Command) (argument : Expr) (error : EvalError) (own : Token),
      (parseLine "p ((1/0))").command = some command ∧ argument ∈ command.arguments ∧
        argument.eval (fun _ => none) = .error error ∧
        own ∈ tokenize "p ((1/0))" ∧ error.fault.Concerns own ∧
        error.column = own.column ∧ error.column = 5 := by
  let argument : Expr :=
    .binary (.arithmetic .divide) (.literal (.integer 1) ⟨4, 4⟩) (.literal (.integer 0) ⟨6, 6⟩)
      ⟨5, 5⟩ ⟨2, 8⟩
  let error : EvalError := ⟨.divisionByZero, ⟨5, 5⟩⟩
  rcases failures_point_at_token_or_parenthesis "p ((1/0))" ⟨"p", ⟨0, 0⟩, [argument]⟩ rfl argument
      List.mem_cons_self (fun _ => none) error rfl with
    ⟨_, _, _, before, tokens, behind, _, own, _, _, _, scanned, marked, concerns, column, _⟩
  rcases marked.exists_tokens_eq with ⟨between, rest, rfl⟩
  exact ⟨_, argument, error, own, rfl, List.mem_cons_self, rfl, by simp [scanned], concerns,
    column, rfl⟩

/-- A sign in parentheses that cannot be applied to a text is reported at the parenthesis and not
at the sign. -/
theorem parenthesized_sign_reported_at_parenthesis :
    ∃ (command : Command) (argument : Expr) (error : EvalError),
      (parseLine "print (-\"a\")").command = some command ∧ argument ∈ command.arguments ∧
        argument.eval (fun _ => none) = .error error ∧
        error.fault = .unaryMismatch .negate .string ∧ error.column = 6 ∧
        ∀ own ∈ tokenize "print (-\"a\")", own.kind.unaryOp? = some .negate → own.column = 7 := by
  let argument : Expr := .unary .negate (.literal (.string "a") ⟨8, 10⟩) ⟨6, 11⟩
  refine ⟨⟨"print", ⟨0, 4⟩, [argument]⟩, argument, ⟨.unaryMismatch .negate .string, ⟨6, 11⟩⟩,
    rfl, List.mem_cons_self, rfl, rfl, rfl, ?_⟩
  decide +kernel

end AsmShell
