import AsmShell.Parser.Expression
import AsmShell.Proofs.Grouping

/-!
# The grammar of arguments

```text
unary      := ("+" | "-" | "!" | "~") unary | primary
primary    := identifier | integer | float | string | reference
            | "(" expression ")"
expression := unary (operator unary)*
```

`Operand.Derived` holds of what the first two rules derive and `Chain.Derived`
of what the last one does.  The grammar knows no limits.  What a limit is checked
against is part of what is derived: beside its tokens an operand has its tree, and
for each of its tokens the number of operators in front of an operand and of
parentheses that are around the token.
-/

namespace AsmShell

/-- A token that is an operand by itself, with the tree it stands for. -/
inductive LeafToken : Token → Expr → Prop where
  | identifier {token : Token} :
      token.kind = .identifier →
      LeafToken token (.literal (.identifier token.text) token.span)
  | string {token : Token} :
      token.kind = .string →
      LeafToken token (.literal (.string token.text) token.span)
  | reference {token : Token} :
      token.kind = .reference →
      LeafToken token (.reference token.text token.span)
  | integer {token : Token} {number : Int64} :
      token.kind = .integer →
      Number.readInteger? token.text = some number →
      LeafToken token (.literal (.integer number) token.span)
  | float {token : Token} {number : Float} :
      token.kind = .float →
      Number.readFloat? token.text = some number →
      LeafToken token (.literal (.float number) token.span)

/-- An operand as it stands in a line. -/
structure Operand where
  tokens : List Token
  /-- For each token, how many operators in front of an operand and parentheses enclose it. -/
  enclosures : List Nat
  tree : Expr

/-- An operator between two operands, with the operand behind it. -/
structure Joint where
  operator : Token
  op : BinaryOp
  operand : Operand

namespace Joint

def tokens (joint : Joint) : List Token :=
  joint.operator :: joint.operand.tokens

def enclosures (joint : Joint) : List Nat :=
  0 :: joint.operand.enclosures

/-- What the joint adds to a tree. -/
def link (joint : Joint) : Link :=
  ⟨joint.op, joint.operator.span, joint.operand.tree⟩

end Joint

/-- An operand and the operators behind it with their operands. -/
structure Chain where
  first : Operand
  joints : List Joint

namespace Chain

def tokens (chain : Chain) : List Token :=
  chain.first.tokens ++ chain.joints.flatMap Joint.tokens

def enclosures (chain : Chain) : List Nat :=
  chain.first.enclosures ++ chain.joints.flatMap Joint.enclosures

/-- The tree of the chain, grouped by precedence. -/
def tree (chain : Chain) : Expr :=
  grouped chain.first.tree (chain.joints.map Joint.link)

end Chain

namespace Operand

/-- A token as an operand. -/
def leaf (token : Token) (tree : Expr) : Operand where
  tokens := [token]
  enclosures := [0]
  tree := tree

/-- An operand with an operator in front of it. -/
def prefixed (operator : Token) (op : UnaryOp) (operand : Operand) : Operand where
  tokens := operator :: operand.tokens
  enclosures := 0 :: operand.enclosures.map (· + 1)
  tree := .unary op operand.tree ⟨operator.column, operand.tree.span.last⟩

/-- A chain in parentheses, which add no node to the tree. -/
def group (opening : Token) (chain : Chain) (closing : Token) : Operand where
  tokens := opening :: (chain.tokens ++ [closing])
  enclosures := 0 :: (chain.enclosures.map (· + 1) ++ [0])
  tree := chain.tree.withSpan ⟨opening.column, closing.span.last⟩

/-- What the rules `unary` and `primary` derive. -/
inductive Derived : Operand → Prop where
  | leaf {token : Token} {tree : Expr} :
      LeafToken token tree →
      Derived (.leaf token tree)
  | prefixed {operator : Token} {op : UnaryOp} {operand : Operand} :
      operator.kind.unaryOp? = some op →
      Derived operand →
      Derived (.prefixed operator op operand)
  | group {opening closing : Token} {first : Operand} {joints : List Joint} :
      opening.kind = .openParen →
      Derived first →
      (∀ joint ∈ joints, joint.operator.kind.binaryOp? = some joint.op) →
      (∀ joint ∈ joints, Derived joint.operand) →
      closing.kind = .closeParen →
      Derived (.group opening ⟨first, joints⟩ closing)

end Operand

/-- What the rule `expression` derives. -/
structure Chain.Derived (chain : Chain) : Prop where
  first : chain.first.Derived
  operators : ∀ joint ∈ chain.joints, joint.operator.kind.binaryOp? = some joint.op
  operands : ∀ joint ∈ chain.joints, joint.operand.Derived

/-! ## How a chain groups -/

theorem Chain.tree_single
    (first : Operand) :
    Chain.tree ⟨first, []⟩ = first.tree :=
  grouped_nil first.tree

theorem Chain.tokens_single
    (first : Operand) :
    Chain.tokens ⟨first, []⟩ = first.tokens :=
  List.append_nil first.tokens

theorem Chain.enclosures_single
    (first : Operand) :
    Chain.enclosures ⟨first, []⟩ = first.enclosures :=
  List.append_nil first.enclosures

theorem Chain.tokens_pair
    (first : Operand)
    (joint : Joint) :
    Chain.tokens ⟨first, [joint]⟩ =
      first.tokens ++ joint.operator :: joint.operand.tokens := by
  simp [Chain.tokens, Joint.tokens]

theorem Chain.enclosures_pair
    (first : Operand)
    (joint : Joint) :
    Chain.enclosures ⟨first, [joint]⟩ =
      first.enclosures ++ 0 :: joint.operand.enclosures := by
  simp [Chain.enclosures, Joint.enclosures]

/-- The tree of a chain around its last operator of least precedence. -/
theorem SplitsAt.chain_tree_eq
    {before after : List Joint}
    {joint : Joint}
    (splits : SplitsAt (before.map Joint.link) joint.link (after.map Joint.link))
    (first : Operand) :
    Chain.tree ⟨first, before ++ joint :: after⟩ =
      joint.link.node (Chain.tree ⟨first, before⟩) (Chain.tree ⟨joint.operand, after⟩) := by
  rw [Chain.tree, List.map_append, List.map_cons, splits.grouped_eq]
  rfl

theorem Chain.tree_pair
    (first : Operand)
    (joint : Joint) :
    Chain.tree ⟨first, [joint]⟩ = joint.link.node first.tree joint.operand.tree := by
  have splits : SplitsAt (List.map Joint.link []) joint.link (List.map Joint.link []) :=
    ⟨by simp, by simp⟩
  have grouped := splits.chain_tree_eq first
  rw [Chain.tree_single, Chain.tree_single] at grouped
  exact grouped

/-- A chain can be cut at any of its operators. -/
theorem Chain.tokens_append
    (first : Operand)
    (before : List Joint)
    (joint : Joint)
    (after : List Joint) :
    Chain.tokens ⟨first, before ++ joint :: after⟩ =
      Chain.tokens ⟨first, before⟩ ++ joint.operator :: Chain.tokens ⟨joint.operand, after⟩ := by
  simp [Chain.tokens, Joint.tokens]

/-- Induction over the way a chain groups. -/
@[elab_as_elim]
theorem chain_induction
    {motive : Chain → Prop}
    (single : ∀ first, motive ⟨first, []⟩)
    (joined : ∀ first before joint after,
      SplitsAt (before.map Joint.link) joint.link (after.map Joint.link) →
      motive ⟨first, before⟩ →
      motive ⟨joint.operand, after⟩ →
      motive ⟨first, before ++ joint :: after⟩)
    (chain : Chain) :
    motive chain := by
  rcases chain with ⟨first, joints⟩
  induction count : joints.length using Nat.strongRecOn generalizing first joints with
  | ind count shorter =>
      cases joints with
      | nil =>
          exact single first
      | cons joint rest =>
          rcases exists_splitsAt joint.link (rest.map Joint.link) with
            ⟨before, loosest, after, parts, splits⟩
          rcases List.map_eq_append_iff.1 ((List.map_cons (f := Joint.link)).trans parts) with
            ⟨jointsBefore, others, jointParts, rfl, othersParts⟩
          rcases List.map_eq_cons_iff.1 othersParts with
            ⟨jointLoosest, jointsAfter, rfl, rfl, rfl⟩
          rw [jointParts, List.length_append, List.length_cons] at count
          rw [jointParts]
          apply joined first jointsBefore jointLoosest jointsAfter splits
          · exact shorter jointsBefore.length (by omega) first jointsBefore rfl
          · exact shorter jointsAfter.length (by omega) jointLoosest.operand jointsAfter rfl

/-! ## Small facts about derivations -/

/-- A leaf does not begin like an operand with an operator in front. -/
theorem LeafToken.unaryOp?_eq_none
    {token : Token}
    {tree : Expr}
    (leaf : LeafToken token tree) :
    token.kind.unaryOp? = none := by
  cases leaf <;> simp_all [TokenKind.unaryOp?]

theorem LeafToken.kind_ne_openParen
    {token : Token}
    {tree : Expr}
    (leaf : LeafToken token tree) :
    token.kind ≠ .openParen := by
  cases leaf <;> simp_all

/-- The end of the line is no leaf, so leaves are passed. -/
theorem LeafToken.kind_ne_endOfLine
    {token : Token}
    {tree : Expr}
    (leaf : LeafToken token tree) :
    token.kind ≠ .endOfLine := by
  cases leaf <;> simp_all

theorem LeafToken.height_eq_one
    {token : Token}
    {tree : Expr}
    (leaf : LeafToken token tree) :
    tree.height = 1 := by
  cases leaf <;> rfl

/-- The leaves of the grammar are the tokens that the parser reads as leaves. -/
theorem leaf_eq_ok_iff
    (token : Token)
    (tree : Expr) :
    Reading.leaf token = .ok tree ↔ LeafToken token tree := by
  constructor
  · intro read
    unfold Reading.leaf at read
    split at read <;> rename_i kind
    · cases read
      exact .identifier kind
    · split at read
      · rename_i number readNumber
        cases read
        exact .integer kind readNumber
      · cases read
    · split at read
      · rename_i number readNumber
        cases read
        exact .float kind readNumber
      · cases read
    · cases read
      exact .string kind
    · cases read
      exact .reference kind
    all_goals cases read
  · intro leaf
    cases leaf with
    | identifier kind => simp [Reading.leaf, kind]
    | string kind => simp [Reading.leaf, kind]
    | reference kind => simp [Reading.leaf, kind]
    | integer kind readNumber => simp [Reading.leaf, kind, readNumber]
    | float kind readNumber => simp [Reading.leaf, kind, readNumber]

/-- Parentheses add no level to a tree. -/
@[simp]
theorem Expr.height_withSpan
    (span : Span)
    (expr : Expr) :
    (expr.withSpan span).height = expr.height := by
  cases expr <;> rfl

/-- The kinds of the tokens that are part of no operand. -/
def TokenKind.outsiders : List TokenKind :=
  [.unclosedString, .unknown, .endOfLine]

/-- No operand has a token that stands in no expression. -/
theorem Operand.Derived.kind_not_mem_outsiders
    {operand : Operand}
    (derived : operand.Derived) :
    ∀ token ∈ operand.tokens, token.kind ∉ TokenKind.outsiders := by
  induction derived with
  | @leaf token tree leaf =>
      intro other member
      rw [List.mem_singleton.1 member]
      cases leaf <;> simp_all [TokenKind.outsiders]
  | @prefixed operator op operand written _ operandHypothesis =>
      intro other member
      rcases List.mem_cons.1 member with rfl | member
      · intro outside
        simp only [TokenKind.outsiders, List.mem_cons, List.not_mem_nil, or_false] at outside
        rcases outside with kind | kind | kind <;> simp [kind, TokenKind.unaryOp?] at written
      · exact operandHypothesis other member
  | @group opening closing first joints opens _ operators _ closes firstHypothesis
      operandsHypothesis =>
      intro other member
      rcases List.mem_cons.1 member with rfl | member
      · simp [opens, TokenKind.outsiders]
      · rcases List.mem_append.1 member with inChain | isClosing
        · rcases List.mem_append.1 inChain with inFirst | inJoints
          · exact firstHypothesis other inFirst
          · rcases List.mem_flatMap.1 inJoints with ⟨joint, jointMember, inJoint⟩
            rcases List.mem_cons.1 inJoint with rfl | inOperand
            · intro outside
              have written := operators joint jointMember
              simp only [TokenKind.outsiders, List.mem_cons, List.not_mem_nil, or_false]
                at outside
              rcases outside with kind | kind | kind <;>
                simp [kind, TokenKind.binaryOp?] at written
            · exact operandsHypothesis joint jointMember other inOperand
        · rw [List.mem_singleton.1 isClosing]
          simp [closes, TokenKind.outsiders]

/-- So an operand ends in front of the end of the line. -/
theorem Operand.Derived.kind_ne_endOfLine
    {operand : Operand}
    (derived : operand.Derived) :
    ∀ token ∈ operand.tokens, token.kind ≠ .endOfLine := by
  intro token member ends
  exact derived.kind_not_mem_outsiders token member (by simp [ends, TokenKind.outsiders])

theorem Operand.Derived.kind_ne_unclosedString
    {operand : Operand}
    (derived : operand.Derived) :
    ∀ token ∈ operand.tokens, token.kind ≠ .unclosedString := by
  intro token member unclosed
  exact derived.kind_not_mem_outsiders token member (by simp [unclosed, TokenKind.outsiders])

/-- So does a chain of operands. -/
theorem Chain.Derived.kind_ne_endOfLine
    {chain : Chain}
    (derived : chain.Derived) :
    ∀ token ∈ chain.tokens, token.kind ≠ .endOfLine := by
  -- In parentheses the chain is an operand.
  have grouped :
      (Operand.group ⟨.openParen, ⟨0, 0⟩, "("⟩ chain ⟨.closeParen, ⟨0, 0⟩, ")"⟩).Derived :=
    .group rfl derived.first derived.operators derived.operands rfl
  intro token member
  exact grouped.kind_ne_endOfLine token
    (List.mem_cons_of_mem _ (List.mem_append_left _ member))

/-- Some token of an operand is enclosed by nothing. -/
theorem Operand.Derived.zero_mem_enclosures
    {operand : Operand}
    (derived : operand.Derived) :
    0 ∈ operand.enclosures := by
  cases derived <;> exact List.mem_cons_self

end AsmShell
