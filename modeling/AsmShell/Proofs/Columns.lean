import AsmShell.Proofs.AcceptedOperands

/-!
# Moving columns

Columns are carried from tokens to trees and never computed with: every column of a
tree is a column of one of its tokens.  So whatever is done to the columns of all
tokens of an operand is done to the columns of its tree, and the operand stays
derived and within the same limits.
-/

namespace AsmShell

/-- The span with its columns moved. -/
def Span.moveColumns (move : Nat → Nat) (span : Span) : Span :=
  ⟨move span.first, move span.last⟩

/-- The token with its columns moved. -/
def Token.moveColumns (move : Nat → Nat) (token : Token) : Token :=
  { token with span := token.span.moveColumns move }

/-- The tree with the columns of all its nodes and operators moved. -/
def Expr.moveColumns (move : Nat → Nat) : Expr → Expr
  | .literal value span => .literal value (span.moveColumns move)
  | .reference name span => .reference name (span.moveColumns move)
  | .unary op operand span => .unary op (operand.moveColumns move) (span.moveColumns move)
  | .binary op left right opSpan span =>
      .binary op (left.moveColumns move) (right.moveColumns move)
        (opSpan.moveColumns move) (span.moveColumns move)

namespace Expr

@[simp]
theorem span_moveColumns
    (move : Nat → Nat)
    (expr : Expr) :
    (expr.moveColumns move).span = expr.span.moveColumns move := by
  cases expr <;> rfl

@[simp]
theorem height_moveColumns
    (move : Nat → Nat)
    (expr : Expr) :
    (expr.moveColumns move).height = expr.height := by
  induction expr with
  | literal value span =>
      rfl
  | reference name span =>
      rfl
  | unary op operand span operandHypothesis =>
      rw [moveColumns, height, operandHypothesis, height]
  | binary op left right opSpan span leftHypothesis rightHypothesis =>
      rw [moveColumns, height, leftHypothesis, rightHypothesis, height]

theorem withSpan_moveColumns
    (move : Nat → Nat)
    (span : Span)
    (expr : Expr) :
    (expr.withSpan span).moveColumns move =
      (expr.moveColumns move).withSpan (span.moveColumns move) := by
  cases expr <;> rfl

end Expr

/-! ## Moving the columns of a chain -/

def Link.moveColumns (move : Nat → Nat) (link : Link) : Link :=
  ⟨link.op, link.opSpan.moveColumns move, link.right.moveColumns move⟩

theorem Link.node_moveColumns
    (move : Nat → Nat)
    (link : Link)
    (left right : Expr) :
    (link.node left right).moveColumns move =
      (link.moveColumns move).node (left.moveColumns move) (right.moveColumns move) := by
  simp only [Link.node, Link.moveColumns, Expr.moveColumns, Expr.span_moveColumns, Span.through,
    Span.moveColumns]

theorem SplitsAt.moveColumns
    {before after : List Link}
    {loosest : Link}
    (splits : SplitsAt before loosest after)
    (move : Nat → Nat) :
    SplitsAt (before.map (Link.moveColumns move)) (loosest.moveColumns move)
      (after.map (Link.moveColumns move)) where
  not_looser_before := by
    intro link member
    rcases List.mem_map.1 member with ⟨source, sourceMember, rfl⟩
    exact splits.not_looser_before source sourceMember
  tighter_after := by
    intro link member
    rcases List.mem_map.1 member with ⟨source, sourceMember, rfl⟩
    exact splits.tighter_after source sourceMember

/-- Moving columns does not change how a chain groups. -/
theorem grouped_moveColumns
    (move : Nat → Nat)
    (first : Expr)
    (links : List Link) :
    (grouped first links).moveColumns move =
      grouped (first.moveColumns move) (links.map (Link.moveColumns move)) := by
  induction first, links using grouping_induction with
  | single first =>
      rw [grouped_nil, List.map_nil, grouped_nil]
  | joined first before loosest after splits beforeHypothesis afterHypothesis =>
      rw [splits.grouped_eq, List.map_append, List.map_cons,
        (splits.moveColumns move).grouped_eq, Link.node_moveColumns, beforeHypothesis,
        afterHypothesis]
      rfl

def Operand.moveColumns (move : Nat → Nat) (operand : Operand) : Operand where
  tokens := operand.tokens.map (Token.moveColumns move)
  enclosures := operand.enclosures
  tree := operand.tree.moveColumns move

def Joint.moveColumns (move : Nat → Nat) (joint : Joint) : Joint :=
  ⟨joint.operator.moveColumns move, joint.op, joint.operand.moveColumns move⟩

def Chain.moveColumns (move : Nat → Nat) (chain : Chain) : Chain :=
  ⟨chain.first.moveColumns move, chain.joints.map (Joint.moveColumns move)⟩

namespace Chain

variable (move : Nat → Nat) (chain : Chain)

theorem tokens_moveColumns :
    (chain.moveColumns move).tokens = chain.tokens.map (Token.moveColumns move) := by
  have jointTokens (joint : Joint) :
      (joint.moveColumns move).tokens = joint.tokens.map (Token.moveColumns move) :=
    rfl
  simp only [tokens, moveColumns, Operand.moveColumns, List.map_append, List.map_flatMap,
    List.flatMap_map, jointTokens]

theorem enclosures_moveColumns :
    (chain.moveColumns move).enclosures = chain.enclosures := by
  have jointEnclosures (joint : Joint) :
      (joint.moveColumns move).enclosures = joint.enclosures :=
    rfl
  simp only [enclosures, moveColumns, Operand.moveColumns, List.flatMap_map, jointEnclosures]

theorem tree_moveColumns :
    (chain.moveColumns move).tree = chain.tree.moveColumns move := by
  have jointLink (joint : Joint) :
      (joint.moveColumns move).link = joint.link.moveColumns move :=
    rfl
  rw [tree, tree, grouped_moveColumns]
  simp only [moveColumns, Operand.moveColumns, List.map_map, Function.comp_def, jointLink]

end Chain

/-! ## Derivations -/

theorem LeafToken.moveColumns
    {token : Token}
    {tree : Expr}
    (leaf : LeafToken token tree)
    (move : Nat → Nat) :
    LeafToken (token.moveColumns move) (tree.moveColumns move) := by
  cases leaf with
  | identifier kind => exact .identifier kind
  | string kind => exact .string kind
  | reference kind => exact .reference kind
  | integer kind read => exact .integer kind read
  | float kind read => exact .float kind read

/-- An operand stays derived when its columns are moved. -/
theorem Operand.Derived.moveColumns
    {operand : Operand}
    (derived : operand.Derived)
    (move : Nat → Nat) :
    (operand.moveColumns move).Derived := by
  induction derived with
  | leaf leaf =>
      exact .leaf (leaf.moveColumns move)
  | @prefixed operator op operand written _ operandHypothesis =>
      have moved :
          (Operand.prefixed operator op operand).moveColumns move =
            .prefixed (operator.moveColumns move) op (operand.moveColumns move) := by
        simp [Operand.moveColumns, Operand.prefixed, Expr.moveColumns, Span.moveColumns,
          Token.column, Token.moveColumns]
      rw [moved]
      exact .prefixed written operandHypothesis
  | @group opening closing first joints opens _ operators _ closes firstHypothesis
      operandsHypothesis =>
      have moved :
          (Operand.group opening ⟨first, joints⟩ closing).moveColumns move =
            .group (opening.moveColumns move)
              (Chain.moveColumns move ⟨first, joints⟩) (closing.moveColumns move) := by
        simp [Operand.moveColumns, Operand.group, Expr.withSpan_moveColumns,
          Chain.tokens_moveColumns, Chain.enclosures_moveColumns, Chain.tree_moveColumns,
          Span.moveColumns, Token.column, Token.moveColumns]
      rw [moved]
      refine .group opens firstHypothesis ?_ ?_ closes
      · intro joint member
        rcases List.mem_map.1 member with ⟨source, sourceMember, rfl⟩
        exact operators source sourceMember
      · intro joint member
        rcases List.mem_map.1 member with ⟨source, sourceMember, rfl⟩
        exact operandsHypothesis source sourceMember

/-- A chain stays within the limits when its columns are moved. -/
theorem Chain.Within.moveColumns
    {levels : Nat}
    {chain : Chain}
    (within : chain.Within levels)
    (move : Nat → Nat) :
    (chain.moveColumns move).Within levels where
  derived := by
    refine ⟨within.derived.first.moveColumns move, ?_, ?_⟩
    · intro joint member
      rcases List.mem_map.1 member with ⟨source, sourceMember, rfl⟩
      exact within.derived.operators source sourceMember
    · intro joint member
      rcases List.mem_map.1 member with ⟨source, sourceMember, rfl⟩
      exact (within.derived.operands source sourceMember).moveColumns move
  short := by
    rw [tree_moveColumns, Expr.height_moveColumns]
    exact within.short
  shallow := by
    rw [enclosures_moveColumns]
    exact within.shallow

end AsmShell
