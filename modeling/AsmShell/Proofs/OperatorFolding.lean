import AsmShell.Proofs.Grammar
import AsmShell.Proofs.ReadingSteps

/-!
# Folding operators from left to right

The reader of operators looks one token ahead.  It raises the floor for a right
operand that is followed by a tighter operator, and it stops in front of the first
operator below its floor.  This module shows that what it builds in this way is the
grouped tree of the chain it has passed, for whatever reads the operands: both what
a successful fold has done and when a fold succeeds.

The reader of the operands is known only through `Reads`, so nothing here depends
on how operands nest.
-/

namespace AsmShell

/-- The tokens do not begin with an operator of precedence `floor` or more. -/
def StopsAt (floor : Int) (tokens : List Token) : Prop :=
  ∀ token ∈ tokens.head?, ∀ op ∈ token.kind.binaryOp?, op.precedence < floor

theorem Parser.stopsAt_rest_iff
    (parser : Parser)
    (floor : Int) :
    StopsAt floor parser.rest ↔
      ∀ op ∈ parser.current.kind.binaryOp?, op.precedence < floor := by
  rcases parser with ⟨rest, height⟩
  cases rest with
  | nil =>
      simp [StopsAt, current, Token.endOfLine, TokenKind.binaryOp?]
  | cons token rest =>
      simp [StopsAt]

/-- A joint that a fold with the floor takes in. -/
structure Joint.Admitted
    (accepts : Operand → Prop)
    (floor : Int)
    (joint : Joint) :
    Prop where
  operator : joint.operator.kind.binaryOp? = some joint.op
  operand : accepts joint.operand
  precedence : floor ≤ joint.op.precedence

theorem Joint.Admitted.mono
    {accepts : Operand → Prop}
    {lower upper : Int}
    {joint : Joint}
    (admitted : joint.Admitted accepts upper)
    (lower_le_upper : lower ≤ upper) :
    joint.Admitted accepts lower :=
  ⟨admitted.operator, admitted.operand, Int.le_trans lower_le_upper admitted.precedence⟩

/--
The joints lead from `left` in front of `tokens` to `expr` in front of `rest`: they
are what a fold with the floor has to take in, and `expr` is their tree.
-/
structure Folded
    (accepts : Operand → Prop)
    (floor : Int)
    (left : Expr)
    (tokens : List Token)
    (joints : List Joint)
    (expr : Expr)
    (rest : List Token) :
    Prop where
  admitted : ∀ joint ∈ joints, joint.Admitted accepts floor
  passed : tokens = joints.flatMap Joint.tokens ++ rest
  stops : StopsAt floor rest
  tree : expr = grouped left (joints.map Joint.link)

/-- Joints up to the first operator that does not bind tighter than the bound. -/
theorem exists_tighter_split
    (bound : Int)
    (joints : List Joint) :
    ∃ tighter looser,
      joints = tighter ++ looser ∧
        (∀ joint ∈ tighter, bound < joint.op.precedence) ∧
          ∀ next ∈ looser.head?, next.op.precedence ≤ bound := by
  induction joints with
  | nil =>
      exact ⟨[], [], rfl, by simp, by simp⟩
  | cons joint rest restHypothesis =>
      by_cases isTighter : bound < joint.op.precedence
      · rcases restHypothesis with ⟨tighter, looser, rfl, allTighter, nextLooser⟩
        refine ⟨joint :: tighter, looser, rfl, ?_, nextLooser⟩
        intro other member
        rcases List.mem_cons.1 member with rfl | inTighter
        · exact isTighter
        · exact allTighter other inTighter
      · refine ⟨[], joint :: rest, rfl, by simp, ?_⟩
        intro next isHead
        cases isHead
        exact Int.not_lt.1 isTighter

/-- The grouped tree of joints whose first operator has taken in all that binds tighter. -/
theorem grouped_joint_append
    (left : Expr)
    (joint : Joint)
    (tighter looser : List Joint)
    (allTighter : ∀ other ∈ tighter, joint.op.precedence < other.op.precedence)
    (nextLooser : ∀ next ∈ looser.head?, next.op.precedence ≤ joint.op.precedence) :
    grouped left ((joint :: (tighter ++ looser)).map Joint.link) =
      grouped
        (joint.link.node left (grouped joint.operand.tree (tighter.map Joint.link)))
        (looser.map Joint.link) := by
  rw [List.map_cons, List.map_append]
  apply grouped_cons_append
  · intro link member
    rcases List.mem_map.1 member with ⟨other, inTighter, rfl⟩
    exact allTighter other inTighter
  · intro link isHead
    rw [List.head?_map] at isHead
    rcases Option.map_eq_some_iff.1 isHead with ⟨next, nextIsHead, rfl⟩
    exact nextLooser next nextIsHead

/-- A fold stops in front of joints if their first operator is below its floor. -/
theorem stopsAt_joints_append_iff
    (floor : Int)
    (joints : List Joint)
    (rest : List Token)
    (operators : ∀ joint ∈ joints, joint.operator.kind.binaryOp? = some joint.op) :
    StopsAt floor (joints.flatMap Joint.tokens ++ rest) ↔
      (∀ next ∈ joints.head?, next.op.precedence < floor) ∧
        (joints = [] → StopsAt floor rest) := by
  cases joints with
  | nil =>
      simp
  | cons joint others =>
      have written : joint.operator.kind.binaryOp? = some joint.op :=
        operators joint List.mem_cons_self
      simp [StopsAt, Joint.tokens, written]

/-- Joints that have been folded, one operator with its right operand in front. -/
theorem Folded.cons
    {accepts : Operand → Prop}
    {floor : Int}
    {left expr : Expr}
    {tokens behindRight rest : List Token}
    {joint : Joint}
    {tighter looser : List Joint}
    (joint_admitted : joint.Admitted accepts floor)
    (tighter_admitted :
      ∀ other ∈ tighter, other.Admitted accepts (joint.op.precedence + 1))
    (rightStops : StopsAt (joint.op.precedence + 1) behindRight)
    (passed : tokens = joint.tokens ++ (tighter.flatMap Joint.tokens ++ behindRight))
    (folded :
      Folded accepts floor
        (joint.link.node left (grouped joint.operand.tree (tighter.map Joint.link)))
        behindRight looser expr rest) :
    Folded accepts floor left tokens (joint :: (tighter ++ looser)) expr rest where
  admitted := by
    intro other member
    rcases List.mem_cons.1 member with rfl | member
    · exact joint_admitted
    · rcases List.mem_append.1 member with inTighter | inLooser
      · have := joint_admitted.precedence
        exact (tighter_admitted other inTighter).mono (by omega)
      · exact folded.admitted other inLooser
  passed := by
    rw [passed, folded.passed]
    simp
  stops := folded.stops
  tree := by
    have nextLooser : ∀ next ∈ looser.head?, next.op.precedence ≤ joint.op.precedence := by
      intro next isHead
      rw [folded.passed, stopsAt_joints_append_iff _ _ _
        fun other member => (folded.admitted other member).operator] at rightStops
      have := rightStops.1 next isHead
      omega
    -- The joints split where the right operand stopped, which is where the chain splits.
    rw [folded.tree, grouped_joint_append _ _ _ _ _ nextLooser]
    intro other inTighter
    have := (tighter_admitted other inTighter).precedence
    omega

/--
What is folded behind a first joint: first the joints that bind tighter, into its
operand, and then the others.
-/
theorem Folded.exists_of_cons
    {accepts : Operand → Prop}
    {floor : Int}
    {left expr : Expr}
    {tokens rest : List Token}
    {joint : Joint}
    {others : List Joint}
    (folded : Folded accepts floor left tokens (joint :: others) expr rest) :
    ∃ tighter looser right behindFirst behindRight,
      tokens = joint.tokens ++ behindFirst ∧
        Folded accepts (joint.op.precedence + 1) joint.operand.tree behindFirst tighter right
          behindRight ∧
        Folded accepts floor (joint.link.node left right) behindRight looser expr rest := by
  rcases exists_tighter_split joint.op.precedence others with
    ⟨tighter, looser, rfl, allTighter, nextLooser⟩
  have looserAdmitted : ∀ other ∈ looser, other.Admitted accepts floor := by
    intro other member
    exact folded.admitted other (by simp [member])
  have behindRightStops :
      StopsAt (joint.op.precedence + 1) (looser.flatMap Joint.tokens ++ rest) := by
    refine (stopsAt_joints_append_iff _ _ _
      fun other member => (looserAdmitted other member).operator).2 ⟨?_, ?_⟩
    · intro next isHead
      have := nextLooser next isHead
      omega
    · intro _ token isHead op written
      have := folded.stops token isHead op written
      have := (folded.admitted joint List.mem_cons_self).precedence
      omega
  refine ⟨tighter, looser, _, _, looser.flatMap Joint.tokens ++ rest, ?_,
    ⟨?_, rfl, behindRightStops, rfl⟩, looserAdmitted, rfl, folded.stops, ?_⟩
  · rw [folded.passed]
    simp
  · intro other member
    have otherAdmitted := folded.admitted other (by simp [member])
    have := allTighter other member
    exact ⟨otherAdmitted.operator, otherAdmitted.operand, by omega⟩
  · rw [folded.tree, grouped_joint_append left joint tighter looser allTighter nextLooser]

namespace Reading

/--
The reader succeeds exactly where an accepted operand stands.  It then passes the
tokens of the operand, gives its tree and records its height.
-/
def Reads (reading : Reading Expr) (accepts : Operand → Prop) : Prop :=
  ∀ parser expr after,
    reading.run parser = .ok expr after ↔
      ∃ operand,
        accepts operand ∧ parser.rest = operand.tokens ++ after.rest ∧
          expr = operand.tree ∧ after.height = operand.tree.height

variable
    {operand : Reading Expr}
    {accepts : Operand → Prop}

theorem foldOperators_run_of_stopsAt
    (tokensLeft leftHeight : Nat)
    {floor : Int}
    {parser : Parser}
    (stops : StopsAt floor parser.rest)
    (left : Expr) :
    (foldOperators operand tokensLeft floor leftHeight left).run parser =
      .ok left { parser with height := leftHeight } := by
  cases tokensLeft with
  | zero =>
      rfl
  | succ tokensLeft =>
      rw [foldOperators_succ_run]
      cases written : parser.current.kind.binaryOp? with
      | none =>
          rfl
      | some op =>
          have below : op.precedence < floor :=
            (parser.stopsAt_rest_iff floor).1 stops op written
          simp only [if_pos below]

/-- A right operand is extended by a fold with a raised floor, which changes nothing where no
tighter operator follows. -/
theorem extendedRight_eq
    (tokensLeft : Nat)
    (op : BinaryOp)
    (first : Expr)
    (parser : Parser) :
    extendedRight operand tokensLeft op first parser =
      (foldOperators operand tokensLeft (op.precedence + 1) parser.height first).run parser := by
  rw [extendedRight]
  by_cases tighter : op.precedence < precedenceOf parser.current.kind.binaryOp?
  · rw [if_pos tighter]
  · have stops : StopsAt (op.precedence + 1) parser.rest := by
      refine (parser.stopsAt_rest_iff _).2 ?_
      intro next written
      rw [written, precedenceOf] at tighter
      omega
    rw [if_neg tighter, foldOperators_run_of_stopsAt tokensLeft _ stops]

/-! ## What a successful fold has done -/

/-- A fold stops where it stands, or it takes in an operator and goes on. -/
theorem foldOperators_succ_run_eq_ok_iff
    {tokensLeft leftHeight : Nat}
    {floor : Int}
    {left expr : Expr}
    {parser after : Parser} :
    (foldOperators operand (tokensLeft + 1) floor leftHeight left).run parser =
        .ok expr after ↔
      (StopsAt floor parser.rest ∧ expr = left ∧
        after = { parser with height := leftHeight }) ∨
      ∃ op first behindFirst right behindRight,
        parser.current.kind.binaryOp? = some op ∧
        floor ≤ op.precedence ∧
        operand.run parser.advanced = .ok first behindFirst ∧
        extendedRight operand tokensLeft op first behindFirst = .ok right behindRight ∧
        max leftHeight behindRight.height + 1 ≤ nestingLimit ∧
        (foldOperators operand tokensLeft floor (max leftHeight behindRight.height + 1)
          (.binary op left right parser.current.span (left.span.through right.span))).run
            { behindRight with height := max leftHeight behindRight.height + 1 } =
          .ok expr after := by
  constructor
  · intro ran
    rw [foldOperators_succ_run] at ran
    cases written : parser.current.kind.binaryOp? with
    | none =>
        simp only [written, EStateM.Result.ok.injEq] at ran
        left
        refine ⟨(parser.stopsAt_rest_iff floor).2 ?_, ran.1.symm, ran.2.symm⟩
        simp [written]
    | some op =>
        simp only [written] at ran
        by_cases below : op.precedence < floor
        · rw [if_pos below, EStateM.Result.ok.injEq] at ran
          left
          refine ⟨(parser.stopsAt_rest_iff floor).2 ?_, ran.1.symm, ran.2.symm⟩
          simp [written, below]
        · rw [if_neg below] at ran
          right
          cases firstRead : operand.run parser.advanced with
          | error error between =>
              simp [firstRead] at ran
          | ok first behindFirst =>
              simp only [firstRead] at ran
              cases rightRead : extendedRight operand tokensLeft op first behindFirst with
              | error error between =>
                  simp [rightRead] at ran
              | ok right behindRight =>
                  simp only [rightRead] at ran
                  by_cases tall : nestingLimit < max leftHeight behindRight.height + 1
                  · rw [if_pos tall] at ran
                    cases ran
                  · rw [if_neg tall] at ran
                    exact ⟨op, first, behindFirst, right, behindRight, rfl, Int.not_lt.1 below,
                      rfl, rightRead, Nat.not_lt.1 tall, ran⟩
  · rintro (⟨stops, rfl, rfl⟩ |
      ⟨op, first, behindFirst, right, behindRight, written, aboveFloor, firstRead, rightRead,
        short, ran⟩)
    · exact foldOperators_run_of_stopsAt _ _ stops _
    · have notBelow : ¬ op.precedence < floor := Int.not_lt.2 aboveFloor
      have notTall : ¬ nestingLimit < max leftHeight behindRight.height + 1 := Nat.not_lt.2 short
      rw [foldOperators_succ_run, written]
      simp only [if_neg notBelow, firstRead, rightRead, if_neg notTall]
      exact ran

/--
A fold that succeeds has taken in the operators up to the first one below its floor.
If it was told the height of its left operand, it records the height of its result.
-/
theorem exists_folded_of_foldOperators
    (reads : Reads operand accepts)
    (tokensLeft : Nat)
    (floor : Int)
    (leftHeight : Nat)
    (left expr : Expr)
    (parser after : Parser)
    (enough : parser.rest.length ≤ tokensLeft)
    (ran :
      (foldOperators operand tokensLeft floor leftHeight left).run parser = .ok expr after) :
    ∃ joints,
      Folded accepts floor left parser.rest joints expr after.rest ∧
        (leftHeight = left.height →
          after.height = expr.height ∧ (joints = [] ∨ expr.height ≤ nestingLimit)) := by
  induction tokensLeft generalizing floor leftHeight left expr parser after with
  | zero =>
      rw [foldOperators_zero_run, EStateM.Result.ok.injEq] at ran
      rcases ran with ⟨rfl, rfl⟩
      have nothingLeft : parser.rest = [] := List.eq_nil_of_length_eq_zero (by omega)
      refine ⟨[], ⟨by simp, rfl, ?_, by simp⟩, fun recorded => ⟨recorded, Or.inl rfl⟩⟩
      simp [StopsAt, nothingLeft]
  | succ tokensLeft shorter =>
      rcases foldOperators_succ_run_eq_ok_iff.1 ran with
        ⟨stops, rfl, rfl⟩ |
        ⟨op, first, behindFirst, right, behindRight, written, aboveFloor, firstRead, rightRead,
          short, ran⟩
      · exact ⟨[], ⟨by simp, rfl, stops, by simp⟩, fun recorded => ⟨recorded, Or.inl rfl⟩⟩
      · have inside := TokenKind.ne_endOfLine_of_binaryOp? written
        have inFront := parser.rest_eq_current_cons inside
        rcases (reads _ _ _).1 firstRead with
          ⟨firstOperand, firstAccepted, firstPassed, rfl, firstHeight⟩
        let joint : Joint := ⟨parser.current, op, firstOperand⟩
        have jointAdmitted : joint.Admitted accepts floor :=
          ⟨written, firstAccepted, aboveFloor⟩
        have firstShorter : behindFirst.rest.length ≤ tokensLeft := by
          rw [inFront, firstPassed] at enough
          simp only [List.length_cons, List.length_append] at enough
          omega
        have rightFolded :
            ∃ tighter,
              Folded accepts (op.precedence + 1) firstOperand.tree behindFirst.rest tighter
                  right behindRight.rest ∧
                behindRight.height = right.height := by
          rw [extendedRight_eq] at rightRead
          rcases shorter _ _ _ _ _ _ firstShorter rightRead with ⟨tighter, folded, heights⟩
          exact ⟨tighter, folded, (heights firstHeight).1⟩
        rcases rightFolded with ⟨tighter, rightFolded, rightHeight⟩
        have rightShorter : behindRight.rest.length ≤ tokensLeft := by
          rw [rightFolded.passed, List.length_append] at firstShorter
          omega
        rcases shorter _ _ _ _ ⟨behindRight.rest, max leftHeight behindRight.height + 1⟩ _
            rightShorter ran with
          ⟨looser, folded, heights⟩
        have tree := rightFolded.tree
        subst tree
        refine ⟨joint :: (tighter ++ looser), ?_, ?_⟩
        · refine Folded.cons jointAdmitted rightFolded.admitted rightFolded.stops ?_ folded
          rw [inFront, firstPassed, rightFolded.passed]
          rfl
        · rintro rfl
          have nodeHeight :
              max left.height behindRight.height + 1 =
                (joint.link.node left
                  (grouped firstOperand.tree (tighter.map Joint.link))).height := by
            rw [rightHeight]
            rfl
          rcases heights nodeHeight with ⟨recorded, empty | shortTree⟩
          · refine ⟨recorded, Or.inr ?_⟩
            rw [folded.tree, empty, List.map_nil, grouped_nil]
            exact nodeHeight ▸ short
          · exact ⟨recorded, Or.inr shortTree⟩

/-! ## When a fold succeeds -/

theorem foldOperators_run_of_folded_nil
    {floor : Int}
    {left expr : Expr}
    {parser after : Parser}
    (folded : Folded accepts floor left parser.rest [] expr after.rest)
    (recorded : after.height = expr.height)
    (tokensLeft : Nat) :
    (foldOperators operand tokensLeft floor left.height left).run parser = .ok expr after := by
  have sameRest : parser.rest = after.rest := folded.passed
  have sameTree : expr = left := by
    rw [folded.tree, List.map_nil, grouped_nil]
  have stops : StopsAt floor parser.rest := sameRest ▸ folded.stops
  rw [foldOperators_run_of_stopsAt _ _ stops, sameRest, ← sameTree, ← recorded]

/-- A fold with joints in front of it takes them in, unless the tree grows too tall. -/
theorem foldOperators_run_of_folded
    {tokensLeft : Nat}
    {floor : Int}
    {left expr : Expr}
    {parser after : Parser}
    {joints : List Joint}
    (reads : Reads operand accepts)
    (folded : Folded accepts floor left parser.rest joints expr after.rest)
    (enough : parser.rest.length ≤ tokensLeft)
    (short : expr.height ≤ nestingLimit)
    (recorded : after.height = expr.height) :
    (foldOperators operand tokensLeft floor left.height left).run parser = .ok expr after := by
  induction tokensLeft generalizing floor left expr parser after joints with
  | zero =>
      cases joints with
      | nil =>
          exact foldOperators_run_of_folded_nil folded recorded 0
      | cons joint others =>
          rw [folded.passed] at enough
          simp [Joint.tokens] at enough
  | succ tokensLeft shorter =>
      cases joints with
      | nil =>
          exact foldOperators_run_of_folded_nil folded recorded (tokensLeft + 1)
      | cons joint others =>
          have admitted := folded.admitted joint List.mem_cons_self
          rcases folded.exists_of_cons with
            ⟨tighter, looser, right, behindFirst, behindRight, passed, rightFolded, restFolded⟩
          have passed : parser.rest = joint.operator :: (joint.operand.tokens ++ behindFirst) :=
            passed
          rcases parser with ⟨tokens, height⟩
          subst passed
          have firstShorter : behindFirst.length ≤ tokensLeft := by
            simp only [List.length_cons, List.length_append] at enough
            omega
          have rightShorter : behindRight.length ≤ tokensLeft := by
            rw [rightFolded.passed, List.length_append] at firstShorter
            omega
          -- The limit is checked at every node, and each of them is part of the final tree.
          have nodeShort : (joint.link.node left right).height ≤ nestingLimit := by
            rw [restFolded.tree] at short
            exact Nat.le_trans (height_le_height_grouped _ _) short
          have rightShort : right.height ≤ nestingLimit := by
            have : right.height < (joint.link.node left right).height :=
              Nat.lt_succ_of_le (Nat.le_max_right _ _)
            omega
          refine foldOperators_succ_run_eq_ok_iff.2 (Or.inr ⟨joint.op, joint.operand.tree,
            ⟨behindFirst, joint.operand.tree.height⟩, right, ⟨behindRight, right.height⟩,
            admitted.operator, admitted.precedence, ?_, ?_, nodeShort, ?_⟩)
          · have inside := TokenKind.ne_endOfLine_of_binaryOp? admitted.operator
            rw [Parser.advanced_cons _ _ _ inside]
            exact (reads _ _ _).2 ⟨joint.operand, admitted.operand, rfl, rfl, rfl⟩
          · rw [extendedRight_eq]
            exact shorter rightFolded firstShorter rightShort rfl
          · show (foldOperators operand tokensLeft floor (joint.link.node left right).height
              (joint.link.node left right)).run
                ⟨behindRight, (joint.link.node left right).height⟩ = .ok expr after
            exact shorter restFolded rightShorter short recorded

end Reading

end AsmShell
