import AsmShell.Proofs.Arguments
import AsmShell.Proofs.ParserCalls
import Mathlib.Data.List.Induction

/-!
# Recorded heights

A parser checks the limit on nesting against the height that it has recorded, and not
against the tree.  A reading that succeeds has recorded at least the height of its tree,
so going on with this tree right away keeps within the limit.  A reading that fails may
have recorded the height of a part that it has dropped: going on with an earlier tree
then, the parser takes it to be lower than it is, and the limit does not hold.
-/

namespace AsmShell

namespace Reading

/-! ## What a reading that succeeds has recorded -/

/-- The record is no lower than the tree, and the tree respects the limit. -/
structure RecordsHeight (expr : Expr) (after : Parser) : Prop where
  covered : expr.height ≤ after.height
  short : expr.height ≤ nestingLimit

/-- What the reading gives is recorded. -/
def Records (reading : Reading Expr) : Prop :=
  ∀ parser expr after, reading.run parser = .ok expr after → RecordsHeight expr after

theorem records_of_reads
    {reading : Reading Expr}
    {levels : Nat}
    (reads : Reads reading (Operand.Within levels)) :
    Records reading := by
  intro parser expr after ran
  rcases (reads parser expr after).1 ran with ⟨operand, within, _, rfl, recorded⟩
  exact ⟨Nat.le_of_eq recorded.symm, within.short⟩

theorem records_unary :
    Records unary :=
  records_of_reads (unaryWithin_reads nestingLimit)

theorem records_primary :
    Records primary := by
  intro parser expr after ran
  rw [primary] at ran
  cases written : parser.current.kind.unaryOp? with
  | none =>
      rcases (primaryWith_run_eq_ok_iff (unaryWithin_reads nestingLimit) _ _ _ written).1 ran with
        ⟨operand, within, _, rfl, recorded⟩
      exact ⟨Nat.le_of_eq recorded.symm, within.short⟩
  | some op =>
      -- No primary begins with an operator.
      have notOpen : parser.current.kind ≠ .openParen := by
        intro opens
        simp [opens, TokenKind.unaryOp?] at written
      rw [primaryWith_run, if_neg notOpen] at ran
      cases read : leaf parser.current with
      | error fault =>
          simp [read] at ran
      | ok tree =>
          rw [((leaf_eq_ok_iff _ _).1 read).unaryOp?_eq_none] at written
          cases written

theorem records_expression :
    Records expression := by
  intro parser expr after ran
  rcases (expressionWith_run_eq_ok_iff (unaryWithin_reads nestingLimit) _ _ _).1 ran with
    ⟨chain, within, _, _, rfl, recorded⟩
  exact ⟨Nat.le_of_eq recorded.symm, within.short⟩

/-- A fold that is told at least the height of its left operand records at least the height of its
result. -/
theorem Records.foldOperators
    {operand : Reading Expr}
    (records : Records operand)
    (tokensLeft : Nat)
    (floor : Int)
    {leftHeight : Nat}
    {left : Expr}
    (told : left.height ≤ leftHeight)
    (short : left.height ≤ nestingLimit) :
    Records (foldOperators operand tokensLeft floor leftHeight left) := by
  induction tokensLeft generalizing floor leftHeight left with
  | zero =>
      intro parser expr after ran
      rw [foldOperators_zero_run, EStateM.Result.ok.injEq] at ran
      rcases ran with ⟨rfl, rfl⟩
      exact ⟨told, short⟩
  | succ tokensLeft shorter =>
      intro parser expr after ran
      rcases foldOperators_succ_run_eq_ok_iff.1 ran with
        ⟨_, rfl, rfl⟩ |
        ⟨op, first, behindFirst, right, behindRight, _, _, firstRead, rightRead, fits, ran⟩
      · exact ⟨told, short⟩
      · have firstRecorded := records _ _ _ firstRead
        rw [extendedRight_eq] at rightRead
        have rightRecorded :=
          shorter _ firstRecorded.covered firstRecorded.short _ _ _ rightRead
        have nodeHeight :
            max left.height right.height + 1 ≤ max leftHeight behindRight.height + 1 :=
          Nat.succ_le_succ (Nat.max_le.2
            ⟨Nat.le_trans told (Nat.le_max_left _ _),
              Nat.le_trans rightRecorded.covered (Nat.le_max_right _ _)⟩)
        exact shorter _ nodeHeight (Nat.le_trans nodeHeight fits) _ _ _ ran

theorem records_continued
    (floor : Int)
    {left expr : Expr}
    {parser after : Parser}
    (recorded : left.height ≤ parser.height)
    (short : left.height ≤ nestingLimit)
    (ran : (continued floor left).run parser = .ok expr after) :
    RecordsHeight expr after := by
  rw [continued, continuedWith_run] at ran
  exact records_unary.foldOperators _ floor recorded short _ _ _ ran

end Reading

/-! ## Calls -/

namespace Parser

open Reading (RecordsHeight)

theorem answered_eq_ok_iff
    {result : EStateM.Result SyntaxError Parser Expr}
    {expr : Expr}
    {after : Parser} :
    answered result = (.reading (.ok expr), after) ↔ result = .ok expr after := by
  cases result <;> simp [answered]

/-- The call goes on with an expression only if its height is recorded and within the limit. -/
def Call.GoesOnRecorded (parser : Parser) (call : Call) : Prop :=
  ∀ floor left,
    call = .continued floor left → left.height ≤ parser.height ∧ left.height ≤ nestingLimit

/-- What a call gives is recorded. -/
theorem recordsHeight_of_perform
    {parser after : Parser}
    {call : Call}
    {expr : Expr}
    (goesOn : call.GoesOnRecorded parser)
    (performed : parser.perform call = (.reading (.ok expr), after)) :
    RecordsHeight expr after := by
  cases call with
  | primary => exact Reading.records_primary _ _ _ (answered_eq_ok_iff.1 performed)
  | unary => exact Reading.records_unary _ _ _ (answered_eq_ok_iff.1 performed)
  | expression => exact Reading.records_expression _ _ _ (answered_eq_ok_iff.1 performed)
  | continued floor left =>
      rcases goesOn floor left rfl with ⟨recorded, short⟩
      exact Reading.records_continued floor recorded short (answered_eq_ok_iff.1 performed)
  | command => cases performed

/-- No call that goes on recorded gives an expression beyond the limit, nor does a command. -/
theorem height_le_of_perform
    {parser : Parser}
    {call : Call}
    (goesOn : call.GoesOnRecorded parser)
    (expr : Expr)
    (member : expr ∈ (parser.perform call).1.exprs) :
    expr.height ≤ nestingLimit := by
  cases asks : call.reading? with
  | none =>
      simp only [perform, asks] at member
      cases parsed : parser.readCommand.command with
      | none =>
          simp [parsed, Answer.exprs] at member
      | some command =>
          rw [parsed] at member
          rcases exists_operand_of_mem_arguments parsed expr member with ⟨operand, within, rfl, _⟩
          exact within.short
  | some reading =>
      have performed : parser.perform call = answered (reading.run parser) := by
        simp only [perform, asks]
      rw [performed] at member
      cases ran : reading.run parser with
      | error error after =>
          simp [ran, answered, Answer.exprs] at member
      | ok tree after =>
          rw [ran] at member performed
          rw [List.mem_singleton.1 member]
          exact (recordsHeight_of_perform goesOn performed).short

/--
The calls go on only with expressions that were returned before and whose heights are still
recorded: an expression was returned by the call just before, or nothing that was called
since has recorded less than its height.
-/
def GoesOnRecorded (parser : Parser) (calls : List Call) : Prop :=
  ∀ earlier floor left later,
    calls = earlier ++ .continued floor left :: later →
    (∃ answer ∈ (parser.performAll earlier).1, left ∈ answer.exprs) ∧
      ((parser.performAll earlier).1.getLast? = some (.reading (.ok left)) ∨
        left.height ≤ (parser.performAll earlier).2.height)

theorem GoesOnRecorded.of_concat
    {parser : Parser}
    {calls : List Call}
    {last : Call}
    (goesOn : parser.GoesOnRecorded (calls ++ [last])) :
    parser.GoesOnRecorded calls := by
  rintro earlier floor left later rfl
  exact goesOn earlier floor left (later ++ [last]) (by simp)

/-- As long as calls go on recorded, all that they return is within the limit, and what the last
one returned is recorded. -/
theorem GoesOnRecorded.heights
    {parser : Parser}
    {calls : List Call}
    (goesOn : parser.GoesOnRecorded calls) :
    (∀ answer ∈ (parser.performAll calls).1, ∀ expr ∈ answer.exprs,
      expr.height ≤ nestingLimit) ∧
      ∀ expr,
        (parser.performAll calls).1.getLast? = some (.reading (.ok expr)) →
        expr.height ≤ (parser.performAll calls).2.height := by
  induction calls using List.reverseRecOn with
  | nil =>
      simp [performAll]
  | append_singleton calls last callsHypothesis =>
      rcases callsHypothesis goesOn.of_concat with ⟨short, lastRecorded⟩
      have lastGoesOn : last.GoesOnRecorded (parser.performAll calls).2 := by
        rintro floor left rfl
        rcases goesOn calls floor left [] rfl with ⟨⟨answer, answered, returned⟩, recorded⟩
        exact ⟨recorded.elim (lastRecorded left) id, short answer answered left returned⟩
      rw [performAll_concat]
      constructor
      · rw [List.forall_mem_append, List.forall_mem_singleton]
        exact ⟨short, height_le_of_perform lastGoesOn⟩
      · intro expr isLast
        rw [List.getLast?_concat, Option.some.injEq] at isLast
        exact (recordsHeight_of_perform lastGoesOn (Prod.ext isLast rfl)).covered

/--
Let a parser in front of any tokens be called in any order, failing calls included.  A call
that does not go on with an expression returns none with more than 256 levels, nor does a
command have such an argument, whatever was called before.  The same holds for all calls as
long as they go on only with expressions that were returned before and whose heights are
still recorded: an expression was returned by the call just before, or no call since, be it
one that failed or a command, has left a lower height recorded.
-/
theorem returned_heights_within_limit
    (tokens : List Token)
    (calls : List Call) :
    (∀ call,
      (∀ floor left, call ≠ .continued floor left) →
      ∀ expr ∈ (((Parser.ofTokens tokens).performAll calls).2.perform call).1.exprs,
        expr.height ≤ 256) ∧
      ((Parser.ofTokens tokens).GoesOnRecorded calls →
        ∀ answer ∈ ((Parser.ofTokens tokens).performAll calls).1,
        ∀ expr ∈ answer.exprs,
          expr.height ≤ 256) := by
  constructor
  · intro call fresh
    exact height_le_of_perform fun floor left same => absurd same (fresh floor left)
  · intro goesOn
    exact goesOn.heights.1

/-- The tokens of `a (a + * a`, so many columns further right. -/
def tokensOfBrokenGroup (column : Nat) : List Token :=
  [⟨.identifier, ⟨column, column⟩, "a"⟩,
    ⟨.openParen, ⟨column + 2, column + 2⟩, "("⟩,
    ⟨.identifier, ⟨column + 3, column + 3⟩, "a"⟩,
    ⟨.plus, ⟨column + 5, column + 5⟩, "+"⟩,
    ⟨.star, ⟨column + 7, column + 7⟩, "*"⟩,
    ⟨.identifier, ⟨column + 9, column + 9⟩, "a"⟩]

/-- A call that fails in between records no less than the height of a name, so it is harmless for
a name: `a`, then the group that breaks off, then `a * a`. -/
theorem returned_heights_within_limit_of_name :
    ∃ name product error,
      ((Parser.ofTokens (tokensOfBrokenGroup 0)).performAll
          [.primary, .unary, .continued 0 name]).1 =
        [.reading (.ok name), .reading (.error error), .reading (.ok product)] ∧
      (Parser.ofTokens (tokensOfBrokenGroup 0)).GoesOnRecorded
        [.primary, .unary, .continued 0 name] ∧
      product.height ≤ 256 := by
  let name : Expr := .literal (.identifier "a") ⟨0, 0⟩
  let calls : List Call := [.primary, .unary, .continued 0 name]
  have goesOn : (Parser.ofTokens (tokensOfBrokenGroup 0)).GoesOnRecorded calls := by
    intro earlier floor left later parts
    simp only [calls] at parts
    -- Only the last of the three calls goes on.
    rcases earlier with _ | ⟨first, _ | ⟨second, _ | ⟨third, others⟩⟩⟩
    · cases parts
    · cases parts
    · cases parts
      exact ⟨⟨_, List.mem_cons_self, List.mem_cons_self⟩, Or.inr (Nat.le_refl 1)⟩
    · simp at parts
  refine ⟨name, _, _, rfl, goesOn, ?_⟩
  exact (returned_heights_within_limit (tokensOfBrokenGroup 0) calls).2 goesOn _
    (List.mem_cons_of_mem _ (List.mem_cons_of_mem _ List.mem_cons_self)) _ List.mem_cons_self

/-- 255 signs in front of a name, and then the group that breaks off. -/
def tokensOfTallOperand : List Token :=
  ((List.range 255).map fun column => ⟨.minus, ⟨column, column⟩, "-"⟩) ++ tokensOfBrokenGroup 255

-- The tree is as deep as the limit, and so is its evaluation.
set_option maxRecDepth 20000 in
/-- A call that fails leaves the height of a name recorded, and going on with the tall expression
that was returned before gives an expression beyond the limit. -/
theorem tree_outgrows_limit_behind_failed_call :
    ∃ tall taller after final,
      (Parser.ofTokens tokensOfTallOperand).performAll [.unary, .unary] =
          ([.reading (.ok tall), .reading (.error ⟨.expectedPrimary, 262⟩)], after) ∧
        tall.height = 256 ∧
        after.perform (.continued 0 tall) = (.reading (.ok taller), final) ∧
        taller.height = 257 :=
  ⟨_, _, _, _, rfl, rfl, rfl, rfl⟩

end Parser

end AsmShell
