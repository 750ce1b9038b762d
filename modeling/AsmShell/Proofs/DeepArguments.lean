import AsmShell.Proofs.ArgumentPieces
import AsmShell.Proofs.Lexemes
import AsmShell.Proofs.Unambiguity
import Mathlib.Data.List.Forall2

/-!
# Arguments that are nested too deeply

A reading in front of a derived operand either passes exactly this operand or finds it
nested too deeply at one of its tokens; there is no other way for it to fail.  In the
second case the operand is skipped, and what is skipped is the operand as well.  So an
argument beyond the limits costs one error and nothing of its neighbours.
-/

namespace AsmShell

open AsmShell.Text

/-! ## Following a derivation -/

/--
The reading has left one of the rests, or it has found the tokens nested too deeply and
points to one of them.
-/
def Follows
    (tokens : List Token)
    (rests : List Token → Prop) :
    EStateM.Result SyntaxError Parser Expr → Prop
  | .ok _ after => rests after.rest
  | .error error _ =>
      error.fault = .nestedTooDeeply ∧ ∃ token ∈ tokens, error.column = token.column

section Follows

variable
    {tokens more : List Token}
    {rests otherRests : List Token → Prop}
    {result : EStateM.Result SyntaxError Parser Expr}

theorem Follows.mono
    (follows : Follows tokens rests result)
    (isSubset : tokens ⊆ more)
    (widens : ∀ left, rests left → otherRests left) :
    Follows more otherRests result := by
  cases result with
  | ok expr after =>
      exact widens after.rest follows
  | error error after =>
      rcases follows with ⟨tooDeep, token, member, place⟩
      exact ⟨tooDeep, token, isSubset member, place⟩

/-- A reading that follows the first tokens and goes on behind them. -/
theorem Follows.andThen
    {next : Expr → Parser → EStateM.Result SyntaxError Parser Expr}
    (isSubset : tokens ⊆ more)
    (nextFollows :
      ∀ expr rest height, rests rest → Follows more otherRests (next expr ⟨rest, height⟩)) :
    Follows tokens rests result →
    Follows more otherRests
      (match result with
      | .error error after => .error error after
      | .ok expr after => next expr after) := by
  intro follows
  cases result with
  | ok expr after =>
      exact nextFollows expr after.rest after.height follows
  | error error after =>
      rcases follows with ⟨tooDeep, token, member, place⟩
      exact ⟨tooDeep, token, isSubset member, place⟩

end Follows

namespace Reading

/-- In front of a derived operand, the reading follows it. -/
def FollowsOperands (reading : Reading Expr) : Prop :=
  ∀ operand : Operand,
    operand.Derived →
    ∀ behind height,
      Follows operand.tokens (· = behind) (reading.run ⟨operand.tokens ++ behind, height⟩)

/-- What a fold leaves of the joints in front of it. -/
def LeavesJoints (joints : List Joint) (rest : List Token) (left : List Token) : Prop :=
  ∃ taken kept, joints = taken ++ kept ∧ left = kept.flatMap Joint.tokens ++ rest

variable {operand : Reading Expr}

theorem foldOperators_follows
    (follows : FollowsOperands operand)
    (tokensLeft : Nat)
    (floor : Int)
    (leftHeight : Nat)
    (left : Expr)
    (joints : List Joint)
    (rest : List Token)
    (height : Nat)
    (operators : ∀ joint ∈ joints, joint.operator.kind.binaryOp? = some joint.op)
    (operands : ∀ joint ∈ joints, joint.operand.Derived)
    (stops : StopsAt 0 rest) :
    Follows (joints.flatMap Joint.tokens) (LeavesJoints joints rest)
      ((foldOperators operand tokensLeft floor leftHeight left).run
        ⟨joints.flatMap Joint.tokens ++ rest, height⟩) := by
  induction tokensLeft generalizing floor leftHeight left joints height with
  | zero =>
      exact ⟨[], joints, rfl, rfl⟩
  | succ tokensLeft shorter =>
      cases joints with
      | nil =>
          have plain : (Parser.mk rest height).current.kind.binaryOp? = none :=
            (Parser.mk rest height).stopsAt_zero_iff.1 stops
          rw [foldOperators_succ_run]
          simp only [List.flatMap_nil, List.nil_append, plain]
          exact ⟨[], [], rfl, rfl⟩
      | cons joint others =>
          rw [List.forall_mem_cons] at operators operands
          have inside := TokenKind.ne_endOfLine_of_binaryOp? operators.1
          have jointSubset : joint.operand.tokens ⊆ (joint :: others).flatMap Joint.tokens := by
            rw [List.flatMap_cons]
            exact List.subset_append_of_subset_left _ (List.subset_cons_self _ _)
          have othersSubset :
              others.flatMap Joint.tokens ⊆ (joint :: others).flatMap Joint.tokens := by
            rw [List.flatMap_cons]
            exact List.subset_append_right _ _
          have parser_eq :
              (⟨(joint :: others).flatMap Joint.tokens ++ rest, height⟩ : Parser) =
                ⟨joint.operator ::
                  (joint.operand.tokens ++ (others.flatMap Joint.tokens ++ rest)), height⟩ := by
            simp [Joint.tokens]
          rw [foldOperators_succ_run, parser_eq]
          simp only [Parser.current_cons, operators.1, Parser.advanced_cons _ _ _ inside]
          by_cases below : joint.op.precedence < floor
          · rw [if_pos below]
            exact ⟨[], joint :: others, rfl, by simp [Joint.tokens]⟩
          · rw [if_neg below]
            refine Follows.andThen jointSubset ?_ (follows joint.operand operands.1 _ height)
            rintro first _ firstHeight rfl
            rw [extendedRight_eq]
            refine Follows.andThen othersSubset ?_ (shorter _ _ _ others _ operators.2 operands.2)
            rintro right _ rightHeight ⟨taken, kept, rfl, rfl⟩
            rw [List.forall_mem_append] at operators operands
            split
            · refine ⟨rfl, joint.operator, ?_, rfl⟩
              rw [List.flatMap_cons]
              exact List.mem_append_left _ List.mem_cons_self
            · refine (shorter _ _ _ kept _ operators.2.2 operands.2.2).mono ?_ ?_
              · refine List.Subset.trans ?_ othersSubset
                rw [List.flatMap_append]
                exact List.subset_append_right _ _
              · rintro _ ⟨keptTaken, keptKept, rfl, rfl⟩
                exact ⟨joint :: (taken ++ keptTaken), keptKept, by simp, rfl⟩

/-- In front of a derived chain that no operator follows, the reader of expressions follows it. -/
theorem expressionWith_follows
    {levels : Nat}
    (reads : Reads operand (Operand.Within levels))
    (follows : FollowsOperands operand)
    {chain : Chain}
    (derived : chain.Derived)
    (rest : List Token)
    (height : Nat)
    (stops : StopsAt 0 rest) :
    Follows chain.tokens (· = rest)
      ((expressionWith operand).run ⟨chain.tokens ++ rest, height⟩) := by
  have ran :
      Follows chain.tokens (LeavesJoints chain.joints rest)
        ((expressionWith operand).run ⟨chain.tokens ++ rest, height⟩) := by
    rw [expressionWith_run, Chain.tokens, List.append_assoc]
    refine Follows.andThen (List.subset_append_left _ _) ?_
      (follows chain.first derived.first _ height)
    rintro left _ leftHeight rfl
    rw [continuedWith_run]
    exact (foldOperators_follows follows _ _ _ _ chain.joints rest _ derived.operators
      derived.operands stops).mono (List.subset_append_right _ _) fun _ => id
  cases read : (expressionWith operand).run ⟨chain.tokens ++ rest, height⟩ with
  | error error after =>
      rw [read] at ran
      exact ran
  | ok expr after =>
      rw [read] at ran
      rcases ran with ⟨taken, kept, parts, left⟩
      rcases (expressionWith_run_eq_ok_iff reads _ _ _).1 read with
        ⟨_, _, _, finished, _, _⟩
      -- A joint that is kept would begin with an operator, where the reading has stopped.
      cases kept with
      | nil =>
          exact left
      | cons joint others =>
          have written : joint.operator.kind.binaryOp? = some joint.op :=
            derived.operators joint (by simp [parts])
          rw [Parser.current_of_rest_eq left, written] at finished
          cases finished

/-- The reader of operands follows every derived operand. -/
theorem unaryWithin_followsOperands
    (levels : Nat) :
    FollowsOperands (unaryWithin levels) := by
  induction levels with
  | zero =>
      intro operand derived behind height
      refine ⟨rfl, ?_⟩
      rcases derived.covers with ⟨first, _, isFirst, _⟩
      rcases List.head?_eq_some_iff.1 isFirst with ⟨others, tokens⟩
      rw [tokens]
      exact ⟨first, List.mem_cons_self, rfl⟩
  | succ levels lower =>
      intro operand derived behind height
      rw [unaryWithin_succ_run]
      cases derived with
      | @leaf token tree leaf =>
          have read : Reading.leaf token = .ok tree := (leaf_eq_ok_iff _ _).2 leaf
          simp only [Operand.leaf, List.singleton_append, Parser.current_cons,
            leaf.unaryOp?_eq_none, primaryWith_run, if_neg leaf.kind_ne_openParen, read,
            Parser.advanced_cons _ _ _ leaf.kind_ne_endOfLine]
          rfl
      | @prefixed operator op inner written innerDerived =>
          have inside := TokenKind.ne_endOfLine_of_unaryOp? written
          simp only [Operand.prefixed, List.cons_append, Parser.current_cons, written,
            Parser.advanced_cons _ _ _ inside]
          refine Follows.andThen (List.subset_cons_self _ _) ?_
            (lower inner innerDerived behind height)
          rintro tree _ treeHeight rfl
          simp only
          split
          · exact ⟨rfl, operator, List.mem_cons_self, rfl⟩
          · rfl
      | @group opening closing first joints opens firstDerived operators operands closes =>
          have inside : opening.kind ≠ .endOfLine := by simp [opens]
          have closingInside : closing.kind ≠ .endOfLine := by simp [closes]
          have stops : StopsAt 0 (closing :: behind) :=
            (Parser.mk (closing :: behind) height).stopsAt_zero_iff.2
              (by simp [closes, TokenKind.binaryOp?])
          simp only [Operand.group, List.cons_append, List.append_assoc,
            List.nil_append, Parser.current_cons, opens, TokenKind.unaryOp?, primaryWith_run,
            groupingWith_run, if_true, Parser.advanced_cons _ _ _ inside]
          refine Follows.andThen ?_ ?_
            (expressionWith_follows (unaryWithin_reads levels) lower
              ⟨firstDerived, operators, operands⟩ (closing :: behind) height stops)
          · exact List.subset_cons_of_subset _ (List.subset_append_left _ _)
          · rintro tree _ treeHeight rfl
            simp only [Parser.current_cons, if_pos closes,
              Parser.advanced_cons _ _ _ closingInside]
            rfl

end Reading

/-! ## One argument -/

/-- Whether the tree has at most 256 levels and each token is enclosed by at most 255 operators
and parentheses. -/
def Operand.respectsLimits (operand : Operand) : Bool :=
  decide (operand.tree.height ≤ 256 ∧ ∀ enclosing ∈ operand.enclosures, enclosing ≤ 255)

theorem Operand.Derived.respectsLimits_iff
    {operand : Operand}
    (derived : operand.Derived) :
    operand.respectsLimits = true ↔ operand.Within nestingLimit := by
  rw [Operand.respectsLimits, decide_eq_true_iff]
  constructor
  · rintro ⟨short, shallow⟩
    exact ⟨derived, short, fun enclosing member => Nat.lt_succ_of_le (shallow enclosing member)⟩
  · intro within
    exact ⟨within.short, fun enclosing member =>
      Nat.le_of_lt_succ (within.shallow enclosing member)⟩

/-- The error finds the operand nested too deeply and points to one of its tokens. -/
def Operand.RefusedBy (operand : Operand) (error : SyntaxError) : Prop :=
  error.fault = .nestedTooDeeply ∧ ∃ token ∈ operand.tokens, error.column = token.column

/-- The outcome of an operand: its tree within the limits, and one error beyond them. -/
def Operand.Gives (operand : Operand) : Except SyntaxError Expr → Prop
  | .ok tree => operand.respectsLimits = true ∧ tree = operand.tree
  | .error error => operand.respectsLimits = false ∧ operand.RefusedBy error

/-- A derived operand is passed as one argument, whether it is within the limits or not. -/
theorem Parser.readArgument_of_derived
    {operand : Operand}
    (derived : operand.Derived)
    (behind : List Token)
    (height : Nat) :
    ∃ outcome after,
      readArgument ⟨operand.tokens ++ behind, height⟩ = (outcome, after) ∧
        after.rest = behind ∧ operand.Gives outcome := by
  have follows :=
    Reading.unaryWithin_followsOperands nestingLimit operand derived behind height
  rw [readArgument, Reading.unary]
  cases ran :
      (Reading.unaryWithin nestingLimit).run ⟨operand.tokens ++ behind, height⟩ with
  | ok tree after =>
      rw [ran] at follows
      refine ⟨.ok tree, after, rfl, follows, ?_⟩
      rcases (Reading.unaryWithin_reads nestingLimit _ _ _).1 ran with
        ⟨read, within, passed, rfl, _⟩
      have passed : operand.tokens ++ behind = read.tokens ++ after.rest := passed
      rw [show after.rest = behind from follows] at passed
      have same : operand = read :=
        derived.eq_of_tokens_eq within.derived (List.append_cancel_right passed)
      subst same
      exact ⟨derived.respectsLimits_iff.2 within, rfl⟩
  | error error after =>
      rw [ran] at follows
      rcases follows with ⟨tooDeep, pointed⟩
      refine ⟨.error error, ⟨behind, after.height⟩, ?_, rfl, ?_, tooDeep, pointed⟩
      · simp only [if_pos tooDeep, derived.skipArgument_append]
      · rw [Bool.eq_false_iff]
        intro admitted
        have read :
            (Reading.unaryWithin nestingLimit).run ⟨operand.tokens ++ behind, height⟩ =
              .ok operand.tree ⟨behind, operand.tree.height⟩ :=
          (Reading.unaryWithin_reads nestingLimit _ _ _).2
            ⟨operand, derived.respectsLimits_iff.1 admitted, rfl, rfl, rfl⟩
        rw [ran] at read
        cases read

/-! ## All arguments -/

/-- Operands that are passed as one argument each are passed one after the other. -/
theorem Parser.readArguments_of_each
    {relation : Operand → Except SyntaxError Expr → Prop}
    (operands : List Operand)
    (derived : ∀ operand ∈ operands, operand.Derived)
    (each :
      ∀ operand ∈ operands, ∀ behind height,
        ∃ outcome after,
          readArgument ⟨operand.tokens ++ behind, height⟩ = (outcome, after) ∧
            after.rest = behind ∧ relation operand outcome)
    {ending : Token}
    (isEnd : ending.kind = .endOfLine)
    (tokensLeft : Nat)
    (enough : operands.length ≤ tokensLeft)
    (height : Nat) :
    ∃ outcomes final,
      readArguments tokensLeft ⟨operands.flatMap Operand.tokens ++ [ending], height⟩ =
          (outcomes, final) ∧
        List.Forall₂ relation operands outcomes := by
  induction operands generalizing tokensLeft height with
  | nil =>
      refine ⟨[], ⟨[ending], height⟩, ?_, .nil⟩
      cases tokensLeft with
      | zero => rfl
      | succ tokensLeft => exact if_pos isEnd
  | cons operand others othersHypothesis =>
      rw [List.forall_mem_cons] at derived each
      rw [List.length_cons] at enough
      cases tokensLeft with
      | zero =>
          omega
      | succ tokensLeft =>
          rcases each.1 (others.flatMap Operand.tokens ++ [ending]) height with
            ⟨outcome, ⟨rest, afterHeight⟩, read, left, gives⟩
          have left : rest = others.flatMap Operand.tokens ++ [ending] := left
          subst left
          rcases othersHypothesis derived.2 each.2 tokensLeft (by omega) afterHeight with
            ⟨outcomes, final, othersRead, othersGive⟩
          refine ⟨outcome :: outcomes, final, ?_, .cons gives othersGive⟩
          have inside :
              (Parser.mk (operand.tokens ++ (others.flatMap Operand.tokens ++ [ending]))
                height).current.kind ≠ .endOfLine := by
            rcases derived.1.covers with ⟨first, _, isFirst, _⟩
            rcases List.head?_eq_some_iff.1 isFirst with ⟨behind, tokens⟩
            rw [tokens]
            exact derived.1.kind_ne_endOfLine first (by simp [tokens])
          rw [List.flatMap_cons, List.append_assoc, readArguments, if_neg inside, read]
          simp only [othersRead]

theorem arguments_of_gives
    {operands : List Operand}
    {outcomes : List (Except SyntaxError Expr)}
    (give : List.Forall₂ Operand.Gives operands outcomes) :
    outcomes.filterMap (·.toOption) =
      (operands.filter Operand.respectsLimits).map Operand.tree := by
  induction give with
  | nil =>
      rfl
  | @cons operand outcome others otherOutcomes gives _ othersHypothesis =>
      cases outcome with
      | ok tree =>
          rcases gives with ⟨admitted, rfl⟩
          rw [List.filter_cons_of_pos admitted, List.map_cons, ← othersHypothesis]
          rfl
      | error error =>
          rw [List.filter_cons_of_neg (by simp [gives.1]), ← othersHypothesis]
          rfl

/-- The error of an outcome that is not a tree. -/
def refusal? : Except SyntaxError Expr → Option SyntaxError
  | .ok _ => none
  | .error error => some error

theorem errors_of_gives
    {operands : List Operand}
    {outcomes : List (Except SyntaxError Expr)}
    (give : List.Forall₂ Operand.Gives operands outcomes)
    {relation : Operand → SyntaxError → Prop}
    (refused :
      ∀ operand ∈ operands, ∀ error, operand.RefusedBy error → relation operand error) :
    List.Forall₂ relation
      (operands.filter fun operand => !operand.respectsLimits)
      (outcomes.filterMap refusal?) := by
  induction give with
  | nil =>
      exact .nil
  | @cons operand outcome others otherOutcomes gives _ othersHypothesis =>
      rw [List.forall_mem_cons] at refused
      cases outcome with
      | ok tree =>
          rw [List.filter_cons_of_neg (by simp [gives.1])]
          exact othersHypothesis refused.2
      | error error =>
          rw [List.filter_cons_of_pos (by simp [gives.1])]
          exact .cons (refused.1 error gives.2) (othersHypothesis refused.2)

/-! ## Each argument alone -/

theorem Operand.Within.moveColumns
    {levels : Nat}
    {operand : Operand}
    (within : operand.Within levels)
    (move : Nat → Nat) :
    (operand.moveColumns move).Within levels where
  derived := within.derived.moveColumns move
  short := by
    rw [Operand.moveColumns, Expr.height_moveColumns]
    exact within.short
  shallow := within.shallow

/-- The text that an operand covers is read as the operand, counted from its own beginning. -/
theorem Operand.Within.exists_read_slice
    {operand : Operand}
    (within : operand.Within nestingLimit)
    {line : String}
    {before after : List Token}
    (scanned : tokenize line = before ++ (operand.tokens ++ after)) :
    ∃ alone final,
      Reading.unary.run (Parser.ofLine (operand.tree.span.slice line)) = .ok alone final ∧
        final.current.kind = .endOfLine ∧
        operand.tree = alone.moveColumns (· + operand.tree.span.first) := by
  rcases within.derived.covers with ⟨first, last, isFirst, isLast, covered⟩
  have sliceTokens :=
    tokenize_slice line before operand.tokens after first last scanned isFirst isLast
      (within.derived.kind_ne_endOfLine last (List.mem_of_getLast? isLast))
  rw [covered]
  generalize Span.slice ⟨first.column, last.span.last⟩ line = slice at sliceTokens ⊢
  have moved := within.moveColumns (· - first.column)
  have sliceScanned :
      tokenize slice =
        (operand.moveColumns (· - first.column)).tokens ++
          [Token.endOfLine (last.span.last + 1 - first.column)] := by
    rw [← Token.map_moveColumns_add_sub first.column (tokenize slice), sliceTokens,
      List.map_append]
    rfl
  have read :
      Reading.unary.run (Parser.ofLine slice) =
        .ok (operand.moveColumns (· - first.column)).tree
          ⟨[Token.endOfLine (last.span.last + 1 - first.column)],
            (operand.moveColumns (· - first.column)).tree.height⟩ := by
    rw [Parser.ofLine_eq, sliceScanned]
    exact (Reading.unaryWithin_reads nestingLimit _ _ _).2 ⟨_, moved, rfl, rfl, rfl⟩
  refine ⟨_, _, read, rfl, ?_⟩
  -- Moved back, the operand has the tokens it had in the line, and these decide it.
  rw [sliceScanned, List.map_append] at sliceTokens
  have back := moved.derived.moveColumns (· + first.column)
  have same := within.derived.eq_of_tokens_eq back (List.append_inj' sliceTokens rfl).1.symm
  exact congrArg Operand.tree same

theorem length_le_length_flatMap_tokens
    (operands : List Operand)
    (derived : ∀ operand ∈ operands, operand.Derived) :
    operands.length ≤ (operands.flatMap Operand.tokens).length := by
  induction operands with
  | nil =>
      exact Nat.le_refl 0
  | cons operand others othersHypothesis =>
      rw [List.forall_mem_cons] at derived
      have shorter := othersHypothesis derived.2
      have positive : 0 < operand.tokens.length := by
        rcases derived.1.covers with ⟨first, _, isFirst, _⟩
        exact List.length_pos_of_mem (List.mem_of_head? isFirst)
      rw [List.flatMap_cons, List.length_append, List.length_cons]
      omega

/-- A line with derived operands behind its name gives the outcomes of the operands. -/
theorem exists_parseLine_of_each
    {relation : Operand → Except SyntaxError Expr → Prop}
    {line : String}
    {name ending : Token}
    {operands : List Operand}
    (scanned : tokenize line = name :: (operands.flatMap Operand.tokens ++ [ending]))
    (named : name.kind = .identifier)
    (derived : ∀ operand ∈ operands, operand.Derived)
    (each :
      ∀ operand ∈ operands, ∀ behind height,
        ∃ outcome after,
          Parser.readArgument ⟨operand.tokens ++ behind, height⟩ = (outcome, after) ∧
            after.rest = behind ∧ relation operand outcome) :
    ∃ outcomes final,
      List.Forall₂ relation operands outcomes ∧
        parseLine line =
          { command := some ⟨name.text, name.span, outcomes.filterMap (·.toOption)⟩
            errors := outcomes.filterMap refusal?
            parser := final } := by
  have isEnd : ending.kind = .endOfLine := by
    have closed := closedBy_tokenize line
    rw [scanned, ← List.cons_append] at closed
    rcases closed.parts with ⟨body, parts, _⟩
    cases (List.append_inj' parts rfl).2
    exact closed.isEnd
  have inside : name.kind ≠ .endOfLine := by
    simp [named]
  have enough :
      operands.length ≤ (name :: (operands.flatMap Operand.tokens ++ [ending])).length := by
    have := length_le_length_flatMap_tokens operands derived
    simp only [List.length_cons, List.length_append, List.length_nil]
    omega
  rcases Parser.readArguments_of_each operands derived each isEnd _ enough 0 with
    ⟨outcomes, final, read, give⟩
  refine ⟨outcomes, final, give, ?_⟩
  simp only [parseLine, Parser.ofLine_eq, scanned, Parser.readCommand, Parser.current_cons,
    if_pos named, Parser.advanced_cons _ _ _ inside, read]
  rfl

/-- A line with a name and operands within the limits is read as a command with all their trees,
and nothing is wrong with it. -/
theorem parseLine_of_operands
    {line : String}
    {name ending : Token}
    {operands : List Operand}
    (scanned : tokenize line = name :: (operands.flatMap Operand.tokens ++ [ending]))
    (named : name.kind = .identifier)
    (within : ∀ operand ∈ operands, operand.Within nestingLimit) :
    (parseLine line).command = some ⟨name.text, name.span, operands.map Operand.tree⟩ ∧
      (parseLine line).errors = [] := by
  have derived : ∀ operand ∈ operands, operand.Derived :=
    fun operand member => (within operand member).derived
  have admitted : ∀ operand ∈ operands, operand.respectsLimits = true :=
    fun operand member => (derived operand member).respectsLimits_iff.2 (within operand member)
  rcases exists_parseLine_of_each scanned named derived
      (fun operand member => Parser.readArgument_of_derived (derived operand member)) with
    ⟨outcomes, final, give, parsed⟩
  have refused := errors_of_gives give fun _ _ _ refusal => refusal
  rw [parsed, arguments_of_gives give, List.filter_eq_self.2 admitted]
  rw [List.filter_eq_nil_iff.2 (by simpa using admitted)] at refused
  exact ⟨rfl, List.forall₂_nil_left_iff.1 refused⟩

/--
Let the tokens behind the name of a command be those of derived operands.  Then its
arguments are the trees of the operands that respect the limits, in their order, and
each of them is what the text of the operand is read as alone, apart from its columns.
For each of the other operands one error is reported, at a column inside the operand,
and nothing else is reported.
-/
theorem deep_arguments_dropped_alone
    (line : String)
    (name ending : Token)
    (operands : List Operand)
    (scanned : tokenize line = name :: (operands.flatMap Operand.tokens ++ [ending]))
    (named : name.kind = .identifier)
    (derived : ∀ operand ∈ operands, operand.Derived) :
    (parseLine line).command =
        some ⟨name.text, name.span,
          (operands.filter Operand.respectsLimits).map Operand.tree⟩ ∧
      List.Forall₂
        (fun operand error =>
          error.message = "expression nested too deeply" ∧
            operand.tree.span.first ≤ error.column ∧ error.column ≤ operand.tree.span.last)
        (operands.filter fun operand => !operand.respectsLimits)
        (parseLine line).errors ∧
      ∀ operand ∈ operands.filter Operand.respectsLimits,
        ∃ alone final,
          Reading.unary.run (Parser.ofLine (operand.tree.span.slice line)) = .ok alone final ∧
            final.current.kind = .endOfLine ∧
            operand.tree = alone.moveColumns (· + operand.tree.span.first) := by
  rcases exists_parseLine_of_each scanned named derived
      (fun operand member => Parser.readArgument_of_derived (derived operand member)) with
    ⟨outcomes, final, give, parsed⟩
  rw [parsed, arguments_of_gives give]
  have scannedAround :
      ∀ operand ∈ operands,
        ∃ before after, tokenize line = before ++ (operand.tokens ++ after) := by
    intro operand member
    rcases List.append_of_mem member with ⟨before, others, rfl⟩
    refine ⟨name :: before.flatMap Operand.tokens,
      others.flatMap Operand.tokens ++ [ending], ?_⟩
    rw [scanned]
    simp
  refine ⟨rfl, errors_of_gives give ?_, ?_⟩
  · rintro operand member error ⟨tooDeep, token, tokenMember, place⟩
    rcases scannedAround operand member with ⟨before, after, around⟩
    have inOrder := inOrder_tokenize line
    rw [around] at inOrder
    have operandInOrder : InOrder operand.tokens :=
      inOrder.of_sublist
        ((List.sublist_append_left _ _).trans (List.sublist_append_right _ _))
    have bounds := (derived operand member).covers.bounds operandInOrder token tokenMember
    have covering := operandInOrder.covering token tokenMember
    refine ⟨?_, by omega, by omega⟩
    rw [SyntaxError.message, tooDeep]
    rfl
  · intro operand member
    rcases List.mem_filter.1 member with ⟨operandMember, admitted⟩
    rcases scannedAround operand operandMember with ⟨before, after, around⟩
    have within := (derived operand operandMember).respectsLimits_iff.1 admitted
    exact within.exists_read_slice around

/-! ## Signs in front of a name -/

/-- The name `a` with minus signs in front of it, from a column on. -/
def Operand.negated (column : Nat) : (signs : Nat) → Operand
  | 0 =>
      .leaf (.ofSource .identifier column ['a']) (.literal (.identifier "a") ⟨column, column⟩)
  | signs + 1 =>
      .prefixed (.ofSource .minus column ['-']) .negate (negated (column + 1) signs)

theorem Operand.derived_negated
    (column signs : Nat) :
    (negated column signs).Derived := by
  induction signs generalizing column with
  | zero =>
      exact .leaf (.identifier rfl)
  | succ signs signsHypothesis =>
      exact .prefixed rfl (signsHypothesis (column + 1))

theorem Operand.mem_enclosures_negated
    (column signs : Nat) :
    signs ∈ (negated column signs).enclosures := by
  induction signs generalizing column with
  | zero =>
      exact List.mem_singleton_self 0
  | succ signs signsHypothesis =>
      exact List.mem_cons_of_mem _ (List.mem_map_of_mem (signsHypothesis (column + 1)))

theorem Operand.span_tree_negated
    (column signs : Nat) :
    (negated column signs).tree.span = ⟨column, column + signs⟩ := by
  induction signs generalizing column with
  | zero =>
      rfl
  | succ signs signsHypothesis =>
      have last := congrArg Span.last (signsHypothesis (column + 1))
      have reaches : column + 1 + signs = column + (signs + 1) := by omega
      exact congrArg (Span.mk column) (last.trans reaches)

theorem Operand.tokensFrom_negated
    {following : List Char}
    (ended : ∀ next ∈ following.head?, isBareNameChar next = false)
    (column signs : Nat) :
    tokensFrom column 0 (List.replicate signs '-' ++ 'a' :: following) =
      (negated column signs).tokens ++ tokensFrom (column + signs + 1) 0 following := by
  induction signs generalizing column with
  | zero =>
      exact tokensFrom_longestMatch
        (longestMatch_identifier (by decide) (List.forall_mem_nil _) ended) column
  | succ signs signsHypothesis =>
      have unprolonged :
          ∀ next ∈ (List.replicate signs '-' ++ 'a' :: following).head?,
            prolongsSymbol next = false := by
        rintro next isNext
        cases signs with
        | zero =>
            cases isNext
            decide
        | succ signs =>
            cases isNext
            decide
      have written : TokenKind.minus.symbol? = some "-" := rfl
      have minus := tokensFrom_longestMatch (longestMatch_symbol written unprolonged) column
      rw [show "-".toList = ['-'] from rfl, signsHypothesis] at minus
      rw [List.replicate_succ, List.cons_append]
      refine minus.trans ?_
      rw [negated, prefixed, List.cons_append, List.length_singleton]
      congr 3
      omega

/-- Behind 256 signs the name `a` is refused, and the same name after it is kept. -/
theorem deep_arguments_dropped_alone_of_signs :
    ∃ line error,
      line = String.ofList ("p ".toList ++ (List.replicate 256 '-' ++ "a a".toList)) ∧
        (parseLine line).command =
          some ⟨"p", ⟨0, 0⟩, [.literal (.identifier "a") ⟨260, 260⟩]⟩ ∧
        (parseLine line).errors = [error] ∧
        error.message = "expression nested too deeply" ∧
        2 ≤ error.column ∧ error.column ≤ 258 := by
  let operands : List Operand := [.negated 2 256, .negated 260 0]
  let line := String.ofList ("p ".toList ++ (List.replicate 256 '-' ++ "a a".toList))
  have scanned :
      tokenize line =
        .ofSource .identifier 0 ['p'] ::
          (operands.flatMap Operand.tokens ++ [Token.endOfLine 261]) := by
    have spaceFollows : ∀ next ∈ [' ', 'a'].head?, isBareNameChar next = false := by
      rintro next ⟨⟩
      decide
    have nothingFollows : ∀ next ∈ ([] : List Char).head?, isBareNameChar next = false := by
      rintro next ⟨⟩
    have nameScanned :
        tokenize line =
          .ofSource .identifier 0 ['p'] ::
            tokensFrom 2 0 (List.replicate 256 '-' ++ 'a' :: [' ', 'a']) := by
      rw [tokenize, String.toList_ofList]
      rfl
    have secondScanned :
        tokensFrom 259 0 [' ', 'a'] =
          (Operand.negated 260 0).tokens ++ [Token.endOfLine 261] :=
      Operand.tokensFrom_negated nothingFollows 260 0
    rw [nameScanned, Operand.tokensFrom_negated spaceFollows 2 256, secondScanned]
    simp only [operands, List.flatMap_cons, List.flatMap_nil, List.append_nil,
      List.append_assoc]
  have refused : (Operand.negated 2 256).respectsLimits = false := by
    rw [Operand.respectsLimits, decide_eq_false_iff_not]
    rintro ⟨_, shallow⟩
    exact absurd (shallow 256 (Operand.mem_enclosures_negated 2 256)) (by decide)
  have kept : (Operand.negated 260 0).respectsLimits = true := rfl
  have derived : ∀ operand ∈ operands, operand.Derived := by
    intro operand member
    rcases List.mem_pair.1 member with rfl | rfl
    · exact Operand.derived_negated 2 256
    · exact Operand.derived_negated 260 0
  rcases deep_arguments_dropped_alone line _ _ operands scanned rfl derived with
    ⟨command, errors, _⟩
  simp only [operands, List.filter_cons, List.filter_nil, refused, kept, Bool.not_false,
    Bool.not_true, if_true, Bool.false_eq_true, if_false] at command errors
  rcases List.forall₂_cons_left_iff.1 errors with
    ⟨error, others, ⟨message, behind, before⟩, rest, same⟩
  rw [Operand.span_tree_negated] at behind before
  refine ⟨line, error, rfl, command, ?_, message, behind, before⟩
  rw [same, List.forall₂_nil_left_iff.1 rest]

end AsmShell
