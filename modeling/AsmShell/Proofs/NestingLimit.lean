import AsmShell.Proofs.DeepArguments
import AsmShell.Proofs.PrintedExpressions
import Mathlib.Algebra.Order.BigOperators.Group.List
import Mathlib.Algebra.Order.Group.Nat

/-!
# The limit on nesting

An operand whose tree is not too tall is refused exactly if one of its tokens is enclosed
by `nestingLimit` operators and parentheses, and the error points to the first such token.

A reading that may open few levels is compared with one that may open so many that it goes
through.  Both take the same steps up to the first token at which no level is left; so what
is checked against the height of a tree, which the two readings build alike, stops neither.
-/

namespace AsmShell

open Text

/-! ## The first token that is nested too deeply -/

/-- The tokens of the operand, each with the number of what encloses it. -/
def Operand.enclosed (operand : Operand) : List (Token × Nat) :=
  operand.tokens.zip operand.enclosures

def Joint.enclosed (joint : Joint) : List (Token × Nat) :=
  (joint.operator, 0) :: joint.operand.enclosed

def Chain.enclosed (chain : Chain) : List (Token × Nat) :=
  chain.first.enclosed ++ chain.joints.flatMap Joint.enclosed

/-- The first of the tokens that is enclosed `levels` times or more. -/
def firstUnder (levels : Nat) (enclosed : List (Token × Nat)) : Option Token :=
  (enclosed.find? fun entry => levels ≤ entry.2).map (·.1)

/-- The first token under too many levels stands in front if there is one in front. -/
theorem firstUnder_append
    (levels : Nat)
    (front back : List (Token × Nat)) :
    firstUnder levels (front ++ back) =
      (firstUnder levels front).or (firstUnder levels back) := by
  rw [firstUnder, firstUnder, firstUnder, List.find?_append]
  cases front.find? fun entry => levels ≤ entry.2 <;> rfl

theorem firstUnder_plain
    {levels : Nat}
    (positive : 0 < levels)
    (token : Token) :
    firstUnder levels [(token, 0)] = none := by
  simp [firstUnder, positive.ne']

/-- One more level around all tokens. -/
def deepened (enclosed : List (Token × Nat)) : List (Token × Nat) :=
  enclosed.map fun entry => (entry.1, entry.2 + 1)

/-- One more level around everything is one level less to open. -/
theorem firstUnder_deepened
    (levels : Nat)
    (enclosed : List (Token × Nat)) :
    firstUnder (levels + 1) (deepened enclosed) = firstUnder levels enclosed := by
  rw [firstUnder, firstUnder, deepened, List.find?_map, Option.map_map]
  simp only [Function.comp_def, Nat.add_le_add_iff_right]

theorem Operand.enclosed_prefixed
    (operator : Token)
    (op : UnaryOp)
    (operand : Operand) :
    (Operand.prefixed operator op operand).enclosed =
      [(operator, 0)] ++ deepened operand.enclosed := by
  simp [enclosed, prefixed, deepened, List.zip_map_right, Prod.map]

/-- Every token of an operand has a number of what encloses it. -/
theorem Operand.Derived.length_enclosures
    {operand : Operand}
    (derived : operand.Derived) :
    operand.enclosures.length = operand.tokens.length := by
  induction derived with
  | leaf leaf =>
      rfl
  | prefixed written _ operandHypothesis =>
      simp [Operand.prefixed, operandHypothesis]
  | @group opening closing first joints opens _ operators _ closes firstHypothesis
      operandsHypothesis =>
      have jointLengths :
          (joints.flatMap Joint.enclosures).length = (joints.flatMap Joint.tokens).length := by
        rw [List.length_flatMap, List.length_flatMap]
        congr 1
        refine List.map_congr_left fun joint member => ?_
        simp [Joint.enclosures, Joint.tokens, operandsHypothesis joint member]
      simp [Operand.group, Chain.enclosures, Chain.tokens, firstHypothesis, jointLengths]

/-- Each token of a chain has its own number of levels. -/
theorem Chain.Derived.enclosed_eq
    {chain : Chain}
    (derived : chain.Derived) :
    chain.enclosed = chain.tokens.zip chain.enclosures ∧
      chain.enclosures.length = chain.tokens.length := by
  rcases chain with ⟨first, joints⟩
  have operands := derived.operands
  have joined :
      joints.flatMap Joint.enclosed =
          (joints.flatMap Joint.tokens).zip (joints.flatMap Joint.enclosures) ∧
        (joints.flatMap Joint.enclosures).length = (joints.flatMap Joint.tokens).length := by
    clear derived
    induction joints with
    | nil =>
        exact ⟨rfl, rfl⟩
    | cons joint others othersHypothesis =>
        rw [List.forall_mem_cons] at operands
        rcases othersHypothesis operands.2 with ⟨zipped, lengths⟩
        have jointLength : joint.enclosures.length = joint.tokens.length := by
          simp [Joint.enclosures, Joint.tokens, operands.1.length_enclosures]
        constructor
        · rw [List.flatMap_cons, List.flatMap_cons, List.flatMap_cons,
            List.zip_append jointLength.symm, ← zipped]
          rfl
        · rw [List.flatMap_cons, List.flatMap_cons, List.length_append, List.length_append,
            jointLength, lengths]
  have firstLength := derived.first.length_enclosures
  constructor
  · rw [enclosed, tokens, enclosures, List.zip_append firstLength.symm, ← joined.1]
    rfl
  · rw [enclosures, tokens, List.length_append, List.length_append, joined.2, firstLength]

theorem Operand.enclosed_group
    {chain : Chain}
    (derived : chain.Derived)
    (opening closing : Token) :
    (Operand.group opening chain closing).enclosed =
      [(opening, 0)] ++ (deepened chain.enclosed ++ [(closing, 0)]) := by
  rcases derived.enclosed_eq with ⟨zipped, lengths⟩
  have deeperLengths :
      chain.tokens.length = (chain.enclosures.map (· + 1)).length := by
    rw [List.length_map, lengths]
  rw [enclosed, group, List.zip_cons_cons, List.zip_append deeperLengths, zipped, deepened,
    List.zip_map_right]
  rfl

/-- No token is found exactly if all of them stand under fewer levels. -/
theorem Operand.Derived.firstUnder_eq_none_iff
    {operand : Operand}
    (derived : operand.Derived)
    (levels : Nat) :
    firstUnder levels operand.enclosed = none ↔
      ∀ enclosing ∈ operand.enclosures, enclosing < levels := by
  rw [firstUnder, Option.map_eq_none_iff, List.find?_eq_none]
  have lengths := derived.length_enclosures
  constructor
  · intro below enclosing member
    rw [← List.map_snd_zip (Nat.le_of_eq lengths)] at member
    rcases List.mem_map.1 member with ⟨entry, entryMember, rfl⟩
    have := below entry entryMember
    simpa using this
  · rintro below ⟨token, enclosing⟩ member
    have := below enclosing (List.of_mem_zip member).2
    simpa using this

/-- Where no level is left, the first token of an operand is one too deep. -/
theorem Operand.Derived.firstUnder_zero
    {operand : Operand}
    (derived : operand.Derived) :
    ∃ token behind,
      firstUnder 0 operand.enclosed = some token ∧ operand.tokens = token :: behind := by
  cases derived <;> exact ⟨_, _, rfl, rfl⟩

/-! ## Readings with fewer levels -/

/-- What a reading with fewer levels gives where a reading with more levels gives `full`: the same,
or an error at the token. -/
def Curtailed
    (stop : Option Token)
    (full limited : EStateM.Result SyntaxError Parser Expr) :
    Prop :=
  match stop with
  | none => limited = full
  | some token => ∃ after, limited = .error ⟨.nestedTooDeeply, token.column⟩ after

/-- A reading that is not stopped goes on, and one that is stopped does not. -/
theorem Curtailed.andThen
    {stop later : Option Token}
    {expr : Expr}
    {between : Parser}
    {full limited : EStateM.Result SyntaxError Parser Expr}
    {next : Expr → Parser → EStateM.Result SyntaxError Parser Expr}
    (goesOn : stop = none → Curtailed later full (next expr between)) :
    Curtailed stop (.ok expr between) limited →
    Curtailed (stop.or later) full
      (match limited with
      | .error error after => .error error after
      | .ok expr after => next expr after) := by
  intro curtailed
  cases stop with
  | none =>
      have same : limited = .ok expr between := curtailed
      rw [same, Option.none_or]
      exact goesOn rfl
  | some token =>
      rcases curtailed with ⟨after, rfl⟩
      exact ⟨after, rfl⟩

namespace Reading

variable
    {levels : Nat}
    {limited full : Reading Expr}

/-- Where the full reading goes through, it passes an operand, and the limited reading is stopped
at the first token of it that is enclosed too often. -/
def Curtails (levels : Nat) (limited full : Reading Expr) : Prop :=
  ∀ parser expr after,
    full.run parser = .ok expr after →
    ∃ operand : Operand,
      operand.Derived ∧ parser.rest = operand.tokens ++ after.rest ∧
        Curtailed (firstUnder levels operand.enclosed) (.ok expr after) (limited.run parser)

/-- A fold finds the first token under too many levels among its operands, in their order. -/
theorem Curtails.foldOperators
    (curtails : Curtails levels limited full)
    (tokensLeft : Nat)
    (floor : Int)
    (leftHeight : Nat)
    (left expr : Expr)
    (parser after : Parser)
    (ran : (foldOperators full tokensLeft floor leftHeight left).run parser = .ok expr after) :
    ∃ joints : List Joint,
      (∀ joint ∈ joints, joint.operator.kind.binaryOp? = some joint.op) ∧
        (∀ joint ∈ joints, joint.operand.Derived) ∧
        parser.rest = joints.flatMap Joint.tokens ++ after.rest ∧
        (0 < levels →
          Curtailed (firstUnder levels (joints.flatMap Joint.enclosed)) (.ok expr after)
            ((foldOperators limited tokensLeft floor leftHeight left).run parser)) := by
  induction tokensLeft generalizing floor leftHeight left expr parser after with
  | zero =>
      rw [foldOperators_zero_run, EStateM.Result.ok.injEq] at ran
      rcases ran with ⟨rfl, rfl⟩
      exact ⟨[], by simp, by simp, rfl, fun _ => rfl⟩
  | succ tokensLeft shorter =>
      rcases foldOperators_succ_run_eq_ok_iff.1 ran with
        ⟨stops, rfl, rfl⟩ |
        ⟨op, first, behindFirst, right, behindRight, written, aboveFloor, firstRead, rightRead,
          short, ran⟩
      · exact ⟨[], by simp, by simp, rfl, fun _ => foldOperators_run_of_stopsAt _ _ stops _⟩
      · have inFront := parser.rest_eq_current_cons (TokenKind.ne_endOfLine_of_binaryOp? written)
        rw [extendedRight_eq] at rightRead
        rcases curtails _ _ _ firstRead with
          ⟨firstOperand, firstDerived, firstPassed, firstCurtailed⟩
        rcases shorter _ _ _ _ _ _ rightRead with
          ⟨tighter, tighterOperators, tighterOperands, tighterPassed, tighterCurtailed⟩
        rcases shorter _ _ _ _ _ _ ran with
          ⟨looser, looserOperators, looserOperands, looserPassed, looserCurtailed⟩
        refine ⟨⟨parser.current, op, firstOperand⟩ :: (tighter ++ looser), ?_, ?_, ?_, ?_⟩
        · exact List.forall_mem_cons.2
            ⟨written, List.forall_mem_append.2 ⟨tighterOperators, looserOperators⟩⟩
        · exact List.forall_mem_cons.2
            ⟨firstDerived, List.forall_mem_append.2 ⟨tighterOperands, looserOperands⟩⟩
        · have looserPassed : behindRight.rest = looser.flatMap Joint.tokens ++ after.rest :=
            looserPassed
          rw [inFront, firstPassed, tighterPassed, looserPassed]
          simp [Joint.tokens]
        · intro positive
          have stop :
              firstUnder levels
                  ((⟨parser.current, op, firstOperand⟩ :: (tighter ++ looser)).flatMap
                    Joint.enclosed) =
                (firstUnder levels firstOperand.enclosed).or
                  ((firstUnder levels (tighter.flatMap Joint.enclosed)).or
                    (firstUnder levels (looser.flatMap Joint.enclosed))) := by
            rw [List.flatMap_cons, List.flatMap_append, Joint.enclosed, ← List.singleton_append,
              List.append_assoc, firstUnder_append, firstUnder_plain positive, Option.none_or,
              firstUnder_append, firstUnder_append]
          rw [stop, foldOperators_succ_run, written]
          simp only [if_neg (Int.not_lt.2 aboveFloor)]
          refine Curtailed.andThen (fun _ => ?_) firstCurtailed
          rw [extendedRight_eq]
          refine Curtailed.andThen (fun _ => ?_) (tighterCurtailed positive)
          rw [if_neg (Nat.not_lt.2 short)]
          exact looserCurtailed positive

/-- So does an expression. -/
theorem Curtails.expressionWith
    (curtails : Curtails levels limited full)
    (parser after : Parser)
    (expr : Expr)
    (ran : (expressionWith full).run parser = .ok expr after) :
    ∃ chain : Chain,
      chain.Derived ∧ parser.rest = chain.tokens ++ after.rest ∧
        Curtailed (firstUnder levels chain.enclosed) (.ok expr after)
          ((expressionWith limited).run parser) := by
  rw [expressionWith_run] at ran
  cases firstRead : full.run parser with
  | error error between =>
      simp [firstRead] at ran
  | ok left between =>
      simp only [firstRead, continuedWith_run] at ran
      rcases curtails _ _ _ firstRead with ⟨first, derived, passed, firstCurtailed⟩
      rcases curtails.foldOperators _ _ _ _ _ _ _ ran with
        ⟨joints, operators, operands, jointsPassed, jointsCurtailed⟩
      refine ⟨⟨first, joints⟩, ⟨derived, operators, operands⟩, ?_, ?_⟩
      · rw [passed, jointsPassed, Chain.tokens, List.append_assoc]
      · rw [Chain.enclosed, firstUnder_append, expressionWith_run]
        refine Curtailed.andThen (fun unstopped => jointsCurtailed ?_) firstCurtailed
        apply Nat.pos_of_ne_zero
        rintro rfl
        rcases derived.firstUnder_zero with ⟨token, _, stopped, _⟩
        rw [stopped] at unstopped
        cases unstopped

theorem Curtails.primaryWith
    (curtails : Curtails levels limited full)
    (parser after : Parser)
    (expr : Expr)
    (ran : (primaryWith (Reading.expressionWith full)).run parser = .ok expr after) :
    ∃ operand : Operand,
      operand.Derived ∧ parser.rest = operand.tokens ++ after.rest ∧
        Curtailed (firstUnder (levels + 1) operand.enclosed) (.ok expr after)
          ((primaryWith (Reading.expressionWith limited)).run parser) := by
  rw [primaryWith_run] at ran ⊢
  by_cases opens : parser.current.kind = .openParen
  · have inFront := parser.rest_eq_current_cons (by simp [opens])
    rw [if_pos opens, groupingWith_run] at ran ⊢
    cases innerRead : (Reading.expressionWith full).run parser.advanced with
    | error error between =>
        simp [innerRead] at ran
    | ok inner between =>
        rcases curtails.expressionWith _ _ _ innerRead with
          ⟨chain, derived, passed, chainCurtailed⟩
        simp only [innerRead] at ran
        by_cases closes : between.current.kind = .closeParen
        · rw [if_pos closes, EStateM.Result.ok.injEq] at ran
          rcases ran with ⟨rfl, rfl⟩
          have behind := between.rest_eq_current_cons (by simp [closes])
          refine ⟨.group parser.current chain between.current,
            .group opens derived.first derived.operators derived.operands closes, ?_, ?_⟩
          · rw [inFront, passed, behind]
            simp [Operand.group]
          · have stop :
                firstUnder (levels + 1)
                    (Operand.group parser.current chain between.current).enclosed =
                  (firstUnder levels chain.enclosed).or none := by
              have positive : 0 < levels + 1 := Nat.succ_pos levels
              rw [Operand.enclosed_group derived, firstUnder_append, firstUnder_append,
                firstUnder_plain positive, firstUnder_plain positive, firstUnder_deepened,
                Option.none_or]
            rw [stop]
            refine Curtailed.andThen (fun _ => ?_) chainCurtailed
            exact if_pos closes
        · simp [if_neg closes] at ran
  · rw [if_neg opens] at ran ⊢
    cases read : leaf parser.current with
    | error fault =>
        simp [read] at ran
    | ok tree =>
        simp only [read] at ran ⊢
        have isLeaf := (leaf_eq_ok_iff _ _).1 read
        refine ⟨.leaf parser.current tree, .leaf isLeaf, ?_, ?_⟩
        · rw [EStateM.Result.ok.injEq] at ran
          rw [← ran.2]
          exact parser.rest_eq_current_cons isLeaf.kind_ne_endOfLine
        · have stop : firstUnder (levels + 1) (Operand.leaf parser.current tree).enclosed = none :=
            firstUnder_plain (Nat.succ_pos levels) parser.current
          rw [stop]
          exact ran

/-- With fewer levels, a reading of an operand is stopped at the first token that is enclosed as
often as there are levels. -/
theorem curtails_unaryWithin
    (levels more : Nat) :
    Curtails levels (unaryWithin levels) (unaryWithin (levels + more)) := by
  induction levels with
  | zero =>
      intro parser expr after ran
      rcases (unaryWithin_reads _ _ _ _).1 ran with ⟨operand, within, passed, _⟩
      rcases within.derived.firstUnder_zero with ⟨token, behind, stop, tokens⟩
      refine ⟨operand, within.derived, passed, ?_⟩
      have current_eq : parser.current = token := by
        rw [Parser.current, passed, tokens]
        rfl
      rw [stop, unaryWithin_zero_run, current_eq]
      exact ⟨parser, rfl⟩
  | succ levels lower =>
      intro parser expr after ran
      rw [Nat.add_right_comm, unaryWithin_succ_run] at ran
      rw [unaryWithin_succ_run]
      cases written : parser.current.kind.unaryOp? with
      | none =>
          rw [written] at ran
          exact lower.primaryWith parser after expr ran
      | some op =>
          have inFront := parser.rest_eq_current_cons (TokenKind.ne_endOfLine_of_unaryOp? written)
          simp only [written] at ran ⊢
          cases operandRead : (unaryWithin (levels + more)).run parser.advanced with
          | error error between =>
              simp [operandRead] at ran
          | ok tree between =>
              rcases lower _ _ _ operandRead with ⟨operand, derived, passed, operandCurtailed⟩
              simp only [operandRead] at ran
              by_cases tall : nestingLimit < between.height + 1
              · rw [if_pos tall] at ran
                cases ran
              · rw [if_neg tall] at ran
                refine ⟨.prefixed parser.current op operand, .prefixed written derived, ?_, ?_⟩
                · rw [EStateM.Result.ok.injEq] at ran
                  rw [← ran.2, inFront, passed]
                  rfl
                · have stop :
                      firstUnder (levels + 1)
                          (Operand.prefixed parser.current op operand).enclosed =
                        (firstUnder levels operand.enclosed).or none := by
                    rw [Operand.enclosed_prefixed, firstUnder_append,
                      firstUnder_plain (Nat.succ_pos levels), firstUnder_deepened,
                      Option.none_or, Option.or_none]
                  rw [stop]
                  refine Curtailed.andThen (fun _ => ?_) operandCurtailed
                  exact (if_neg tall).trans ran

end Reading

/-! ## Arguments -/

/-- What becomes of an operand whose tree is not too tall. -/
def Operand.outcome (operand : Operand) : Except SyntaxError Expr :=
  match firstUnder nestingLimit operand.enclosed with
  | none => .ok operand.tree
  | some token => .error ⟨.nestedTooDeeply, token.column⟩

/-- In front of an operand whose tree is not too tall, a reading gives its outcome. -/
theorem Operand.Derived.curtailed_unary
    {operand : Operand}
    (derived : operand.Derived)
    (short : operand.tree.height ≤ nestingLimit)
    (behind : List Token)
    (height : Nat) :
    Curtailed (firstUnder nestingLimit operand.enclosed)
      (.ok operand.tree ⟨behind, operand.tree.height⟩)
      (Reading.unary.run ⟨operand.tokens ++ behind, height⟩) := by
  -- With enough further levels the whole operand is read.
  have within : operand.Within (nestingLimit + (operand.enclosures.sum + 1)) := by
    refine ⟨derived, short, fun enclosing member => ?_⟩
    have := List.le_sum_of_mem member
    omega
  have ran :
      (Reading.unaryWithin (nestingLimit + (operand.enclosures.sum + 1))).run
          ⟨operand.tokens ++ behind, height⟩ =
        .ok operand.tree ⟨behind, operand.tree.height⟩ :=
    (Reading.unaryWithin_reads _ _ _ _).2 ⟨operand, within, rfl, rfl, rfl⟩
  rcases Reading.curtails_unaryWithin nestingLimit _ _ _ _ ran with
    ⟨read, readDerived, passed, curtailed⟩
  have same : operand = read :=
    derived.eq_of_tokens_eq readDerived (List.append_cancel_right passed)
  rw [same] at curtailed ⊢
  exact curtailed

/-- An argument whose tree is not too tall is read, or refused at the first token under too many
levels, and either way passed as a whole. -/
theorem Parser.readArgument_of_short
    {operand : Operand}
    (derived : operand.Derived)
    (short : operand.tree.height ≤ nestingLimit)
    (behind : List Token)
    (height : Nat) :
    ∃ outcome after,
      readArgument ⟨operand.tokens ++ behind, height⟩ = (outcome, after) ∧
        after.rest = behind ∧ outcome = operand.outcome := by
  have curtailed := derived.curtailed_unary short behind height
  rw [readArgument, Operand.outcome]
  cases stop : firstUnder nestingLimit operand.enclosed with
  | none =>
      rw [stop] at curtailed
      have ran :
          Reading.unary.run ⟨operand.tokens ++ behind, height⟩ =
            .ok operand.tree ⟨behind, operand.tree.height⟩ := curtailed
      rw [ran]
      exact ⟨_, _, rfl, rfl, rfl⟩
  | some token =>
      rw [stop] at curtailed
      rcases curtailed with ⟨after, ran⟩
      rw [ran]
      simp only [if_true, derived.skipArgument_append]
      exact ⟨_, _, rfl, rfl, rfl⟩

/-- A line with operands behind its name whose trees are not too tall gives their outcomes. -/
theorem exists_parseLine_of_short
    {line : String}
    {name ending : Token}
    {operands : List Operand}
    (scanned : tokenize line = name :: (operands.flatMap Operand.tokens ++ [ending]))
    (named : name.kind = .identifier)
    (derived : ∀ operand ∈ operands, operand.Derived)
    (short : ∀ operand ∈ operands, operand.tree.height ≤ nestingLimit) :
    ∃ final,
      parseLine line =
        { command :=
            some ⟨name.text, name.span, operands.filterMap fun operand => operand.outcome.toOption⟩
          errors := operands.filterMap fun operand => refusal? operand.outcome
          parser := final } := by
  rcases exists_parseLine_of_each scanned named derived
      (fun operand member =>
        Parser.readArgument_of_short (derived operand member) (short operand member)) with
    ⟨outcomes, final, give, parsed⟩
  have outcomes_eq : outcomes = operands.map Operand.outcome := by
    have flipped := List.forall₂_map_right_iff.2 give.flip
    rwa [List.forall₂_eq_eq_eq] at flipped
  refine ⟨final, ?_⟩
  rw [parsed, outcomes_eq, List.filterMap_map, List.filterMap_map]
  rfl

/-! ## A name in parentheses -/

/-- The name `a` in pairs of parentheses. -/
def textInParens : (pairs : Nat) → List Char
  | 0 => ['a']
  | pairs + 1 => ['('] ++ (textInParens pairs ++ [')'])

theorem length_textInParens
    (pairs : Nat) :
    (textInParens pairs).length = 2 * pairs + 1 := by
  induction pairs with
  | zero =>
      rfl
  | succ pairs pairsHypothesis =>
      simp only [textInParens, List.length_append, List.length_singleton, pairsHypothesis]
      omega

theorem opens_textInParens
    (pairs : Nat) :
    Opens (textInParens pairs) := by
  cases pairs with
  | zero =>
      exact ⟨'a', [], rfl, by decide, by decide⟩
  | succ pairs =>
      exact ⟨'(', textInParens pairs ++ [')'], rfl, by decide, by decide⟩

namespace Operand

/-- What the name in pairs of parentheses is scanned as, from a column on. -/
def inParens (column : Nat) : (pairs : Nat) → Operand
  | 0 =>
      .leaf (.ofSource .identifier column ['a']) (.literal (.identifier "a") ⟨column, column⟩)
  | pairs + 1 =>
      .group (.ofSource .openParen column ['(']) ⟨inParens (column + 1) pairs, []⟩
        (.ofSource .closeParen (column + 2 * pairs + 2) [')'])

theorem derived_inParens
    (column pairs : Nat) :
    (inParens column pairs).Derived := by
  induction pairs generalizing column with
  | zero =>
      exact .leaf (.identifier rfl)
  | succ pairs pairsHypothesis =>
      exact .group rfl (pairsHypothesis (column + 1)) (by simp) (by simp) rfl

theorem tree_inParens
    (column pairs : Nat) :
    (inParens column pairs).tree =
      .literal (.identifier "a") ⟨column, column + 2 * pairs⟩ := by
  induction pairs generalizing column with
  | zero =>
      rfl
  | succ pairs pairsHypothesis =>
      rw [inParens, group, Chain.tree_single, pairsHypothesis]
      rfl

/-- The name is the only token that all parentheses enclose. -/
theorem firstUnder_inParens
    (column pairs : Nat) :
    firstUnder pairs (inParens column pairs).enclosed =
        some (.ofSource .identifier (column + pairs) ['a']) ∧
      firstUnder (pairs + 1) (inParens column pairs).enclosed = none := by
  induction pairs generalizing column with
  | zero =>
      exact ⟨rfl, rfl⟩
  | succ pairs pairsHypothesis =>
      rcases pairsHypothesis (column + 1) with ⟨found, notFound⟩
      have inner : Chain.Derived ⟨inParens (column + 1) pairs, []⟩ :=
        ⟨derived_inParens (column + 1) pairs, by simp, by simp⟩
      have enclosed_inner :
          Chain.enclosed ⟨inParens (column + 1) pairs, []⟩ =
            (inParens (column + 1) pairs).enclosed :=
        List.append_nil _
      have step (levels : Nat) :
          firstUnder (levels + 1) (inParens column (pairs + 1)).enclosed =
            firstUnder levels (inParens (column + 1) pairs).enclosed := by
        have positive : 0 < levels + 1 := Nat.succ_pos levels
        rw [inParens, enclosed_group inner, firstUnder_append, firstUnder_append,
          firstUnder_plain positive, firstUnder_plain positive, firstUnder_deepened,
          Option.none_or, Option.or_none, enclosed_inner]
      rw [step, step, found, notFound, Nat.add_right_comm, Nat.add_assoc]
      exact ⟨rfl, rfl⟩

/-- No token stands under more levels than there are pairs of parentheses. -/
theorem enclosures_inParens_le
    (column pairs : Nat) :
    ∀ enclosing ∈ (inParens column pairs).enclosures, enclosing ≤ pairs := by
  intro enclosing member
  have free := (firstUnder_inParens column pairs).2
  exact Nat.lt_succ_iff.1
    (((derived_inParens column pairs).firstUnder_eq_none_iff _).1 free enclosing member)

/-- The name inside stands under all of them. -/
theorem not_enclosures_inParens_lt
    (column pairs : Nat) :
    ¬ ∀ enclosing ∈ (inParens column pairs).enclosures, enclosing < pairs := by
  rw [← (derived_inParens column pairs).firstUnder_eq_none_iff, (firstUnder_inParens _ _).1]
  exact Option.some_ne_none _

/-- Parentheses are tokens of their own. -/
theorem scannedAs_inParens
    {following : List Char}
    (ended : EndsOperand following)
    (column pairs : Nat) :
    ScannedAs column (textInParens pairs) following (inParens column pairs).tokens := by
  induction pairs generalizing column following with
  | zero =>
      exact tokensFrom_longestMatch
        (longestMatch_identifier (by decide) (List.forall_mem_nil _)
          ended.isBareNameChar_eq_false) column
  | succ pairs pairsHypothesis =>
      have closingEnds : EndsOperand ([')'] ++ following) := by
        rintro next ⟨⟩
        exact Or.inr rfl
      have innerOpens := ((opens_textInParens pairs).append [')']).append following
      have opened :=
        scannedAs_symbol (show TokenKind.openParen.symbol? = some "(" from rfl)
          innerOpens.prolongsSymbol_eq_false column
      have closed :=
        scannedAs_symbol (show TokenKind.closeParen.symbol? = some ")" from rfl)
          ended.prolongsSymbol_eq_false (column + 1 + (textInParens pairs).length)
      have place : column + 1 + (textInParens pairs).length = column + 2 * pairs + 2 := by
        rw [length_textInParens]
        omega
      rw [inParens, group, Chain.tokens_single, ← place]
      exact opened.append ((pairsHypothesis closingEnds (column + 1)).append closed)

theorem scannedAs_space_inParens
    {following : List Char}
    (ended : EndsOperand following)
    (column pairs : Nat) :
    ScannedAs column (' ' :: textInParens pairs) following (inParens (column + 1) pairs).tokens :=
  (scannedAs_space ((opens_textInParens pairs).append following).isSeparator_eq_false column).append
    (scannedAs_inParens ended (column + 1) pairs)

end Operand

/-- The line with the name `p` and then `a` in so many pairs of parentheses. -/
def lineInParens (pairs : Nat) : List Char :=
  ['p'] ++ (' ' :: textInParens pairs)

theorem scannedAs_lineInParens
    {following : List Char}
    (ended : EndsOperand following)
    (pairs : Nat) :
    ScannedAs 0 (lineInParens pairs) following
      (.ofSource .identifier 0 ['p'] :: (Operand.inParens 2 pairs).tokens) := by
  have nameEnds :
      ∀ next ∈ ((' ' :: textInParens pairs) ++ following).head?, isBareNameChar next = false := by
    rintro next ⟨⟩
    decide
  have name :
      ScannedAs 0 ['p'] ((' ' :: textInParens pairs) ++ following)
        [.ofSource .identifier 0 ['p']] :=
    tokensFrom_longestMatch
      (longestMatch_identifier (by decide) (List.forall_mem_nil _) nameEnds) 0
  exact name.append (Operand.scannedAs_space_inParens ended 1 pairs)

/-- A text that is scanned to its end is a line. -/
theorem ScannedAs.exists_tokenize
    {text : List Char}
    {tokens : List Token}
    (scanned : ScannedAs 0 text [] tokens) :
    ∃ ending, tokenize (String.ofList text) = tokens ++ [ending] := by
  rw [ScannedAs, List.append_nil] at scanned
  rw [tokenize, String.toList_ofList, scanned]
  exact ⟨_, rfl⟩

theorem exists_tokenize_lineInParens
    (pairs : Nat) :
    ∃ ending,
      tokenize (String.ofList (lineInParens pairs)) =
        .ofSource .identifier 0 ['p'] ::
          ((Operand.inParens 2 pairs).tokens ++ [ending]) := by
  have nothing : EndsOperand [] := by simp [EndsOperand]
  exact (scannedAs_lineInParens nothing pairs).exists_tokenize

theorem exists_tokenize_lineInParens_append
    (pairs more : Nat) :
    ∃ ending,
      tokenize (String.ofList (lineInParens pairs ++ ' ' :: textInParens more)) =
        .ofSource .identifier 0 ['p'] ::
          ([Operand.inParens 2 pairs, Operand.inParens (2 * pairs + 4) more].flatMap
            Operand.tokens ++ [ending]) := by
  have nothing : EndsOperand [] := by simp [EndsOperand]
  have spaced : EndsOperand ((' ' :: textInParens more) ++ []) := by
    rintro next ⟨⟩
    exact Or.inl rfl
  have place : 0 + (lineInParens pairs).length = 2 * pairs + 3 := by
    simp only [lineInParens, List.length_append, List.length_cons, List.length_nil,
      length_textInParens]
    omega
  have moreScanned := Operand.scannedAs_space_inParens nothing (2 * pairs + 3) more
  rw [← place] at moreScanned
  have scanned := (scannedAs_lineInParens spaced pairs).append moreScanned
  rw [place] at scanned
  rw [List.flatMap_cons, List.flatMap_singleton]
  exact scanned.exists_tokenize

/--
Let the tokens behind the name of a command be those of derived operands whose trees have at
most 256 levels.  The arguments of the command are those of which no token is enclosed by
more than 255 operators and parentheses.  For each of the others one error is reported, at
its first token that is enclosed by 256 or more, and nothing else is reported.
-/
theorem arguments_refused_at_first_token_under_256
    (line : String)
    (name ending : Token)
    (operands : List Operand)
    (scanned : tokenize line = name :: (operands.flatMap Operand.tokens ++ [ending]))
    (named : name.kind = .identifier)
    (derived : ∀ operand ∈ operands, operand.Derived)
    (short : ∀ operand ∈ operands, operand.tree.height ≤ 256) :
    (parseLine line).command =
        some ⟨name.text, name.span,
          (operands.filter fun operand =>
            decide (∀ enclosing ∈ operand.enclosures, enclosing ≤ 255)).map Operand.tree⟩ ∧
      (parseLine line).errors =
        operands.filterMap fun operand =>
          (firstUnder 256 operand.enclosed).map fun token =>
            ⟨.nestedTooDeeply, token.column⟩ := by
  rcases exists_parseLine_of_short scanned named derived short with ⟨final, parsed⟩
  rw [parsed]
  constructor
  · rw [← List.filterMap_eq_map, List.filterMap_filter]
    refine congrArg (fun arguments => some (Command.mk _ _ arguments)) ?_
    refine List.filterMap_congr fun operand member => ?_
    have unstopped := (derived operand member).firstUnder_eq_none_iff nestingLimit
    simp only [nestingLimit, Nat.lt_succ_iff] at unstopped
    rw [Operand.outcome, nestingLimit]
    cases stop : firstUnder 256 operand.enclosed with
    | none =>
        rw [if_pos (decide_eq_true (unstopped.1 stop))]
        rfl
    | some token =>
        rw [if_neg]
        · rfl
        · rw [decide_eq_true_iff, ← unstopped, stop]
          exact Option.some_ne_none token
  · refine List.filterMap_congr fun operand _ => ?_
    rw [Operand.outcome, nestingLimit]
    cases firstUnder 256 operand.enclosed <;> rfl

/-- Two arguments, of which only the second has a token under 256 parentheses. -/
theorem arguments_refused_at_first_token_under_256_of_groups :
    (parseLine (String.ofList (lineInParens 255 ++ ' ' :: textInParens 256))).command =
        some ⟨"p", ⟨0, 0⟩, [.literal (.identifier "a") ⟨2, 512⟩]⟩ ∧
      (parseLine (String.ofList (lineInParens 255 ++ ' ' :: textInParens 256))).errors =
        [⟨.nestedTooDeeply, 770⟩] := by
  rcases exists_tokenize_lineInParens_append 255 256 with ⟨ending, scanned⟩
  have firstFree := Operand.enclosures_inParens_le 2 255
  have secondDeep := Operand.not_enclosures_inParens_lt 514 256
  have firstPasses := (Operand.firstUnder_inParens 2 255).2
  have secondStops := (Operand.firstUnder_inParens 514 256).1
  have firstTree := Operand.tree_inParens 2 255
  have secondTree := Operand.tree_inParens 514 256
  have firstDerived := Operand.derived_inParens 2 255
  have secondDerived := Operand.derived_inParens 514 256
  -- Nothing else is needed about the two operands, and they are large.
  generalize Operand.inParens 2 255 = first at *
  generalize Operand.inParens 514 256 = second at *
  rcases arguments_refused_at_first_token_under_256 _ _ ending [first, second] scanned rfl
    (by simp [firstDerived, secondDerived])
    (by simp [firstTree, secondTree, Expr.height]) with ⟨command_eq, errors_eq⟩
  rw [command_eq, errors_eq]
  simp only [Nat.lt_succ_iff] at secondDeep
  constructor
  · rw [List.filter_cons, if_pos (decide_eq_true firstFree), List.filter_cons,
      if_neg (mt of_decide_eq_true secondDeep), List.map_cons, firstTree]
    rfl
  · simp [firstPasses, secondStops, Token.ofSource, Token.column]

/-- A single operand that is refused leaves its command without an argument. -/
theorem parseLine_of_refused
    {line : String}
    {name ending : Token}
    {operand : Operand}
    {error : SyntaxError}
    (scanned : tokenize line = name :: (operand.tokens ++ [ending]))
    (named : name.kind = .identifier)
    (derived : operand.Derived)
    (short : operand.tree.height ≤ nestingLimit)
    (refused : operand.outcome = .error error) :
    (parseLine line).command = some ⟨name.text, name.span, []⟩ ∧
      (parseLine line).errors = [error] := by
  rw [← List.flatMap_singleton Operand.tokens operand] at scanned
  rcases exists_parseLine_of_short scanned named (List.forall_mem_singleton.2 derived)
    (List.forall_mem_singleton.2 short) with ⟨final, parsed⟩
  rw [parsed, List.filterMap_cons, List.filterMap_cons, refused]
  exact ⟨rfl, rfl⟩

/-- No token is under more than 256 parentheses, and still the argument is refused. -/
theorem argument_under_256_parentheses_refused :
    ∃ (operand : Operand) (name ending : Token),
      tokenize (String.ofList (lineInParens 256)) = name :: (operand.tokens ++ [ending]) ∧
        operand.Derived ∧ operand.tree.height ≤ 256 ∧
        (∀ enclosing ∈ operand.enclosures, enclosing ≤ 256) ∧
        (parseLine (String.ofList (lineInParens 256))).command = some ⟨"p", ⟨0, 0⟩, []⟩ ∧
        (parseLine (String.ofList (lineInParens 256))).errors = [⟨.nestedTooDeeply, 258⟩] := by
  have derived := Operand.derived_inParens 2 256
  have short : (Operand.inParens 2 256).tree.height ≤ 256 := by
    rw [Operand.tree_inParens]
    decide
  have refused : (Operand.inParens 2 256).outcome = .error ⟨.nestedTooDeeply, 258⟩ := by
    rw [Operand.outcome, nestingLimit, (Operand.firstUnder_inParens 2 256).1]
    rfl
  rcases exists_tokenize_lineInParens 256 with ⟨ending, scanned⟩
  exact ⟨_, _, ending, scanned, derived, short, Operand.enclosures_inParens_le 2 256,
    parseLine_of_refused scanned rfl derived short refused⟩

end AsmShell
