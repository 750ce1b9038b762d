import AsmShell.Proofs.FailurePlaces

/-!
# Readings stop at the first hopeless token

A reading of an operand that fails for another reason than its nesting has passed the
beginning of an operand of the grammar, and no operand begins with what it has passed and
the token it stops at.

What it has passed is an unfinished operand (`Unfinished`): operators, open groups with
whole operands in them, and then either a place where an operand has to begin or the whole
content of a group that is not yet closed.  An unfinished operand decides which tokens can
follow it (`Unfinished.viable_append_iff`), and a reading that fails has stopped at
a token that cannot.
-/

namespace AsmShell

/-- Some operand of the grammar begins with the tokens. -/
def Viable (tokens : List Token) : Prop :=
  ∃ operand : Operand, operand.Derived ∧ tokens <+: operand.tokens

/-- The parentheses that are open behind the tokens, the innermost first, where those of
`around` are open in front of them. -/
def openParens (around : List Token) : List Token → List Token
  | [] => around
  | token :: rest =>
      match token.kind with
      | .openParen => openParens (token :: around) rest
      | .closeParen => openParens around.tail rest
      | _ => openParens around rest

/-! ## Unfinished operands -/

/-- What stands in a chain in front of one of its operands: nothing, or operands with an operator
behind each of them. -/
inductive ChainFront : List Token → Prop where
  | empty : ChainFront []
  | joined {chain : Chain} {operator : Token} {op : BinaryOp} :
      chain.Derived →
      operator.kind.binaryOp? = some op →
      ChainFront (chain.tokens ++ [operator])

/--
The beginning of an operand.  Behind it an operand has to begin, or, where `pending` is a
parenthesis, an operator or the partner of this parenthesis has to follow.
-/
inductive Unfinished : (pending : Option Token) → List Token → Prop where
  | start : Unfinished none []
  | prefixed {operator : Token} {op : UnaryOp} {pending : Option Token} {tokens : List Token} :
      operator.kind.unaryOp? = some op →
      Unfinished pending tokens →
      Unfinished pending (operator :: tokens)
  | inGroup {opening : Token} {front tokens : List Token} {pending : Option Token} :
      opening.kind = .openParen →
      ChainFront front →
      Unfinished pending tokens →
      Unfinished pending (opening :: (front ++ tokens))
  | unclosed {opening : Token} {chain : Chain} :
      opening.kind = .openParen →
      chain.Derived →
      Unfinished (some opening) (opening :: chain.tokens)

/-- The token can follow an unfinished operand. -/
def Fits (token : Token) : (pending : Option Token) → Prop
  | none =>
      token.kind.unaryOp?.isSome ∨ token.kind = .openParen ∨ ∃ tree, LeafToken token tree
  | some _ => token.kind.binaryOp?.isSome ∨ token.kind = .closeParen

/-! ## What can follow -/

/-- A name, as the shortest way to finish what needs an operand. -/
def someName : Operand :=
  .leaf ⟨.identifier, ⟨0, 0⟩, "a"⟩ (.literal (.identifier "a") ⟨0, 0⟩)

theorem derived_someName :
    someName.Derived :=
  .leaf (.identifier rfl)

def someClosing : Token :=
  ⟨.closeParen, ⟨0, 0⟩, ")"⟩

/-- A chain in parentheses begins with its opening parenthesis and all its tokens. -/
theorem Chain.Derived.viable_group
    {chain : Chain}
    (derived : chain.Derived)
    {opening : Token}
    (opens : opening.kind = .openParen)
    {tokens : List Token}
    (isPrefix : tokens <+: chain.tokens ++ [someClosing]) :
    Viable (opening :: tokens) :=
  ⟨.group opening chain someClosing,
    .group opens derived.first derived.operators derived.operands rfl,
    List.cons_prefix_cons.2 ⟨rfl, isPrefix⟩⟩

/-- A chain goes on with an operator and an operand. -/
theorem Chain.Derived.snoc
    {chain : Chain}
    (derived : chain.Derived)
    {operator : Token}
    {op : BinaryOp}
    (written : operator.kind.binaryOp? = some op)
    {operand : Operand}
    (operandDerived : operand.Derived) :
    ∃ longer : Chain,
      longer.Derived ∧ longer.tokens = chain.tokens ++ operator :: operand.tokens := by
  rcases chain with ⟨first, joints⟩
  refine ⟨⟨first, joints ++ [⟨operator, op, operand⟩]⟩, ⟨derived.first, ?_, ?_⟩, ?_⟩
  · have operators := derived.operators
    simp only [List.forall_mem_append, List.forall_mem_singleton]
    exact ⟨operators, written⟩
  · have operands := derived.operands
    simp only [List.forall_mem_append, List.forall_mem_singleton]
    exact ⟨operands, operandDerived⟩
  · simp [Chain.tokens, Joint.tokens]

theorem ChainFront.exists_chain
    {front : List Token}
    (isFront : ChainFront front)
    {operand : Operand}
    (derived : operand.Derived) :
    ∃ chain : Chain, chain.Derived ∧ chain.tokens = front ++ operand.tokens := by
  cases isFront with
  | empty =>
      exact ⟨⟨operand, []⟩, ⟨derived, by simp, by simp⟩, Chain.tokens_single operand⟩
  | joined chainDerived written =>
      rcases chainDerived.snoc written derived with ⟨longer, longerDerived, tokens⟩
      exact ⟨longer, longerDerived, by rw [tokens, List.append_assoc, List.singleton_append]⟩

/-- A token that fits an unfinished operand can follow it. -/
theorem Unfinished.viable_append
    {pending : Option Token}
    {tokens : List Token}
    (unfinished : Unfinished pending tokens)
    {token : Token}
    (fits : Fits token pending) :
    Viable (tokens ++ [token]) := by
  induction unfinished with
  | start =>
      rcases fits with isOperator | opens | ⟨tree, leaf⟩
      · rcases Option.isSome_iff_exists.1 isOperator with ⟨op, written⟩
        exact ⟨.prefixed token op someName, .prefixed written derived_someName,
          List.prefix_append _ _⟩
      · have derived : Chain.Derived ⟨someName, []⟩ := ⟨derived_someName, by simp, by simp⟩
        exact derived.viable_group opens List.nil_prefix
      · exact ⟨.leaf token tree, .leaf leaf, List.prefix_refl _⟩
  | prefixed written _ tokensHypothesis =>
      rcases tokensHypothesis fits with ⟨operand, derived, isPrefix⟩
      exact ⟨.prefixed _ _ operand, .prefixed written derived,
        List.cons_prefix_cons.2 ⟨rfl, isPrefix⟩⟩
  | @inGroup opening front tokens pending opens isFront _ tokensHypothesis =>
      rcases tokensHypothesis fits with ⟨operand, derived, isPrefix⟩
      rcases isFront.exists_chain derived with ⟨chain, chainDerived, chainTokens⟩
      rw [List.cons_append, List.append_assoc]
      refine chainDerived.viable_group opens ?_
      rw [chainTokens, List.append_assoc]
      exact (List.prefix_append_right_inj front).2 (isPrefix.trans (List.prefix_append _ _))
  | @unclosed opening chain opens derived =>
      rcases fits with isOperator | closes
      · rcases Option.isSome_iff_exists.1 isOperator with ⟨op, written⟩
        rcases derived.snoc written derived_someName with ⟨longer, longerDerived, longerTokens⟩
        refine longerDerived.viable_group opens ?_
        rw [longerTokens, List.append_assoc, List.cons_append]
        exact (List.prefix_append_right_inj chain.tokens).2
          (List.cons_prefix_cons.2 ⟨rfl, List.nil_prefix⟩)
      · exact ⟨.group opening chain token,
          .group opens derived.first derived.operators derived.operands closes,
          List.prefix_refl _⟩

/-! ## What cannot follow -/

/-- Joints that begin the same tokens as others are followed by the rest of the others. -/
theorem joints_rest_cases
    (joints others : List Joint)
    {rest behind : List Token}
    {closing : Token}
    (operators : ∀ joint ∈ joints, joint.operator.kind.binaryOp? = some joint.op)
    (operands : ∀ joint ∈ joints, joint.operand.Derived)
    (otherOperands : ∀ joint ∈ others, joint.operand.Derived)
    (closes : closing.kind = .closeParen)
    (same :
      joints.flatMap Joint.tokens ++ rest = others.flatMap Joint.tokens ++ closing :: behind) :
    rest = closing :: behind ∨
      ∃ joint ∈ others, ∃ further,
        rest = joint.operator :: (joint.operand.tokens ++ further) := by
  induction joints generalizing others with
  | nil =>
      cases others with
      | nil =>
          exact Or.inl same
      | cons joint more =>
          refine Or.inr ⟨joint, List.mem_cons_self, more.flatMap Joint.tokens ++ closing :: behind,
            ?_⟩
          rw [List.flatMap_nil, List.nil_append] at same
          simp [same, Joint.tokens]
  | cons joint more moreHypothesis =>
      rw [List.forall_mem_cons] at operators operands
      cases others with
      | nil =>
          have heads : joint.operator = closing := (List.cons.inj same).1
          have written := operators.1
          rw [heads, closes] at written
          cases written
      | cons other otherMore =>
          rw [List.forall_mem_cons] at otherOperands
          simp only [List.flatMap_cons, Joint.tokens, List.cons_append, List.append_assoc,
            List.cons.injEq] at same
          rcases operands.1.shape.append_inj otherOperands.1.shape same.2 with ⟨_, behindSame⟩
          rcases moreHypothesis otherMore operators.2 operands.2 otherOperands.2 behindSame with
            ended | ⟨next, member, goesOn⟩
          · exact Or.inl ended
          · exact Or.inr ⟨next, List.mem_cons_of_mem _ member, goesOn⟩

/-- A derived chain at the beginning of a group is followed by the end of the group, or by an
operator and an operand. -/
theorem Chain.Derived.rest_cases
    {chain other : Chain}
    {rest behind : List Token}
    {closing : Token}
    (derived : chain.Derived)
    (otherDerived : other.Derived)
    (closes : closing.kind = .closeParen)
    (same : chain.tokens ++ rest = other.tokens ++ closing :: behind) :
    rest = closing :: behind ∨
      ∃ joint ∈ other.joints, ∃ further,
        rest = joint.operator :: (joint.operand.tokens ++ further) := by
  rw [Chain.tokens, Chain.tokens, List.append_assoc, List.append_assoc] at same
  rcases derived.first.shape.append_inj otherDerived.first.shape same with ⟨_, sameJoints⟩
  exact joints_rest_cases chain.joints other.joints derived.operators derived.operands
    otherDerived.operands closes sameJoints

/-- In a group, an operand follows what stands in front of an operand. -/
theorem ChainFront.exists_operand
    {front rest behind : List Token}
    {chain : Chain}
    {closing : Token}
    (isFront : ChainFront front)
    (derived : chain.Derived)
    (closes : closing.kind = .closeParen)
    (same : front ++ rest = chain.tokens ++ closing :: behind) :
    ∃ operand : Operand, operand.Derived ∧ ∃ further, rest = operand.tokens ++ further := by
  cases isFront with
  | empty =>
      rw [List.nil_append, Chain.tokens, List.append_assoc] at same
      exact ⟨chain.first, derived.first, _, same⟩
  | @joined frontChain operator op frontDerived written =>
      rw [List.append_assoc, List.singleton_append] at same
      rcases frontDerived.rest_cases derived closes same with
        ended | ⟨joint, member, further, goesOn⟩
      · have isClosing : operator = closing := (List.cons.inj ended).1
        rw [isClosing, closes] at written
        cases written
      · exact ⟨joint.operand, derived.operands joint member, further, (List.cons.inj goesOn).2⟩

/-- What begins with an operator is the operator and an operand. -/
theorem Operand.Derived.exists_behind_operator
    {operand : Operand}
    (derived : operand.Derived)
    {operator : Token}
    {op : UnaryOp}
    {rest behind : List Token}
    (written : operator.kind.unaryOp? = some op)
    (same : operator :: rest = operand.tokens ++ behind) :
    ∃ inner : Operand, inner.Derived ∧ rest = inner.tokens ++ behind := by
  cases derived with
  | leaf leaf =>
      rw [(List.cons.inj same).1, leaf.unaryOp?_eq_none] at written
      cases written
  | prefixed _ innerDerived =>
      exact ⟨_, innerDerived, (List.cons.inj same).2⟩
  | group opens _ _ _ _ =>
      rw [(List.cons.inj same).1, opens] at written
      cases written

/-- What begins with a parenthesis is a chain and the partner of the parenthesis. -/
theorem Operand.Derived.exists_behind_openParen
    {operand : Operand}
    (derived : operand.Derived)
    {opening : Token}
    {rest behind : List Token}
    (opens : opening.kind = .openParen)
    (same : opening :: rest = operand.tokens ++ behind) :
    ∃ (chain : Chain) (closing : Token),
      chain.Derived ∧ closing.kind = .closeParen ∧ rest = chain.tokens ++ closing :: behind := by
  cases derived with
  | leaf leaf =>
      exact absurd ((List.cons.inj same).1 ▸ opens) leaf.kind_ne_openParen
  | prefixed written _ =>
      rw [← (List.cons.inj same).1, opens] at written
      cases written
  | @group _ closing first joints _ firstDerived operators operands closes =>
      simp only [Operand.group, List.cons_append, List.append_assoc, List.nil_append,
        List.cons.injEq] at same
      exact ⟨⟨first, joints⟩, closing, ⟨firstDerived, operators, operands⟩, closes, same.2⟩

/-- In an operand, a token behind an unfinished beginning fits it. -/
theorem Unfinished.fits_of_append_eq
    {pending : Option Token}
    {tokens : List Token}
    (unfinished : Unfinished pending tokens)
    {operand : Operand}
    (derived : operand.Derived)
    {token : Token}
    {more behind : List Token}
    (same : tokens ++ token :: more = operand.tokens ++ behind) :
    Fits token pending := by
  induction unfinished generalizing operand behind with
  | start =>
      cases derived with
      | leaf leaf =>
          cases (List.cons.inj same).1
          exact Or.inr (Or.inr ⟨_, leaf⟩)
      | prefixed written _ =>
          cases (List.cons.inj same).1
          exact Or.inl (Option.isSome_of_eq_some written)
      | group opens _ _ _ _ =>
          cases (List.cons.inj same).1
          exact Or.inr (Or.inl opens)
  | prefixed written _ tokensHypothesis =>
      rcases derived.exists_behind_operator written same with ⟨inner, innerDerived, sameRest⟩
      exact tokensHypothesis innerDerived sameRest
  | inGroup opens isFront _ tokensHypothesis =>
      rw [List.cons_append, List.append_assoc] at same
      rcases derived.exists_behind_openParen opens same with
        ⟨chain, closing, chainDerived, closes, sameRest⟩
      rcases isFront.exists_operand chainDerived closes sameRest with
        ⟨inner, innerDerived, further, sameInner⟩
      exact tokensHypothesis innerDerived sameInner
  | unclosed opens chainDerived =>
      rcases derived.exists_behind_openParen opens same with
        ⟨other, closing, otherDerived, closes, sameRest⟩
      rcases chainDerived.rest_cases otherDerived closes sameRest with
        ended | ⟨joint, member, further, goesOn⟩
      · cases (List.cons.inj ended).1
        exact Or.inr closes
      · cases (List.cons.inj goesOn).1
        exact Or.inl (Option.isSome_of_eq_some (otherDerived.operators joint member))

/-- The tokens that can follow an unfinished operand are those that fit it. -/
theorem Unfinished.viable_append_iff
    {pending : Option Token}
    {tokens : List Token}
    (unfinished : Unfinished pending tokens)
    (token : Token) :
    Viable (tokens ++ [token]) ↔ Fits token pending := by
  constructor
  · rintro ⟨operand, derived, more, same⟩
    rw [List.append_assoc, List.singleton_append, ← List.append_nil operand.tokens] at same
    exact unfinished.fits_of_append_eq derived same
  · exact unfinished.viable_append

theorem Unfinished.viable
    {pending : Option Token}
    {tokens : List Token}
    (unfinished : Unfinished pending tokens) :
    Viable tokens := by
  have follows : ∃ token, Fits token pending := by
    cases pending with
    | none => exact ⟨⟨.openParen, ⟨0, 0⟩, "("⟩, Or.inr (Or.inl rfl)⟩
    | some opening => exact ⟨someClosing, Or.inr rfl⟩
  rcases follows with ⟨token, fits⟩
  rcases unfinished.viable_append fits with ⟨operand, derived, isPrefix⟩
  exact ⟨operand, derived, (List.prefix_append _ _).trans isPrefix⟩

/-! ## The innermost open parenthesis -/

theorem Balanced.openParens_append
    {tokens : List Token}
    (balanced : Balanced tokens)
    (around rest : List Token) :
    openParens around (tokens ++ rest) = openParens around rest := by
  induction balanced generalizing around rest with
  | nil =>
      rfl
  | @plain token tokens notOpen notClose _ tokensHypothesis =>
      rw [List.cons_append, openParens.eq_def]
      split
      · contradiction
      · rename_i isCons
        cases isCons
        split
        · contradiction
        · contradiction
        · exact tokensHypothesis around rest
  | @group opening closing inner tokens opens _ closes _ innerHypothesis tokensHypothesis =>
      simp only [List.cons_append, List.append_assoc, openParens, opens, innerHypothesis, closes,
        List.tail_cons, tokensHypothesis]

theorem ChainFront.balanced
    {front : List Token}
    (isFront : ChainFront front) :
    Balanced front := by
  cases isFront with
  | empty =>
      exact .nil
  | joined derived written =>
      exact derived.balanced.append (Balanced.nil.operator_cons (Or.inr (by simp [written])))

/-- The parenthesis that an unfinished operand waits to close is the innermost open one. -/
theorem Unfinished.head?_openParens
    {opening : Token}
    {tokens : List Token}
    (unfinished : Unfinished (some opening) tokens)
    (around : List Token) :
    (openParens around tokens).head? = some opening := by
  generalize isPending : some opening = pending at unfinished
  induction unfinished generalizing around with
  | start =>
      cases isPending
  | @prefixed operator op pending tokens written _ tokensHypothesis =>
      have balanced : Balanced [operator] := Balanced.nil.operator_cons (Or.inl (by simp [written]))
      rw [← List.singleton_append, balanced.openParens_append]
      exact tokensHypothesis around isPending
  | @inGroup inner front tokens pending opens isFront _ tokensHypothesis =>
      simp only [openParens, opens, isFront.balanced.openParens_append]
      exact tokensHypothesis _ isPending
  | @unclosed inner chain opens derived =>
      cases isPending
      have whole := derived.balanced.openParens_append (opening :: around) []
      rw [List.append_nil] at whole
      simp only [openParens, opens, whole, List.head?_cons]

/-! ## Where readings stop -/

/--
The token cannot follow, and this is the error for it: what the token is refused for where
an operand has to begin, and the open parenthesis where it could be closed.
-/
def RefusedAt (token : Token) (error : SyntaxError) : (pending : Option Token) → Prop
  | none =>
      token.kind.unaryOp? = none ∧ token.kind ≠ .openParen ∧
        Reading.leaf token = .error error.fault ∧ error.column = token.column
  | some opening =>
      token.kind.binaryOp? = none ∧ token.kind ≠ .closeParen ∧
        error = ⟨.unmatchedParentheses, opening.column⟩

theorem RefusedAt.not_fits
    {token : Token}
    {error : SyntaxError}
    {pending : Option Token}
    (refused : RefusedAt token error pending) :
    ¬ Fits token pending := by
  cases pending with
  | none =>
      rcases refused with ⟨noOperator, notOpen, noLeaf, _⟩
      rintro (isOperator | opens | ⟨tree, leaf⟩)
      · rw [noOperator] at isOperator
        cases isOperator
      · exact notOpen opens
      · rw [(leaf_eq_ok_iff token tree).2 leaf] at noLeaf
        cases noLeaf
  | some opening =>
      rcases refused with ⟨noOperator, notClose, _⟩
      rintro (isOperator | closes)
      · rw [noOperator] at isOperator
        cases isOperator
      · exact notClose closes

namespace Reading

variable
    {operand : Reading Expr}
    {levels : Nat}

/-- Behind one of the fronts, the reading has passed an unfinished operand and stops at a token
that cannot follow. -/
def StopsBehind
    (fronts : List Token → Prop)
    (parser after : Parser)
    (error : SyntaxError) :
    Prop :=
  ∃ front pending tokens,
    fronts front ∧ Unfinished pending tokens ∧
      parser.rest = front ++ (tokens ++ after.rest) ∧ RefusedAt after.current error pending

/-- Where the reading fails for another reason than nesting, it stops behind one of the fronts. -/
def RefusesBehind (fronts : List Token → Prop) (reading : Reading Expr) : Prop :=
  ∀ parser error after,
    reading.run parser = .error error after →
    error.fault ≠ .nestedTooDeeply →
    StopsBehind fronts parser after error

/-- What a fold has passed in front of the operand in which it fails. -/
def JointsFront (front : List Token) : Prop :=
  ∃ (joints : List Joint) (operator : Token) (op : BinaryOp),
    front = joints.flatMap Joint.tokens ++ [operator] ∧
      operator.kind.binaryOp? = some op ∧
      (∀ joint ∈ joints, joint.operator.kind.binaryOp? = some joint.op) ∧
      ∀ joint ∈ joints, joint.operand.Derived

theorem JointsFront.joints_append
    {front : List Token}
    (isFront : JointsFront front)
    (joints : List Joint)
    (operators : ∀ joint ∈ joints, joint.operator.kind.binaryOp? = some joint.op)
    (operands : ∀ joint ∈ joints, joint.operand.Derived) :
    JointsFront (joints.flatMap Joint.tokens ++ front) := by
  rcases isFront with ⟨others, operator, op, rfl, written, otherOperators, otherOperands⟩
  refine ⟨joints ++ others, operator, op, by simp, written, ?_, ?_⟩
  · exact List.forall_mem_append.2 ⟨operators, otherOperators⟩
  · exact List.forall_mem_append.2 ⟨operands, otherOperands⟩

theorem JointsFront.chainFront
    {front : List Token}
    (isFront : JointsFront front)
    {first : Operand}
    (derived : first.Derived) :
    ChainFront (first.tokens ++ front) := by
  rcases isFront with ⟨joints, operator, op, rfl, written, operators, operands⟩
  have chainDerived : Chain.Derived ⟨first, joints⟩ := ⟨derived, operators, operands⟩
  rw [← List.append_assoc]
  exact .joined chainDerived written

theorem StopsBehind.prepend
    {fronts widened : List Token → Prop}
    {parser between after : Parser}
    {error : SyntaxError}
    (stops : StopsBehind fronts between after error)
    (more : List Token)
    (parts : parser.rest = more ++ between.rest)
    (widens : ∀ front, fronts front → widened (more ++ front)) :
    StopsBehind widened parser after error := by
  rcases stops with ⟨front, pending, tokens, isFront, unfinished, rest, refused⟩
  refine ⟨more ++ front, pending, tokens, widens front isFront, unfinished, ?_, refused⟩
  rw [parts, rest, List.append_assoc]

theorem foldOperators_stopsBehind
    (reads : Reads operand (Operand.Within levels))
    (refuses : RefusesBehind (· = []) operand)
    (tokensLeft : Nat)
    (floor : Int)
    (leftHeight : Nat)
    (left : Expr)
    (parser : Parser)
    (error : SyntaxError)
    (after : Parser)
    (enough : parser.rest.length ≤ tokensLeft)
    (failed :
      (foldOperators operand tokensLeft floor leftHeight left).run parser = .error error after)
    (notDeep : error.fault ≠ .nestedTooDeeply) :
    StopsBehind JointsFront parser after error := by
  induction tokensLeft generalizing floor leftHeight left parser after with
  | zero =>
      cases failed
  | succ tokensLeft shorter =>
      rcases foldOperators_succ_run_eq_error failed with ⟨op, written, failed⟩
      have inFront := parser.rest_eq_current_cons (TokenKind.ne_endOfLine_of_binaryOp? written)
      rw [inFront, List.length_cons] at enough
      rcases failed with firstFailed | ⟨first, behindFirst, firstRead, failed⟩
      · refine (refuses _ _ _ firstFailed notDeep).prepend [parser.current] inFront ?_
        rintro _ rfl
        exact ⟨[], parser.current, op, rfl, written, by simp, by simp⟩
      · rcases (reads _ _ _).1 firstRead with ⟨firstOperand, firstWithin, firstPassed, rfl, _⟩
        let joint : Joint := ⟨parser.current, op, firstOperand⟩
        have jointPassed : parser.rest = joint.tokens ++ behindFirst.rest := by
          rw [inFront, firstPassed]
          rfl
        have firstShorter : behindFirst.rest.length ≤ tokensLeft := by
          rw [firstPassed, List.length_append] at enough
          omega
        rcases failed with rightFailed | ⟨right, behindRight, rightRead, failed⟩
        · rw [extendedRight_eq] at rightFailed
          refine (shorter _ _ _ _ _ firstShorter rightFailed).prepend _ jointPassed ?_
          intro front isFront
          have widened := isFront.joints_append [joint] (by simpa using written)
            (by simpa using firstWithin.derived)
          rwa [List.flatMap_singleton] at widened
        · rw [extendedRight_eq] at rightRead
          rcases exists_folded_of_foldOperators reads _ _ _ _ _ _ _ firstShorter rightRead with
            ⟨tighter, rightFolded, _⟩
          rcases failed with ⟨rfl, _⟩ | failed
          · exact absurd rfl notDeep
          · have rightShorter : behindRight.rest.length ≤ tokensLeft := by
              rw [rightFolded.passed, List.length_append] at firstShorter
              omega
            have jointsPassed :
                parser.rest =
                  (joint :: tighter).flatMap Joint.tokens ++ behindRight.rest := by
              rw [jointPassed, rightFolded.passed, List.flatMap_cons, List.append_assoc]
            refine (shorter _ _ _ ⟨behindRight.rest, max leftHeight behindRight.height + 1⟩ _
              rightShorter failed).prepend _ jointsPassed ?_
            intro front isFront
            refine isFront.joints_append (joint :: tighter) ?_ ?_
            · exact List.forall_mem_cons.2 ⟨written, fun next member =>
                (rightFolded.admitted next member).operator⟩
            · exact List.forall_mem_cons.2 ⟨firstWithin.derived, fun next member =>
                (rightFolded.admitted next member).operand.derived⟩

theorem RefusesBehind.expressionWith
    (reads : Reads operand (Operand.Within levels))
    (refuses : RefusesBehind (· = []) operand) :
    RefusesBehind ChainFront (expressionWith operand) := by
  intro parser error after failed notDeep
  rw [expressionWith_run] at failed
  cases firstRead : operand.run parser with
  | error firstError between =>
      rw [firstRead] at failed
      refine (refuses _ _ _ (firstRead.trans failed) notDeep).prepend [] rfl ?_
      rintro _ rfl
      exact .empty
  | ok left between =>
      simp only [firstRead, continuedWith_run] at failed
      rcases (reads _ _ _).1 firstRead with ⟨first, within, passed, rfl, _⟩
      exact (foldOperators_stopsBehind reads refuses _ _ _ _ _ _ _ (Nat.le_refl _) failed
        notDeep).prepend _ passed fun front isFront => isFront.chainFront within.derived

theorem RefusesBehind.primaryWith
    (reads : Reads operand (Operand.Within levels))
    (refuses : RefusesBehind (· = []) operand)
    {parser after : Parser}
    {error : SyntaxError}
    (plain : parser.current.kind.unaryOp? = none)
    (failed :
      (primaryWith (Reading.expressionWith operand)).run parser = .error error after)
    (notDeep : error.fault ≠ .nestedTooDeeply) :
    StopsBehind (· = []) parser after error := by
  rw [primaryWith_run] at failed
  by_cases opens : parser.current.kind = .openParen
  · have inFront := parser.rest_eq_current_cons (by simp [opens])
    rw [if_pos opens, groupingWith_run] at failed
    cases innerRead : (Reading.expressionWith operand).run parser.advanced with
    | error innerError between =>
        rw [innerRead] at failed
        rcases refuses.expressionWith reads _ _ _ (innerRead.trans failed) notDeep with
          ⟨front, pending, tokens, isFront, unfinished, rest, refused⟩
        refine ⟨[], pending, parser.current :: (front ++ tokens), rfl,
          .inGroup opens isFront unfinished, ?_, refused⟩
        rw [inFront, rest]
        simp
    | ok inner between =>
        rcases (expressionWith_run_eq_ok_iff reads _ _ _).1 innerRead with
          ⟨chain, within, passed, stops, _, _⟩
        simp only [innerRead] at failed
        by_cases closes : between.current.kind = .closeParen
        · simp [if_pos closes] at failed
        · rw [if_neg closes, EStateM.Result.error.injEq] at failed
          rcases failed with ⟨rfl, rfl⟩
          refine ⟨[], some parser.current, parser.current :: chain.tokens, rfl,
            .unclosed opens within.derived, ?_, stops, closes, rfl⟩
          rw [inFront, passed]
          rfl
  · rw [if_neg opens] at failed
    cases read : leaf parser.current with
    | ok tree =>
        simp [read] at failed
    | error fault =>
        simp only [read, EStateM.Result.error.injEq] at failed
        rcases failed with ⟨rfl, rfl⟩
        exact ⟨[], none, [], rfl, .start, rfl, plain, opens, read, rfl⟩

/-- The reader of operands stops behind an unfinished operand, at a token that cannot follow. -/
theorem refusesBehind_unaryWithin
    (levels : Nat) :
    RefusesBehind (· = []) (unaryWithin levels) := by
  induction levels with
  | zero =>
      intro parser error after failed notDeep
      rw [unaryWithin_zero_run, EStateM.Result.error.injEq] at failed
      rcases failed with ⟨rfl, _⟩
      exact absurd rfl notDeep
  | succ levels lower =>
      have reads := unaryWithin_reads levels
      intro parser error after failed notDeep
      rw [unaryWithin_succ_run] at failed
      cases written : parser.current.kind.unaryOp? with
      | none =>
          rw [written] at failed
          exact lower.primaryWith reads written failed notDeep
      | some op =>
          have inFront := parser.rest_eq_current_cons (TokenKind.ne_endOfLine_of_unaryOp? written)
          simp only [written] at failed
          cases operandRead : (unaryWithin levels).run parser.advanced with
          | error operandError between =>
              rw [operandRead] at failed
              rcases lower _ _ _ (operandRead.trans failed) notDeep with
                ⟨_, pending, tokens, rfl, unfinished, rest, refused⟩
              refine ⟨[], pending, parser.current :: tokens, rfl, .prefixed written unfinished, ?_,
                refused⟩
              rw [inFront, rest]
              rfl
          | ok tree between =>
              simp only [operandRead] at failed
              split at failed
              · rw [EStateM.Result.error.injEq] at failed
                rcases failed with ⟨rfl, _⟩
                exact absurd rfl notDeep
              · cases failed

end Reading

/-- An argument that is not refused for its nesting or for a parenthesis is refused at a token that
is no leaf, and reading goes on behind this token. -/
theorem Parser.exists_stopped_of_readArgument
    {parser after : Parser}
    {error : SyntaxError}
    (read : parser.readArgument = (.error error, after))
    (notDeep : error.fault ≠ .nestedTooDeeply)
    (matched : error.fault ≠ .unmatchedParentheses) :
    ∃ (passed : List Token) (stopped : Parser),
      parser.rest = passed ++ stopped.rest ∧ after = stopped.advanced ∧
        Reading.leaf stopped.current = .error error.fault ∧
        error.column = stopped.current.column := by
  rw [readArgument, Reading.unary] at read
  cases ran : (Reading.unaryWithin nestingLimit).run parser with
  | ok tree behind =>
      simp [ran] at read
  | error failure stopped =>
      have same : failure = error ∧ after = stopped.advanced := by
        simp only [ran] at read
        split at read
        · rename_i tooDeep
          cases read
          exact absurd tooDeep notDeep
        · cases read
          exact ⟨rfl, rfl⟩
      rcases same with ⟨rfl, advanced⟩
      rcases Reading.refusesBehind_unaryWithin nestingLimit _ _ _ ran notDeep with
        ⟨_, pending, passed, rfl, _, rest, refused⟩
      cases pending with
      | some opening =>
          rw [refused.2.2] at matched
          exact absurd rfl matched
      | none =>
          exact ⟨passed, stopped, rest, advanced, refused.2.2⟩

/--
Let a reading of an operand fail for another reason than its nesting.  Some operand of the
grammar begins with the tokens it has passed, and none begins with these and the token it
stops at.  Where a closing parenthesis could have stood instead of this token, the error
points to the innermost parenthesis that is open; everywhere else it points to the token.
-/
theorem errors_at_first_hopeless_token
    (parser after : Parser)
    (error : SyntaxError)
    (ended : HasEnd parser.rest)
    (failed : Reading.unary.run parser = .error error after)
    (notDeep : error.fault ≠ .nestedTooDeeply) :
    ∃ passed behind,
      parser.rest = passed ++ after.rest ∧
        after.rest = after.current :: behind ∧
        Viable passed ∧
        ¬ Viable (passed ++ [after.current]) ∧
        ∀ closing : Token,
          closing.kind = .closeParen →
            (Viable (passed ++ [closing]) →
              ∃ opening,
                (openParens [] passed).head? = some opening ∧
                  error.column = opening.column) ∧
            (¬ Viable (passed ++ [closing]) → error.column = after.current.column) := by
  rcases Reading.refusesBehind_unaryWithin nestingLimit _ _ _ failed notDeep with
    ⟨_, pending, passed, rfl, unfinished, rest, refused⟩
  have afterEnd : HasEnd after.rest := by
    rcases Reading.failsBehind_unaryWithin nestingLimit _ _ _ ended failed with
      ⟨_, _, _, _, _, _, _, afterEnd⟩
    exact afterEnd
  rcases afterEnd.exists_behind with ⟨behind, inFront⟩
  refine ⟨passed, behind, rest, inFront, unfinished.viable, ?_, ?_⟩
  · rw [unfinished.viable_append_iff]
    exact refused.not_fits
  · intro closing closes
    rw [unfinished.viable_append_iff]
    cases pending with
    | none =>
        refine ⟨?_, fun _ => refused.2.2.2⟩
        rintro (isOperator | opens | ⟨tree, leaf⟩)
        · simp [closes, TokenKind.unaryOp?] at isOperator
        · simp [closes] at opens
        · have listed := leaf.kind_mem
          simp [closes] at listed
    | some opening =>
        refine ⟨fun _ => ⟨opening, unfinished.head?_openParens [], ?_⟩, fun notFits => ?_⟩
        · rw [refused.2.2]
        · exact absurd (Or.inr closes) notFits

/-- Behind `b` a parenthesis could close the inner group of `-(a + (b c)`, and `c` stands there. -/
theorem errors_at_first_hopeless_token_of_missing_operator :
    ∃ passed after,
      Reading.unary.run (Parser.ofLine "-(a + (b c)") = .error ⟨.unmatchedParentheses, 6⟩ after ∧
        (Parser.ofLine "-(a + (b c)").rest = passed ++ after.rest ∧
        after.current = ⟨.identifier, ⟨9, 9⟩, "c"⟩ ∧
        Viable passed ∧
        ¬ Viable (passed ++ [after.current]) := by
  have failed :
      Reading.unary.run (Parser.ofLine "-(a + (b c)") =
        .error ⟨.unmatchedParentheses, 6⟩
          ⟨[⟨.identifier, ⟨9, 9⟩, "c"⟩, ⟨.closeParen, ⟨10, 10⟩, ")"⟩, Token.endOfLine 11], 1⟩ :=
    rfl
  have ended : HasEnd (Parser.ofLine "-(a + (b c)").rest :=
    ⟨Token.endOfLine 11, by decide +kernel, rfl⟩
  rcases errors_at_first_hopeless_token _ _ _ ended failed (by decide) with
    ⟨passed, _, rest, _, viable, notViable, _⟩
  exact ⟨passed, _, failed, rest, rfl, viable, notViable⟩

end AsmShell
