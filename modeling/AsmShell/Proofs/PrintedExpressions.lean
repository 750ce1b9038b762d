import AsmShell.Proofs.Columns
import AsmShell.Proofs.PrintedValues
import AsmShell.Proofs.WholeLines

/-!
# Reading undoes printing

The printed form of a tree is an operand: a literal, a variable, or a chain in
parentheses, which has one operator in front of an operand or one between two.  So no
precedence is needed to find the tree again, and each node of a printed tree opens at
most two levels, its parenthesis and an operator in front of its operand.
-/

namespace AsmShell

open Text

/-- The tree with all columns forgotten. -/
def Expr.withoutColumns (expr : Expr) : Expr :=
  expr.moveColumns fun _ => 0

/-- A span that is widened by parentheses is forgotten with the others. -/
theorem Expr.withoutColumns_withSpan
    (span : Span)
    (expr : Expr) :
    (expr.withSpan span).withoutColumns = expr.withoutColumns := by
  cases expr <;> rfl

/-! ## Printed forms -/

theorem Expr.toList_render_reference
    (name : String)
    (span : Span) :
    (reference name span).render.toList = '$' :: name.toList := by
  simp [render]

/-- An operand and the operator in front of it are printed in one pair of parentheses. -/
theorem Expr.toList_render_unary
    (op : UnaryOp)
    (operand : Expr)
    (span : Span) :
    (unary op operand span).render.toList =
      '(' :: (op.symbol.toList ++ operand.render.toList ++ [')']) := by
  simp [render]

/-- What stands behind the left operand of a printed operator. -/
def behindLeft (op : BinaryOp) (right : Expr) : List Char :=
  [' '] ++ (op.symbol.toList ++ ([' '] ++ right.render.toList))

/-- Parentheses around both operands make precedences irrelevant. -/
theorem Expr.toList_render_binary
    (op : BinaryOp)
    (left right : Expr)
    (opSpan span : Span) :
    (binary op left right opSpan span).render.toList =
      '(' :: (left.render.toList ++ behindLeft op right ++ [')']) := by
  simp [render, behindLeft]

/-- The trees whose values and variables have printed forms that are read back. -/
def Expr.Readable : Expr → Prop
  | .literal value _ => value.Readable
  | .reference name _ => IsName isNameChar name
  | .unary _ operand _ => operand.Readable
  | .binary _ left right _ _ => left.Readable ∧ right.Readable

/-! ## Scanning piece by piece -/

/-- In front of `following` the text is scanned as the tokens. -/
def ScannedAs (column : Nat) (text following : List Char) (tokens : List Token) : Prop :=
  tokensFrom column 0 (text ++ following) =
    tokens ++ tokensFrom (column + text.length) 0 following

/-- Texts are scanned one after the other when the first one knows what follows it. -/
theorem ScannedAs.append
    {column : Nat}
    {front back following : List Char}
    {frontTokens backTokens : List Token}
    (frontScanned : ScannedAs column front (back ++ following) frontTokens)
    (backScanned : ScannedAs (column + front.length) back following backTokens) :
    ScannedAs column (front ++ back) following (frontTokens ++ backTokens) := by
  rw [ScannedAs, List.append_assoc, frontScanned, backScanned, List.append_assoc,
    List.length_append, Nat.add_assoc]

/-- A symbol is a token of its own where no longer symbol begins with it and the next character.
-/
theorem scannedAs_symbol
    {kind : TokenKind}
    {symbol : String}
    (written : kind.symbol? = some symbol)
    {following : List Char}
    (ended : ∀ next ∈ following.head?, prolongsSymbol next = false)
    (column : Nat) :
    ScannedAs column symbol.toList following [Token.ofSource kind column symbol.toList] :=
  tokensFrom_longestMatch (longestMatch_symbol written ended) column

/-- A single space gives no token. -/
theorem scannedAs_space
    {following : List Char}
    (ended : ∀ next ∈ following.head?, isSeparator next = false)
    (column : Nat) :
    ScannedAs column [' '] following [] :=
  tokensFrom_separators (longestMatch_space ended) column

/-- The text begins with a character that ends a separator and a symbol in front of it. -/
def Opens (text : List Char) : Prop :=
  ∃ first rest,
    text = first :: rest ∧ isSeparator first = false ∧ prolongsSymbol first = false

/-- A character of a name does not prolong a symbol. -/
theorem Opens.of_isNameChar
    {first : Char}
    (accepted : isNameChar first = true)
    (rest : List Char) :
    Opens (first :: rest) := by
  have checked :
      ∀ character, isNameChar character = true →
        isSeparator character = false ∧ prolongsSymbol character = false := by
    apply forall_isNameChar
    decide +kernel
  exact ⟨first, rest, rfl, checked first accepted⟩

theorem Opens.append
    {text : List Char}
    (opens : Opens text)
    (back : List Char) :
    Opens (text ++ back) := by
  rcases opens with ⟨first, rest, rfl, fresh⟩
  exact ⟨first, rest ++ back, rfl, fresh⟩

/-- What opens an expression is no blank. -/
theorem Opens.isSeparator_eq_false
    {text : List Char}
    (opens : Opens text) :
    ∀ next ∈ text.head?, isSeparator next = false := by
  rcases opens with ⟨first, rest, rfl, notSeparator, _⟩
  rintro next ⟨⟩
  exact notSeparator

/-- What opens an expression does not prolong the symbol in front of it. -/
theorem Opens.prolongsSymbol_eq_false
    {text : List Char}
    (opens : Opens text) :
    ∀ next ∈ text.head?, prolongsSymbol next = false := by
  rcases opens with ⟨first, rest, rfl, _, notProlonging⟩
  rintro next ⟨⟩
  exact notProlonging

theorem Value.Readable.opens
    {value : Value}
    (readable : value.Readable) :
    Opens value.render.toList := by
  cases value with
  | identifier name =>
      rcases readable with ⟨first, rest, spelled, starts, _⟩
      show Opens name.toList
      rw [spelled]
      exact .of_isNameChar (isNameChar_of_isNameStart starts) rest
  | integer number =>
      rcases exists_digits_integerText readable with ⟨first, rest, spelled, _, allDigits⟩
      show Opens (integerText number).toList
      rw [spelled]
      exact .of_isNameChar (isNameChar_of_isDigit (allDigits first List.mem_cons_self)) rest
  | float number =>
      exact readable.elim
  | string text =>
      exact ⟨'"', _, String.toList_ofList, by decide, by decide⟩

/-- No printed expression joins with the operator in front of it to a longer symbol. -/
theorem Expr.Readable.opens
    {expr : Expr}
    (readable : expr.Readable) :
    Opens expr.render.toList := by
  cases expr with
  | literal value span =>
      exact Value.Readable.opens readable
  | reference name span =>
      exact ⟨'$', _, toList_render_reference name span, by decide, by decide⟩
  | unary op operand span =>
      exact ⟨'(', _, toList_render_unary op operand span, by decide, by decide⟩
  | binary op left right opSpan span =>
      exact ⟨'(', _, toList_render_binary op left right opSpan span, by decide, by decide⟩

/-! ## Operators -/

/-- Every operator in front of an operand is printed as a symbol that is read as this operator. -/
theorem UnaryOp.exists_kind
    (op : UnaryOp) :
    ∃ kind : TokenKind, kind.symbol? = some op.symbol ∧ kind.unaryOp? = some op := by
  cases op with
  | plus => exact ⟨.plus, rfl, rfl⟩
  | negate => exact ⟨.minus, rfl, rfl⟩
  | not => exact ⟨.bang, rfl, rfl⟩
  | complement => exact ⟨.tilde, rfl, rfl⟩

theorem UnaryOp.opens_symbol
    (op : UnaryOp) :
    Opens op.symbol.toList := by
  cases op <;> exact ⟨_, _, rfl, by decide, by decide⟩

/-- Every operator between operands is printed as a symbol that is read as this operator. -/
theorem BinaryOp.exists_kind
    (op : BinaryOp) :
    ∃ kind : TokenKind, kind.symbol? = some op.symbol ∧ kind.binaryOp? = some op := by
  cases op with
  | arithmetic op =>
      cases op with
      | add => exact ⟨.plus, rfl, rfl⟩
      | subtract => exact ⟨.minus, rfl, rfl⟩
      | multiply => exact ⟨.star, rfl, rfl⟩
      | divide => exact ⟨.slash, rfl, rfl⟩
      | remainder => exact ⟨.percent, rfl, rfl⟩
  | comparison op =>
      cases op with
      | equal => exact ⟨.doubleEqual, rfl, rfl⟩
      | notEqual => exact ⟨.bangEqual, rfl, rfl⟩
      | greater => exact ⟨.greater, rfl, rfl⟩
      | less => exact ⟨.less, rfl, rfl⟩
      | greaterEqual => exact ⟨.greaterEqual, rfl, rfl⟩
      | lessEqual => exact ⟨.lessEqual, rfl, rfl⟩
  | logic op =>
      cases op with
      | and => exact ⟨.doubleAmpersand, rfl, rfl⟩
      | or => exact ⟨.doubleBar, rfl, rfl⟩
  | bitwise op =>
      cases op with
      | and => exact ⟨.ampersand, rfl, rfl⟩
      | or => exact ⟨.bar, rfl, rfl⟩
      | xor => exact ⟨.caret, rfl, rfl⟩
      | shiftLeft => exact ⟨.doubleLess, rfl, rfl⟩
      | shiftRight => exact ⟨.doubleGreater, rfl, rfl⟩

theorem BinaryOp.symbol_starts
    (op : BinaryOp)
    (back : List Char) :
    ∀ next ∈ (op.symbol.toList ++ back).head?, isSeparator next = false := by
  cases op with
  | arithmetic op => cases op <;> rintro next ⟨⟩ <;> decide
  | comparison op => cases op <;> rintro next ⟨⟩ <;> decide
  | logic op => cases op <;> rintro next ⟨⟩ <;> decide
  | bitwise op => cases op <;> rintro next ⟨⟩ <;> decide

/-! ## Printed trees -/

/-- The printed tree is scanned as the operand, which is the tree again. -/
structure ReadsBack
    (expr : Expr)
    (column : Nat)
    (following : List Char)
    (operand : Operand) :
    Prop where
  derived : operand.Derived
  scanned : ScannedAs column expr.render.toList following operand.tokens
  tree : operand.tree.withoutColumns = expr.withoutColumns
  shallow : ∀ count ∈ operand.enclosures, count + 2 ≤ 2 * expr.height

/-- A text that is scanned as one leaf is read back as this leaf. -/
theorem ScansAsLeaf.exists_readsBack
    {expr : Expr}
    {tree : Span → Expr}
    {following : List Char}
    (scans : ScansAsLeaf expr.render.toList following tree)
    (same : ∀ span, (tree span).withoutColumns = expr.withoutColumns)
    (height : expr.height = 1)
    (column : Nat) :
    ∃ operand, ReadsBack expr column following operand := by
  rcases scans with ⟨kind, longest, leaf⟩
  refine ⟨.leaf _ _, .leaf (leaf column), tokensFrom_longestMatch longest column, same _, ?_⟩
  intro count member
  have outermost : count = 0 := List.mem_singleton.1 member
  omega

theorem EndsOperand.prolongsSymbol_eq_false
    {following : List Char}
    (ended : EndsOperand following) :
    ∀ next ∈ following.head?, prolongsSymbol next = false := by
  intro next isNext
  rcases ended next isNext with rfl | rfl
  · decide
  · decide

/-- A chain in parentheses is an operand, and the parentheses open one level. -/
theorem exists_readsBack_of_chain
    {expr : Expr}
    {body following : List Char}
    {column : Nat}
    (chain : Chain)
    (ended : EndsOperand following)
    (printed : expr.render.toList = '(' :: (body ++ [')']))
    (opens : Opens body)
    (derived : chain.Derived)
    (scanned : ScannedAs (column + 1) body (')' :: following) chain.tokens)
    (tree : chain.tree.withoutColumns = expr.withoutColumns)
    (shallow : ∀ count ∈ chain.enclosures, count + 3 ≤ 2 * expr.height) :
    ∃ operand, ReadsBack expr column following operand := by
  have opened :
      ScannedAs column ['('] (body ++ [')'] ++ following)
        [Token.ofSource .openParen column ['(']] := by
    have written : TokenKind.openParen.symbol? = some "(" := rfl
    have bodyOpens := (opens.append [')']).append following
    exact scannedAs_symbol written bodyOpens.prolongsSymbol_eq_false column
  have closed :
      ScannedAs (column + 1 + body.length) [')'] following
        [Token.ofSource .closeParen (column + 1 + body.length) [')']] := by
    have written : TokenKind.closeParen.symbol? = some ")" := rfl
    exact scannedAs_symbol written ended.prolongsSymbol_eq_false _
  refine ⟨.group (Token.ofSource .openParen column ['(']) chain
    (Token.ofSource .closeParen (column + 1 + body.length) [')']), ?_, ?_, ?_, ?_⟩
  · exact .group rfl derived.first derived.operators derived.operands rfl
  · rw [printed]
    exact opened.append (scanned.append closed)
  · exact (Expr.withoutColumns_withSpan _ _).trans tree
  · have outermost : 2 ≤ 2 * expr.height := by
      have := shallow 0 (List.mem_append_left _ derived.first.zero_mem_enclosures)
      omega
    intro count member
    rcases List.mem_cons.1 member with rfl | member
    · omega
    · rcases List.mem_append.1 member with inChain | isClosing
      · rcases List.mem_map.1 inChain with ⟨inside, insideMember, rfl⟩
        have := shallow inside insideMember
        omega
      · rw [List.mem_singleton.1 isClosing]
        omega

/-- If an operand reads back, it does so behind an operator in parentheses. -/
theorem ReadsBack.exists_unary
    {op : UnaryOp}
    {operand : Expr}
    {column : Nat}
    {following : List Char}
    {inner : Operand}
    (opens : Opens operand.render.toList)
    (ended : EndsOperand following)
    (innerBack :
      ReadsBack operand (column + 1 + op.symbol.toList.length) (')' :: following) inner)
    (span : Span) :
    ∃ printed, ReadsBack (.unary op operand span) column following printed := by
  rcases op.exists_kind with ⟨kind, written, operates⟩
  have operatorScanned :=
    scannedAs_symbol written (opens.append (')' :: following)).prolongsSymbol_eq_false
      (column + 1)
  refine exists_readsBack_of_chain
    ⟨.prefixed (Token.ofSource kind (column + 1) op.symbol.toList) op inner, []⟩ ended
    (Expr.toList_render_unary op operand span) (op.opens_symbol.append _)
    ⟨.prefixed operates innerBack.derived, by simp, by simp⟩ ?_ ?_ ?_
  · rw [Chain.tokens_single]
    exact operatorScanned.append innerBack.scanned
  · rw [Chain.tree_single]
    show Expr.unary op inner.tree.withoutColumns _ = _
    rw [innerBack.tree]
    rfl
  · intro count member
    show count + 3 ≤ 2 * (operand.height + 1)
    rw [Chain.enclosures_single] at member
    rcases List.mem_cons.1 member with rfl | member
    · have := innerBack.shallow 0 innerBack.derived.zero_mem_enclosures
      omega
    · rcases List.mem_map.1 member with ⟨inside, insideMember, rfl⟩
      have := innerBack.shallow inside insideMember
      omega

/-- If both operands read back, they do so on both sides of an operator in parentheses. -/
theorem ReadsBack.exists_binary
    {op : BinaryOp}
    {left right : Expr}
    {column : Nat}
    {following : List Char}
    {first second : Operand}
    (leftOpens : Opens left.render.toList)
    (rightOpens : Opens right.render.toList)
    (ended : EndsOperand following)
    (leftBack :
      ReadsBack left (column + 1) (behindLeft op right ++ ')' :: following) first)
    (rightBack :
      ReadsBack right
        (column + 1 + left.render.toList.length + 1 + op.symbol.toList.length + 1)
        (')' :: following) second)
    (opSpan span : Span) :
    ∃ printed, ReadsBack (.binary op left right opSpan span) column following printed := by
  rcases op.exists_kind with ⟨kind, written, operates⟩
  -- A space on either side keeps the operator from merging with its operands.
  let operator :=
    Token.ofSource kind (column + 1 + left.render.toList.length + 1) op.symbol.toList
  have spaceBefore :
      ScannedAs (column + 1 + left.render.toList.length) [' ']
        (op.symbol.toList ++ ([' '] ++ right.render.toList) ++ ')' :: following) [] := by
    rw [List.append_assoc]
    exact scannedAs_space (op.symbol_starts _) _
  have spaceBehind :
      ScannedAs
        (column + 1 + left.render.toList.length + 1 + op.symbol.toList.length) [' ']
        (right.render.toList ++ ')' :: following) [] :=
    scannedAs_space (rightOpens.append _).isSeparator_eq_false _
  have operatorScanned :
      ScannedAs (column + 1 + left.render.toList.length + 1) op.symbol.toList
        ([' '] ++ right.render.toList ++ ')' :: following) [operator] := by
    apply scannedAs_symbol written
    rintro next ⟨⟩
    decide
  refine exists_readsBack_of_chain ⟨first, [⟨operator, op, second⟩]⟩ ended
    (Expr.toList_render_binary op left right opSpan span) (leftOpens.append _)
    ⟨leftBack.derived, ?_, ?_⟩ ?_ ?_ ?_
  · exact List.forall_mem_singleton.2 operates
  · exact List.forall_mem_singleton.2 rightBack.derived
  · rw [Chain.tokens_pair]
    exact leftBack.scanned.append
      (spaceBefore.append (operatorScanned.append (spaceBehind.append rightBack.scanned)))
  · rw [Chain.tree_pair]
    show Expr.binary op first.tree.withoutColumns second.tree.withoutColumns _ _ = _
    rw [leftBack.tree, rightBack.tree]
    rfl
  · intro count member
    show count + 3 ≤ 2 * (max left.height right.height + 1)
    rw [Chain.enclosures_pair] at member
    rcases List.mem_append.1 member with inLeft | member
    · have := leftBack.shallow count inLeft
      omega
    · rcases List.mem_cons.1 member with rfl | inRight
      · have := leftBack.shallow 0 leftBack.derived.zero_mem_enclosures
        omega
      · have := rightBack.shallow count inRight
        omega

/-- Every readable tree is read back from its printed form. -/
theorem Expr.Readable.exists_readsBack
    {expr : Expr}
    (readable : expr.Readable)
    (column : Nat)
    {following : List Char}
    (ended : EndsOperand following) :
    ∃ operand, ReadsBack expr column following operand := by
  have closing (back : List Char) : EndsOperand (')' :: back) := by
    rintro next ⟨⟩
    exact Or.inr rfl
  induction expr generalizing column following with
  | literal value span =>
      have scans : ScansAsLeaf (literal value span).render.toList following (.literal value) :=
        Value.Readable.scansAsLeaf readable ended
      exact scans.exists_readsBack (fun _ => rfl) rfl column
  | reference name span =>
      have scans :
          ScansAsLeaf (reference name span).render.toList following (.reference name) := by
        rw [toList_render_reference]
        exact IsName.scansAsLeaf readable ended
      exact scans.exists_readsBack (fun _ => rfl) rfl column
  | unary op operand span operandHypothesis =>
      have operandReadable : operand.Readable := readable
      rcases operandHypothesis operandReadable _ (closing following) with ⟨inner, innerBack⟩
      exact ReadsBack.exists_unary operandReadable.opens ended innerBack span
  | binary op left right opSpan span leftHypothesis rightHypothesis =>
      rcases readable with ⟨leftReadable, rightReadable⟩
      have spaced : EndsOperand (behindLeft op right ++ ')' :: following) := by
        rintro next ⟨⟩
        exact Or.inl rfl
      rcases leftHypothesis leftReadable _ spaced with ⟨first, leftBack⟩
      rcases rightHypothesis rightReadable _ (closing following) with ⟨second, rightBack⟩
      exact leftBack.exists_binary leftReadable.opens rightReadable.opens ended rightBack
        opSpan span

/--
A tree of at most 128 levels that is readable is read back from its printed form as one
expression, up to its columns.
-/
theorem printed_expression_reads_back
    (expr : Expr)
    (readable : expr.Readable)
    (short : expr.height ≤ 128) :
    ∃ result after,
      Reading.expression.run (Parser.ofLine expr.render) = .ok result after ∧
        after.current.kind = .endOfLine ∧
        result.withoutColumns = expr.withoutColumns := by
  have nothing : EndsOperand [] := by
    rintro next ⟨⟩
  rcases readable.exists_readsBack 0 nothing with ⟨operand, readsBack⟩
  have sameHeight : operand.tree.height = expr.height := by
    have heights := congrArg Expr.height readsBack.tree
    rw [Expr.withoutColumns, Expr.height_moveColumns, Expr.withoutColumns,
      Expr.height_moveColumns] at heights
    exact heights
  have within : operand.Within nestingLimit := by
    refine ⟨readsBack.derived, ?_, ?_⟩
    · rw [sameHeight]
      exact Nat.le_trans short (by decide)
    · -- Two levels for each node but the last are at most 254.
      intro count member
      have := readsBack.shallow count member
      show count < 256
      omega
  have scanned := readsBack.scanned
  rw [ScannedAs, List.append_nil] at scanned
  have scanned :
      tokenize expr.render =
        Chain.tokens ⟨operand, []⟩ ++ [Token.endOfLine (0 + expr.render.toList.length)] := by
    rw [Chain.tokens_single]
    exact scanned
  refine ⟨_, _, within.chain.expression_run_ofLine scanned, rfl, ?_⟩
  rw [Chain.tree_single]
  exact readsBack.tree

/-- A tree whose operators would group otherwise without parentheses is read back as it was. -/
theorem printed_expression_reads_back_of_shift :
    ∃ result after,
      Reading.expression.run (Parser.ofLine "((-$n) << (\"a\\n\" != 10))") = .ok result after ∧
        after.current.kind = .endOfLine ∧
        result.withoutColumns =
          .binary (.bitwise .shiftLeft)
            (.unary .negate (.reference "n" ⟨0, 0⟩) ⟨0, 0⟩)
            (.binary (.comparison .notEqual)
              (.literal (.string "a\n") ⟨0, 0⟩) (.literal (.integer 10) ⟨0, 0⟩)
              ⟨0, 0⟩ ⟨0, 0⟩)
            ⟨0, 0⟩ ⟨0, 0⟩ := by
  let difference : Expr :=
    .binary (.comparison .notEqual)
      (.literal (.string "a\n") ⟨0, 0⟩) (.literal (.integer 10) ⟨0, 0⟩) ⟨0, 0⟩ ⟨0, 0⟩
  let shift : Expr :=
    .binary (.bitwise .shiftLeft)
      (.unary .negate (.reference "n" ⟨0, 0⟩) ⟨0, 0⟩) difference ⟨0, 0⟩ ⟨0, 0⟩
  have readable : shift.Readable := by
    refine ⟨⟨'n', [], rfl, by decide, by simp⟩, ?_, ?_⟩
    · intro character member
      have listed : character ∈ ['a', '\n'] := member
      simp only [List.mem_cons, List.not_mem_nil, or_false] at listed
      rcases listed with rfl | rfl
      · exact Or.inl (by decide +kernel)
      · exact Or.inr ⟨'n', by simp, by decide +kernel⟩
    · show 0 ≤ (10 : Int64).toInt
      decide
  have printed : shift.render = "((-$n) << (\"a\\n\" != 10))" := by
    decide +kernel
  rw [← printed]
  exact printed_expression_reads_back shift readable (by decide)

end AsmShell
