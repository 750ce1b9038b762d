import AsmShell.Proofs.CommandDiagnostics
import AsmShell.Proofs.FailingTokens
import AsmShell.Proofs.RunsEnd
import AsmShell.Proofs.SplitLines
import AsmShell.Proofs.StyleCodes
import AsmShell.Proofs.TokenTiling

/-!
# Texts without an escape

No text of the shell has an escape in it that was not in what the text was made from.
The tokens of a line say what stands in the line, a few letters behind a backslash
apart; names and texts in an expression are those of its tokens; a value that is a text
is one of these; and messages quote names, texts and numbers between fixed words.  A
printed text writes an escape by its code point.  The bytes of a file are decoded to an
escape only where they have its byte.
-/

namespace AsmShell

open Text

/-! ## Values and expressions -/

/-- There is no escape in the value, where it is a text. -/
def Value.EscapeFree (value : Value) : Prop :=
  ∀ text, value.text? = some text → Text.EscapeFree text

/-- There is no escape in the names and the texts of the expression. -/
def Expr.EscapeFree : Expr → Prop
  | .literal value _ => value.EscapeFree
  | .reference name _ => Text.EscapeFree name
  | .unary _ operand _ => operand.EscapeFree
  | .binary _ left right _ _ => left.EscapeFree ∧ right.EscapeFree

/-- Numbers are free of escapes whatever they are. -/
theorem Value.escapeFree_of_isNumeric
    {value : Value}
    (numeric : value.isNumeric = true) :
    value.EscapeFree := by
  cases value with
  | identifier name => cases numeric
  | string text => cases numeric
  | integer number => nofun
  | float number => nofun

theorem Expr.EscapeFree.withSpan
    {expr : Expr}
    (free : expr.EscapeFree)
    (span : Span) :
    (expr.withSpan span).EscapeFree := by
  cases expr <;> exact free

theorem Expr.EscapeFree.of_mem_postorder
    {expr node : Expr}
    (free : expr.EscapeFree)
    (member : node ∈ expr.postorder) :
    node.EscapeFree := by
  induction expr with
  | literal value span =>
      rw [List.mem_singleton.1 member]
      exact free
  | reference name span =>
      rw [List.mem_singleton.1 member]
      exact free
  | unary op operand span operandHypothesis =>
      rcases List.mem_append.1 member with inOperand | isRoot
      · exact operandHypothesis free inOperand
      · rw [List.mem_singleton.1 isRoot]
        exact free
  | binary op left right opSpan span leftHypothesis rightHypothesis =>
      simp only [postorder, List.mem_append, List.mem_singleton] at member
      rcases member with inLeft | inRight | rfl
      · exact leftHypothesis free.1 inLeft
      · exact rightHypothesis free.2 inRight
      · exact free

/-! ## Tokens and arguments -/

/-- Decoding a quoted text adds three characters at most, and an escape is none of them. -/
theorem Text.Quoted.mem_of_mem_decode
    {character : Char}
    {source : List Char}
    (member : character ∈ decode source) :
    character ∈ source ∨ character ∈ ['\n', '\t', '\x00'] := by
  induction source using decode.induct with
  | case1 => cases member
  | case2 escaped rest restHypothesis =>
      rw [decode] at member
      rcases List.mem_cons.1 member with rfl | inRest
      · unfold decodeEscaped
        split <;> simp
      · refine (restHypothesis inRest).imp_left fun inSource => ?_
        exact List.mem_cons_of_mem _ (List.mem_cons_of_mem _ inSource)
  | case3 first rest notEscaped restHypothesis =>
      rw [decode] at member
      · rcases List.mem_cons.1 member with rfl | inRest
        · exact .inl List.mem_cons_self
        · exact (restHypothesis inRest).imp_left (List.mem_cons_of_mem _)
      · exact notEscaped

/-- A token says nothing but what stands in the line. -/
theorem Token.escapeFree_ofSource
    {source : List Char}
    (free : Style.escape ∉ source)
    (kind : TokenKind)
    (column : Nat) :
    EscapeFree (ofSource kind column source).text := by
  rw [EscapeFree, ofSource, String.toList_ofList]
  intro member
  unfold textOf at member
  split at member
  · rcases Quoted.mem_of_mem_decode member with inSource | isLetter
    · exact free (List.mem_of_mem_tail ((List.dropLast_sublist _).subset inSource))
    · exact absurd isLetter (by decide)
  · exact free (List.mem_of_mem_tail member)
  · exact free member

/-- The tokens of a line have no escape that the line has not. -/
theorem Token.escapeFree_of_mem_tokenize
    {line : String}
    (free : EscapeFree line)
    {token : Token}
    (member : token ∈ tokenize line)
    (inside : token.kind ≠ .endOfLine) :
    EscapeFree token.text := by
  rcases exists_source_of_mem_tokenize member inside with ⟨back, taken, _, same⟩
  rw [same]
  apply escapeFree_ofSource
  intro inSource
  have behind : Style.escape ∈ line.toList.drop token.column := by
    rw [taken]
    exact List.mem_append_left _ inSource
  exact free (List.mem_of_mem_drop behind)

theorem LeafToken.escapeFree
    {token : Token}
    {tree : Expr}
    (leaf : LeafToken token tree)
    (free : EscapeFree token.text) :
    tree.EscapeFree := by
  cases leaf with
  | identifier =>
      rintro _ ⟨⟩
      exact free
  | string =>
      rintro _ ⟨⟩
      exact free
  | reference => exact free
  | integer => nofun
  | float => nofun

/-- Operators bring no text into a tree. -/
theorem Chain.escapeFree_tree
    {chain : Chain}
    (first : chain.first.tree.EscapeFree)
    (operands : ∀ joint ∈ chain.joints, joint.operand.tree.EscapeFree) :
    chain.tree.EscapeFree := by
  induction chain using chain_induction with
  | single only =>
      rw [Chain.tree_single]
      exact first
  | joined only before joint after splits beforeHypothesis afterHypothesis =>
      rw [splits.chain_tree_eq]
      simp only [List.forall_mem_append, List.forall_mem_cons] at operands
      exact ⟨beforeHypothesis first operands.1, afterHypothesis operands.2.1 operands.2.2⟩

/-- The names and texts of an operand are those of its tokens. -/
theorem Operand.Derived.escapeFree
    {operand : Operand}
    (derived : operand.Derived)
    (free : ∀ token ∈ operand.tokens, EscapeFree token.text) :
    operand.tree.EscapeFree := by
  induction derived with
  | leaf leaf => exact leaf.escapeFree (free _ (List.mem_singleton_self _))
  | prefixed _ _ operandHypothesis =>
      exact operandHypothesis fun token member => free token (List.mem_cons_of_mem _ member)
  | @group opening closing first joints _ _ _ _ _ firstHypothesis operandsHypothesis =>
      have inside : ∀ token ∈ Chain.tokens ⟨first, joints⟩, EscapeFree token.text :=
        fun token member =>
          free token (List.mem_cons_of_mem _ (List.mem_append_left _ member))
      refine (Chain.escapeFree_tree ?_ ?_).withSpan _
      · exact firstHypothesis fun token member => inside token (List.mem_append_left _ member)
      · intro joint isJoint
        refine operandsHypothesis joint isJoint fun token member => ?_
        have inJoint : token ∈ joint.tokens := List.mem_cons_of_mem _ member
        have inJoints := List.mem_flatMap.2 ⟨joint, isJoint, inJoint⟩
        exact inside token (List.mem_append_right _ inJoints)

/-- The arguments of a line without escapes have none. -/
theorem Expr.escapeFree_of_mem_arguments
    {text : String}
    (free : Text.EscapeFree text)
    {command : Command}
    (parsed : (parseLine text).command = some command)
    {argument : Expr}
    (member : argument ∈ command.arguments) :
    argument.EscapeFree := by
  rcases Parser.exists_operand_of_mem_arguments parsed argument member with
    ⟨operand, within, rfl, inside⟩
  rw [Parser.ofLine_eq] at inside
  apply within.derived.escapeFree
  intro token isToken
  exact Token.escapeFree_of_mem_tokenize free (inside.subset isToken)
    (within.derived.kind_ne_endOfLine token isToken)

/-! ## What an expression evaluates to -/

/-- An operator gives a number. -/
theorem UnaryOp.isNumeric_of_apply
    {op : UnaryOp}
    {operand value : Value}
    (applied : op.apply operand = .ok value) :
    value.isNumeric = true := by
  cases op <;> cases operand <;> cases applied <;> rfl

/-- An operator between operands gives a number, also where it compares texts. -/
theorem BinaryOp.isNumeric_of_apply
    {op : BinaryOp}
    {left right value : Value}
    (applied : op.apply left right = .ok value) :
    value.isNumeric = true := by
  cases op with
  | arithmetic op =>
      simp only [apply, ArithmeticOp.apply] at applied
      split at applied
      · rcases map_eq_ok.1 applied with ⟨_, _, rfl⟩
        rfl
      · rcases map_eq_ok.1 applied with ⟨_, _, rfl⟩
        rfl
      · cases applied
  | comparison op =>
      simp only [apply, ComparisonOp.apply] at applied
      split at applied <;> cases applied
      rfl
  | logic op =>
      simp only [apply, LogicOp.apply] at applied
      split at applied <;> cases applied
      rfl
  | bitwise op =>
      simp only [apply, BitwiseOp.apply] at applied
      split at applied
      · rcases map_eq_ok.1 applied with ⟨_, _, rfl⟩
        rfl
      · cases applied

namespace Expr

variable
    {lookup : String → Option Value}
    {value : Value}

theorem isNumeric_of_resolve
    {name : String}
    (resolved : resolve lookup name = .ok value) :
    value.isNumeric = true := by
  unfold resolve at resolved
  split at resolved
  · split at resolved
    · rename_i numeric
      cases resolved
      exact numeric
    · cases resolved
  · cases resolved

/-- Only a literal has a text for its value, and that is a text that it says. -/
theorem EscapeFree.of_eval
    {expr : Expr}
    (free : expr.EscapeFree)
    (evaluated : expr.eval lookup = .ok value) :
    value.EscapeFree := by
  cases expr with
  | literal literal span =>
      cases evaluated
      exact free
  | reference name span =>
      exact Value.escapeFree_of_isNumeric (isNumeric_of_resolve (mapError_eq_ok.1 evaluated))
  | unary op operand span =>
      rcases bind_eq_ok.1 evaluated with ⟨operandValue, _, applied⟩
      exact Value.escapeFree_of_isNumeric
        (UnaryOp.isNumeric_of_apply (mapError_eq_ok.1 applied))
  | binary op left right opSpan span =>
      rcases bind_eq_ok.1 evaluated with ⟨leftValue, _, others⟩
      rcases bind_eq_ok.1 others with ⟨rightValue, _, applied⟩
      exact Value.escapeFree_of_isNumeric
        (BinaryOp.isNumeric_of_apply (mapError_eq_ok.1 applied))

end Expr

/-! ## Printed numbers and texts -/

/-- An escape is no character of a number. -/
theorem escapeFree_of_forall_isNumberChar
    {text : String}
    (numbers : ∀ character ∈ text.toList, isNumberChar character = true) :
    EscapeFree text :=
  fun member => absurd (numbers Style.escape member) (by decide)

theorem escapeFree_integerText
    (number : Int64) :
    EscapeFree (integerText number) :=
  escapeFree_of_forall_isNumberChar fun _ => isNumberChar_of_mem_integerText

theorem escapeFree_toString
    (number : Nat) :
    EscapeFree (toString number) := by
  apply escapeFree_of_forall_isNumberChar
  intro character member
  exact isNumberChar_of_mem_toDigits (by simpa using member)

/-- Texts without escapes stay so when they are joined. -/
theorem EscapeFree.intercalate
    {separator : String}
    (separatorFree : EscapeFree separator)
    {texts : List String}
    (free : ∀ text ∈ texts, EscapeFree text) :
    EscapeFree (separator.intercalate texts) := by
  cases texts with
  | nil => exact .ofList List.not_mem_nil
  | cons text texts =>
      rcases List.forall_mem_cons.1 free with ⟨firstFree, othersFree⟩
      induction texts generalizing text with
      | nil =>
          rw [String.intercalate_singleton]
          exact firstFree
      | cons second others othersHypothesis =>
          rw [String.intercalate_cons_cons]
          rcases List.forall_mem_cons.1 othersFree with ⟨secondFree, restFree⟩
          exact (firstFree.append separatorFree).append
            (othersHypothesis second othersFree secondFree restFree)

/-- An escape is written by its code point. -/
theorem escape_not_mem_encodeChar
    (character : Char) :
    Style.escape ∉ Quoted.encodeChar character := by
  intro member
  rcases encodeChar_cases character with
    ⟨letter, hasLetter, written⟩ | ⟨_, _, written⟩ | ⟨_, shown, written⟩
  · rw [written] at member
    unfold Quoted.escapeLetter? at hasLetter
    split at hasLetter <;> cases hasLetter <;> exact absurd member (by decide)
  · simp only [written, List.mem_cons, List.mem_append, List.not_mem_nil, or_false] at member
    rcases member with same | same | same | inDigits | same
    · exact absurd same (by decide)
    · exact absurd same (by decide)
    · exact absurd same (by decide)
    · exact absurd (isHexDigit_of_mem_hexDigits inDigits) (by decide)
    · exact absurd same (by decide)
  · rw [written, List.mem_singleton] at member
    have hidden : Quoted.writtenByCodePoint Style.escape = true := by decide +kernel
    rw [← member, hidden] at shown
    cases shown

/-- A quoted text never has an escape: it is written by its code point. -/
theorem escapeFree_quote
    (text : String) :
    EscapeFree (Quoted.quote text) := by
  rw [EscapeFree, Quoted.quote, String.toList_ofList]
  simp only [List.cons_append, List.mem_cons, List.mem_append, List.not_mem_nil, or_false]
  rintro (isQuote | inText | isQuote)
  · exact absurd isQuote (by decide)
  · rcases List.mem_flatMap.1 inText with ⟨character, _, inCharacter⟩
    exact escape_not_mem_encodeChar character inCharacter
  · exact absurd isQuote (by decide)

/-- Only a bare name is printed as it is. -/
theorem Value.EscapeFree.render
    {value : Value}
    (free : value.EscapeFree) :
    Text.EscapeFree value.render := by
  cases value with
  | identifier name => exact free name rfl
  | string text => exact escapeFree_quote text
  | integer number => exact escapeFree_integerText number
  | float number =>
      exact escapeFree_of_forall_isNumberChar fun _ => Value.isNumberChar_of_mem_render rfl

/-! ## Messages -/

theorem Kind.escapeFree_name
    (kind : Kind) :
    EscapeFree kind.name := by
  cases kind <;> exact .ofList (by decide)

theorem UnaryOp.escapeFree_symbol
    (op : UnaryOp) :
    EscapeFree op.symbol := by
  cases op <;> exact .ofList (by decide)

theorem BinaryOp.escapeFree_symbol
    (op : BinaryOp) :
    EscapeFree op.symbol := by
  rcases op with op | op | op | op <;> cases op <;> exact .ofList (by decide)

/-- The messages of syntax errors are fixed texts. -/
theorem SyntaxFault.escapeFree_message
    (fault : SyntaxFault) :
    EscapeFree fault.message := by
  cases fault <;> exact .ofList (by decide)

/-- The name in a fault is all that could have an escape in it. -/
def Fault.EscapeFree : Fault → Prop
  | .unresolved name | .nonNumeric name => Text.EscapeFree name
  | _ => True

/-- The message of a fault names kinds, operators and at most one variable. -/
theorem Fault.EscapeFree.message
    {fault : Fault}
    (free : fault.EscapeFree) :
    Text.EscapeFree fault.message := by
  cases fault with
  | unresolved name =>
      have front : Text.EscapeFree "unresolved reference to `$" := .ofList (by decide)
      exact (front.append free).append (.ofList (by decide))
  | nonNumeric name =>
      have front : Text.EscapeFree "variable `$" := .ofList (by decide)
      exact (front.append free).append (.ofList (by decide))
  | unaryMismatch op operand =>
      have front : Text.EscapeFree "type mismatch: cannot apply `" := .ofList (by decide)
      exact ((front.append op.escapeFree_symbol).append (.ofList (by decide))).append
        operand.escapeFree_name
  | binaryMismatch op left right =>
      have front : Text.EscapeFree "type mismatch: cannot apply `" := .ofList (by decide)
      exact ((((front.append op.escapeFree_symbol).append (.ofList (by decide))).append
        left.escapeFree_name).append (.ofList (by decide))).append right.escapeFree_name
  | divisionByZero => exact .ofList (by decide)
  | shiftOutOfRange amount =>
      have front : Text.EscapeFree "shift amount " := .ofList (by decide)
      exact (front.append (escapeFree_integerText amount)).append (.ofList (by decide))

/-- What a fault says of a name, it says of a name in the expression. -/
theorem Expr.EscapeFree.message_of_eval
    {lookup : String → Option Value}
    {expr : Expr}
    (free : expr.EscapeFree)
    {error : EvalError}
    (failed : expr.eval lookup = .error error) :
    Text.EscapeFree error.message := by
  rcases exists_failsItself_of_eval failed with ⟨earlier, node, later, order, fails, _⟩
  have nodeFree : node.EscapeFree := free.of_mem_postorder (by simp [order])
  apply Fault.EscapeFree.message
  cases fails with
  | unresolved _ => exact nodeFree
  | nonNumeric _ _ => exact nodeFree
  | unary _ applied =>
      rw [UnaryOp.fault_of_apply applied]
      trivial
  | binary _ _ applied =>
      cases BinaryOp.fails_of_apply applied with
      | mismatch => trivial
      | onNumbers spoiled => cases spoiled <;> trivial

/-- A script that cannot be opened is named by its path and the reason. -/
theorem InputError.escapeFree_cannotOpen
    {path : String}
    {failure : OpenFailure}
    (pathFree : EscapeFree path)
    (reasonFree : EscapeFree failure.reason) :
    EscapeFree (cannotOpen path failure).message := by
  have front : EscapeFree "could not open file `" := .ofList (by decide)
  exact ((front.append pathFree).append (.ofList (by decide))).append reasonFree

theorem InputError.escapeFree_cannotRead
    {name reason : String}
    (nameFree : EscapeFree name)
    (reasonFree : EscapeFree reason) :
    EscapeFree (cannotRead name reason).message := by
  have front : EscapeFree "could not read from `" := .ofList (by decide)
  exact ((front.append nameFree).append (.ofList (by decide))).append reasonFree

theorem InputError.escapeFree_tooDeep :
    EscapeFree tooDeep.message := by
  have front : EscapeFree "input redirection stack too deep (limit is " := .ofList (by decide)
  exact (front.append (escapeFree_toString stackLimit)).append (.ofList (by decide))

/-! ## Lines of a file -/

namespace Text.Lines

/-- The byte of an escape. -/
def escapeByte : UInt8 :=
  0x1B

/-- Cutting a text at its line feeds loses nothing. -/
theorem flatten_chunks
    {Item : Type}
    [DecidableEq Item]
    (lineFeed : Item)
    (items : List Item) :
    (chunks lineFeed items).flatten = items := by
  induction items with
  | nil => rfl
  | cons item rest restHypothesis =>
      rw [chunks]
      split
      · rw [List.flatten_cons, restHypothesis]
        rfl
      · cases split : chunks lineFeed rest with
        | nil =>
            rw [split] at restHypothesis
            rw [← restHypothesis]
            rfl
        | cons chunk others =>
            rw [split] at restHypothesis
            rw [← restHypothesis]
            rfl

/-- The part up to the last line feed has no other bytes. -/
theorem mem_of_mem_endedPart
    {byte : UInt8}
    {bytes : List UInt8}
    (member : byte ∈ endedPart bytes) :
    byte ∈ bytes := by
  rcases List.mem_flatten.1 member with ⟨chunk, isEnded, inChunk⟩
  rw [← flatten_chunks lineFeedByte bytes]
  exact List.mem_flatten.2 ⟨chunk, (List.mem_filter.1 isEnded).1, inChunk⟩

/-- A line is read from bytes of the file. -/
theorem exists_subset_of_mem_ofBytes
    {bytes : List UInt8}
    {text : String}
    (member : text ∈ ofBytes bytes) :
    ∃ line, line ⊆ bytes ∧ text = String.ofList (Utf8.decodeLossy line) := by
  rcases exists_cutAt lineFeedByte bytes with ⟨pieces, last, cut⟩
  rw [cut.ofBytes_eq] at member
  rcases List.mem_map.1 member with ⟨line, isLine, rfl⟩
  refine ⟨line, ?_, rfl⟩
  rw [cut.joined]
  rcases List.mem_append.1 isLine with ofPiece | ofLast
  · rcases List.mem_map.1 ofPiece with ⟨piece, isPiece, rfl⟩
    have inPiece : withoutReturn carriageReturnByte piece ⊆ piece := by
      rw [withoutReturn]
      split
      · exact (List.dropLast_sublist piece).subset
      · exact List.Subset.refl piece
    intro byte inLine
    refine List.mem_append_left _ (List.mem_flatMap.2 ⟨piece, isPiece, ?_⟩)
    exact List.mem_append_left _ (inPiece inLine)
  · split at ofLast
    · cases ofLast
    · rw [List.mem_singleton.1 ofLast]
      exact List.subset_append_right _ _

/-- Where there is no byte of an escape, no line has an escape. -/
theorem escapeFree_of_mem_ofBytes
    {bytes : List UInt8}
    (free : escapeByte ∉ bytes) :
    ∀ text ∈ ofBytes bytes, EscapeFree text := by
  intro text member
  rcases exists_subset_of_mem_ofBytes member with ⟨line, inBytes, rfl⟩
  apply EscapeFree.ofList
  intro decoded
  rcases Utf8.exists_byte_of_mem_decodeLossy decoded (by decide) (by decide) with
    ⟨byte, inLine, same⟩
  rw [UInt8.toNat_inj.1 (same.trans (rfl : _ = escapeByte.toNat))] at inLine
  exact free (inBytes inLine)

end Text.Lines

end AsmShell
