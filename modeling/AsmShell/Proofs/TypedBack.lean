import AsmShell.Proofs.Neighbours

/-!
# Typing back what was printed

A value is printed for a reader, not for the scanner, so what is printed need not be what can
be typed.  An integer is printed with its sign, which no literal has: typed back, it is an
operator in front of digits, and the digits of the least integer are beyond the greatest one.
A text is printed between quotes with more escapes than are undone: it is typed back as one
text whatever it holds, and as itself if it needs none of the others.
-/

namespace AsmShell

open Text Text.Quoted

/-! ## Integers -/

theorem toInt_neg_of_ne_minValue
    {number : Int64}
    (notLeast : number ≠ Int64.minValue) :
    (-number).toInt = -number.toInt := by
  have least_ne : number.toInt ≠ -2 ^ 63 := by
    rw [← Int64.toInt_minValue]
    exact mt Int64.toInt_inj.1 notLeast
  have lower := number.le_toInt
  have upper := number.toInt_lt
  rw [Int64.toInt_neg, Int.bmod_eq_of_le (by omega) (by omega)]

/-- The printed form of a negative integer is that of its opposite behind a sign. -/
theorem toList_integerText_of_neg
    {number : Int64}
    (notLeast : number ≠ Int64.minValue)
    (negative : number.toInt < 0) :
    (integerText number).toList = '-' :: (integerText (-number)).toList := by
  have opposite := toInt_neg_of_ne_minValue notLeast
  have notNegative : ¬ -number.toInt < 0 := by omega
  rw [integerText, integerText, if_pos negative, opposite, if_neg notNegative, Int.natAbs_neg,
    String.toList_ofList, String.toList_ofList]

theorem Value.Readable.exists_leafToken
    {value : Value}
    (readable : value.Readable)
    (column : Nat) :
    ∃ token : Token,
      LeafToken token (.literal value token.span) ∧
        ScannedAs column value.render.toList [] [token] := by
  have ended : EndsOperand [] := by
    rintro next ⟨⟩
  rcases readable.scansAsLeaf ended with ⟨kind, longest, leaf⟩
  exact ⟨_, leaf column, tokensFrom_longestMatch longest column⟩

/-- A printed integer is a literal, or a literal behind the operator that negates it. -/
theorem exists_operand_integer
    {number : Int64}
    (notLeast : number ≠ Int64.minValue)
    (column : Nat) :
    ∃ operand : Operand,
      operand.Within nestingLimit ∧
        ScannedAs column (Value.integer number).render.toList [] operand.tokens ∧
        ∀ lookup, operand.tree.eval lookup = .ok (.integer number) := by
  by_cases nonneg : 0 ≤ number.toInt
  · have readable : (Value.integer number).Readable := nonneg
    rcases readable.exists_leafToken column with ⟨token, leaf, scanned⟩
    refine ⟨.leaf token _, ⟨.leaf leaf, ?_, ?_⟩, scanned, fun _ => rfl⟩
    · show 1 ≤ nestingLimit
      decide
    · show ∀ count ∈ [0], count < nestingLimit
      decide
  · have readable : (Value.integer (-number)).Readable := by
      show 0 ≤ (-number).toInt
      rw [toInt_neg_of_ne_minValue notLeast]
      omega
    rcases readable.exists_leafToken (column + 1) with ⟨token, leaf, scanned⟩
    have signScanned :
        ScannedAs column ['-'] ((Value.integer (-number)).render.toList ++ [])
          [Token.ofSource .minus column ['-']] := by
      have written : TokenKind.minus.symbol? = some "-" := rfl
      exact scannedAs_symbol written (readable.opens.append []).prolongsSymbol_eq_false column
    have spelled :
        (Value.integer number).render.toList = ['-'] ++ (Value.integer (-number)).render.toList :=
      toList_integerText_of_neg notLeast (Int.not_le.1 nonneg)
    refine ⟨.prefixed (Token.ofSource .minus column ['-']) .negate (.leaf token _),
      ⟨.prefixed rfl (.leaf leaf), ?_, ?_⟩, ?_, fun lookup => ?_⟩
    · show 2 ≤ nestingLimit
      decide
    · show ∀ count ∈ [0, 1], count < nestingLimit
      decide
    · rw [spelled]
      exact signScanned.append scanned
    · show Except.ok (Value.integer (- -number)) = _
      rw [Int64.neg_neg]

/-- A text that is scanned as an operand within the limits is the only argument behind a name. -/
theorem ReadsAlone.of_scannedAs
    {name : String}
    (isName : IsName isBareNameChar name)
    {text : String}
    {operand : Operand}
    (within : operand.Within nestingLimit)
    (scanned : ScannedAs (name.toList.length + 1) text.toList [] operand.tokens) :
    ReadsAlone name text operand.tree := by
  have line :
      tokenize (name ++ " " ++ text) =
        Token.ofSource .identifier 0 name.toList ::
          ([operand].flatMap Operand.tokens ++
            [Token.endOfLine (name.toList.length + 1 + text.toList.length)]) := by
    rw [ScannedAs, List.append_nil] at scanned
    rw [isName.tokenize_space_append, scanned, List.flatMap_singleton]
    rfl
  rcases parseLine_of_operands line rfl (List.forall_mem_singleton.2 within) with
    ⟨command_eq, noErrors⟩
  refine ⟨?_, noErrors⟩
  rw [command_eq]
  rfl

/--
The printed form of every integer but the least one can be typed back: behind the name of a
command it is read without errors as one argument, and this argument has the integer as its
value whatever the variables are.
-/
theorem printed_integer_typed_back
    (number : Int64)
    (notLeast : number ≠ Int64.minValue) :
    ∃ argument,
      ReadsAlone "cmd" (Value.integer number).render argument ∧
        ∀ lookup, argument.eval lookup = .ok (.integer number) := by
  have isName : IsName isBareNameChar "cmd" :=
    ⟨'c', ['m', 'd'], rfl, rfl, List.forall_mem_cons.2 ⟨rfl, List.forall_mem_singleton.2 rfl⟩⟩
  rcases exists_operand_integer notLeast _ with ⟨operand, within, scanned, value⟩
  exact ⟨operand.tree, .of_scannedAs isName within scanned, value⟩

/-- The least integer but one, which is printed with a sign and as many digits as the least. -/
theorem printed_integer_typed_back_of_least_succ :
    (Value.integer (Int64.minValue + 1)).render = "-9223372036854775807" ∧
      Int64.minValue + 1 ≠ Int64.minValue ∧
      ∃ argument,
        ReadsAlone "cmd" "-9223372036854775807" argument ∧
          ∀ lookup, argument.eval lookup = .ok (.integer (Int64.minValue + 1)) := by
  have printed : (Value.integer (Int64.minValue + 1)).render = "-9223372036854775807" := by
    decide +kernel
  have notLeast : Int64.minValue + 1 ≠ Int64.minValue := by
    decide
  refine ⟨printed, notLeast, ?_⟩
  rw [← printed]
  exact printed_integer_typed_back _ notLeast

/-- The digits of the least integer are beyond the greatest one, so they are no literal. -/
theorem printed_least_integer_refused :
    (Value.integer Int64.minValue).render = "-9223372036854775808" ∧
      (parseLine "cmd -9223372036854775808").command.map Command.arguments = some [] ∧
      (parseLine "cmd -9223372036854775808").errors = [⟨.integerOutOfRange, 5⟩] ∧
      ¬ ∃ argument, ReadsAlone "cmd" (Value.integer Int64.minValue).render argument := by
  have printed : (Value.integer Int64.minValue).render = "-9223372036854775808" := by
    decide +kernel
  have noArguments :
      (parseLine "cmd -9223372036854775808").command.map Command.arguments = some [] :=
    rfl
  refine ⟨printed, noArguments, rfl, ?_⟩
  rw [printed]
  rintro ⟨argument, read, _⟩
  cases noArguments.symm.trans read

/-! ## Texts -/

/--
The printed form of every text is one token and the end of the line.  What the token says is
the text with each carriage return read as the letter `r`, and with each character that is
written by its code point read as the letter `u` and this code point in braces; so it says the
text itself exactly if the text has no such characters.
-/
theorem printed_text_is_one_token
    (text : String) :
    ∃ token,
      tokenize (Value.string text).render =
          [token, Token.endOfLine (Value.string text).render.length] ∧
        token.kind = .string ∧
        token.span = ⟨0, (Value.string text).render.length - 1⟩ ∧
        token.text.toList = text.toList.flatMap readBack ∧
        (token.text = text ↔
          ∀ character ∈ text.toList,
            character ≠ '\r' ∧ writtenByCodePoint character = false) := by
  have scanned := tokensFrom_longestMatch (longestMatch_quote text.toList []) 0
  rw [List.append_nil, ← toList_quote, Nat.zero_add, String.length_toList] at scanned
  refine ⟨Token.ofSource .string 0 (quote text).toList, scanned, rfl, ?_, ?_, ?_⟩
  · show Span.mk 0 (0 + ((quote text).toList.length - 1)) = _
    rw [Nat.zero_add, String.length_toList]
    rfl
  · rw [text_ofSource_quote, String.toList_ofList]
  · rw [text_ofSource_quote, ← flatMap_readBack_eq_iff, ← String.toList_inj, String.toList_ofList]

/-- A carriage return is printed with an escape that is not undone. -/
theorem printed_carriage_return_is_not_typed_back :
    (Value.string "\r").render = "\"\\r\"" ∧
      tokenize (Value.string "\r").render =
        [⟨.string, ⟨0, 3⟩, "r"⟩, Token.endOfLine 4] ∧
      "r" ≠ "\r" := by
  decide +kernel

end AsmShell
