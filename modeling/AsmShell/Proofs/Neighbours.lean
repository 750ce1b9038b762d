import AsmShell.Proofs.DeepArguments
import AsmShell.Proofs.LeadingBlanks
import AsmShell.Proofs.PrintedExpressions

/-!
# Arguments and their neighbours

What an argument is does not depend on the arguments around it.  A separator ends every
token but a text that is not closed, so the tokens of a text are the same whether a space
or nothing follows.  An argument is read up to its own last token and no further, even where
the next one begins with a sign that could also stand between two operands.
-/

namespace AsmShell

open Text Text.Pattern

/-! ## A separator ends a token -/

/-- Whether the character is of one of the classes that the pattern is made of. -/
def Text.Pattern.mentions (character : Char) : Pattern → Bool
  | .never => false
  | .empty => false
  | .oneOf accepts => accepts character
  | .seq first second => first.mentions character || second.mentions character
  | .alt left right => left.mentions character || right.mentions character
  | .star body => body.mentions character

theorem mentions_of_mem
    {pattern : Pattern}
    {text : List Char}
    (matched : pattern.Matches text)
    {character : Char}
    (member : character ∈ text) :
    pattern.mentions character = true := by
  induction matched with
  | empty =>
      cases member
  | oneOf accepted =>
      rw [List.mem_singleton.1 member]
      exact accepted
  | seq _ _ firstHypothesis secondHypothesis =>
      rcases List.mem_append.1 member with inFront | inBack
      · simp [mentions, firstHypothesis inFront]
      · simp [mentions, secondHypothesis inBack]
  | altLeft _ leftHypothesis =>
      simp [mentions, leftHypothesis member]
  | altRight _ rightHypothesis =>
      simp [mentions, rightHypothesis member]
  | starNil =>
      cases member
  | starCons _ _ bodyHypothesis starHypothesis =>
      rcases List.mem_append.1 member with inFront | inBack
      · exact bodyHypothesis inFront
      · exact starHypothesis inBack

/-- Only separators and texts between quotes contain separators. -/
theorem Lexeme.begins_of_separator_mem
    {lexeme : Lexeme}
    {first : Char}
    {rest : List Char}
    (matched : lexeme.pattern.Matches (first :: rest))
    {separator : Char}
    (separates : isSeparator separator = true)
    (member : separator ∈ first :: rest) :
    isSeparator first = true ∨ first = '"' := by
  have mentioned := mentions_of_mem matched member
  cases lexeme with
  | separators =>
      rcases exists_cons_of_matches_plus matched with ⟨_, _, same, separate⟩
      cases same
      exact Or.inl (separate first List.mem_cons_self)
  | token kind =>
      right
      cases kind with
      | string =>
          rcases exists_body_of_matches_string matched with ⟨body, same, _⟩
          exact (List.cons.inj same).1
      | unclosedString =>
          rcases exists_body_of_matches_unclosedString matched with ⟨body, same, _⟩
          exact (List.cons.inj same).1
      | _ =>
          simp only [isSeparator, Bool.or_eq_true, beq_iff_eq] at separates
          rcases separates with (((rfl | rfl) | rfl) | rfl) | rfl <;>
            exact absurd mentioned (by decide)

/-- What follows begins with a separator if it is not empty. -/
def Parted (rest : List Char) : Prop :=
  ∀ next ∈ rest.head?, isSeparator next = true

/-- What follows begins with a space if it is not empty. -/
def Spaced (rest : List Char) : Prop :=
  ∀ next ∈ rest.head?, next = ' '

theorem Spaced.parted
    {rest : List Char}
    (spaced : Spaced rest) :
    Parted rest := by
  intro next isNext
  rw [spaced next isNext]
  rfl

theorem Parted.prefix_or_mem
    {rest more : List Char}
    (parted : Parted rest)
    (back : List Char)
    (isPrefix : more <+: back ++ rest) :
    more <+: back ∨ ∃ separator ∈ more, isSeparator separator = true := by
  rcases List.prefix_or_prefix_of_prefix isPrefix (List.prefix_append back rest) with
    inside | ⟨extra, rfl⟩
  · exact Or.inl inside
  · cases extra with
    | nil =>
        rw [List.append_nil]
        exact Or.inl (List.prefix_refl back)
    | cons next others =>
        rcases (List.prefix_append_right_inj back).1 isPrefix with ⟨left, rfl⟩
        exact Or.inr ⟨next, by simp, parted next rfl⟩

/-- A token that is no unclosed text is taken in front of a separator as it is at the end. -/
theorem TakesToken.append_of_parted
    {kind : TokenKind}
    {front back rest : List Char}
    (takes : TakesToken kind front back)
    (closed : kind ≠ .unclosedString)
    (parted : Parted rest) :
    TakesToken kind front (back ++ rest) := by
  cases takes with
  | matched longest =>
      rcases matches_of_longestMatch longest with ⟨_, matched⟩
      by_cases isString : kind = .string
      · subst isString
        exact .matched (longestMatch_string matched _)
      · refine .matched ⟨longest.nonempty, longest.matched, fun more isPrefix isNonempty => ?_⟩
        rcases parted.prefix_or_mem back isPrefix with inside | ⟨separator, member, separates⟩
        · exact longest.maximal more inside isNonempty
        · rw [matchedLabel_patterns_eq_none_iff]
          intro lexeme _ longer
          rcases List.exists_cons_of_ne_nil longest.nonempty with ⟨first, others, rfl⟩
          have spelled := Lexeme.ofText?_of_matches matched
          rcases Lexeme.begins_of_separator_mem longer separates (by simp [member]) with
            firstSeparates | rfl
          · simp [Lexeme.ofText?, firstSeparates] at spelled
          · have spelled :
                some (Lexeme.token (if hasPlainQuote others then .string else .unclosedString)) =
                  some (.token kind) := spelled
            simp only [Option.some.injEq, Lexeme.token.injEq] at spelled
            split at spelled
            · exact isString spelled.symm
            · exact closed spelled.symm
  | @unmatched character _ noMatch =>
      refine .unmatched fun front isPrefix isNonempty => ?_
      rcases parted.prefix_or_mem (character :: back) isPrefix with
        inside | ⟨separator, member, separates⟩
      · exact noMatch front inside isNonempty
      · rw [matchedLabel_patterns_eq_none_iff]
        intro lexeme _ longer
        rcases List.exists_cons_of_ne_nil isNonempty with ⟨first, others, rfl⟩
        rcases List.cons_prefix_cons.1 isPrefix with ⟨rfl, _⟩
        have alone := noMatch [first] ⟨back, rfl⟩ (List.cons_ne_nil _ _)
        rw [matchedLabel_patterns_eq_none_iff] at alone
        -- A separator and a quote are lexemes by themselves.
        rcases Lexeme.begins_of_separator_mem longer separates member with firstSeparates | rfl
        · exact alone .separators (by decide) (.seq (.oneOf firstSeparates) .starNil)
        · exact alone (.token .unclosedString) (by decide) (.seq (.oneOf rfl) .starNil)

/-- A text has the same tokens in front of a space as alone, unless one of them is not closed. -/
theorem scannedAs_of_spaced
    (column : Nat)
    (text : List Char)
    {rest : List Char}
    (spaced : Spaced rest)
    (body : List Token)
    (ending : Token)
    (scanned : tokensFrom column 0 text = body ++ [ending])
    (closed : ∀ token ∈ body, token.kind ≠ .unclosedString) :
    ScannedAs column text rest body := by
  rw [ScannedAs]
  induction column, text using scan_induction generalizing body with
  | finished column =>
      rcases List.append_eq_singleton_iff.1 scanned.symm with ⟨rfl, _⟩ | ⟨_, empty⟩
      · rfl
      · cases empty
  | token column kind front back takes backHypothesis =>
      rw [takes.tokensFrom_eq] at scanned
      cases body with
      | nil =>
          rcases exists_body_of_tokensFrom (column + front.length) back with ⟨_, behind, _⟩
          rw [behind] at scanned
          have lengths := congrArg List.length scanned
          simp at lengths
      | cons first others =>
          rcases List.cons.inj scanned with ⟨rfl, othersScanned⟩
          rcases List.forall_mem_cons.1 closed with ⟨firstClosed, othersClosed⟩
          have takesSpaced := takes.append_of_parted firstClosed spaced.parted
          rw [List.append_assoc, takesSpaced.tokensFrom_eq,
            backHypothesis others othersScanned othersClosed, List.length_append, Nat.add_assoc]
          rfl
  | separators column front back longest backHypothesis =>
      have separate : ∀ character ∈ front, isSeparator character = true := by
        rcases exists_cons_of_matches_plus (matches_of_longestMatch longest).2 with
          ⟨_, _, rfl, separate⟩
        exact separate
      rw [tokensFrom_separators longest] at scanned
      rw [List.append_assoc, tokensFrom_behind_separators separate,
        backHypothesis body scanned closed, List.length_append, Nat.add_assoc]

/-! ## Lines without errors -/

/-- Where no piece gives an error, each is an operand within the limits. -/
theorem Parser.ReadsPieces.exists_operands
    {parser final : Parser}
    {pieces : List Piece}
    (readsPieces : parser.ReadsPieces pieces final)
    (noErrors : pieces.filterMap Piece.error? = []) :
    ∃ operands : List Operand,
      (∀ operand ∈ operands, operand.Within nestingLimit) ∧
        pieces.flatMap Piece.tokens = operands.flatMap Operand.tokens ∧
        pieces.filterMap Piece.argument? = operands.map Operand.tree := by
  induction readsPieces with
  | finished _ =>
      exact ⟨[], List.forall_mem_nil _, rfl, rfl⟩
  | @piece parser after final tokens outcome others _ read parts _ othersHypothesis =>
      cases outcome with
      | error error =>
          cases noErrors
      | ok argument =>
          rcases othersHypothesis noErrors with ⟨operands, within, tokens_eq, trees⟩
          rcases readArgument_ok read with ⟨operand, operandWithin, rfl, passed⟩
          have same : tokens = operand.tokens :=
            List.append_cancel_right (parts.symm.trans passed)
          refine ⟨operand :: operands, List.forall_mem_cons.2 ⟨operandWithin, within⟩, ?_, ?_⟩
          · rw [List.flatMap_cons, List.flatMap_cons, tokens_eq, same]
          · exact congrArg (operand.tree :: ·) trees

/-- A line that is read without errors is a name and operands within the limits. -/
theorem exists_operands_of_errors_eq_nil
    {line : String}
    {name : Token}
    {behind : List Token}
    (scanned : tokenize line = name :: behind)
    (named : name.kind = .identifier)
    (noErrors : (parseLine line).errors = []) :
    ∃ (operands : List Operand) (ending : Token),
      (∀ operand ∈ operands, operand.Within nestingLimit) ∧
        behind = operands.flatMap Operand.tokens ++ [ending] ∧
        (parseLine line).command = some ⟨name.text, name.span, operands.map Operand.tree⟩ := by
  rcases exists_readsPieces_of_identifier scanned named with
    ⟨pieces, final, readsPieces, closed, parsed⟩
  rw [parsed] at noErrors ⊢
  rcases readsPieces.exists_operands noErrors with ⟨operands, within, tokens_eq, trees⟩
  refine ⟨operands, .endOfLine line.toList.length, within, ?_, ?_⟩
  · rw [← tokens_eq]
    exact (readsPieces.rest_eq closed).1
  · rw [← trees]

/-! ## Several arguments -/

/-- Behind the name and one space, the text is read without errors as this argument alone. -/
def ReadsAlone (name text : String) (argument : Expr) : Prop :=
  (parseLine (name ++ " " ++ text)).command.map Command.arguments = some [argument] ∧
    (parseLine (name ++ " " ++ text)).errors = []

/-- For each text, by how many columns the texts and spaces in front of it move it, where the
first is moved by `shift`. -/
def shiftsFrom (shift : Nat) : List String → List Nat
  | [] => []
  | text :: texts => shift :: shiftsFrom (shift + text.length + 1) texts

theorem length_shiftsFrom
    (shift : Nat)
    (texts : List String) :
    (shiftsFrom shift texts).length = texts.length := by
  induction texts generalizing shift with
  | nil =>
      rfl
  | cons text texts textsHypothesis =>
      exact congrArg (· + 1) (textsHypothesis _)

/-- The texts, each behind a space. -/
def spacedTexts (texts : List String) : List Char :=
  texts.flatMap fun text => ' ' :: text.toList

theorem spaced_spacedTexts
    (texts : List String) :
    Spaced (spacedTexts texts) := by
  cases texts with
  | nil =>
      rintro next ⟨⟩
  | cons text texts =>
      rintro next ⟨⟩
      rfl

theorem toList_intercalate_space
    (name : String)
    (texts : List String) :
    (" ".intercalate (name :: texts)).toList = name.toList ++ spacedTexts texts := by
  induction texts generalizing name with
  | nil =>
      simp [spacedTexts]
  | cons text texts textsHypothesis =>
      rw [String.intercalate_cons_cons, String.toList_append, textsHypothesis, String.toList_append,
        List.append_assoc]
      rfl

theorem tokensFrom_space
    (column : Nat)
    (text : List Char) :
    tokensFrom column 0 (' ' :: text) = tokensFrom (column + 1) 0 text :=
  tokensFrom_behind_separators (List.forall_mem_singleton.2 rfl) column text

section

variable
    {name : String}
    (isName : IsName isBareNameChar name)

include isName

theorem IsName.tokensFrom_append
    {rest : List Char}
    (spaced : Spaced rest) :
    tokensFrom 0 0 (name.toList ++ rest) =
      Token.ofSource .identifier 0 name.toList :: tokensFrom name.toList.length 0 rest := by
  rcases isName with ⟨first, others, named, starts, goesOn⟩
  have ended : ∀ next ∈ rest.head?, isBareNameChar next = false := by
    intro next isNext
    rw [spaced next isNext]
    rfl
  have scanned := tokensFrom_longestMatch (longestMatch_identifier starts goesOn ended) 0
  rw [Nat.zero_add] at scanned
  rw [named]
  exact scanned

/-- A line that is a name, a space and a text has the tokens of the text behind the name. -/
theorem IsName.tokenize_space_append
    (text : String) :
    tokenize (name ++ " " ++ text) =
      Token.ofSource .identifier 0 name.toList ::
        tokensFrom (name.toList.length + 1) 0 text.toList := by
  have spaced : Spaced (' ' :: text.toList) := by
    rintro next ⟨⟩
    rfl
  rw [← tokensFrom_space, ← isName.tokensFrom_append spaced, tokenize, String.toList_append,
    String.toList_append, List.append_assoc]
  rfl

/-- The text of an argument that is read alone has the tokens of an operand. -/
theorem ReadsAlone.exists_operand
    {text : String}
    {argument : Expr}
    (alone : ReadsAlone name text argument) :
    ∃ (operand : Operand) (ending : Token),
      operand.Within nestingLimit ∧ operand.tree = argument ∧
        tokensFrom (name.toList.length + 1) 0 text.toList = operand.tokens ++ [ending] := by
  rcases alone with ⟨read, noErrors⟩
  rcases exists_operands_of_errors_eq_nil (isName.tokenize_space_append text) rfl noErrors with
    ⟨operands, ending, within, behind, command_eq⟩
  rw [command_eq, Option.map_some, Option.some.injEq] at read
  rcases List.map_eq_singleton_iff.1 read with ⟨operand, rfl, tree_eq⟩
  rw [List.flatMap_singleton] at behind
  exact ⟨operand, ending, List.forall_mem_singleton.1 within, tree_eq, behind⟩

/-- Behind spaces, texts that are read alone have the tokens of their operands, moved. -/
theorem exists_spaced_operands
    {texts : List String}
    {arguments : List Expr}
    (alone : List.Forall₂ (ReadsAlone name) texts arguments)
    (shift : Nat) :
    ∃ (operands : List Operand) (ending : Token),
      (∀ operand ∈ operands, operand.Within nestingLimit) ∧
        tokensFrom (name.toList.length + shift) 0 (spacedTexts texts) =
          operands.flatMap Operand.tokens ++ [ending] ∧
        operands.map Operand.tree =
          List.zipWith (fun argument shift => argument.moveColumns (· + shift)) arguments
            (shiftsFrom shift texts) := by
  induction alone generalizing shift with
  | nil =>
      exact ⟨[], _, List.forall_mem_nil _, rfl, rfl⟩
  | @cons text argument texts arguments textAlone _ othersHypothesis =>
      rcases ReadsAlone.exists_operand isName textAlone with
        ⟨operand, ending, within, rfl, scanned⟩
      rcases othersHypothesis (shift + text.length + 1) with
        ⟨operands, finalEnding, othersWithin, othersScanned, trees⟩
      have movedScan :
          tokensFrom (name.toList.length + 1 + shift) 0 text.toList =
            (operand.moveColumns (· + shift)).tokens ++ [ending.moveColumns (· + shift)] := by
        rw [tokensFrom_add, scanned, List.map_append]
        rfl
      have place :
          name.toList.length + 1 + shift + text.toList.length =
            name.toList.length + (shift + text.length + 1) := by
        rw [← text.length_toList]
        omega
      have movedWithin := within.moveColumns (· + shift)
      have inFront := scannedAs_of_spaced _ _ (spaced_spacedTexts texts) _ _ movedScan
        movedWithin.derived.kind_ne_unclosedString
      refine ⟨operand.moveColumns (· + shift) :: operands, finalEnding,
        List.forall_mem_cons.2 ⟨movedWithin, othersWithin⟩, ?_, congrArg (_ :: ·) trees⟩
      calc
        tokensFrom (name.toList.length + shift) 0 (spacedTexts (text :: texts))
        _ = tokensFrom (name.toList.length + 1 + shift) 0 (text.toList ++ spacedTexts texts) := by
          rw [Nat.add_right_comm, ← tokensFrom_space]
          rfl
        _ = (operand.moveColumns (· + shift)).tokens ++
              tokensFrom (name.toList.length + (shift + text.length + 1)) 0
                (spacedTexts texts) := by
          rw [inFront, place]
        _ = _ := by
          rw [othersScanned, List.flatMap_cons, List.append_assoc]

end

/--
Let each of the texts, behind a name and a space, be read without errors as one argument.
Then the line with all of them, with single spaces between them, is read without errors as
a command with as many arguments: each is the argument that its text is read as alone, moved
by the texts and spaces in front of it.  Whatever the variables are, the results are the
results of the arguments alone, with the places of faults moved alike.
-/
theorem arguments_independent_of_neighbours
    (name : String)
    (isName : IsName isBareNameChar name)
    (texts : List String)
    (arguments : List Expr)
    (alone : List.Forall₂ (ReadsAlone name) texts arguments) :
    (parseLine (" ".intercalate (name :: texts))).errors = [] ∧
      ∃ command,
        (parseLine (" ".intercalate (name :: texts))).command = some command ∧
          command.arguments.length = texts.length ∧
          command.arguments =
            List.zipWith (fun argument shift => argument.moveColumns (· + shift)) arguments
              (shiftsFrom 0 texts) ∧
          ∀ lookup,
            command.eval lookup =
              List.zipWith
                (fun result shift => result.mapError (EvalError.moveColumns (· + shift)))
                (arguments.map (·.eval lookup)) (shiftsFrom 0 texts) := by
  rcases exists_spaced_operands isName alone 0 with ⟨operands, ending, within, scanned, trees⟩
  have scanned :
      tokenize (" ".intercalate (name :: texts)) =
        Token.ofSource .identifier 0 name.toList ::
          (operands.flatMap Operand.tokens ++ [ending]) := by
    rw [tokenize, toList_intercalate_space,
      isName.tokensFrom_append (spaced_spacedTexts texts), ← scanned]
    rfl
  rcases parseLine_of_operands scanned rfl within with ⟨command_eq, noErrors⟩
  refine ⟨noErrors, _, command_eq, ?_, trees, fun lookup => ?_⟩
  · rw [trees, List.length_zipWith, length_shiftsFrom, ← alone.length_eq, Nat.min_self]
  · rw [Command.eval, trees, List.map_zipWith, List.zipWith_map_left]
    simp only [Expr.eval_moveColumns]

/-- Signs in front of the second and the third argument do not join them to the one before. -/
theorem arguments_independent_of_neighbours_of_signs :
    (parseLine "p 1 -\"a b\" +$x").errors = [] ∧
      ∃ command,
        (parseLine "p 1 -\"a b\" +$x").command = some command ∧
          command.arguments.length = 3 ∧
          command.arguments =
            [.literal (.integer 1) ⟨2, 2⟩,
             .unary .negate (.literal (.string "a b") ⟨5, 9⟩) ⟨4, 9⟩,
             .unary .plus (.reference "x" ⟨12, 13⟩) ⟨11, 13⟩] ∧
          ∀ lookup,
            command.eval lookup =
              [.ok (.integer 1),
               .error ⟨.unaryMismatch .negate .string, ⟨4, 9⟩⟩,
               ((Expr.unary .plus (.reference "x" ⟨3, 4⟩) ⟨2, 4⟩).eval lookup).mapError
                 (EvalError.moveColumns (· + 9))] := by
  have isName : IsName isBareNameChar "p" := ⟨'p', [], rfl, rfl, List.forall_mem_nil _⟩
  have number : ReadsAlone "p" "1" (.literal (.integer 1) ⟨2, 2⟩) := ⟨rfl, rfl⟩
  have text :
      ReadsAlone "p" "-\"a b\"" (.unary .negate (.literal (.string "a b") ⟨3, 7⟩) ⟨2, 7⟩) :=
    ⟨rfl, rfl⟩
  have reference :
      ReadsAlone "p" "+$x" (.unary .plus (.reference "x" ⟨3, 4⟩) ⟨2, 4⟩) :=
    ⟨rfl, rfl⟩
  exact arguments_independent_of_neighbours "p" isName ["1", "-\"a b\"", "+$x"] _
    (.cons number (.cons text (.cons reference .nil)))

end AsmShell
