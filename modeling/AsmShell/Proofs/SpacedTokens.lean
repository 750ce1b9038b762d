import AsmShell.Proofs.Neighbours
import AsmShell.Proofs.TokenTiling

/-!
# Spacing out the tokens of a line

How closely the tokens of a line stand decides nothing.  What a scan takes as a token it
takes again when a separator is put behind it: no lexeme but a text contains separators, and
a text that is closed ends with its second quote.  So the pieces of a line that its tokens
cover, set apart by spaces and tabs, are split into the same tokens at other columns, and no
reader looks at a column.

A text that is not closed is the exception, as it would go on with the blanks behind it.
-/

namespace AsmShell

open Text

/-! ## Gaps -/

/-- One character or more, each a space or a tab. -/
def IsGap (gap : List Char) : Prop :=
  gap ≠ [] ∧ ∀ character ∈ gap, character = ' ' ∨ character = '\t'

theorem IsGap.separate
    {gap : List Char}
    (isGap : IsGap gap) :
    ∀ character ∈ gap, isSeparator character = true := by
  intro character member
  rcases isGap.2 character member with rfl | rfl
  · rfl
  · rfl

theorem IsGap.parted_append
    {gap : List Char}
    (isGap : IsGap gap)
    (rest : List Char) :
    Parted (gap ++ rest) := by
  rcases List.exists_cons_of_ne_nil isGap.1 with ⟨first, others, rfl⟩
  rintro next ⟨⟩
  exact isGap.separate first List.mem_cons_self

/-- The text is made of the pieces in their order, with a gap between each two neighbours. -/
inductive SpacedOut : List (List Char) → List Char → Prop where
  | empty : SpacedOut [] []
  | single {piece : List Char} : SpacedOut [piece] piece
  | apart {piece gap next text : List Char} {others : List (List Char)} :
      IsGap gap →
      SpacedOut (next :: others) text →
      SpacedOut (piece :: next :: others) (piece ++ (gap ++ text))

/-! ## The tokens of a text that is spaced out -/

/-- The token with its columns forgotten. -/
def Token.withoutColumns (token : Token) : Token :=
  token.moveColumns fun _ => 0

/-- The token is closed, and it is what a scan takes the characters alone for. -/
structure Token.StandsAlone (token : Token) (source : List Char) : Prop where
  closed : token.kind ≠ .unclosedString
  taken : TakesToken token.kind source []
  same : token = Token.ofSource token.kind token.column source

theorem Token.StandsAlone.withoutColumns_ofSource
    {token : Token}
    {source : List Char}
    (alone : token.StandsAlone source)
    (column : Nat) :
    (Token.ofSource token.kind column source).withoutColumns = token.withoutColumns := by
  rw [alone.same]
  rfl

/-- Pieces that stand alone for tokens stand for the same tokens when they are spaced out. -/
theorem SpacedOut.withoutColumns_tokensFrom
    {pieces : List (List Char)}
    {text : List Char}
    (spacedOut : SpacedOut pieces text)
    {tokens : List Token}
    (alone : List.Forall₂ Token.StandsAlone tokens pieces)
    (column : Nat) :
    (tokensFrom column 0 text).map Token.withoutColumns =
      tokens.map Token.withoutColumns ++ [Token.endOfLine 0] := by
  induction spacedOut generalizing tokens column with
  | empty =>
      cases alone
      rfl
  | @single piece =>
      rcases alone with _ | ⟨tokenAlone, ⟨⟩⟩
      have scanned := tokenAlone.taken.tokensFrom_eq column
      rw [List.append_nil] at scanned
      rw [scanned, List.map_cons, tokenAlone.withoutColumns_ofSource]
      rfl
  | @apart piece gap next text others isGap _ textHypothesis =>
      rcases alone with _ | ⟨tokenAlone, othersAlone⟩
      have taken := tokenAlone.taken.append_of_parted tokenAlone.closed (isGap.parted_append text)
      rw [List.nil_append] at taken
      rw [taken.tokensFrom_eq, tokensFrom_behind_separators isGap.separate, List.map_cons,
        tokenAlone.withoutColumns_ofSource, textHypothesis othersAlone]
      rfl

/-! ## Lines -/

/-- The pieces of the line that its tokens cover, the end of the line left out. -/
def tokenSources (line : String) : List (List Char) :=
  ((tokenize line).filter fun token => token.kind ≠ .endOfLine).map fun token =>
    (token.span.slice line).toList

/-- A line that is spaced out has the same tokens at other columns. -/
theorem withoutColumns_tokenize_of_spacedOut
    {line spaced : String}
    (closed : ∀ token ∈ tokenize line, token.kind ≠ .unclosedString)
    (spacedOut : SpacedOut (tokenSources line) spaced.toList) :
    (tokenize spaced).map Token.withoutColumns = (tokenize line).map Token.withoutColumns := by
  rcases exists_body_of_tokensFrom 0 line.toList with ⟨body, scanned, inside⟩
  have scanned : tokenize line = body ++ [Token.endOfLine (0 + line.toList.length)] := scanned
  have sources : tokenSources line = body.map fun token => (token.span.slice line).toList := by
    rw [tokenSources, scanned, List.filter_append, List.filter_eq_self.2 (by simpa using inside)]
    exact congrArg _ (List.append_nil body)
  have alone :
      List.Forall₂ Token.StandsAlone body
        (body.map fun token => (token.span.slice line).toList) := by
    rw [List.forall₂_map_right_iff, List.forall₂_same]
    intro token member
    have inLine : token ∈ tokenize line := by
      rw [scanned]
      exact List.mem_append_left _ member
    rcases exists_source_of_mem_tokenize inLine (inside token member) with ⟨back, _, taken, same⟩
    rw [← List.nil_append back] at taken
    exact ⟨closed token inLine, taken.of_append, same⟩
  rw [sources] at spacedOut
  rw [tokenize, spacedOut.withoutColumns_tokensFrom alone, scanned, List.map_append]
  rfl

/-- Lines whose tokens differ in their columns only are read alike up to columns. -/
theorem moveColumns_parseLine_eq
    {move : Nat → Nat}
    {line other : String}
    (same :
      (tokenize other).map (Token.moveColumns move) =
        (tokenize line).map (Token.moveColumns move)) :
    (parseLine other).moveColumns move = (parseLine line).moveColumns move := by
  rw [← readCommand_moveColumns_tokenize, ← readCommand_moveColumns_tokenize, same]

/--
Let the pieces of a line that its tokens cover be joined again with spaces and tabs between
them, at least one between each two, and let no token be a text that is not closed.  The new
line has tokens of the same kinds that say the same, so it is read as a command of the same
name with the same arguments up to their columns, and the same is wrong with it.
-/
theorem spacing_out_tokens_changes_nothing
    (line spaced : String)
    (closed : ∀ token ∈ tokenize line, token.kind ≠ .unclosedString)
    (spacedOut : SpacedOut (tokenSources line) spaced.toList) :
    ((tokenize spaced).map fun token => (token.kind, token.text)) =
        ((tokenize line).map fun token => (token.kind, token.text)) ∧
      (parseLine spaced).command.map Command.name = (parseLine line).command.map Command.name ∧
      ((parseLine spaced).command.map fun command =>
          command.arguments.map Expr.withoutColumns) =
        ((parseLine line).command.map fun command =>
          command.arguments.map Expr.withoutColumns) ∧
      (parseLine spaced).errors.map SyntaxError.message =
        (parseLine line).errors.map SyntaxError.message := by
  have sameTokens := withoutColumns_tokenize_of_spacedOut closed spacedOut
  have sameReading := moveColumns_parseLine_eq sameTokens
  have sameCommand := congrArg ParsedCommand.command sameReading
  have sameErrors := congrArg ParsedCommand.errors sameReading
  refine ⟨?_, ?_, ?_, ?_⟩
  · have said := congrArg (List.map fun token => (token.kind, token.text)) sameTokens
    rwa [List.map_map, List.map_map] at said
  · have names := congrArg (Option.map Command.name) sameCommand
    simp only [ParsedCommand.moveColumns, Option.map_map] at names
    exact names
  · have arguments := congrArg (Option.map Command.arguments) sameCommand
    simp only [ParsedCommand.moveColumns, Option.map_map] at arguments
    exact arguments
  · have messages := congrArg (List.map SyntaxError.message) sameErrors
    simp only [ParsedCommand.moveColumns, List.map_map] at messages
    exact messages

/-- Numbers, names, symbols and texts that stand together without a blank, among them characters
with which no token begins. -/
theorem spacing_out_tokens_changes_nothing_of_adjacent :
    (∀ token ∈ tokenize "p 12abc<<=$a.\"a\"\"b\"", token.kind ≠ .unclosedString) ∧
      SpacedOut (tokenSources "p 12abc<<=$a.\"a\"\"b\"")
        "p\t12 abc << = \t$a . \"a\" \"b\"".toList ∧
      (parseLine "p\t12 abc << = \t$a . \"a\" \"b\"").command.map Command.name = some "p" ∧
      (parseLine "p\t12 abc << = \t$a . \"a\" \"b\"").errors.map SyntaxError.message =
        ["expected primary expression", "invalid character in input",
          "invalid character in input"] := by
  have closed :
      ∀ token ∈ tokenize "p 12abc<<=$a.\"a\"\"b\"", token.kind ≠ .unclosedString := by
    decide +kernel
  have space : IsGap [' '] := ⟨by simp, by simp⟩
  have tab : IsGap ['\t'] := ⟨by simp, by simp⟩
  have both : IsGap [' ', '\t'] := ⟨by simp, by simp⟩
  have sources :
      tokenSources "p 12abc<<=$a.\"a\"\"b\"" =
        [['p'], ['1', '2'], ['a', 'b', 'c'], ['<', '<'], ['='], ['$', 'a'], ['.'],
          ['"', 'a', '"'], ['"', 'b', '"']] := by
    decide +kernel
  have spacedOut :
      SpacedOut (tokenSources "p 12abc<<=$a.\"a\"\"b\"")
        "p\t12 abc << = \t$a . \"a\" \"b\"".toList := by
    rw [sources]
    exact .apart tab (.apart space (.apart space (.apart space (.apart both
      (.apart space (.apart space (.apart space .single)))))))
  rcases spacing_out_tokens_changes_nothing _ _ closed spacedOut with ⟨_, names, _, messages⟩
  exact ⟨closed, spacedOut, names.trans rfl, messages.trans rfl⟩

end AsmShell
