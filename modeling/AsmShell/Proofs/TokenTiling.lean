import AsmShell.Proofs.Slices
import AsmShell.Proofs.Spellings
import AsmShell.Proofs.TokenOrder

/-!
# The tokens of a line tile it

Every character of a line either belongs to one token or is a separator.  The tokens
stand in the line one behind the other, and what a token says is what stands in the
line at its columns: written out for most kinds, behind a dollar sign for a variable,
and between quotes, with escapes, for a text.

Each token is traced back to the characters that the scan took for it
(`exists_source_of_mem_tokenize`).  What a token says follows from how its kind is
spelled.
-/

namespace AsmShell

open Text

/-! ## The source of a token -/

/-- Every token in front of the end of a text is what the scan took at its place, and the tokens
behind it are those of the characters behind its own. -/
theorem exists_source_of_tokensFrom
    (column : Nat)
    (text : List Char)
    (before : List Token)
    (token : Token)
    (after : List Token)
    (scanned : tokensFrom column 0 text = before ++ token :: after)
    (inside : token.kind ≠ .endOfLine) :
    ∃ front source back,
      text = front ++ (source ++ back) ∧ TakesToken token.kind source back ∧
        token = Token.ofSource token.kind (column + front.length) source ∧
        after = tokensFrom (column + front.length + source.length) 0 back := by
  induction column, text using scan_induction generalizing before with
  | finished column =>
      have isEnd : token ∈ tokensFrom column 0 [] := by
        rw [scanned]
        exact List.mem_append_right _ List.mem_cons_self
      rw [List.mem_singleton.1 isEnd] at inside
      exact absurd rfl inside
  | token column kind front back takes backHypothesis =>
      rw [takes.tokensFrom_eq] at scanned
      cases before with
      | nil =>
          rcases List.cons.inj scanned with ⟨rfl, rfl⟩
          exact ⟨[], front, back, rfl, takes, rfl, rfl⟩
      | cons first others =>
          rcases backHypothesis others (List.cons.inj scanned).2 with
            ⟨skipped, source, rest, rfl, sourceTakes, same, behind⟩
          refine ⟨front ++ skipped, source, rest, by simp, sourceTakes, ?_⟩
          rw [List.length_append, ← Nat.add_assoc]
          exact ⟨same, behind⟩
  | separators column front back longest backHypothesis =>
      rw [tokensFrom_separators longest] at scanned
      rcases backHypothesis before scanned with
        ⟨skipped, source, rest, rfl, sourceTakes, same, behind⟩
      refine ⟨front ++ skipped, source, rest, by simp, sourceTakes, ?_⟩
      rw [List.length_append, ← Nat.add_assoc]
      exact ⟨same, behind⟩

/-- The characters that a token covers are the ones the scan took where the token stands. -/
theorem exists_source_of_mem_tokenize
    {line : String}
    {token : Token}
    (member : token ∈ tokenize line)
    (inside : token.kind ≠ .endOfLine) :
    ∃ back,
      line.toList.drop token.column = (token.span.slice line).toList ++ back ∧
        TakesToken token.kind (token.span.slice line).toList back ∧
        token = Token.ofSource token.kind token.column (token.span.slice line).toList := by
  rcases List.append_of_mem member with ⟨before, after, scanned⟩
  rcases exists_source_of_tokensFrom 0 line.toList before token after scanned inside with
    ⟨front, source, back, parts, takes, same, _⟩
  have place : token.column = front.length := by
    rw [same]
    exact Nat.zero_add front.length
  have ending : token.span.last + 1 - token.column = source.length := by
    have positive := takes.length_pos
    rw [same]
    show 0 + front.length + (source.length - 1) + 1 - (0 + front.length) = source.length
    omega
  have rest : line.toList.drop token.column = source ++ back := by
    rw [place, parts, List.drop_left]
  have sliced : (token.span.slice line).toList = source := by
    show (String.ofList
      ((line.toList.drop token.column).take (token.span.last + 1 - token.column))).toList = source
    rw [ending, rest, List.take_left, String.toList_ofList]
  rw [sliced]
  refine ⟨back, rest, takes, ?_⟩
  rw [place]
  rw [Nat.zero_add] at same
  exact same

namespace TakesToken

theorem longestMatch
    {kind : TokenKind}
    {front back : List Char}
    (takes : TakesToken kind front back)
    (known : kind ≠ .unknown) :
    LongestMatch Lexeme.patterns (.token kind) front back := by
  cases takes with
  | matched longest => exact longest
  | unmatched noMatch => exact absurd rfl known

/-- What is taken as a token of a kind is spelled as the kind is. -/
theorem matches_pattern
    {kind : TokenKind}
    {front back : List Char}
    (takes : TakesToken kind front back)
    (known : kind ≠ .unknown) :
    kind.pattern.Matches front :=
  (matches_of_longestMatch (takes.longestMatch known)).2

/-- An unknown token is one character with which no lexeme begins. -/
theorem exists_of_unknown
    {front back : List Char}
    (takes : TakesToken .unknown front back) :
    ∃ character, front = [character] ∧ NoMatch Lexeme.patterns (character :: back) := by
  cases takes with
  | matched longest => exact absurd (matches_of_longestMatch longest).1 (by decide)
  | unmatched noMatch => exact ⟨_, rfl, noMatch⟩

end TakesToken

/-! ## What a token says -/

/--
The text that stands between two quotes as the given characters.  Behind a backslash,
`n`, `t` and `0` stand for a line feed, a tab and the null character, and every other
character for itself; no line feed stands there.  A quote and a backslash stand only
behind a backslash.
-/
inductive Text.Quoted.Denotes : List Char → List Char → Prop where
  | empty : Denotes [] []
  | plain {character : Char} {body text : List Char} :
      character ≠ '"' → character ≠ '\\' → Denotes body text →
      Denotes (character :: body) (character :: text)
  | lineFeed {body text : List Char} :
      Denotes body text → Denotes ('\\' :: 'n' :: body) ('\n' :: text)
  | tab {body text : List Char} :
      Denotes body text → Denotes ('\\' :: 't' :: body) ('\t' :: text)
  | null {body text : List Char} :
      Denotes body text → Denotes ('\\' :: '0' :: body) ('\x00' :: text)
  | itself {character : Char} {body text : List Char} :
      character ∉ ['n', 't', '0', '\n'] → Denotes body text →
      Denotes ('\\' :: character :: body) (character :: text)

theorem Text.Quoted.Denotes.escaped
    {character : Char}
    {body text : List Char}
    (notLineFeed : character ≠ '\n')
    (denotes : Denotes body text) :
    Denotes ('\\' :: character :: body) (decodeEscaped character :: text) := by
  unfold decodeEscaped
  split
  · exact .lineFeed denotes
  · exact .tab denotes
  · exact .null denotes
  · next notN notT notZero =>
      refine .itself ?_ denotes
      simp only [List.mem_cons, List.not_mem_nil, or_false, not_or]
      exact ⟨notN, notT, notZero, notLineFeed⟩

/-- Undoing the escapes gives the text that the characters between the quotes denote. -/
theorem denotes_decode
    {body : List Char}
    (matched : Spelling.stringBody.Matches body) :
    Quoted.Denotes body (Quoted.decode body) := by
  refine stringBody_induction ?empty ?plain ?escaped matched
  case empty =>
      exact .empty
  case plain =>
      intro character rest notQuote notBackslash restHypothesis
      have decoded : Quoted.decode (character :: rest) = character :: Quoted.decode rest := by
        rw [Quoted.decode]
        intro _ _ isBackslash
        exact absurd isBackslash notBackslash
      rw [decoded]
      exact .plain notQuote notBackslash restHypothesis
  case escaped =>
      intro character rest notLineFeed restHypothesis
      exact restHypothesis.escaped notLineFeed

/-- The characters say what the token says, in the way its kind is written. -/
def Token.WrittenAs (token : Token) (source : List Char) : Prop :=
  match token.kind with
  | .reference => source = '$' :: token.text.toList
  | .string =>
      ∃ body, source = '"' :: (body ++ ['"']) ∧ Quoted.Denotes body token.text.toList
  | _ => source = token.text.toList

theorem TakesToken.writtenAs
    {kind : TokenKind}
    {front back : List Char}
    (takes : TakesToken kind front back)
    (column : Nat) :
    (Token.ofSource kind column front).WrittenAs front := by
  have ofText (said : Token.textOf kind front = front) :
      front = (Token.ofSource kind column front).text.toList := by
    rw [Token.ofSource, String.toList_ofList, said]
  cases kind with
  | reference =>
      rcases exists_cons_of_matches_reference (takes.matches_pattern (by decide)) with
        ⟨name, rfl⟩
      show '$' :: name = '$' :: (String.ofList name).toList
      rw [String.toList_ofList]
  | string =>
      rcases exists_body_of_matches_string (takes.matches_pattern (by decide)) with
        ⟨body, rfl, bodyMatched⟩
      refine ⟨body, rfl, ?_⟩
      have said :
          Token.textOf .string ('"' :: (body ++ ['"'])) = Quoted.decode body := by
        simp [Token.textOf]
      show Quoted.Denotes body
        (String.ofList (Token.textOf .string ('"' :: (body ++ ['"'])))).toList
      rw [said, String.toList_ofList]
      exact denotes_decode bodyMatched
  | _ =>
      exact ofText rfl

/-! ## What stands between the tokens -/

/-- The column is one of those that the span covers. -/
def Span.Contains (span : Span) (column : Nat) : Prop :=
  span.first ≤ column ∧ column ≤ span.last

/-- A character that no token of a text covers is a separator. -/
theorem isSeparator_of_uncovered
    (column : Nat)
    (text : List Char)
    (index : Nat)
    (character : Char)
    (placed : text[index]? = some character)
    (uncovered : ∀ token ∈ tokensFrom column 0 text, ¬ token.span.Contains (column + index)) :
    isSeparator character = true := by
  induction column, text using scan_induction generalizing index with
  | finished column =>
      cases placed
  | token column kind front back takes backHypothesis =>
      rw [takes.tokensFrom_eq, List.forall_mem_cons] at uncovered
      -- The token covers all of `front`, so the character stands behind it.
      have behind : front.length ≤ index := by
        apply Nat.le_of_not_lt
        intro before
        refine uncovered.1 ⟨Nat.le_add_right column index, ?_⟩
        show column + index ≤ column + (front.length - 1)
        omega
      rw [List.getElem?_append_right behind] at placed
      refine backHypothesis (index - front.length) placed ?_
      rw [show column + front.length + (index - front.length) = column + index by omega]
      exact uncovered.2
  | separators column front back longest backHypothesis =>
      rw [tokensFrom_separators longest] at uncovered
      by_cases before : index < front.length
      · rcases exists_cons_of_matches_plus (matches_of_longestMatch longest).2 with
          ⟨first, rest, rfl, separate⟩
        rw [List.getElem?_append_left before] at placed
        exact separate character (List.mem_of_getElem? placed)
      · rw [List.getElem?_append_right (Nat.le_of_not_lt before)] at placed
        refine backHypothesis (index - front.length) placed ?_
        rw [show column + front.length + (index - front.length) = column + index by omega]
        exact uncovered

/-! ## The whole line -/

/-- The tokens cover the line one behind the other and leave out separators only. -/
structure TilesLine (line : String) (tokens : List Token) : Prop where
  /-- The end of the line stands last, behind all characters, and nowhere else. -/
  ended :
    ∃ body,
      tokens = body ++ [Token.endOfLine line.length] ∧
        ∀ token ∈ body, token.kind ≠ .endOfLine
  /-- A token covers a column, and it ends before the next one begins. -/
  ordered :
    ∀ before token next after,
      tokens = before ++ token :: next :: after →
        token.column ≤ token.span.last ∧ token.span.last < next.column
  /-- What no token covers is a separator. -/
  separated :
    ∀ column character,
      line.toList[column]? = some character →
        (∀ token ∈ tokens, ¬ token.span.Contains column) →
          character ∈ [' ', '\t', '\x0c', '\r', '\n']
  /-- A token says what stands at its columns. -/
  written :
    ∀ token ∈ tokens,
      token.kind ≠ .endOfLine → token.WrittenAs (token.span.slice line).toList
  /-- An unknown token is a single character. -/
  single :
    ∀ token ∈ tokens, token.kind = .unknown → token.span.last = token.column

/-- The tokens of every line tile it. -/
theorem tokens_tile_line
    (line : String) :
    TilesLine line (tokenize line) where
  ended := by
    rcases exists_body_of_tokensFrom 0 line.toList with ⟨body, scanned, inside⟩
    rw [Nat.zero_add, String.length_toList] at scanned
    exact ⟨body, scanned, inside⟩
  ordered := by
    intro before token next after scanned
    have inOrder := inOrder_tokenize line
    rw [scanned] at inOrder
    have pairwise := List.pairwise_cons.1 (List.pairwise_append.1 inOrder.ordered).2.1
    exact ⟨inOrder.covering token (by simp), pairwise.1 next List.mem_cons_self⟩
  separated := by
    intro column character placed uncovered
    rw [← Nat.zero_add column] at uncovered
    have separates := isSeparator_of_uncovered 0 line.toList column character placed uncovered
    simpa [isSeparator, or_assoc] using separates
  written := by
    intro token member inside
    rcases exists_source_of_mem_tokenize member inside with ⟨back, _, takes, same⟩
    have written := takes.writtenAs token.column
    rw [← same] at written
    exact written
  single := by
    intro token member isUnknown
    have inside : token.kind ≠ .endOfLine := by
      rw [isUnknown]
      decide
    rcases exists_source_of_mem_tokenize member inside with ⟨back, _, takes, same⟩
    rw [isUnknown] at takes
    rcases takes.exists_of_unknown with ⟨character, isOne, _⟩
    rw [isOne] at same
    rw [same]
    rfl

-- Columns count characters: the first one takes two bytes, and the escape takes two columns.
example :
    tokenize "é \"\\n\"$x" =
      [⟨.unknown, ⟨0, 0⟩, "é"⟩, ⟨.string, ⟨2, 5⟩, "\n"⟩, ⟨.reference, ⟨6, 7⟩, "x"⟩,
        Token.endOfLine 8] := by
  decide +kernel

end AsmShell
