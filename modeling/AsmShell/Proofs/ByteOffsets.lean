import AsmShell.Proofs.TokenTiling
import AsmShell.Session.Execute

/-!
# Columns counted from byte offsets

A scanner that works on the bytes of a line knows where a lexeme begins and ends as byte
offsets, while a column is a number of characters.  A counter that is advanced from one
lexeme to the next turns the offsets into columns and passes each character once.  Cutting
a text at a byte offset fails inside a character, so every cut here may fail.

None of them does.  The lexemes of a line stand one behind the other, so the counter is
always advanced to a place that it has not passed and at which a character begins; its
tokens are those of the scan that counts characters.  In the same way the colon of a line
is found at the byte that the blanks in front of it leave.
-/

namespace AsmShell

open Text

/-! ## Cutting a text at a byte -/

namespace Text

/-- The number of bytes that the characters take. -/
def byteLength : List Char → Nat
  | [] => 0
  | character :: rest => character.utf8Size + byteLength rest

@[simp]
theorem byteLength_nil :
    byteLength [] = 0 :=
  rfl

@[simp]
theorem byteLength_cons
    (character : Char)
    (rest : List Char) :
    byteLength (character :: rest) = character.utf8Size + byteLength rest :=
  rfl

@[simp]
theorem byteLength_append
    (front back : List Char) :
    byteLength (front ++ back) = byteLength front + byteLength back := by
  induction front with
  | nil =>
      exact (Nat.zero_add _).symm
  | cons character rest restHypothesis =>
      rw [List.cons_append, byteLength_cons, byteLength_cons, restHypothesis, Nat.add_assoc]

/-- These are the bytes of the encoded text. -/
theorem length_encode
    (text : List Char) :
    (Utf8.encode text).length = byteLength text := by
  induction text with
  | nil =>
      rfl
  | cons character rest restHypothesis =>
      rw [Utf8.encode] at restHypothesis
      rw [Utf8.encode, List.flatMap_cons, List.length_append, restHypothesis,
        String.length_utf8EncodeChar, byteLength_cons]

/-- The text up to a byte offset and from it on, unless the offset lies inside a character or
behind the end. -/
def cutAt? (offset : Nat) : List Char → Option (List Char × List Char)
  | [] => if offset = 0 then some ([], []) else none
  | character :: rest =>
      if offset = 0 then some ([], character :: rest)
      else if offset < character.utf8Size then none
      else
        (cutAt? (offset - character.utf8Size) rest).map fun parts =>
          (character :: parts.1, parts.2)

/-- The text between two byte offsets. -/
def slice? (first last : Nat) (text : List Char) : Option (List Char) := do
  let (front, _) ← cutAt? last text
  let (_, slice) ← cutAt? first front
  some slice

/-- The text with another one in place of what stands between two byte offsets. -/
def replaceRange? (first last : Nat) (new text : List Char) : Option (List Char) := do
  let (upTo, back) ← cutAt? last text
  let (front, _) ← cutAt? first upTo
  some (front ++ new ++ back)

/-- A text can be cut where a character begins and behind the last one. -/
theorem cutAt?_byteLength
    (front back : List Char) :
    cutAt? (byteLength front) (front ++ back) = some (front, back) := by
  induction front with
  | nil =>
      cases back <;> rfl
  | cons character rest restHypothesis =>
      have positive := character.utf8Size_pos
      rw [List.cons_append, byteLength_cons, cutAt?, if_neg (by omega), if_neg (by omega),
        Nat.add_sub_cancel_left, restHypothesis]
      rfl

/-- It can be cut nowhere else. -/
theorem cutAt?_eq_some_iff
    {offset : Nat}
    {text front back : List Char} :
    cutAt? offset text = some (front, back) ↔
      text = front ++ back ∧ offset = byteLength front := by
  constructor
  · intro cut
    induction text generalizing offset front with
    | nil =>
        rw [cutAt?] at cut
        split at cut
        · cases cut
          exact ⟨rfl, ‹_›⟩
        · cases cut
    | cons character rest restHypothesis =>
        rw [cutAt?] at cut
        split at cut
        · cases cut
          exact ⟨rfl, ‹_›⟩
        · split at cut
          · cases cut
          · rename_i notInside
            rcases Option.map_eq_some_iff.1 cut with ⟨⟨others, behind⟩, restCut, same⟩
            cases same
            rcases restHypothesis restCut with ⟨rfl, left⟩
            rw [List.cons_append, byteLength_cons, ← left]
            exact ⟨rfl, by omega⟩
  · rintro ⟨rfl, rfl⟩
    exact cutAt?_byteLength front back

theorem slice?_append
    (front middle back : List Char) :
    slice? (byteLength front) (byteLength (front ++ middle)) (front ++ middle ++ back) =
      some middle := by
  simp only [slice?, cutAt?_byteLength, Option.bind_eq_bind, Option.bind_some]

theorem replaceRange?_append
    (front middle back new : List Char) :
    replaceRange? (byteLength front) (byteLength (front ++ middle)) new
        (front ++ middle ++ back) =
      some (front ++ new ++ back) := by
  simp only [replaceRange?, cutAt?_byteLength, Option.bind_eq_bind, Option.bind_some]

end Text

/-! ## The lexemes of a line, by their bytes -/

/-- A lexeme, and the byte offsets at which it begins and ends. -/
structure LexemeSpan where
  kind : TokenKind
  first : Nat
  last : Nat
deriving DecidableEq, Inhabited, Repr

/--
The lexemes of the rest of a line that begins at the byte `offset`, of which the first
`covered` characters belong to a lexeme that was already found.  Separators are left out.
-/
def lexemesFrom (offset covered : Nat) : List Char → List LexemeSpan
  | [] => []
  | character :: rest =>
      let next := offset + character.utf8Size
      match covered with
      | stillCovered + 1 => lexemesFrom next stillCovered rest
      | 0 =>
          match longestMatch Lexeme.patterns (character :: rest) with
          | some (.token kind, length) =>
              ⟨kind, offset, offset + byteLength ((character :: rest).take length)⟩ ::
                lexemesFrom next (length - 1) rest
          | some (.separators, length) => lexemesFrom next (length - 1) rest
          | none => ⟨.unknown, offset, next⟩ :: lexemesFrom next 0 rest

theorem lexemesFrom_append
    (offset : Nat)
    (front back : List Char) :
    lexemesFrom offset front.length (front ++ back) =
      lexemesFrom (offset + byteLength front) 0 back := by
  induction front generalizing offset with
  | nil =>
      rfl
  | cons character rest restHypothesis =>
      show lexemesFrom (offset + character.utf8Size) rest.length (rest ++ back) = _
      rw [restHypothesis, byteLength_cons, Nat.add_assoc]

theorem lexemesFrom_separators
    {front back : List Char}
    (longest : LongestMatch Lexeme.patterns .separators front back)
    (offset : Nat) :
    lexemesFrom offset 0 (front ++ back) = lexemesFrom (offset + byteLength front) 0 back := by
  have found := longest.longestMatch_eq
  cases front with
  | nil =>
      exact absurd rfl longest.nonempty
  | cons character rest =>
      rw [List.cons_append] at found ⊢
      rw [lexemesFrom.eq_def]
      simp only [found, List.length_cons, Nat.add_sub_cancel]
      rw [lexemesFrom_append, byteLength_cons, Nat.add_assoc]

theorem TakesToken.lexemesFrom_eq
    {kind : TokenKind}
    {front back : List Char}
    (takes : TakesToken kind front back)
    (offset : Nat) :
    lexemesFrom offset 0 (front ++ back) =
      ⟨kind, offset, offset + byteLength front⟩ ::
        lexemesFrom (offset + byteLength front) 0 back := by
  cases takes with
  | matched longest =>
      have found := longest.longestMatch_eq
      cases front with
      | nil =>
          exact absurd rfl longest.nonempty
      | cons character rest =>
          have taken :
              (character :: (rest ++ back)).take (rest.length + 1) = character :: rest := by
            rw [List.take_succ_cons, List.take_left]
          rw [List.cons_append] at found ⊢
          rw [lexemesFrom.eq_def]
          simp only [found, List.length_cons, Nat.add_sub_cancel, taken, lexemesFrom_append,
            byteLength_cons, Nat.add_assoc]
  | unmatched noMatch =>
      rw [List.singleton_append, lexemesFrom.eq_def]
      simp only [noMatch.longestMatch_eq, byteLength_cons, byteLength_nil, Nat.add_zero]

/-! ## Counting the columns -/

/-- How far a line was passed, in bytes and in characters. -/
structure ColumnCounter where
  byte : Nat := 0
  column : Nat := 0
deriving DecidableEq, Inhabited, Repr

/-- The counter once it has passed the line up to a byte offset. -/
def ColumnCounter.advanceTo? (line : List Char) (offset : Nat) (counter : ColumnCounter) :
    Option ColumnCounter :=
  (slice? counter.byte offset line).map fun passed => ⟨offset, counter.column + passed.length⟩

/-- The counter that has passed the characters. -/
def ColumnCounter.behind (passed : List Char) : ColumnCounter :=
  ⟨byteLength passed, passed.length⟩

/-- The characters between two places of a line are counted as they stand there. -/
theorem ColumnCounter.advanceTo?_behind
    (front middle back : List Char) :
    (behind front).advanceTo? (front ++ middle ++ back) (byteLength (front ++ middle)) =
      some (behind (front ++ middle)) := by
  rw [advanceTo?, behind, slice?_append, Option.map_some, behind, List.length_append]

/-- What a token of the kind says when `source` is how it stands in the line, with its first
byte and its last one cut off where they are marks. -/
def Token.cutText? (kind : TokenKind) (source : List Char) : Option (List Char) :=
  match kind with
  | .string => (slice? 1 (byteLength source - 1) source).map Quoted.decode
  | .reference => slice? 1 (byteLength source) source
  | _ => some source

/-- The token of a lexeme, and the counter at its first column. -/
def countedToken? (line : List Char) (counter : ColumnCounter) (lexeme : LexemeSpan) :
    Option (Token × ColumnCounter) := do
  let counter ← counter.advanceTo? line lexeme.first
  let source ← slice? lexeme.first lexeme.last line
  let text ← Token.cutText? lexeme.kind source
  let span : Span := ⟨counter.column, counter.column + (source.length - 1)⟩
  some (⟨lexeme.kind, span, String.ofList text⟩, counter)

/-- The tokens of lexemes, and the end of the line behind them. -/
def countedTokens? (line : List Char) : ColumnCounter → List LexemeSpan → Option (List Token)
  | _, [] => some [Token.endOfLine line.length]
  | counter, lexeme :: later => do
      let (token, counter) ← countedToken? line counter lexeme
      let tokens ← countedTokens? line counter later
      some (token :: tokens)

theorem slice?_quoted
    (body : List Char) :
    slice? 1 (byteLength ('"' :: (body ++ ['"'])) - 1) ('"' :: (body ++ ['"'])) = some body := by
  have closing :
      byteLength ('"' :: (body ++ ['"'])) - 1 = byteLength ('"' :: body) := by
    rw [← List.cons_append, byteLength_append]
    rfl
  rw [closing]
  exact slice?_append ['"'] body ['"']

/-- The marks around the text of a token take a byte each. -/
theorem TakesToken.cutText?_eq
    {kind : TokenKind}
    {front back : List Char}
    (takes : TakesToken kind front back) :
    Token.cutText? kind front = some (Token.textOf kind front) := by
  cases kind with
  | reference =>
      rcases exists_cons_of_matches_reference (takes.matches_pattern (by decide)) with
        ⟨name, rfl⟩
      have cut := slice?_append ['$'] name []
      rw [List.append_nil] at cut
      exact cut
  | string =>
      rcases exists_body_of_matches_string (takes.matches_pattern (by decide)) with
        ⟨body, rfl, _⟩
      show (slice? 1 (byteLength ('"' :: (body ++ ['"'])) - 1) ('"' :: (body ++ ['"']))).map
        Quoted.decode = _
      rw [slice?_quoted]
      simp [Token.textOf]
  | _ =>
      rfl

/-- A lexeme gives the token that a scan by characters gives, and leaves the counter at its first
column. -/
theorem TakesToken.countedToken?_eq
    {kind : TokenKind}
    {front back : List Char}
    (takes : TakesToken kind front back)
    (counted skipped : List Char) :
    countedToken? (counted ++ skipped ++ (front ++ back)) (.behind counted)
        ⟨kind, byteLength (counted ++ skipped), byteLength (counted ++ skipped ++ front)⟩ =
      some (Token.ofSource kind (counted ++ skipped).length front,
        .behind (counted ++ skipped)) := by
  have source := slice?_append (counted ++ skipped) front back
  rw [List.append_assoc (counted ++ skipped) front back] at source
  simp only [countedToken?, ColumnCounter.advanceTo?_behind, source, takes.cutText?_eq,
    Option.bind_eq_bind, Option.bind_some]
  rfl

/-- From wherever the counter stands, the lexemes of the rest of a line give the tokens that a
scan by characters gives. -/
theorem countedTokens?_lexemesFrom
    (column : Nat)
    (text counted skipped : List Char)
    (reached : column = (counted ++ skipped).length) :
    countedTokens? (counted ++ skipped ++ text) (.behind counted)
        (lexemesFrom (byteLength (counted ++ skipped)) 0 text) =
      some (tokensFrom column 0 text) := by
  induction column, text using scan_induction generalizing counted skipped with
  | finished column =>
      rw [List.append_nil, reached]
      rfl
  | token column kind front back takes backHypothesis =>
      have behind : column + front.length = (counted ++ skipped ++ front).length := by
        rw [reached]
        exact List.length_append.symm
      have later := backHypothesis (counted ++ skipped) front behind
      rw [List.append_assoc (counted ++ skipped)] at later
      rw [takes.lexemesFrom_eq, takes.tokensFrom_eq, ← byteLength_append, countedTokens?,
        takes.countedToken?_eq]
      simp only [later, reached, Option.bind_eq_bind, Option.bind_some]
  | separators column front back longest backHypothesis =>
      have behind : column + front.length = (counted ++ (skipped ++ front)).length := by
        rw [reached, ← List.append_assoc]
        exact List.length_append.symm
      have later := backHypothesis counted (skipped ++ front) behind
      rw [lexemesFrom_separators longest, tokensFrom_separators longest, ← byteLength_append]
      simpa only [List.append_assoc] using later

/--
Nothing fails when the tokens of a line are made from the byte offsets of its lexemes, with
columns that are counted from one lexeme to the next: they are the tokens that the scan by
characters gives.
-/
theorem countedTokens?_eq_tokenize
    (line : String) :
    countedTokens? line.toList {} (lexemesFrom 0 0 line.toList) = some (tokenize line) :=
  countedTokens?_lexemesFrom 0 line.toList [] [] rfl

-- The first character takes two bytes and one column.
example :
    lexemesFrom 0 0 "é \"\\n\"$x".toList =
      [⟨.unknown, 0, 2⟩, ⟨.string, 3, 7⟩, ⟨.reference, 7, 9⟩] := by
  decide +kernel

/-! ## The colon of a line -/

/-- The line with a space in place of its first character that is not blank, which is found at
the byte that the blanks in front of it leave. -/
def withoutColon? (line : List Char) : Option (List Char) :=
  let colon := byteLength line - byteLength (dropBlanks line)
  replaceRange? colon (colon + 1) [' '] line

/-- The text of a builtin line is the line with a space written over the byte of its colon. -/
theorem LineKind.withoutColon?_of_builtin
    {line text : String}
    (kind : ofLine line = .builtin text) :
    withoutColon? line.toList = some text.toList := by
  rw [ofLine] at kind
  split at kind
  · cases kind
  · rename_i rest found
    cases kind
    let blanks := line.toList.takeWhile isBlank
    have parts : line.toList = blanks ++ [':'] ++ rest := by
      rw [List.append_assoc, List.singleton_append, ← found]
      exact List.takeWhile_append_dropWhile.symm
    have colon :
        byteLength line.toList - byteLength (dropBlanks line.toList) = byteLength blanks := by
      rw [found, parts, List.append_assoc, byteLength_append, List.singleton_append,
        Nat.add_sub_cancel]
    have behind : byteLength blanks + 1 = byteLength (blanks ++ [':']) := by
      rw [byteLength_append]
      rfl
    rw [withoutColon?, colon, behind, String.toList_ofList]
    have replaced := replaceRange?_append blanks [':'] rest [' ']
    rw [← parts] at replaced
    rw [replaced, List.append_assoc]
    rfl
  · cases kind

end AsmShell
