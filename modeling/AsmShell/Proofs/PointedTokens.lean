import AsmShell.Proofs.ArgumentPieces
import AsmShell.Proofs.CommandDiagnostics
import AsmShell.Proofs.FailingTokens

/-!
# Diagnostics of commands point to tokens

A builtin line is read with a space in place of its colon.  Whatever is reported about
it has the column of a token of the text that was read, the end of the line included:
syntax errors point to tokens of the pieces that they refuse, and everything else points
to the name of the command, to the beginning of an argument, or into an argument that
cannot be evaluated, where each node begins with a token and each operator is one.  No
token stands behind the end of the line.  So the caret stands below a character of the
line or right behind the last one, and each character in front of it is copied from the
line if it is a tab, and is a space otherwise.
-/

namespace AsmShell

open Text

/-! ## Columns of tokens -/

/-- The column is that of one of the tokens. -/
def IsTokenColumn (tokens : List Token) (column : Nat) : Prop :=
  ∃ token ∈ tokens, column = token.column

theorem IsTokenColumn.of_subset
    {some tokens : List Token}
    {column : Nat}
    (isColumn : IsTokenColumn some column)
    (isSubset : some ⊆ tokens) :
    IsTokenColumn tokens column := by
  rcases isColumn with ⟨token, member, rfl⟩
  exact ⟨token, isSubset member, rfl⟩

/-- No token stands behind the end of the line. -/
theorem IsTokenColumn.le_length
    {line : String}
    {column : Nat}
    (isColumn : IsTokenColumn (tokenize line) column) :
    column ≤ line.length := by
  rcases isColumn with ⟨token, member, rfl⟩
  rcases (closedBy_tokenize line).parts with ⟨body, scanned, _⟩
  have inOrder := inOrder_tokenize line
  rw [scanned] at member inOrder
  rw [← String.length_toList]
  rcases List.mem_append.1 member with inBody | isEnd
  · have covering := inOrder.covering token member
    have before : token.span.last < line.toList.length :=
      (List.pairwise_append.1 inOrder.ordered).2.2 token inBody _ List.mem_cons_self
    omega
  · rw [List.mem_singleton.1 isEnd]
    exact Nat.le_refl _

/-- A span begins with a token of those that it covers. -/
theorem Span.Covers.isTokenColumn
    {span : Span}
    {tokens : List Token}
    (covers : span.Covers tokens) :
    IsTokenColumn tokens span.first := by
  rcases covers with ⟨first, last, isFirst, _, rfl⟩
  exact ⟨first, List.mem_of_head? isFirst, rfl⟩

/-! ## Columns of a command line -/

section

variable {text : String}

/-- A syntax error points to a token of the line. -/
theorem isTokenColumn_of_mem_errors
    {error : SyntaxError}
    (member : error ∈ (parseLine text).errors) :
    IsTokenColumn (tokenize text) error.column := by
  rcases (closedBy_tokenize text).hasEnd with ⟨_, someToken, _⟩
  rcases List.exists_cons_of_ne_nil (List.ne_nil_of_mem someToken) with ⟨name, rest, scanned⟩
  by_cases named : name.kind = .identifier
  · rcases exists_readsPieces_of_identifier scanned named with
      ⟨pieces, final, readsPieces, closed, parsed⟩
    rw [parsed] at member
    rcases List.mem_filterMap.1 member with ⟨piece, isPiece, isError⟩
    rw [Piece.error?_eq_some_iff] at isError
    rcases List.append_of_mem isPiece with ⟨before, following, split⟩
    have placed := readsPieces.placed closed before piece following split
    rcases placed.exists_extent_first with ⟨token, isToken, place⟩
    rw [Piece.extent_of_error isError] at place
    have behind : rest = pieces.flatMap Piece.tokens ++ [.endOfLine text.toList.length] :=
      (readsPieces.rest_eq closed).1
    refine ⟨token, ?_, place⟩
    rw [scanned, behind]
    refine List.mem_cons_of_mem _ (List.mem_append.2 ((List.mem_append.1 isToken).imp_left ?_))
    exact fun inPiece => List.mem_flatMap.2 ⟨piece, isPiece, inPiece⟩
  · rw [parseLine_of_not_identifier scanned named] at member
    rw [List.mem_singleton.1 member, scanned]
    exact ⟨name, List.mem_cons_self, rfl⟩

variable
    {command : Command}
    (parsed : (parseLine text).command = some command)
include parsed

/-- A command begins with the token of its name. -/
theorem isTokenColumn_span_first :
    IsTokenColumn (tokenize text) command.span.first := by
  rcases (closedBy_tokenize text).hasEnd with ⟨_, someToken, _⟩
  rcases List.exists_cons_of_ne_nil (List.ne_nil_of_mem someToken) with ⟨name, rest, scanned⟩
  rw [parseLine, Parser.ofLine_eq, scanned, Parser.readCommand, Parser.current_cons] at parsed
  split at parsed
  · cases parsed
    rw [scanned]
    exact ⟨name, List.mem_cons_self, rfl⟩
  · cases parsed

variable
    {argument : Expr}
    (member : argument ∈ command.arguments)
include member

/-- An argument begins with a token. -/
theorem isTokenColumn_of_mem_arguments :
    IsTokenColumn (tokenize text) argument.column := by
  rcases Parser.exists_operand_of_mem_arguments parsed argument member with
    ⟨operand, within, rfl, inside⟩
  rw [Parser.ofLine_eq] at inside
  exact within.derived.covers.isTokenColumn.of_subset inside.subset

/-- Where an argument fails, a token begins. -/
theorem isTokenColumn_of_eval
    {lookup : String → Option Value}
    {error : EvalError}
    (failed : argument.eval lookup = .error error) :
    IsTokenColumn (tokenize text) error.column := by
  rcases Expr.exists_failsItself_of_eval failed with ⟨earlier, node, later, split, fails, _⟩
  have inside : node ∈ argument.nodes := by
    apply Expr.mem_nodes_of_mem_postorder
    simp [split]
  rcases exists_marked_of_mem_nodes parsed member inside fails.not_isLiteral with
    ⟨opens, own, tokens, marked, inLine⟩
  rw [(fails.concerns marked.ownedBy).2]
  rcases marked.exists_tokens_eq with ⟨between, behind, rfl⟩
  refine IsTokenColumn.of_subset ?_ inLine.subset
  split
  · exact ⟨own, by simp, rfl⟩
  · refine ⟨opens.headD own, ?_, rfl⟩
    cases opens <;> simp

omit member in
/-- Everything that a command reports points to a token of its line. -/
theorem isTokenColumn_of_reports
    {opener : Opener}
    {session : Session}
    {diagnostic : Diagnostic}
    (reports : Builtin.Reports opener session command diagnostic) :
    IsTokenColumn (tokenize text) diagnostic.column := by
  cases reports with
  | unknown _ => exact isTokenColumn_span_first parsed
  | @arity builtin _ =>
      simp only [Builtin.arityDiagnostic]
      cases found : command.arguments[builtin.arity]? with
      | some argument =>
          exact isTokenColumn_of_mem_arguments parsed (List.mem_of_getElem? found)
      | none => exact isTokenColumn_span_first parsed
  | failed member evaluated => exact isTokenColumn_of_eval parsed member evaluated
  | notVariable member => exact isTokenColumn_of_mem_arguments parsed member
  | notNumber member _ => exact isTokenColumn_of_mem_arguments parsed member
  | undefined member => exact isTokenColumn_of_mem_arguments parsed member
  | notPath member _ => exact isTokenColumn_of_mem_arguments parsed member
  | notPushed member _ _ => exact isTokenColumn_of_mem_arguments parsed member

end

/-! ## The caret -/

section

variable
    {text : String}
    {column : Nat}
    (within : column ≤ text.length)
include within

theorem caretPadding_eq :
    caretPadding text column =
      (text.toList.take column).map fun character => if character = '\t' then '\t' else ' ' := by
  rw [← String.length_toList] at within
  simp [caretPadding, Nat.min_eq_left within]

/-- In front of the caret stands one character for each column. -/
theorem length_caretPadding :
    (caretPadding text column).length = column := by
  rw [caretPadding_eq within, List.length_map, List.length_take, String.length_toList,
    Nat.min_eq_left within]

theorem getElem?_caretPadding
    {index : Nat}
    (before : index < column) :
    (caretPadding text column)[index]? =
      some (if text.toList[index]? = some '\t' then '\t' else ' ') := by
  have inside : index < text.toList.length := by
    rw [String.length_toList]
    exact Nat.lt_of_lt_of_le before within
  rw [caretPadding_eq within, List.getElem?_map, List.getElem?_take_of_lt before,
    List.getElem?_eq_getElem inside]
  simp

end

/-! ## Builtin lines -/

/-- A builtin line is read with a space in place of the colon behind its blanks. -/
theorem LineKind.exists_of_ofLine_eq_builtin
    {line text : String}
    (isBuiltin : ofLine line = .builtin text) :
    ∃ blanks rest,
      (∀ character ∈ blanks, isBlank character = true) ∧
        line.toList = blanks ++ ':' :: rest ∧ text.toList = blanks ++ ' ' :: rest := by
  have parts := line.toList.takeWhile_append_dropWhile (p := isBlank)
  rw [ofLine, dropBlanks] at isBuiltin
  split at isBuiltin
  · cases isBuiltin
  · rename_i rest behind
    cases isBuiltin
    rw [behind] at parts
    exact ⟨_, rest, List.all_eq_true.1 List.all_takeWhile, parts.symm, String.toList_ofList⟩
  · cases isBuiltin

/--
Everything that is reported about a builtin line is about the line, at the column of a
token of the text that is read, which is the line with a space in place of its colon.  So
the column is at most the length of the line.  Where no colors are used, the text of the
report ends with the line and a line that has the caret behind as many characters as the
column says: a tab where the line has a tab, and a space everywhere else.
-/
theorem builtin_reports_point_at_tokens
    (opener : Opener)
    (session : Session)
    (line text : String)
    (isBuiltin : LineKind.ofLine line = .builtin text) :
    (∃ blanks rest,
      (∀ character ∈ blanks, isBlank character = true) ∧
        line.toList = blanks ++ ':' :: rest ∧ text.toList = blanks ++ ' ' :: rest) ∧
      ∀ report ∈ (session.execute opener line).transcript.reports,
        ∃ (diagnostic : Diagnostic) (padding : List Char),
          report = .located (session.input.sourceLine line) diagnostic ∧
            (∃ token ∈ tokenize text, diagnostic.column = token.column) ∧
            diagnostic.column ≤ line.length ∧
            (∀ colored,
              report.text false colored =
                session.input.active.name ++ ":" ++ toString session.input.active.delivered ++
                  ":" ++ toString (diagnostic.column + 1) ++ ": error: " ++
                  diagnostic.message ++ "\n" ++ line ++ "\n" ++ String.ofList padding ++ "^\n") ∧
            padding.length = diagnostic.column ∧
            ∀ index < diagnostic.column,
              padding[index]? = some (if line.toList[index]? = some '\t' then '\t' else ' ') := by
  rcases LineKind.exists_of_ofLine_eq_builtin isBuiltin with
    ⟨blanks, rest, allBlank, line_eq, text_eq⟩
  refine ⟨⟨blanks, rest, allBlank, line_eq, text_eq⟩, ?_⟩
  intro report member
  rcases Session.exists_diagnostic_of_mem_execute isBuiltin member with
    ⟨diagnostic, rfl, reported⟩
  have isColumn : IsTokenColumn (tokenize text) diagnostic.column := by
    rcases reported with ⟨error, isError, rfl⟩ | ⟨command, parsed, reports⟩
    · exact isTokenColumn_of_mem_errors isError
    · exact isTokenColumn_of_reports parsed reports
  have sameLength : text.length = line.length := by
    rw [← String.length_toList, ← String.length_toList, line_eq, text_eq]
    simp
  have within : diagnostic.column ≤ line.length := sameLength ▸ isColumn.le_length
  exact ⟨diagnostic, caretPadding line diagnostic.column, rfl, isColumn, within, fun _ => rfl,
    length_caretPadding within, fun index before => getElem?_caretPadding within before⟩

/-- A syntax error at a character of two bytes and a division by zero, in a line that begins with
a tab: the tab stands in front of both carets. -/
theorem builtin_reports_point_at_tokens_of_division :
    ∃ session : Session,
      LineKind.ofLine "\t:print é (1/0)" = .builtin "\t print é (1/0)" ∧
        (session.execute (FileSystem.opener {}) "\t:print é (1/0)").transcript.reports =
          [.located (session.input.sourceLine "\t:print é (1/0)")
              ⟨"invalid character in input", 8⟩,
            .located (session.input.sourceLine "\t:print é (1/0)") ⟨"division by zero", 12⟩] ∧
        ∀ report ∈
          (session.execute (FileSystem.opener {}) "\t:print é (1/0)").transcript.reports,
          ∃ (diagnostic : Diagnostic) (padding : List Char),
            report = .located (session.input.sourceLine "\t:print é (1/0)") diagnostic ∧
              (∃ token ∈ tokenize "\t print é (1/0)", diagnostic.column = token.column) ∧
              padding.length = diagnostic.column ∧
              (0 < diagnostic.column → padding[0]? = some '\t') := by
  let session : Session :=
    { input := { terminal := .terminal [] none }, assembler := .unsupported ⟨"none", "none"⟩ }
  have isBuiltin : LineKind.ofLine "\t:print é (1/0)" = .builtin "\t print é (1/0)" := by
    decide +kernel
  refine ⟨session, isBuiltin, by decide +kernel, ?_⟩
  intro report member
  rcases (builtin_reports_point_at_tokens (FileSystem.opener {}) session _ _ isBuiltin).2 report
      member with
    ⟨diagnostic, padding, located, isColumn, _, _, length, copied⟩
  have firstIsTab : "\t:print é (1/0)".toList[0]? = some '\t' := by decide
  refine ⟨diagnostic, padding, located, isColumn, length, fun behind => ?_⟩
  rw [copied 0 behind, firstIsTab, if_pos rfl]

end AsmShell
