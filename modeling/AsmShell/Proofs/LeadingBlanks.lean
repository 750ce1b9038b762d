import AsmShell.Proofs.Lexemes
import AsmShell.Proofs.MovedReadings
import AsmShell.Proofs.Results
import AsmShell.Proofs.Slices
import AsmShell.Session.Execute

/-!
# Blanks in front of a builtin command

A line gives a builtin command when a colon is its first character that is not blank.
Blanks are the white space of all scripts, while tokens are separated by five characters
only.  Where the blanks in front of the colon are among these five, a scan skips them
together with the space in place of the colon: the tokens of the command stand as many
columns later as there are blanks, and so does everything that is reported about them,
while the command does the same.  Any other blank is a character with which no token
begins; it stands where the name of the command is expected, and the line is refused.
-/

namespace AsmShell

open Text

/-! ## Separators in front of a text -/

theorem remaining_separator
    {first : Char}
    (separates : isSeparator first = true) :
    remaining Lexeme.patterns [first] = [(.separators, .star (.oneOf isSeparator))] := by
  simp only [isSeparator, Bool.or_eq_true, beq_iff_eq] at separates
  rcases separates with (((rfl | rfl) | rfl) | rfl) | rfl <;> rfl

/-- A scan begins behind the separators in front of a text. -/
theorem tokensFrom_dropSeparators
    (column : Nat)
    (text : List Char) :
    tokensFrom column 0 text =
      tokensFrom (column + (text.takeWhile isSeparator).length) 0
        (text.dropWhile isSeparator) := by
  have parts := text.takeWhile_append_dropWhile (p := isSeparator)
  cases front : text.takeWhile isSeparator with
  | nil =>
      rw [front, List.nil_append] at parts
      rw [parts]
      rfl
  | cons first others =>
      have separate : ∀ character ∈ first :: others, isSeparator character = true := by
        rw [← front]
        exact List.all_eq_true.1 List.all_takeWhile
      rcases List.forall_mem_cons.1 separate with ⟨firstSeparates, othersSeparate⟩
      have ended : ∀ next ∈ (text.dropWhile isSeparator).head?, isSeparator next = false := by
        intro next isNext
        have rejected := List.head?_dropWhile_not isSeparator text
        rw [Option.mem_def.1 isNext] at rejected
        exact rejected
      have longest :
          LongestMatch Lexeme.patterns .separators (first :: others)
            (text.dropWhile isSeparator) :=
        .of_repetition (List.cons_ne_nil first []) (remaining_separator firstSeparates)
          othersSeparate ended
      rw [← tokensFrom_separators longest, ← front, parts]

/-- Separators are passed without a token, whatever follows them. -/
theorem tokensFrom_behind_separators
    {front : List Char}
    (separate : ∀ character ∈ front, isSeparator character = true)
    (column : Nat)
    (back : List Char) :
    tokensFrom column 0 (front ++ back) = tokensFrom (column + front.length) 0 back := by
  rw [tokensFrom_dropSeparators column, tokensFrom_dropSeparators (column + front.length),
    List.takeWhile_append_of_pos separate, List.dropWhile_append_of_pos separate,
    List.length_append, Nat.add_assoc]

/-- The tokens behind a row of separators and a space stand as many columns later as there are
separators in the row. -/
theorem tokenize_separators
    {front : List Char}
    (separate : ∀ character ∈ front, isSeparator character = true)
    (text : List Char) :
    tokenize (String.ofList (front ++ ' ' :: text)) =
      (tokenize (String.ofList (' ' :: text))).map (Token.moveColumns (· + front.length)) := by
  rw [tokenize, tokenize, String.toList_ofList, String.toList_ofList, ← tokensFrom_add,
    tokensFrom_behind_separators separate]

/-! ## Blanks that separate nothing -/

/-- What is checked of the code points in all ranges holds of every blank. -/
theorem forall_isBlank
    {property : Char → Prop}
    (checked : ∀ range ∈ blankRanges, ∀ offset ≤ range.2 - range.1,
      property (Char.ofNat (range.1 + offset))) :
    ∀ character, isBlank character = true → property character := by
  intro character blank
  rcases List.any_eq_true.1 blank with ⟨range, member, inside⟩
  simp only [Bool.and_eq_true, decide_eq_true_eq] at inside
  have holds := checked range member (character.toNat - range.1) (by omega)
  rwa [Nat.add_sub_of_le inside.1, Char.ofNat_toNat] at holds

theorem filter_begins_of_isBlank
    {character : Char}
    (blank : isBlank character = true)
    (notSeparator : isSeparator character = false) :
    Lexeme.all.filter (fun lexeme => lexeme.pattern.begins character) = [] := by
  have checked :
      ∀ character, isBlank character = true → isSeparator character = false →
        Lexeme.all.filter (fun lexeme => lexeme.pattern.begins character) = [] := by
    apply forall_isBlank
    decide +kernel
  exact checked character blank notSeparator

theorem noMatch_of_isBlank
    {character : Char}
    (blank : isBlank character = true)
    (notSeparator : isSeparator character = false)
    (rest : List Char) :
    NoMatch Lexeme.patterns (character :: rest) := by
  intro front isPrefix isNonempty
  rcases List.exists_cons_of_ne_nil isNonempty with ⟨first, others, rfl⟩
  rcases List.cons_prefix_cons.1 isPrefix with ⟨rfl, _⟩
  rw [← matchedLabel_derivatives, derivatives_patterns,
    filter_begins_of_isBlank blank notSeparator]
  rfl

/-- A blank that is no separator is the first token of the text behind the separators. -/
theorem exists_tokenize_of_isBlank
    {front : List Char}
    (separate : ∀ character ∈ front, isSeparator character = true)
    {character : Char}
    (blank : isBlank character = true)
    (notSeparator : isSeparator character = false)
    (text : List Char) :
    ∃ rest,
      tokenize (String.ofList (front ++ character :: text)) =
        Token.ofSource .unknown front.length [character] :: rest := by
  have skipped : (front ++ character :: text).dropWhile isSeparator = character :: text := by
    rw [List.dropWhile_append_of_pos separate, List.dropWhile_cons, notSeparator]
    rfl
  have passed : (front ++ character :: text).takeWhile isSeparator = front := by
    rw [List.takeWhile_append_of_pos separate, List.takeWhile_cons, notSeparator]
    exact List.append_nil front
  rw [tokenize, String.toList_ofList, tokensFrom_dropSeparators, skipped, passed, Nat.zero_add,
    tokensFrom_unknown (noMatch_of_isBlank blank notSeparator text)]
  exact ⟨_, rfl⟩

/-! ## Commands at other columns -/

section

variable (move : Nat → Nat)

/-- The diagnostic with its column moved. -/
def Diagnostic.moveColumns (diagnostic : Diagnostic) : Diagnostic :=
  { diagnostic with column := move diagnostic.column }

/-- The fault with its place moved. -/
def EvalError.moveColumns (error : EvalError) : EvalError :=
  { error with span := error.span.moveColumns move }

/-- The effect of a command with the columns of its diagnostics moved. -/
def Builtin.Effect.moveColumns (effect : Effect) : Effect :=
  { effect with diagnostics := effect.diagnostics.map (Diagnostic.moveColumns move) }

theorem Expr.column_moveColumns
    (expr : Expr) :
    (expr.moveColumns move).column = move expr.column := by
  rw [column, span_moveColumns]
  rfl

theorem Expr.reportedAt_moveColumns
    (span : Span)
    (result : Except Fault Value) :
    reportedAt (span.moveColumns move) result =
      (reportedAt span result).mapError (EvalError.moveColumns move) := by
  cases result <;> rfl

/-- Evaluation does not look at columns. -/
theorem Expr.eval_moveColumns
    (lookup : String → Option Value)
    (expr : Expr) :
    (expr.moveColumns move).eval lookup =
      (expr.eval lookup).mapError (EvalError.moveColumns move) := by
  induction expr with
  | literal value span =>
      rfl
  | reference name span =>
      exact reportedAt_moveColumns move span _
  | unary op operand span operandHypothesis =>
      simp only [moveColumns, eval, operandHypothesis, reportedAt_moveColumns,
        mapError_bind]
  | binary op left right opSpan span leftHypothesis rightHypothesis =>
      simp only [moveColumns, eval, leftHypothesis, rightHypothesis, reportedAt_moveColumns,
        mapError_bind]

namespace Builtin

variable (bindings : Bindings)

theorem changed_moveColumns
    {Part : Type}
    (session : Session)
    (apply : Part → Session)
    (result : Except Diagnostic Part) :
    changed session apply (result.mapError (Diagnostic.moveColumns move)) =
      (changed session apply result).moveColumns move := by
  cases result <;> rfl

theorem arityDiagnostic_moveColumns
    (command : Command)
    (expected : Nat) :
    arityDiagnostic (command.moveColumns move) expected =
      (arityDiagnostic command expected).moveColumns move := by
  simp only [arityDiagnostic, Command.moveColumns, List.length_map, List.getElem?_map,
    Diagnostic.moveColumns]
  cases command.arguments[expected]? with
  | none =>
      rfl
  | some argument =>
      simp only [Option.map_some, Expr.column_moveColumns]

theorem expectVariable_moveColumns
    (argument : Expr) :
    expectVariable (argument.moveColumns move) =
      (expectVariable argument).mapError (Diagnostic.moveColumns move) := by
  cases argument <;> rfl

theorem evalArgument_moveColumns
    (argument : Expr) :
    evalArgument bindings (argument.moveColumns move) =
      (evalArgument bindings argument).mapError (Diagnostic.moveColumns move) := by
  rw [evalArgument, evalArgument, Expr.eval_moveColumns]
  cases argument.eval bindings.find? <;> rfl

theorem setVariable_moveColumns
    (named argument : Expr) :
    setVariable bindings (named.moveColumns move) (argument.moveColumns move) =
      (setVariable bindings named argument).mapError (Diagnostic.moveColumns move) := by
  simp only [setVariable, expectVariable_moveColumns, evalArgument_moveColumns,
    mapError_bind, Expr.column_moveColumns]
  congr 1
  funext name
  congr 1
  funext value
  split <;> rfl

theorem unsetVariable_moveColumns
    (argument : Expr) :
    unsetVariable bindings (argument.moveColumns move) =
      (unsetVariable bindings argument).mapError (Diagnostic.moveColumns move) := by
  simp only [unsetVariable, expectVariable_moveColumns, mapError_bind,
    Expr.span_moveColumns]
  congr 1
  funext name
  rcases bindings.remove name with ⟨_ | value, rest⟩ <;> rfl

theorem scriptPath_moveColumns
    (argument : Expr) :
    scriptPath bindings (argument.moveColumns move) =
      (scriptPath bindings argument).mapError (Diagnostic.moveColumns move) := by
  simp only [scriptPath, evalArgument_moveColumns, mapError_bind,
    Expr.column_moveColumns]
  congr 1
  funext value
  cases value.text? <;> rfl

theorem pushScript_moveColumns
    (opener : Opener)
    (session : Session)
    (argument : Expr) :
    pushScript opener session (argument.moveColumns move) =
      (pushScript opener session argument).mapError (Diagnostic.moveColumns move) := by
  simp only [pushScript, scriptPath_moveColumns, mapError_bind, Expr.column_moveColumns]
  congr 1
  funext path
  cases session.input.redirect opener path <;> rfl

theorem printedLines_mapError
    (results : List (Except EvalError Value)) :
    printedLines (results.map (·.mapError (EvalError.moveColumns move))) =
      printedLines results := by
  have values :
      (results.map (·.mapError (EvalError.moveColumns move))).filterMap (·.toOption) =
        results.filterMap (·.toOption) := by
    rw [List.filterMap_map]
    congr 1
    funext result
    cases result <;> rfl
  rw [printedLines, values, printedLines]

theorem failedDiagnostics_mapError
    (results : List (Except EvalError Value)) :
    failedDiagnostics (results.map (·.mapError (EvalError.moveColumns move))) =
      (failedDiagnostics results).map (Diagnostic.moveColumns move) := by
  rw [failedDiagnostics, failedDiagnostics, List.filterMap_map, List.map_filterMap]
  congr 1
  funext result
  cases result <;> rfl

/-- A command does the same at other columns, and reports the same there. -/
theorem run_moveColumns
    (opener : Opener)
    (session : Session)
    (command : Command) :
    run opener session (command.moveColumns move) =
      (run opener session command).moveColumns move := by
  rcases command with ⟨name, span, arguments⟩
  have wrongArity (others : List Expr) (expected : Nat) :
      refused session (arityDiagnostic (Command.moveColumns move ⟨name, span, others⟩) expected) =
        (refused session (arityDiagnostic ⟨name, span, others⟩ expected)).moveColumns move :=
    congrArg (refused session) (arityDiagnostic_moveColumns move ⟨name, span, others⟩ expected)
  simp only [run, Command.moveColumns]
  cases ofName? name with
  | none =>
      rfl
  | some builtin =>
      cases builtin with
      | quit =>
          rfl
      | print =>
          have results :
              (arguments.map (Expr.moveColumns move)).map (·.eval session.bindings.find?) =
                (arguments.map (·.eval session.bindings.find?)).map
                  (·.mapError (EvalError.moveColumns move)) := by
            simp only [List.map_map, Function.comp_def, Expr.eval_moveColumns]
          simp only [results, printedLines_mapError, failedDiagnostics_mapError]
          rfl
      | set =>
          rcases arguments with _ | ⟨first, _ | ⟨second, _ | ⟨third, others⟩⟩⟩
          · exact wrongArity [] 2
          · exact wrongArity [first] 2
          · simp only [List.map_cons, List.map_nil, setVariable_moveColumns,
              changed_moveColumns]
          · exact wrongArity (first :: second :: third :: others) 2
      | unset =>
          rcases arguments with _ | ⟨first, _ | ⟨second, others⟩⟩
          · exact wrongArity [] 1
          · simp only [List.map_cons, List.map_nil, unsetVariable_moveColumns,
              changed_moveColumns]
          · exact wrongArity (first :: second :: others) 1
      | source =>
          rcases arguments with _ | ⟨first, _ | ⟨second, others⟩⟩
          · exact wrongArity [] 1
          · simp only [List.map_cons, List.map_nil, pushScript_moveColumns,
              changed_moveColumns]
          · exact wrongArity (first :: second :: others) 1
      | _ =>
          cases arguments with
          | nil =>
              rfl
          | cons argument others =>
              exact wrongArity (argument :: others) 0

end Builtin

/-- Two texts of which one has the tokens of the other at other columns lead to the same, and what
is reported of them is the same at these columns. -/
theorem Session.exists_executeBuiltin_moveColumns
    (opener : Opener)
    (session : Session)
    {text other : String}
    (moved : tokenize other = (tokenize text).map (Token.moveColumns move)) :
    ∃ (after : Session) (output : List Styled) (flow : Flow) (diagnostics : List Diagnostic),
      ∀ source,
        session.executeBuiltin opener source text =
            { session := after
              transcript := ⟨output, diagnostics.map (Report.located source)⟩
              flow := flow } ∧
          session.executeBuiltin opener source other =
            { session := after
              transcript :=
                ⟨output,
                  (diagnostics.map (Diagnostic.moveColumns move)).map (Report.located source)⟩
              flow := flow } := by
  have parsed := parseLine_moveColumns move moved
  have located (error : SyntaxError) :
      (error.moveColumns move).diagnostic = error.diagnostic.moveColumns move :=
    rfl
  cases named : (parseLine text).command with
  | none =>
      refine ⟨session, [], .next, (parseLine text).errors.map SyntaxError.diagnostic, ?_⟩
      intro source
      simp only [executeBuiltin, parsed, ParsedCommand.moveColumns, named, Option.map_none,
        List.map_map, Function.comp_def, located, and_self]
  | some command =>
      let effect := Builtin.run opener session command
      refine ⟨effect.session, effect.output, effect.flow,
        (parseLine text).errors.map SyntaxError.diagnostic ++ effect.diagnostics, ?_⟩
      intro source
      simp only [executeBuiltin, parsed, ParsedCommand.moveColumns, named, Option.map_some,
        Builtin.run_moveColumns, Builtin.Effect.moveColumns, List.map_append, List.map_map,
        Function.comp_def, located, effect, and_self]

end

/-! ## Lines with blanks in front -/

/-- The first blank that is no separator stands behind separators only. -/
theorem exists_first_not_separator
    {blanks : List Char}
    (allBlank : ∀ character ∈ blanks, isBlank character = true)
    (inside : ∃ character ∈ blanks, isSeparator character = false) :
    ∃ first rest,
      blanks = blanks.takeWhile isSeparator ++ first :: rest ∧
        isBlank first = true ∧ isSeparator first = false := by
  have parts := blanks.takeWhile_append_dropWhile (p := isSeparator)
  cases behind : blanks.dropWhile isSeparator with
  | nil =>
      rcases inside with ⟨character, member, rejected⟩
      rw [behind, List.append_nil] at parts
      rw [← parts] at member
      have accepted := List.all_eq_true.1 List.all_takeWhile character member
      rw [rejected] at accepted
      cases accepted
  | cons first rest =>
      have rejected := List.head?_dropWhile_not isSeparator blanks
      rw [behind] at parts rejected
      have member : first ∈ blanks := by
        rw [← parts]
        simp
      exact ⟨first, rest, parts.symm, allBlank first member, rejected⟩

/-- Blanks in front of a colon are kept in front of the command. -/
theorem LineKind.ofLine_blanks
    (blanks text : String)
    (allBlank : ∀ character ∈ blanks.toList, isBlank character = true) :
    LineKind.ofLine (blanks ++ ":" ++ text) =
      .builtin (String.ofList (blanks.toList ++ ' ' :: text.toList)) := by
  have characters : (blanks ++ ":" ++ text).toList = blanks.toList ++ ':' :: text.toList := by
    simp
  have colon : isBlank ':' = false := by decide
  rw [ofLine, characters, dropBlanks, List.dropWhile_append_of_pos allBlank,
    List.takeWhile_append_of_pos allBlank, List.dropWhile_cons, List.takeWhile_cons, colon]
  simp

/--
A line with blanks in front of its colon, where all blanks are characters that separate
tokens: the line leads to the same session and the same output as without the blanks, and
what happens next is the same; it reports the same messages in the same order, each as
many columns later as there are blanks.  Where some blank separates no tokens, the line is
refused whatever its command is: nothing changes, and the only report says at the first
such blank that a command is expected.
-/
theorem blanks_before_colon_shift_columns
    (opener : Opener)
    (session : Session)
    (blanks text : String)
    (allBlank : ∀ character ∈ blanks.toList, isBlank character = true) :
    ((∀ character ∈ blanks.toList, isSeparator character = true) →
      ∃ (after : Session) (output : List Styled) (flow : Flow) (diagnostics : List Diagnostic),
        session.execute opener (":" ++ text) =
            { session := after
              transcript :=
                ⟨output,
                  diagnostics.map (Report.located (session.input.sourceLine (":" ++ text)))⟩
              flow := flow } ∧
          session.execute opener (blanks ++ ":" ++ text) =
            { session := after
              transcript :=
                ⟨output,
                  (diagnostics.map fun diagnostic =>
                    ⟨diagnostic.message, diagnostic.column + blanks.length⟩).map
                    (Report.located (session.input.sourceLine (blanks ++ ":" ++ text)))⟩
              flow := flow }) ∧
      ((∃ character ∈ blanks.toList, isSeparator character = false) →
        session.execute opener (blanks ++ ":" ++ text) =
          { session := session
            transcript :=
              { reports :=
                  [.located (session.input.sourceLine (blanks ++ ":" ++ text))
                    ⟨"expected command", (blanks.toList.takeWhile isSeparator).length⟩] }
            flow := .next }) := by
  have kind := LineKind.ofLine_blanks blanks text allBlank
  constructor
  · intro separate
    have bareKind := LineKind.ofLine_blanks "" text (List.forall_mem_nil _)
    rw [String.empty_append] at bareKind
    have scanned := tokenize_separators separate text.toList
    rw [String.length_toList] at scanned
    rcases session.exists_executeBuiltin_moveColumns (· + blanks.length) opener scanned with
      ⟨after, output, flow, diagnostics, executed⟩
    refine ⟨after, output, flow, diagnostics, ?_, ?_⟩
    · rw [Session.execute, bareKind]
      exact (executed _).1
    · rw [Session.execute, kind]
      exact (executed _).2
  · intro inside
    rcases exists_first_not_separator allBlank inside with ⟨first, rest, parts, blank, rejected⟩
    have separate : ∀ character ∈ blanks.toList.takeWhile isSeparator,
        isSeparator character = true :=
      List.all_eq_true.1 List.all_takeWhile
    rcases exists_tokenize_of_isBlank separate blank rejected (rest ++ ' ' :: text.toList) with
      ⟨tokens, scanned⟩
    rw [← List.cons_append, ← List.append_assoc, ← parts] at scanned
    have parsed := parseLine_of_not_identifier scanned (by simp [Token.ofSource])
    rw [Session.execute, kind]
    simp only [Session.executeBuiltin, parsed, List.map_cons, List.map_nil]
    rfl

/-- A tab and a space in front of a command move what it reports by two columns. -/
theorem blanks_before_colon_shift_columns_of_tab :
    ∃ session : Session,
      session.input = { terminal := .terminal [] none } ∧
        ((session.execute (FileSystem.opener {}) ":print (1 / 0) 2").transcript.reports =
          [.located (session.input.sourceLine ":print (1 / 0) 2") ⟨"division by zero", 10⟩]) ∧
        ∃ (after : Session) (output : List Styled) (flow : Flow) (diagnostics : List Diagnostic),
          session.execute (FileSystem.opener {}) ":print (1 / 0) 2" =
              { session := after
                transcript :=
                  ⟨output,
                    diagnostics.map
                      (Report.located (session.input.sourceLine ":print (1 / 0) 2"))⟩
                flow := flow } ∧
            session.execute (FileSystem.opener {}) "\t :print (1 / 0) 2" =
              { session := after
                transcript :=
                  ⟨output,
                    (diagnostics.map fun diagnostic =>
                      ⟨diagnostic.message, diagnostic.column + 2⟩).map
                      (Report.located (session.input.sourceLine "\t :print (1 / 0) 2"))⟩
                flow := flow } := by
  let session : Session :=
    { input := { terminal := .terminal [] none }, assembler := .unsupported ⟨"none", "none"⟩ }
  have allBlank : "\t ".toList.all isBlank = true := by decide +kernel
  have separate : "\t ".toList.all isSeparator = true := by decide +kernel
  exact ⟨session, rfl, by decide +kernel,
    (blanks_before_colon_shift_columns (FileSystem.opener {}) session "\t "
      "print (1 / 0) 2" (List.all_eq_true.1 allBlank)).1 (List.all_eq_true.1 separate)⟩

/-- A no-break space is blank but separates nothing: a command behind it is refused, although
without it the command prints a value. -/
theorem no_break_space_before_colon_refused :
    ∃ session : Session,
      isBlank '\u00a0' = true ∧
        (session.execute (FileSystem.opener {}) ":print 1").transcript.output =
          [Styled.plain "1"] ∧
        (session.execute (FileSystem.opener {}) "\u00a0:print 1").transcript.output = [] ∧
        (session.execute (FileSystem.opener {}) ":print 1").transcript.reports = [] ∧
        (session.execute (FileSystem.opener {}) "\u00a0:print 1").transcript.reports =
          [.located (session.input.sourceLine "\u00a0:print 1") ⟨"expected command", 0⟩] := by
  let session : Session :=
    { input := { terminal := .terminal [] none }, assembler := .unsupported ⟨"none", "none"⟩ }
  exact ⟨session, by decide, by decide +kernel, by decide +kernel, by decide +kernel,
    by decide +kernel⟩

end AsmShell
