import AsmShell.Proofs.DeepArguments
import AsmShell.Proofs.NumericVariables
import AsmShell.Proofs.PrintedExpressions
import Mathlib.Data.List.Basic

/-!
# Listed variables can be printed

The list of the variables has a line for each of them: its name, an equals sign, and
its number.  Neither a name nor a number has an equals sign in it, so a line says in
only one way what its name and its number are.  The name is one that a line can spell,
and what is listed under it is what is found there.  So printing the variable by this
name shows what the list shows, and nothing goes wrong.
-/

namespace AsmShell

open Text

/-! ## Names and numbers have no equals sign -/

theorem IsName.equalsSign_not_mem
    {name : String}
    (isName : IsName isNameChar name) :
    '=' ∉ name.toList := by
  rcases isName with ⟨first, rest, spelled, starts, goesOn⟩
  rw [spelled]
  intro member
  have accepted : isNameChar '=' = true := by
    rcases List.mem_cons.1 member with isFirst | inRest
    · rw [isFirst]
      exact isNameChar_of_isNameStart starts
    · exact goesOn '=' inRest
  exact absurd accepted (by decide)

theorem Value.equalsSign_not_mem_render
    {value : Value}
    (numeric : value.isNumeric = true) :
    '=' ∉ value.render.toList :=
  fun member => absurd (isNumberChar_of_mem_render numeric member) (by decide)

/-! ## Lines of the list -/

/-- The line of a variable says in only one way what its name and its value are. -/
theorem Builtin.eq_of_variableLine_eq
    {entry : String × Value}
    (namePlain : '=' ∉ entry.1.toList)
    (valuePlain : '=' ∉ entry.2.render.toList)
    {name text : String}
    (same : variableLine entry = Styled.plain ("$" ++ name ++ " = " ++ text)) :
    entry.1 = name ∧ entry.2.render = text := by
  simp only [variableLine, Styled.plain, List.cons.injEq, Segment.mk.injEq, and_true] at same
  have characters :
      (entry.1.toList ++ [' ']) ++ '=' :: (' ' :: entry.2.render.toList) =
        (name.toList ++ [' ']) ++ '=' :: (' ' :: text.toList) := by
    simpa using congrArg String.toList same
  -- Of the other name and text nothing is known: that one side has no second sign is enough.
  have front : '=' ∉ entry.1.toList ++ [' '] := by simp [namePlain]
  have back : '=' ∉ ' ' :: entry.2.render.toList := by simp [valuePlain]
  rcases (List.append_cons_inj_of_notMem front back).1 characters with
    ⟨sameFront, _, sameBack⟩
  exact ⟨String.toList_injective (List.append_cancel_right sameFront),
    String.toList_injective (List.cons.inj sameBack).2⟩

/-- The variables are listed one by one. -/
theorem Session.output_vars
    (opener : Opener)
    (session : Session) :
    (session.execute opener ":vars").transcript.output =
      session.bindings.entries.map Builtin.variableLine :=
  rfl

/-! ## Printing a variable -/

/-- What follows the colon of a line that prints a variable. -/
def printing (name : String) : List Char :=
  "print".toList ++ ([' '] ++ '$' :: name.toList)

/-- A line that prints a variable has three tokens: the command, the variable and the end. -/
theorem exists_tokenize_printing
    {name : String}
    (isName : IsName isNameChar name) :
    ∃ argument ending,
      LeafToken argument (.reference name argument.span) ∧
        tokenize (String.ofList (' ' :: printing name)) =
          [Token.ofSource .identifier 1 "print".toList, argument, Token.endOfLine ending] := by
  have ended : EndsOperand [] := by simp [EndsOperand]
  rcases isName.scansAsLeaf ended with ⟨kind, longest, leaf⟩
  -- The space in place of the colon is counted, so the command stands at column 1.
  let command := Token.ofSource .identifier 1 "print".toList
  let argument := Token.ofSource kind 7 ('$' :: name.toList)
  let ending := 7 + ('$' :: name.toList).length
  have starts : isNameStart 'p' = true := by decide
  have goesOn : ∀ character ∈ ['r', 'i', 'n', 't'], isBareNameChar character = true :=
    List.all_eq_true.1 (by decide)
  have commandLongest :
      LongestMatch Lexeme.patterns (.token .identifier) "print".toList
        ([' '] ++ '$' :: name.toList) :=
    longestMatch_identifier starts goesOn (by rintro next ⟨⟩; decide)
  refine ⟨argument, ending, leaf 7, ?_⟩
  calc
    tokenize (String.ofList (' ' :: printing name))
    _ = tokensFrom 0 0 ([' '] ++ printing name) := by
      rw [tokenize, String.toList_ofList]
      rfl
    _ = tokensFrom 1 0 (printing name) :=
      scannedAs_space (by rintro next ⟨⟩; decide) 0
    _ = command :: tokensFrom 6 0 ([' '] ++ '$' :: name.toList) :=
      tokensFrom_longestMatch commandLongest 1
    _ = command :: tokensFrom 7 0 ('$' :: name.toList ++ []) := by
      rw [List.append_nil]
      exact congrArg (command :: ·) (scannedAs_space (by rintro next ⟨⟩; decide) 6)
    _ = [command, argument, Token.endOfLine ending] :=
      congrArg (command :: ·) (tokensFrom_longestMatch longest 7)

/-- A line that prints a variable is a command with the variable as its only argument. -/
theorem parseLine_printing
    {name : String}
    (isName : IsName isNameChar name) :
    ∃ commandSpan span,
      (parseLine (String.ofList (' ' :: printing name))).command =
          some ⟨"print", commandSpan, [.reference name span]⟩ ∧
        (parseLine (String.ofList (' ' :: printing name))).errors = [] := by
  rcases exists_tokenize_printing isName with ⟨argument, ending, leaf, scanned⟩
  let operand := Operand.leaf argument (.reference name argument.span)
  have within : operand.Within nestingLimit := Operand.within_leaf leaf 255
  exact ⟨_, argument.span,
    parseLine_of_operands scanned rfl (List.forall_mem_singleton.2 within)⟩

/-- Printing a variable shows its number and reports nothing. -/
theorem Session.transcript_print
    (opener : Opener)
    {session : Session}
    {name : String}
    (isName : IsName isNameChar name)
    {value : Value}
    (found : session.bindings.find? name = some value)
    (numeric : value.isNumeric = true) :
    (session.execute opener (":print $" ++ name)).transcript =
      { output := [Styled.plain value.render] } := by
  have kind :
      LineKind.ofLine (":print $" ++ name) = .builtin (String.ofList (' ' :: printing name)) := by
    rw [LineKind.ofLine, String.toList_append]
    rfl
  rcases parseLine_printing isName with ⟨commandSpan, span, parsed, noErrors⟩
  have evaluated : (Expr.reference name span).eval session.bindings.find? = .ok value := by
    rw [Expr.eval, Expr.resolve, found]
    simp only [numeric, if_true]
    rfl
  have effect :
      Builtin.run opener session ⟨"print", commandSpan, [.reference name span]⟩ =
        { session := session, output := [Styled.plain value.render] } := by
    show Builtin.Effect.mk session (Builtin.failedDiagnostics [Expr.eval _ _])
      (Builtin.printedLines [Expr.eval _ _]) .next = _
    rw [evaluated]
    rfl
  simp only [execute, kind, executeBuiltin, parsed, noErrors, effect, List.map_nil,
    List.nil_append]

/-! ## Reachable sessions -/

/--
In every session that is reached from a new one by lines and runs, all variables hold
integers or floating-point numbers and have names that begin with a letter or an
underscore and go on with these and digits.  So no evaluation finds a variable that does
not hold a number, and no line and no run reports one, unless these are the words of the
assembler.  For every line of the list of variables, printing the variable that the line
names shows exactly what the line has behind the equals sign, and reports nothing.
-/
theorem variables_stay_numeric_and_named
    (session : Session)
    (reachable : session.Reachable) :
    (∀ entry ∈ session.bindings.entries,
      (entry.2.kind = .integer ∨ entry.2.kind = .float) ∧ IsName isNameChar entry.1) ∧
      (∀ (expr : Expr) (error : EvalError) (name : String),
        expr.eval session.bindings.find? = .error error → error.fault ≠ .nonNumeric name) ∧
      (∀ (opener : Opener) (line : String) (report : Report) (name : String),
        report ∈ (session.execute opener line).transcript.reports →
        report.message = (Fault.nonNumeric name).message →
        session.assembler.Answers report.message) ∧
      (∀ (opener : Opener) (reads : Nat) (report : Report) (name : String),
        report ∈ (session.runFor opener reads).transcript.reports →
        report.message = (Fault.nonNumeric name).message →
        session.assembler.Answers report.message) ∧
      ∀ (opener : Opener) (name text : String),
        Styled.plain ("$" ++ name ++ " = " ++ text) ∈
          (session.execute opener ":vars").transcript.output →
        (session.execute opener (":print $" ++ name)).transcript =
          { output := [Styled.plain text] } := by
  have keeps := reachable.keeps
  have sound := keeps.sound
  refine ⟨?_, ?_, ?_, ?_, ?_⟩
  · intro entry member
    refine ⟨?_, sound.named entry member⟩
    have numeric := sound.numeric entry member
    cases value : entry.2 with
    | integer number => exact Or.inl rfl
    | float number => exact Or.inr rfl
    | _ =>
        rw [value] at numeric
        cases numeric
  · intro expr error name failed
    exact sound.fault_ne_nonNumeric failed name
  · intro opener line report name reported denies
    exact keeps.answers_of_mem_execute reported ⟨name, denies⟩
  · intro opener reads report name reported denies
    exact keeps.answers_of_mem_runFor reported ⟨name, denies⟩
  · intro opener name text listed
    rw [session.output_vars] at listed
    rcases List.mem_map.1 listed with ⟨entry, member, same⟩
    have numeric := sound.numeric entry member
    have named := sound.named entry member
    rcases Builtin.eq_of_variableLine_eq named.equalsSign_not_mem
        (Value.equalsSign_not_mem_render numeric) same with ⟨rfl, rfl⟩
    exact Session.transcript_print opener named (sound.ordered.find?_of_mem member) numeric

/-- A line defines a variable, and a run reads a line from the terminal that defines another one
by it.  The assembler makes no code, so nothing at all reports a variable without a number. -/
theorem variables_stay_numeric_and_named_of_two :
    ∃ (opener : Opener) (session : Session),
      session.Reachable ∧
        (session.execute opener ":vars").transcript.output =
          [Styled.plain "$x = 7", Styled.plain "$y = -5"] ∧
        (session.execute opener (":print $" ++ "y")).transcript =
          { output := [Styled.plain "-5"] } ∧
        ∀ line, ∀ report ∈ (session.execute opener line).transcript.reports,
          ¬ DeniesNumber report.message := by
  let opener := FileSystem.opener {}
  let assembler := Assembler.unsupported ⟨"none", "none"⟩
  let created : Session :=
    { input := { terminal := .terminal [":set $y (2 - $x)"] none }, assembler := assembler }
  let session := ((created.execute opener ":set $x 7").session.runFor opener 1).session
  have reachable : session.Reachable :=
    .ran opener 1 (.executed opener ":set $x 7" (.created _ _))
  have listed :
      (session.execute opener ":vars").transcript.output =
        [Styled.plain "$x = 7", Styled.plain "$y = -5"] := by
    decide +kernel
  have createdKeeps : created.Keeps assembler := ⟨rfl, Bindings.sound_empty⟩
  have keeps := (createdKeeps.execute opener ":set $x 7").runFor opener 1
  rcases variables_stay_numeric_and_named session reachable with ⟨_, _, reported, _, printed⟩
  refine ⟨opener, session, reachable, listed, printed opener "y" "-5" ?_, ?_⟩
  · rw [listed]
    decide
  · rintro line report member ⟨name, denies⟩
    have answers := reported opener line report name member denies
    rw [keeps.assembler_eq] at answers
    exact Assembler.not_deniesNumber_of_unsupported answers ⟨name, denies⟩

end AsmShell
