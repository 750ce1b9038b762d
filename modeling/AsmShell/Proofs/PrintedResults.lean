import AsmShell.Proofs.Turns

/-!
# Printing shows what interpreting gives

The arguments of a line can be evaluated in two ways: by `interpretLine`, which hands
back the results and the syntax errors, and by the command `print` of a session, which
writes to two streams.  The command shows no more and no less than what `interpretLine`
gives for the same text and the same variables: the values on one line of the output, and
the errors in the stream of reports, those of the syntax in front of those of the
evaluation.
-/

namespace AsmShell

open Text

/-! ## The two sides of the results -/

/-- The printed forms of the values among the results. -/
def valueTexts : List (Except EvalError Value) → List String
  | [] => []
  | .ok value :: rest => value.render :: valueTexts rest
  | .error _ :: rest => valueTexts rest

/-- The errors among the results. -/
def evalFailures : List (Except EvalError Value) → List EvalError
  | [] => []
  | .ok _ :: rest => evalFailures rest
  | .error error :: rest => error :: evalFailures rest

/-- The line that has the values, and nothing where there are no values. -/
def valueLine : List String → String
  | [] => ""
  | texts => " ".intercalate texts ++ "\n"

theorem map_render_filterMap_toOption
    (results : List (Except EvalError Value)) :
    (results.filterMap (·.toOption)).map Value.render = valueTexts results := by
  induction results with
  | nil =>
      rfl
  | cons result rest restHypothesis =>
      cases result with
      | ok value => exact congrArg (value.render :: ·) restHypothesis
      | error error => exact restHypothesis

namespace Builtin

theorem failedDiagnostics_eq
    (results : List (Except EvalError Value)) :
    failedDiagnostics results = (evalFailures results).map EvalError.diagnostic := by
  induction results with
  | nil =>
      rfl
  | cons result rest restHypothesis =>
      cases result with
      | ok value => exact restHypothesis
      | error error => exact congrArg (error.diagnostic :: ·) restHypothesis

/-- The values are written on one line, whether styles are written or not. -/
theorem outputText_printedLines
    (results : List (Except EvalError Value))
    (colored : Bool)
    (reports : List Report) :
    Transcript.outputText colored ⟨printedLines results, reports⟩ =
      valueLine (valueTexts results) := by
  rw [← map_render_filterMap_toOption, printedLines]
  cases results.filterMap (·.toOption) with
  | nil => rfl
  | cons value others =>
      simp [Transcript.outputText, valueLine]

/-- The command `print` evaluates its arguments and changes nothing. -/
theorem run_print
    (opener : Opener)
    (session : Session)
    {command : Command}
    (named : command.name = "print") :
    run opener session command =
      { session := session
        diagnostics :=
          (evalFailures (command.eval session.bindings.find?)).map EvalError.diagnostic
        output := printedLines (command.eval session.bindings.find?) } := by
  have isPrint : ofName? command.name = some .print := by
    rw [named]
    rfl
  simp only [run, isPrint, failedDiagnostics_eq]
  rfl

end Builtin

theorem Transcript.errorStream_located
    (useColor colored : Bool)
    (output : List Styled)
    (source : SourceLine)
    (diagnostics : List Diagnostic) :
    errorStream useColor colored ⟨output, diagnostics.map (Report.located source)⟩ =
      String.join (diagnostics.map (Diagnostic.text useColor colored source)) := by
  rw [errorStream, List.map_map]
  rfl

/-! ## The command and the library -/

/--
A builtin line whose text is read as a `print`: interpreting the text with the variables
of the session gives results and syntax errors, and executing the line goes on with the
session as it was.  Its output is one line with the printed forms of the values among the
results, and nothing where there are none.  Its stream of reports has the syntax errors
followed by the errors among the results, each shown against the line as it was typed.
-/
theorem print_shows_interpreted_results
    (opener : Opener)
    (session : Session)
    (line text : String)
    (command : Command)
    (isBuiltin : LineKind.ofLine line = .builtin text)
    (parsed : (parseLine text).command = some command)
    (named : command.name = "print") :
    ∃ (results : List (Except EvalError Value)) (errors : List SyntaxError),
      interpretLine session.bindings.find? text = (some (command, results), errors) ∧
        (session.execute opener line).flow = .next ∧
        (session.execute opener line).session = session ∧
        ∀ colored,
          (session.execute opener line).transcript.outputText colored =
              valueLine (valueTexts results) ∧
            (session.execute opener line).transcript.errorStream session.useColor colored =
              String.join
                  (errors.map fun error =>
                    error.diagnostic.text session.useColor colored
                      (session.input.sourceLine line)) ++
                String.join
                  ((evalFailures results).map fun error =>
                    error.diagnostic.text session.useColor colored
                      (session.input.sourceLine line)) := by
  let results := command.eval session.bindings.find?
  let errors := (parseLine text).errors
  have executed :
      session.execute opener line =
        { session := session
          transcript :=
            ⟨Builtin.printedLines results,
              (errors.map SyntaxError.diagnostic ++
                (evalFailures results).map EvalError.diagnostic).map
                (Report.located (session.input.sourceLine line))⟩
          flow := .next } := by
    simp only [Session.execute, isBuiltin, Session.executeBuiltin, parsed,
      Builtin.run_print opener session named, List.map_append, List.map_map]
    rfl
  refine ⟨results, errors, ?_, ?_, ?_, ?_⟩
  · simp only [interpretLine, parsed]
    rfl
  · rw [executed]
  · rw [executed]
  · intro colored
    rw [executed]
    refine ⟨Builtin.outputText_printedLines results colored _, ?_⟩
    rw [Transcript.errorStream_located, List.map_append, String.join_append, List.map_map,
      List.map_map]
    rfl

/-- Two values, an undefined variable between them, and a parenthesis that closes nothing. -/
theorem print_shows_interpreted_results_of_undefined :
    ∃ (session : Session) (command : Command),
      LineKind.ofLine ":print $x $y ) \"é\"" = .builtin " print $x $y ) \"é\"" ∧
        (parseLine " print $x $y ) \"é\"").command = some command ∧
        command.name = "print" ∧
        (session.execute (FileSystem.opener {}) ":print $x $y ) \"é\"").session = session ∧
        (session.execute (FileSystem.opener {}) ":print $x $y ) \"é\"").transcript.outputText
            true = "5 \"é\"\n" ∧
        (session.execute (FileSystem.opener {}) ":print $x $y ) \"é\"").transcript.errorStream
            false true =
          "<stdin>:0:14: error: unmatched parentheses\n:print $x $y ) \"é\"\n             ^\n" ++
            "<stdin>:0:11: error: unresolved reference to `$y`\n" ++
            ":print $x $y ) \"é\"\n          ^\n" := by
  let session : Session :=
    { input := { terminal := .terminal [] none }
      assembler := .unsupported ⟨"none", "none"⟩
      bindings := ⟨[("x", .integer 5)]⟩
      useColor := false }
  have isBuiltin :
      LineKind.ofLine ":print $x $y ) \"é\"" = .builtin " print $x $y ) \"é\"" := by
    decide +kernel
  rcases print_shows_interpreted_results (FileSystem.opener {}) session _ _ _ isBuiltin rfl rfl with
    ⟨results, errors, interpreted, _, unchanged, shown⟩
  refine ⟨session, _, isBuiltin, rfl, rfl, unchanged, ?_, ?_⟩
  · rw [(shown true).1]
    cases interpreted
    decide +kernel
  · rw [(shown true).2]
    cases interpreted
    decide +kernel

end AsmShell
