import AsmShell.Proofs.CommandEffects

/-!
# What commands report

A command reports that it is unknown, that the number of its arguments is wrong, or
something about one of its arguments: the argument cannot be evaluated, is no variable,
has a value of the wrong kind, names no variable that is defined, or names a script
that cannot be pushed.  `Builtin.Reports` lists these diagnostics with all that is known
when they are made, so what is said about the columns and the messages of diagnostics
needs no look at the handlers.
-/

namespace AsmShell

namespace Builtin

/-- Everything that a command can report. -/
inductive Reports (opener : Opener) (session : Session) (command : Command) :
    Diagnostic → Prop where
  | unknown :
      ofName? command.name = none →
      Reports opener session command ⟨"unknown command", command.span.first⟩
  | arity {builtin : Builtin} :
      ofName? command.name = some builtin →
      Reports opener session command (arityDiagnostic command builtin.arity)
  | failed {argument : Expr} {error : EvalError} :
      argument ∈ command.arguments →
      argument.eval session.bindings.find? = .error error →
      Reports opener session command error.diagnostic
  | notVariable {argument : Expr} :
      argument ∈ command.arguments →
      Reports opener session command ⟨"expected a variable", argument.column⟩
  | notNumber {argument : Expr} {value : Value} :
      argument ∈ command.arguments →
      argument.eval session.bindings.find? = .ok value →
      Reports opener session command
        ⟨"`set` expects a number, found " ++ value.kind.name, argument.column⟩
  | undefined {name : String} {span : Span} :
      .reference name span ∈ command.arguments →
      Reports opener session command (EvalError.diagnostic ⟨.unresolved name, span⟩)
  | notPath {argument : Expr} {value : Value} :
      argument ∈ command.arguments →
      argument.eval session.bindings.find? = .ok value →
      Reports opener session command
        ⟨"`source` expects a file name, found " ++ value.kind.name, argument.column⟩
  | notPushed {argument : Expr} {path : String} {error : InputError} :
      argument ∈ command.arguments →
      scriptPath session.bindings argument = .ok path →
      session.input.redirect opener path = .error error →
      Reports opener session command ⟨error.message, argument.column⟩

/-! ## The parts of the handlers -/

/-- An argument that is no variable is refused at its own column. -/
theorem expectVariable_eq_error
    {argument : Expr}
    {diagnostic : Diagnostic}
    (refused : expectVariable argument = .error diagnostic) :
    diagnostic = ⟨"expected a variable", argument.column⟩ := by
  cases argument <;> cases refused <;> rfl

section

variable
    {opener : Opener}
    {session : Session}
    {command : Command}
    {argument : Expr}
    {diagnostic : Diagnostic}
    (member : argument ∈ command.arguments)
include member

theorem reports_of_expectVariable
    (refused : expectVariable argument = .error diagnostic) :
    Reports opener session command diagnostic := by
  rw [expectVariable_eq_error refused]
  exact .notVariable member

theorem reports_of_evalArgument
    (refused : evalArgument session.bindings argument = .error diagnostic) :
    Reports opener session command diagnostic := by
  rcases mapError_eq_error.1 refused with ⟨error, evaluated, rfl⟩
  exact .failed member evaluated

/-- Setting a variable is refused at one of its two arguments. -/
theorem reports_of_setVariable
    {named : Expr}
    (namedMember : named ∈ command.arguments)
    (refused : setVariable session.bindings named argument = .error diagnostic) :
    Reports opener session command diagnostic := by
  rcases bind_eq_error.1 refused with unexpected | ⟨name, _, others⟩
  · exact reports_of_expectVariable namedMember unexpected
  · rcases bind_eq_error.1 others with failed | ⟨value, evaluated, refusal⟩
    · exact reports_of_evalArgument member failed
    · split at refusal <;> cases refusal
      exact .notNumber member (evalArgument_eq_ok evaluated)

theorem reports_of_unsetVariable
    (refused : unsetVariable session.bindings argument = .error diagnostic) :
    Reports opener session command diagnostic := by
  rcases bind_eq_error.1 refused with unexpected | ⟨name, expected, refusal⟩
  · exact reports_of_expectVariable member unexpected
  · rcases expectVariable_eq_ok expected with ⟨span, rfl⟩
    split at refusal <;> cases refusal
    exact .undefined member

theorem reports_of_scriptPath
    (refused : scriptPath session.bindings argument = .error diagnostic) :
    Reports opener session command diagnostic := by
  rcases bind_eq_error.1 refused with failed | ⟨value, evaluated, refusal⟩
  · exact reports_of_evalArgument member failed
  · split at refusal <;> cases refusal
    exact .notPath member (evalArgument_eq_ok evaluated)

/-- Pushing a script is refused at its argument, for whatever reason. -/
theorem reports_of_pushScript
    (refused : pushScript opener session argument = .error diagnostic) :
    Reports opener session command diagnostic := by
  rcases bind_eq_error.1 refused with unnamed | ⟨path, named, refusal⟩
  · exact reports_of_scriptPath member unnamed
  · rcases mapError_eq_error.1 refusal with ⟨error, notPushed, rfl⟩
    exact .notPushed member named notPushed

end

/-- A change reports nothing but the reason for which it is refused. -/
theorem eq_error_of_mem_changed
    {session : Session}
    {Part : Type}
    {apply : Part → Session}
    {result : Except Diagnostic Part}
    {diagnostic : Diagnostic}
    (member : diagnostic ∈ (changed session apply result).diagnostics) :
    result = .error diagnostic := by
  cases result with
  | ok part => cases member
  | error refusal => rw [List.mem_singleton.1 member]

/-! ## The whole command -/

/-- Every diagnostic of a command is one of the list. -/
theorem reports_of_mem_run
    {opener : Opener}
    {session : Session}
    {command : Command}
    {diagnostic : Diagnostic}
    (member : diagnostic ∈ (run opener session command).diagnostics) :
    Reports opener session command diagnostic := by
  unfold run at member
  split at member
  · rename_i isUnknown
    rw [List.mem_singleton.1 member]
    exact .unknown isUnknown
  · cases member
  · rcases List.mem_filterMap.1 member with ⟨result, isResult, isDiagnostic⟩
    rcases List.mem_map.1 isResult with ⟨argument, isArgument, rfl⟩
    split at isDiagnostic
    · cases isDiagnostic
    · rename_i error failed
      rw [← Option.some.inj isDiagnostic]
      exact .failed isArgument failed
  · cases member
  · cases member
  · cases member
  · rename_i isPair
    refine reports_of_setVariable ?_ ?_ (eq_error_of_mem_changed member) <;> simp [isPair]
  · rename_i isSingle
    refine reports_of_unsetVariable ?_ (eq_error_of_mem_changed member)
    simp [isSingle]
  · rename_i isSingle
    refine reports_of_pushScript ?_ (eq_error_of_mem_changed member)
    simp [isSingle]
  · rw [List.mem_singleton.1 member]
    exact .arity ‹ofName? command.name = some _›

end Builtin

/-! ## The whole line -/

/-- A report of a builtin line is about the line, and it is a syntax error or comes from the
command. -/
theorem Session.exists_diagnostic_of_mem_execute
    {opener : Opener}
    {session : Session}
    {line text : String}
    (isBuiltin : LineKind.ofLine line = .builtin text)
    {report : Report}
    (member : report ∈ (session.execute opener line).transcript.reports) :
    ∃ diagnostic,
      report = .located (session.input.sourceLine line) diagnostic ∧
        ((∃ error ∈ (parseLine text).errors, diagnostic = error.diagnostic) ∨
          ∃ command,
            (parseLine text).command = some command ∧
              Builtin.Reports opener session command diagnostic) := by
  simp only [execute, isBuiltin, executeBuiltin] at member
  cases parsed : (parseLine text).command with
  | none =>
      simp only [parsed, List.mem_map] at member
      rcases member with ⟨error, isError, rfl⟩
      exact ⟨error.diagnostic, rfl, .inl ⟨error, isError, rfl⟩⟩
  | some command =>
      simp only [parsed, List.mem_append, List.mem_map] at member
      rcases member with ⟨error, isError, rfl⟩ | ⟨diagnostic, isReported, rfl⟩
      · exact ⟨error.diagnostic, rfl, .inl ⟨error, isError, rfl⟩⟩
      · exact ⟨diagnostic, rfl, .inr ⟨command, rfl, Builtin.reports_of_mem_run isReported⟩⟩

end AsmShell
