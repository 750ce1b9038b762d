import AsmShell.Session.Run

/-!
# Turns of a run

A run is a row of turns.  A turn reads once: the terminal ends or fails, a script
fails, or a line is read and executed.  What a turn can do to the stack of sources is
said here once, for everything that is proved about whole runs.
-/

namespace AsmShell

/-! ## A run as a row of turns -/

namespace Transcript

@[simp]
theorem output_append
    (first second : Transcript) :
    (first ++ second).output = first.output ++ second.output :=
  rfl

@[simp]
theorem reports_append
    (first second : Transcript) :
    (first ++ second).reports = first.reports ++ second.reports :=
  rfl

end Transcript

/-- The run that goes on behind a result, unless the result is that of a run that ended. -/
def RunResult.continued (rest : Session → RunResult) (result : RunResult) : RunResult :=
  match result.ending with
  | some _ => result
  | none => (rest result.session).after result.transcript

/-- A run that has ended does not go on. -/
theorem RunResult.continued_of_ending
    {result : RunResult}
    {ending : Ending}
    (ended : result.ending = some ending)
    (rest : Session → RunResult) :
    result.continued rest = result := by
  rw [continued, ended]

theorem RunResult.continued_of_none
    {result : RunResult}
    (goesOn : result.ending = none)
    (rest : Session → RunResult) :
    result.continued rest = (rest result.session).after result.transcript := by
  rw [continued, goesOn]

/-- A line as a run of its own, broken off unless the line quits. -/
def Step.result (step : Step) : RunResult where
  ending :=
    match step.flow with
    | .quit => some .quit
    | .next => none
  session := step.session
  transcript := step.transcript

/-- How an error of reading ends the run, where it does. -/
def InputError.ending : InputError → Option Ending
  | .terminal reason => some (.terminalFailure reason)
  | _ => none

/-- What an error of reading shows: the error of a run that ends with it is left to the caller. -/
def InputError.transcript : InputError → Transcript
  | .terminal _ => {}
  | error => { reports := [.failure error] }

namespace Session

/-- One turn of the run, broken off after it unless it is the last. -/
def turn (opener : Opener) (session : Session) : RunResult :=
  match session.input.readLine with
  | (.ok none, input) => ⟨some .endOfInput, { session with input := input }, {}⟩
  | (.ok (some line), input) =>
      (execute opener { session with input := input } line).result
  | (.error error, input) => ⟨error.ending, { session with input := input }, error.transcript⟩

/-- A run is a turn and the run of the session behind it, unless the turn ends the run. -/
theorem runFor_succ
    (opener : Opener)
    (reads : Nat)
    (session : Session) :
    session.runFor opener (reads + 1) = (session.turn opener).continued (runFor opener reads) := by
  rw [runFor, turn]
  rcases session.input.readLine with ⟨_ | _ | line, input⟩
  · rename_i error
    cases error <;> rfl
  · rfl
  · simp only [RunResult.continued, Step.result]
    cases (execute opener { session with input := input } line).flow <;> rfl

end Session

/-! ## Reading from the stack -/

namespace InputStack

/-- What a read of the stack gives, and the stack after it. -/
inductive Reads : InputStack → Except InputError (Option String) → InputStack → Prop where
  | typed {terminal : Source} {line : String} {rest : List String} :
      terminal.pending = line :: rest →
      Reads ⟨[], terminal⟩ (.ok (some line))
        ⟨[], { terminal with pending := rest, delivered := terminal.delivered + 1 }⟩
  | ended {terminal : Source} :
      terminal.pending = [] →
      terminal.failure = none →
      Reads ⟨[], terminal⟩ (.ok none) ⟨[], terminal⟩
  | terminalFailed {terminal : Source} {reason : String} :
      terminal.pending = [] →
      terminal.failure = some reason →
      Reads ⟨[], terminal⟩ (.error (.terminal reason)) ⟨[], terminal⟩
  | line {script : Source} {below : List Source} {terminal : Source} {line : String}
      {rest : List String} :
      script.pending = line :: rest →
      Reads ⟨script :: below, terminal⟩ (.ok (some line))
        ⟨{ script with pending := rest, delivered := script.delivered + 1 } :: below, terminal⟩
  | failed {script : Source} {below : List Source} {terminal : Source} {reason : String} :
      script.pending = [] →
      script.failure = some reason →
      Reads ⟨script :: below, terminal⟩ (.error (.cannotRead script.name reason))
        ⟨below, terminal⟩
  | exhausted {script : Source} {below : List Source} {terminal : Source}
      {given : Except InputError (Option String)} {after : InputStack} :
      script.pending = [] →
      script.failure = none →
      Reads ⟨below, terminal⟩ given after →
      Reads ⟨script :: below, terminal⟩ given after

/-- What is read comes from the highest script that has a line or fails, or else from the
terminal; scripts that have run out are taken away. -/
theorem Reads.of_readLine
    {stack after : InputStack}
    {given : Except InputError (Option String)}
    (read : stack.readLine = (given, after)) :
    stack.Reads given after := by
  rcases stack with ⟨scripts, terminal⟩
  rw [readLine] at read
  induction scripts with
  | nil =>
      simp only [readFrom, readTerminal, Source.next?] at read
      cases pending : terminal.pending with
      | cons line rest =>
          simp only [pending] at read
          cases read
          exact .typed pending
      | nil =>
          simp only [pending] at read
          cases failure : terminal.failure with
          | none =>
              simp only [failure] at read
              cases read
              exact .ended pending failure
          | some reason =>
              simp only [failure] at read
              cases read
              exact .terminalFailed pending failure
  | cons script below belowHypothesis =>
      simp only [readFrom, Source.next?] at read
      cases pending : script.pending with
      | cons line rest =>
          simp only [pending] at read
          cases read
          exact .line pending
      | nil =>
          simp only [pending] at read
          cases failure : script.failure with
          | none =>
              simp only [failure] at read
              exact .exhausted pending failure (belowHypothesis read)
          | some reason =>
              simp only [failure] at read
              cases read
              exact .failed pending failure

end InputStack

/-! ## What a line does to the stack -/

namespace InputStack

variable
    {stack : InputStack}
    (opener : Opener)
    (path : String)

theorem redirect_of_full
    (full : stackLimit ≤ stack.depth) :
    stack.redirect opener path = .error .tooDeep :=
  if_pos full

/-- A script is pushed where there is room and it can be opened. -/
theorem redirect_of_room
    (room : stack.depth < stackLimit) :
    stack.redirect opener path =
      match opener path with
      | .ok contents =>
          .ok { stack with scripts := Source.ofContents path contents :: stack.scripts }
      | .error failure => .error (.cannotOpen path failure) := by
  rw [redirect, if_neg (Nat.not_le.2 room)]
  cases opener path with
  | ok contents =>
      exact if_neg (Nat.not_le.2 room)
  | error failure =>
      rfl

end InputStack

theorem Builtin.ofName?_eq_source_iff
    {name : String} :
    ofName? name = some .source ↔ name = "source" := by
  constructor
  · intro named
    unfold ofName? at named
    split at named <;> simp_all
  · rintro rfl
    rfl

/-- A command that names no script does the same whatever the stack is, and keeps it. -/
theorem Builtin.run_withInput
    (opener : Opener)
    (session : Session)
    (command : Command)
    (notAsked : ∀ span argument, command = ⟨"source", span, [argument]⟩ →
      (scriptPath session.bindings argument).toOption = none)
    (input : InputStack) :
    run opener { session with input := input } command =
      { run opener session command with
        session := { (run opener session command).session with input := input } } := by
  rcases command with ⟨name, span, arguments⟩
  simp only [run]
  cases named : ofName? name with
  | none =>
      rfl
  | some builtin =>
      cases builtin with
      | source =>
          have source := ofName?_eq_source_iff.1 named
          subst source
          rcases arguments with _ | ⟨argument, _ | ⟨second, others⟩⟩
          · rfl
          · have failed := notAsked span argument rfl
            cases path : scriptPath session.bindings argument with
            | ok path =>
                rw [path] at failed
                cases failed
            | error diagnostic =>
                simp only [pushScript, path]
                rfl
          · rfl
      | set =>
          rcases arguments with _ | ⟨first, _ | ⟨second, _ | ⟨third, others⟩⟩⟩
          · rfl
          · rfl
          · simp only [changed]
            cases setVariable session.bindings first second <;> rfl
          · rfl
      | unset =>
          rcases arguments with _ | ⟨first, _ | ⟨second, others⟩⟩
          · rfl
          · simp only [changed]
            cases unsetVariable session.bindings first <;> rfl
          · rfl
      | _ =>
          cases arguments <;> rfl

/-- A command that names a script pushes it or is refused. -/
theorem Builtin.run_source
    (opener : Opener)
    (session : Session)
    (span : Span)
    {argument : Expr}
    {path : String}
    (named : scriptPath session.bindings argument = .ok path) :
    run opener session ⟨"source", span, [argument]⟩ =
      match session.input.redirect opener path with
      | .ok after => { session := { session with input := after } }
      | .error error => refused session ⟨error.message, argument.column⟩ := by
  show changed _ _ (pushScript _ _ _) = _
  rw [pushScript, named]
  show changed _ _ ((session.input.redirect opener path).mapError _) = _
  cases session.input.redirect opener path <;> rfl

/-- An effect on a session with the stack, of a line that is read from it. -/
def Builtin.Effect.step (effect : Effect) (line : String) (input : InputStack) : Step where
  session := { effect.session with input := input }
  transcript :=
    { output := effect.output
      reports := effect.diagnostics.map (Report.located (input.sourceLine line)) }
  flow := effect.flow

/-- A line for the assembler has an effect that does not depend on the stack. -/
theorem Session.exists_executeAssembly
    (session : Session)
    (line : String) :
    ∃ effect : Builtin.Effect,
      ∀ input,
        executeAssembly { session with input := input } (input.sourceLine line) line =
          effect.step line input := by
  let after := { session with assembled := line :: session.assembled }
  simp only [executeAssembly]
  cases session.assembler.encode session.assembled.reverse line with
  | error error =>
      exact ⟨{ session := after, diagnostics := [⟨error.message, error.column⟩] }, fun _ => rfl⟩
  | ok bytes =>
      cases bytes with
      | nil =>
          exact ⟨{ session := after }, fun _ => rfl⟩
      | cons byte others =>
          exact ⟨{ session := after, output := [Text.Styled.plain (hexBytes (byte :: others))] },
            fun _ => rfl⟩

/-- A line that names no script has an effect that does not depend on the stack. -/
theorem Session.exists_execute_of_none
    (opener : Opener)
    {session : Session}
    {line : String}
    (notAsked : session.requestedScript? line = none) :
    ∃ effect : Builtin.Effect,
      ∀ input, execute opener { session with input := input } line = effect.step line input := by
  unfold requestedScript? at notAsked
  unfold execute
  cases kind : LineKind.ofLine line with
  | blank =>
      exact ⟨{ session := session }, fun _ => rfl⟩
  | assembly =>
      exact exists_executeAssembly session line
  | builtin text =>
      simp only [kind] at notAsked
      simp only [executeBuiltin]
      cases parsed : (parseLine text).command with
      | none =>
          refine ⟨{ session := session
                    diagnostics := (parseLine text).errors.map SyntaxError.diagnostic }, ?_⟩
          intro input
          simp only [Builtin.Effect.step, List.map_map, Function.comp_def]
      | some command =>
          rw [parsed] at notAsked
          have notNamed : ∀ span argument, command = ⟨"source", span, [argument]⟩ →
              (Builtin.scriptPath session.bindings argument).toOption = none := by
            rintro span argument rfl
            exact notAsked
          let effect := Builtin.run opener session command
          refine ⟨{ effect with
                    diagnostics :=
                      (parseLine text).errors.map SyntaxError.diagnostic ++
                        effect.diagnostics }, ?_⟩
          intro input
          simp only [Builtin.run_withInput opener session command notNamed input, effect,
            Builtin.Effect.step, List.map_append, List.map_map, Function.comp_def]

/-- A line that names a script is a command with one argument. -/
theorem Session.exists_command_of_some
    {session : Session}
    {line path : String}
    (asked : session.requestedScript? line = some path) :
    ∃ text span argument,
      LineKind.ofLine line = .builtin text ∧
        (parseLine text).command = some ⟨"source", span, [argument]⟩ ∧
        Builtin.scriptPath session.bindings argument = .ok path := by
  unfold requestedScript? at asked
  split at asked
  · rename_i text kind
    split at asked
    · rename_i span argument parsed
      refine ⟨text, span, argument, kind, parsed, ?_⟩
      cases named : Builtin.scriptPath session.bindings argument with
      | ok named =>
          simp_all [Except.toOption]
      | error diagnostic =>
          simp_all [Except.toOption]
    · cases asked
  · cases asked

/-- A line that names a script pushes it, or says at the column of its argument why not. -/
theorem Session.exists_execute_of_some
    (opener : Opener)
    {session : Session}
    {line path : String}
    (asked : session.requestedScript? line = some path) :
    ∃ (diagnostics : List Diagnostic) (column : Nat),
      ∀ input,
        execute opener { session with input := input } line =
          match input.redirect opener path with
          | .ok after =>
              { session := { session with input := after }
                transcript :=
                  { reports := diagnostics.map (Report.located (input.sourceLine line)) } }
          | .error error =>
              { session := { session with input := input }
                transcript :=
                  { reports := (diagnostics ++ [Diagnostic.mk error.message column]).map
                      (Report.located (input.sourceLine line)) } } := by
  rcases exists_command_of_some asked with ⟨text, span, argument, kind, parsed, named⟩
  refine ⟨(parseLine text).errors.map SyntaxError.diagnostic, argument.column, ?_⟩
  intro input
  simp only [execute, kind, executeBuiltin, parsed]
  rw [Builtin.run_source opener { session with input := input } span named]
  cases input.redirect opener path with
  | ok after =>
      simp [Function.comp_def]
  | error error =>
      simp [Builtin.refused, Function.comp_def]

end AsmShell
