import AsmShell.Proofs.OrderedTables
import AsmShell.Proofs.Results
import AsmShell.Proofs.Turns

/-!
# What commands do to a session

A command either leaves the session as it is, or it completes one of three changes: it
defines one variable, removes one, or pushes one script.  `Builtin.Leads` lists these
changes with everything that is known when they happen, and all that is said about the
effect of a line on the session follows from this list.  Nothing is reported by a
command that completes a change, so a command that reports anything has changed
nothing.
-/

namespace AsmShell

namespace Builtin

/-! ## The changes of a command -/

/-- Everything that a command can do to a session. -/
inductive Leads (opener : Opener) (session : Session) (command : Command) : Effect → Prop where
  | kept {effect : Effect} :
      effect.session = session →
      Leads opener session command effect
  | set {name : String} {span : Span} {argument : Expr} {value : Value} :
      command.name = "set" →
      command.arguments = [.reference name span, argument] →
      argument.eval session.bindings.find? = .ok value →
      value.isNumeric = true →
      Leads opener session command
        { session := { session with bindings := (session.bindings.define name value).2 } }
  | unset {name : String} {span : Span} {value : Value} :
      command.name = "unset" →
      command.arguments = [.reference name span] →
      session.bindings.find? name = some value →
      Leads opener session command
        { session := { session with bindings := (session.bindings.remove name).2 } }
  | source {argument : Expr} {path : String} {contents : Contents} :
      command.name = "source" →
      command.arguments = [argument] →
      scriptPath session.bindings argument = .ok path →
      opener path = .ok contents →
      Leads opener session command
        { session :=
            { session with
              input :=
                { session.input with
                  scripts := Source.ofContents path contents :: session.input.scripts } } }

/-- The names of a command. -/
def names : Builtin → List String
  | .help => ["help"]
  | .quit => ["quit", "exit"]
  | .print => ["print"]
  | .set => ["set"]
  | .unset => ["unset"]
  | .vars => ["vars"]
  | .source => ["source"]
  | .target => ["target"]

theorem mem_names_of_ofName?
    {name : String}
    {builtin : Builtin}
    (named : ofName? name = some builtin) :
    name ∈ builtin.names := by
  unfold ofName? at named
  split at named <;> cases named <;> decide

theorem expectVariable_eq_ok
    {argument : Expr}
    {name : String}
    (expected : expectVariable argument = .ok name) :
    ∃ span, argument = .reference name span := by
  cases argument with
  | reference found span =>
      cases expected
      exact ⟨span, rfl⟩
  | _ => cases expected

theorem evalArgument_eq_ok
    {bindings : Bindings}
    {argument : Expr}
    {value : Value}
    (evaluated : evalArgument bindings argument = .ok value) :
    argument.eval bindings.find? = .ok value :=
  mapError_eq_ok.1 evaluated

theorem setVariable_eq_ok
    {bindings after : Bindings}
    {named argument : Expr}
    (changed : setVariable bindings named argument = .ok after) :
    ∃ name span value,
      named = .reference name span ∧ argument.eval bindings.find? = .ok value ∧
        value.isNumeric = true ∧ after = (bindings.define name value).2 := by
  rcases bind_eq_ok.1 changed with ⟨name, expected, others⟩
  rcases bind_eq_ok.1 others with ⟨value, evaluated, defined⟩
  rcases expectVariable_eq_ok expected with ⟨span, rfl⟩
  split at defined
  · rename_i numeric
    cases defined
    exact ⟨name, span, value, rfl, evalArgument_eq_ok evaluated, numeric, rfl⟩
  · cases defined

theorem unsetVariable_eq_ok
    {bindings after : Bindings}
    {argument : Expr}
    (changed : unsetVariable bindings argument = .ok after) :
    ∃ name span value,
      argument = .reference name span ∧ bindings.find? name = some value ∧
        after = (bindings.remove name).2 := by
  rcases bind_eq_ok.1 changed with ⟨name, expected, removed⟩
  rcases expectVariable_eq_ok expected with ⟨span, rfl⟩
  split at removed
  · rename_i value rest same
    cases removed
    exact ⟨name, span, value, rfl, congrArg Prod.fst same, (congrArg Prod.snd same).symm⟩
  · cases removed

theorem pushScript_eq_ok
    {opener : Opener}
    {session : Session}
    {argument : Expr}
    {after : InputStack}
    (pushed : pushScript opener session argument = .ok after) :
    ∃ path contents,
      scriptPath session.bindings argument = .ok path ∧ opener path = .ok contents ∧
        after =
          { session.input with
            scripts := Source.ofContents path contents :: session.input.scripts } := by
  rcases bind_eq_ok.1 pushed with ⟨path, named, redirected⟩
  replace redirected := mapError_eq_ok.1 redirected
  by_cases full : stackLimit ≤ session.input.depth
  · rw [InputStack.redirect_of_full opener path full] at redirected
    cases redirected
  · rw [InputStack.redirect_of_room opener path (Nat.lt_of_not_le full)] at redirected
    cases opened : opener path with
    | error failure =>
        rw [opened] at redirected
        cases redirected
    | ok contents =>
        rw [opened] at redirected
        cases redirected
        exact ⟨path, contents, named, opened, rfl⟩

/-- Every command leads to one of the listed changes, or to none. -/
theorem leads_run
    (opener : Opener)
    (session : Session)
    (command : Command) :
    Leads opener session command (run opener session command) := by
  rcases command with ⟨name, span, arguments⟩
  unfold run
  split
  · exact .kept rfl
  · exact .kept rfl
  · exact .kept rfl
  · exact .kept rfl
  · exact .kept rfl
  · exact .kept rfl
  · rename_i named argument isSet isPair
    unfold changed
    split
    · rename_i after completed
      rcases setVariable_eq_ok completed with ⟨name, span, value, rfl, evaluated, numeric, rfl⟩
      exact .set (List.mem_singleton.1 (mem_names_of_ofName? isSet)) isPair evaluated numeric
    · exact .kept rfl
  · rename_i argument isUnset isSingle
    unfold changed
    split
    · rename_i after completed
      rcases unsetVariable_eq_ok completed with ⟨name, span, value, rfl, found, rfl⟩
      exact .unset (List.mem_singleton.1 (mem_names_of_ofName? isUnset)) isSingle found
    · exact .kept rfl
  · rename_i argument isSource isSingle
    unfold changed
    split
    · rename_i after completed
      rcases pushScript_eq_ok completed with ⟨path, contents, path_eq, opened, rfl⟩
      exact .source (List.mem_singleton.1 (mem_names_of_ofName? isSource)) isSingle path_eq opened
    · exact .kept rfl
  · exact .kept rfl

variable
    {opener : Opener}
    {session : Session}
    {command : Command}
    {effect : Effect}

/-- A command that reports anything leaves the session as it is. -/
theorem Leads.session_eq_of_diagnostics
    (leads : Leads opener session command effect)
    (reported : effect.diagnostics ≠ []) :
    effect.session = session := by
  cases leads with
  | kept same => exact same
  | _ => exact absurd rfl reported

/-- All names but one keep what they hold. -/
theorem Leads.exists_forall_find?_eq
    (leads : Leads opener session command effect) :
    ∃ name, ∀ other, other ≠ name →
      effect.session.bindings.find? other = session.bindings.find? other := by
  cases leads with
  | kept same =>
      rw [same]
      exact ⟨"", fun _ _ => rfl⟩
  | @set name span argument value _ _ _ _ =>
      refine ⟨name, fun other different => ?_⟩
      rw [Bindings.find?_define, if_neg (Ne.symm different)]
  | @unset name span value _ _ _ =>
      refine ⟨name, fun other different => ?_⟩
      rw [Bindings.find?_remove, if_neg (Ne.symm different)]
  | source => exact ⟨"", fun _ _ => rfl⟩

/-- The variables are changed by `set` and `unset` only, when these report nothing. -/
theorem Leads.of_bindings_ne
    (leads : Leads opener session command effect)
    (different : effect.session.bindings ≠ session.bindings) :
    (command.name = "set" ∨ command.name = "unset") ∧ effect.diagnostics = [] := by
  cases leads with
  | kept same =>
      rw [same] at different
      exact absurd rfl different
  | set named _ _ _ => exact ⟨Or.inl named, rfl⟩
  | unset named _ _ => exact ⟨Or.inr named, rfl⟩
  | source => exact absurd rfl different

/-- The stack is changed by `source` only, when it reports nothing, and only by one script. -/
theorem Leads.of_input_ne
    (leads : Leads opener session command effect)
    (different : effect.session.input ≠ session.input) :
    command.name = "source" ∧ effect.diagnostics = [] ∧
      ∃ path contents,
        opener path = .ok contents ∧
          effect.session.input =
            { session.input with
              scripts := Source.ofContents path contents :: session.input.scripts } := by
  cases leads with
  | kept same =>
      rw [same] at different
      exact absurd rfl different
  | source named _ _ opened => exact ⟨named, rfl, _, _, opened, rfl⟩
  | _ => exact absurd rfl different

end Builtin

/-! ## The changes of a line -/

/-- A line runs a command, or it changes nothing but what the assembler was given. -/
theorem Session.exists_command_or_assembled
    (opener : Opener)
    (session : Session)
    (line : String) :
    (∃ text command,
      LineKind.ofLine line = .builtin text ∧ (parseLine text).command = some command ∧
        (session.execute opener line).session = (Builtin.run opener session command).session) ∨
      ∃ assembled,
        (session.execute opener line).session = { session with assembled := assembled } := by
  unfold execute
  cases LineKind.ofLine line with
  | blank => exact Or.inr ⟨session.assembled, rfl⟩
  | assembly =>
      refine Or.inr ⟨line :: session.assembled, ?_⟩
      simp only [executeAssembly]
      split <;> rfl
  | builtin text =>
      simp only [executeBuiltin]
      cases parsed : (parseLine text).command with
      | none => exact Or.inr ⟨session.assembled, rfl⟩
      | some command => exact Or.inl ⟨text, command, rfl, parsed, rfl⟩

/--
A line changes at most one variable, and none unless it is a `set` or an `unset` whose
command reports nothing.  It changes the stack only if it is a `source` whose command
reports nothing, and then by one script that was opened.  A command that reports anything
changes nothing at all.
-/
theorem only_completed_commands_change_session
    (opener : Opener)
    (session : Session)
    (line : String) :
    (∃ name, ∀ other, other ≠ name →
      (session.execute opener line).session.bindings.find? other =
        session.bindings.find? other) ∧
      ((session.execute opener line).session.bindings ≠ session.bindings →
        ∃ text command,
          LineKind.ofLine line = .builtin text ∧ (parseLine text).command = some command ∧
            (command.name = "set" ∨ command.name = "unset") ∧
            (Builtin.run opener session command).diagnostics = []) ∧
      ((session.execute opener line).session.input ≠ session.input →
        ∃ text command path contents,
          LineKind.ofLine line = .builtin text ∧ (parseLine text).command = some command ∧
            command.name = "source" ∧
            (Builtin.run opener session command).diagnostics = [] ∧
            opener path = .ok contents ∧
            (session.execute opener line).session.input =
              { session.input with
                scripts := Source.ofContents path contents :: session.input.scripts }) ∧
      ∀ command,
        (Builtin.run opener session command).diagnostics ≠ [] →
          (Builtin.run opener session command).session = session := by
  have reporting (command : Command) :
      (Builtin.run opener session command).diagnostics ≠ [] →
        (Builtin.run opener session command).session = session :=
    (Builtin.leads_run opener session command).session_eq_of_diagnostics
  rcases session.exists_command_or_assembled opener line with
    ⟨text, command, kind, parsed, same⟩ | ⟨assembled, same⟩
  · have leads := Builtin.leads_run opener session command
    rw [same]
    refine ⟨leads.exists_forall_find?_eq, ?_, ?_, reporting⟩
    · intro different
      exact ⟨text, command, kind, parsed, leads.of_bindings_ne different⟩
    · intro different
      rcases leads.of_input_ne different with ⟨named, quiet, path, contents, opened, pushed⟩
      exact ⟨text, command, path, contents, kind, parsed, named, quiet, opened, pushed⟩
  · rw [same]
    exact ⟨⟨"", fun _ _ => rfl⟩, fun different => absurd rfl different,
      fun different => absurd rfl different, reporting⟩

end AsmShell
