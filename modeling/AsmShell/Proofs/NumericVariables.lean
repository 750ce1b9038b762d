import AsmShell.Proofs.CommandDiagnostics
import AsmShell.Proofs.CommandEffects
import AsmShell.Proofs.DiagnosticPlaces
import AsmShell.Proofs.FailingTokens
import AsmShell.Proofs.TokenTiling

/-!
# Variables hold numbers

A variable gets its name from a token of the line that defines it, so the name is
spelled as the names of variables are, and it gets a value only if the value is a
number.  Nothing else puts a variable into a session.  So this is kept by every line
and every run, from a new session on, and no session has reason to say that a variable
does not hold a number.
-/

namespace AsmShell

open Text Text.Pattern

/-! ## Names in arguments -/

/-- Behind the dollar sign stands a name, which is not empty. -/
theorem exists_cons_cons_of_matches_reference
    {text : List Char}
    (matched : Spelling.reference.Matches text) :
    ∃ first rest,
      text = '$' :: first :: rest ∧ isNameStart first = true ∧
        ∀ character ∈ rest, isNameChar character = true := by
  rcases (matches_seq_iff _ _ _).1 matched with ⟨sign, name, rfl, signMatched, nameMatched⟩
  rcases (matches_seq_iff _ _ _).1 nameMatched with ⟨start, rest, rfl, startMatched, restMatched⟩
  rcases (matches_oneOf_iff _ _).1 startMatched with ⟨first, rfl, starts⟩
  rw [eq_of_matches_char signMatched]
  exact ⟨first, rest, rfl, starts, (matches_star_oneOf_iff _ _).1 restMatched⟩

/-- A variable that is read from a line has a name of letters, digits and underscores. -/
theorem isName_of_mem_tokenize
    {line : String}
    {token : Token}
    (member : token ∈ tokenize line)
    (isReference : token.kind = .reference) :
    IsName isNameChar token.text := by
  have inside : token.kind ≠ .endOfLine := by simp [isReference]
  rcases exists_source_of_mem_tokenize member inside with ⟨back, _, takes, same⟩
  rw [isReference] at takes same
  rcases exists_cons_cons_of_matches_reference (takes.matches_pattern (by decide)) with
    ⟨first, rest, source, starts, goesOn⟩
  refine ⟨first, rest, ?_, starts, goesOn⟩
  rw [same, source]
  exact String.toList_ofList

/-- A variable that is an argument of a line has a name that the line can spell. -/
theorem isName_of_reference_mem_arguments
    {line : String}
    {command : Command}
    (parsed : (parseLine line).command = some command)
    {name : String}
    {span : Span}
    (member : .reference name span ∈ command.arguments) :
    IsName isNameChar name := by
  have inside : Expr.reference name span ∈ (Expr.reference name span).nodes :=
    List.mem_singleton_self _
  rcases exists_marked_of_mem_nodes parsed member inside id with
    ⟨opens, own, tokens, marked, inLine⟩
  rcases marked.ownedBy with ⟨isReference, rfl, _⟩
  rcases marked.exists_tokens_eq with ⟨between, behind, rfl⟩
  exact isName_of_mem_tokenize (inLine.subset (by simp)) isReference

/-! ## Tables of numbers -/

namespace Bindings

/-- The table lists each of its names once, and every name is one of a variable and has a
number. -/
structure Sound (bindings : Bindings) : Prop where
  ordered : bindings.Ordered
  numeric : ∀ entry ∈ bindings.entries, entry.2.isNumeric = true
  named : ∀ entry ∈ bindings.entries, IsName isNameChar entry.1

theorem sound_empty :
    Sound {} :=
  ⟨List.Pairwise.nil, by simp, by simp⟩

variable
    {bindings : Bindings}
    (sound : bindings.Sound)
include sound

/-- A number under a name keeps the table sound. -/
theorem Sound.define
    {name : String}
    {value : Value}
    (named : IsName isNameChar name)
    (numeric : value.isNumeric = true) :
    (bindings.define name value).2.Sound where
  ordered := sound.ordered.define name value
  numeric := by
    intro entry member
    rcases mem_insertEntry member with rfl | old
    · exact numeric
    · exact sound.numeric entry old
  named := by
    intro entry member
    rcases mem_insertEntry member with rfl | old
    · exact named
    · exact sound.named entry old

theorem Sound.remove
    (name : String) :
    (bindings.remove name).2.Sound where
  ordered := sound.ordered.remove name
  numeric := fun entry member => sound.numeric entry (List.mem_filter.1 member).1
  named := fun entry member => sound.named entry (List.mem_filter.1 member).1

/-- Every variable of a sound table is a number. -/
theorem Sound.isNumeric_of_find?
    {name : String}
    {value : Value}
    (found : bindings.find? name = some value) :
    value.isNumeric = true := by
  rcases Option.map_eq_some_iff.1 found with ⟨entry, isEntry, rfl⟩
  exact sound.numeric entry (List.mem_of_find?_eq_some isEntry)

/-- Evaluation finds a number in every variable that it finds. -/
theorem Sound.fault_ne_nonNumeric
    {expr : Expr}
    {error : EvalError}
    (failed : expr.eval bindings.find? = .error error)
    (name : String) :
    error.fault ≠ .nonNumeric name := by
  rcases Expr.exists_failsItself_of_eval failed with ⟨_, node, _, _, fails, _⟩
  cases fails with
  | unresolved _ => exact Fault.noConfusion
  | nonNumeric found notNumeric =>
      rw [sound.isNumeric_of_find? found] at notNumeric
      cases notNumeric
  | unary _ applied =>
      rw [UnaryOp.fault_of_apply applied]
      exact Fault.noConfusion
  | binary _ _ applied =>
      cases BinaryOp.fails_of_apply applied with
      | mismatch => exact Fault.noConfusion
      | onNumbers spoiled => cases spoiled <;> exact Fault.noConfusion

end Bindings

/-! ## Sessions -/

namespace Session

/-- The states that a session can be in: new, behind a line, and at any point of a run. -/
inductive Reachable : Session → Prop where
  | created (input : InputStack) (assembler : Assembler) {useColor : Bool} :
      Reachable { input := input, assembler := assembler, useColor := useColor }
  | executed {session : Session} (opener : Opener) (line : String) :
      session.Reachable →
      Reachable (session.execute opener line).session
  | ran {session : Session} (opener : Opener) (reads : Nat) :
      session.Reachable →
      Reachable (session.runFor opener reads).session

/-- The session has the assembler, and its variables hold numbers. -/
structure Keeps (assembler : Assembler) (session : Session) : Prop where
  assembler_eq : session.assembler = assembler
  sound : session.bindings.Sound

variable
    {assembler : Assembler}
    {session : Session}

theorem Keeps.withInput
    (keeps : session.Keeps assembler)
    (input : InputStack) :
    Keeps assembler { session with input := input } :=
  ⟨keeps.assembler_eq, keeps.sound⟩

/-- Whatever a command leads to, the variables stay numbers: `set` refuses everything else. -/
theorem Keeps.of_leads
    (keeps : session.Keeps assembler)
    {opener : Opener}
    {text : String}
    {command : Command}
    (parsed : (parseLine text).command = some command)
    {effect : Builtin.Effect}
    (leads : Builtin.Leads opener session command effect) :
    effect.session.Keeps assembler := by
  cases leads with
  | kept same =>
      rw [same]
      exact keeps
  | set _ arguments _ numeric =>
      -- Only here a name comes in, and it was an argument of the line.
      have named := isName_of_reference_mem_arguments parsed (arguments ▸ List.mem_cons_self)
      exact ⟨keeps.assembler_eq, keeps.sound.define named numeric⟩
  | unset => exact ⟨keeps.assembler_eq, keeps.sound.remove _⟩
  | source => exact keeps.withInput _

/-- A line keeps the variables numbers. -/
theorem Keeps.execute
    (keeps : session.Keeps assembler)
    (opener : Opener)
    (line : String) :
    (session.execute opener line).session.Keeps assembler := by
  rcases session.exists_command_or_assembled opener line with
    ⟨text, command, _, parsed, same⟩ | ⟨assembled, same⟩
  · rw [same]
    exact keeps.of_leads parsed (Builtin.leads_run opener session command)
  · rw [same]
    exact ⟨keeps.assembler_eq, keeps.sound⟩

theorem Keeps.turn
    (keeps : session.Keeps assembler)
    (opener : Opener) :
    (session.turn opener).session.Keeps assembler := by
  rw [Session.turn]
  rcases session.input.readLine with ⟨error | _ | line, input⟩
  · exact keeps.withInput input
  · exact keeps.withInput input
  · exact (keeps.withInput input).execute opener line

/-- So does a run, by induction over its reads. -/
theorem Keeps.runFor
    (keeps : session.Keeps assembler)
    (opener : Opener)
    (reads : Nat) :
    (session.runFor opener reads).session.Keeps assembler := by
  induction reads generalizing session with
  | zero => exact keeps
  | succ reads readsHypothesis =>
      rw [runFor_succ]
      have turned := keeps.turn opener
      cases ended : (session.turn opener).ending with
      | some ending =>
          rw [RunResult.continued_of_ending ended]
          exact turned
      | none =>
          rw [RunResult.continued_of_none ended]
          exact readsHypothesis turned

/-- Every session that can be reached from the beginning has kept its variables numbers. -/
theorem Reachable.keeps
    (reachable : session.Reachable) :
    session.Keeps session.assembler := by
  induction reachable with
  | created input assembler => exact ⟨rfl, Bindings.sound_empty⟩
  | executed opener line _ keeps => exact ⟨rfl, (keeps.execute opener line).sound⟩
  | ran opener reads _ keeps => exact ⟨rfl, (keeps.runFor opener reads).sound⟩

end Session

/-! ## What is reported -/

/-- What a report says, in words. -/
def Report.message : Report → String
  | .located _ diagnostic => diagnostic.message
  | .failure error => error.message

/-- The assembler answers to some line with the message. -/
def Assembler.Answers (assembler : Assembler) (message : String) : Prop :=
  ∃ earlier line column, assembler.encode earlier line = .error ⟨message, column⟩

/-- The message is the one for a variable that does not hold a number. -/
def DeniesNumber (message : String) : Prop :=
  ∃ name, message = (Fault.nonNumeric name).message

theorem head?_toList_append
    {front : String}
    {first : Char}
    (isFirst : front.toList.head? = some first)
    (back : String) :
    (front ++ back).toList.head? = some first := by
  rw [String.toList_append, List.head?_append, isFirst]
  rfl

/-- Such a message names the variable, and begins with the word for it. -/
theorem DeniesNumber.head?_eq
    {message : String}
    (denies : DeniesNumber message) :
    message.toList.head? = some 'v' := by
  rcases denies with ⟨name, same⟩
  have isFirst : "variable `$".toList.head? = some 'v' := by decide
  rw [same]
  exact head?_toList_append (head?_toList_append isFirst name) _

/-- The text begins with another letter than the message for a variable that does not hold a
number. -/
def BeginsOtherwise (text : String) : Prop :=
  ∃ first, text.toList.head? = some first ∧ first ≠ 'v'

theorem BeginsOtherwise.append
    {front : String}
    (begins : BeginsOtherwise front)
    (back : String) :
    BeginsOtherwise (front ++ back) := by
  rcases begins with ⟨first, isFirst, otherwise⟩
  exact ⟨first, head?_toList_append isFirst back, otherwise⟩

/-- So a message that begins otherwise denies no number. -/
theorem BeginsOtherwise.not_deniesNumber
    {message : String}
    (begins : BeginsOtherwise message) :
    ¬ DeniesNumber message := by
  intro denies
  rcases begins with ⟨first, isFirst, otherwise⟩
  rw [denies.head?_eq] at isFirst
  exact otherwise (Option.some.inj isFirst).symm

/-- All other faults have messages that begin otherwise. -/
theorem Fault.exists_eq_nonNumeric
    {fault : Fault}
    (denies : DeniesNumber fault.message) :
    ∃ name, fault = .nonNumeric name := by
  cases fault with
  | nonNumeric name => exact ⟨name, rfl⟩
  | unresolved name =>
      have begins : BeginsOtherwise "unresolved reference to `$" := ⟨'u', by decide, by decide⟩
      exact absurd denies ((begins.append _).append _).not_deniesNumber
  | unaryMismatch op operand =>
      have begins : BeginsOtherwise "type mismatch: cannot apply `" := ⟨'t', by decide, by decide⟩
      exact absurd denies (((begins.append _).append _).append _).not_deniesNumber
  | binaryMismatch op left right =>
      have begins : BeginsOtherwise "type mismatch: cannot apply `" := ⟨'t', by decide, by decide⟩
      exact absurd denies
        (((((begins.append _).append _).append _).append _).append _).not_deniesNumber
  | divisionByZero =>
      have begins : BeginsOtherwise "division by zero" := ⟨'d', by decide, by decide⟩
      exact absurd denies begins.not_deniesNumber
  | shiftOutOfRange amount =>
      have begins : BeginsOtherwise "shift amount " := ⟨'s', by decide, by decide⟩
      exact absurd denies ((begins.append _).append _).not_deniesNumber

theorem SyntaxFault.not_deniesNumber
    (fault : SyntaxFault) :
    ¬ DeniesNumber fault.message := by
  apply BeginsOtherwise.not_deniesNumber
  cases fault <;> exact ⟨_, rfl, by decide⟩

theorem InputError.not_deniesNumber
    (error : InputError) :
    ¬ DeniesNumber error.message := by
  apply BeginsOtherwise.not_deniesNumber
  cases error with
  | tooDeep => exact ⟨'i', by decide, by decide⟩
  | cannotOpen path failure =>
      have begins : BeginsOtherwise "could not open file `" := ⟨'c', by decide, by decide⟩
      exact ((begins.append _).append _).append _
  | cannotRead name reason =>
      have begins : BeginsOtherwise "could not read from `" := ⟨'c', by decide, by decide⟩
      exact ((begins.append _).append _).append _
  | terminal reason =>
      have begins : BeginsOtherwise "terminal error: " := ⟨'t', by decide, by decide⟩
      exact begins.append _

/-- The assembler that makes no code has nothing to say about variables. -/
theorem Assembler.not_deniesNumber_of_unsupported
    {target : Target}
    {message : String}
    (answers : (unsupported target).Answers message) :
    ¬ DeniesNumber message := by
  rcases answers with ⟨earlier, line, column, answered⟩
  cases answered
  have begins : BeginsOtherwise "no code generation backend for target `" :=
    ⟨'n', by decide, by decide⟩
  exact ((begins.append _).append _).not_deniesNumber

/-- A command says of no variable that it does not hold a number. -/
theorem Builtin.Reports.not_deniesNumber
    {opener : Opener}
    {session : Session}
    (sound : session.bindings.Sound)
    {command : Command}
    {diagnostic : Diagnostic}
    (reports : Reports opener session command diagnostic) :
    ¬ DeniesNumber diagnostic.message := by
  cases reports with
  | unknown =>
      have begins : BeginsOtherwise "unknown command" := ⟨'u', by decide, by decide⟩
      exact begins.not_deniesNumber
  | arity =>
      have begins : BeginsOtherwise "`" := ⟨'`', by decide, by decide⟩
      exact (((((((begins.append _).append _).append _).append _).append _).append _).append
        _).not_deniesNumber
  | failed _ evaluated =>
      intro denies
      rcases Fault.exists_eq_nonNumeric denies with ⟨name, isNonNumeric⟩
      exact sound.fault_ne_nonNumeric evaluated name isNonNumeric
  | notVariable =>
      have begins : BeginsOtherwise "expected a variable" := ⟨'e', by decide, by decide⟩
      exact begins.not_deniesNumber
  | notNumber =>
      have begins : BeginsOtherwise "`set` expects a number, found " := ⟨'`', by decide, by decide⟩
      exact (begins.append _).not_deniesNumber
  | @undefined name =>
      intro (denies : DeniesNumber (Fault.unresolved name).message)
      rcases Fault.exists_eq_nonNumeric denies with ⟨_, isNonNumeric⟩
      cases isNonNumeric
  | notPath =>
      have begins : BeginsOtherwise "`source` expects a file name, found " :=
        ⟨'`', by decide, by decide⟩
      exact (begins.append _).not_deniesNumber
  | @notPushed _ _ error => exact error.not_deniesNumber

namespace Session

variable
    {assembler : Assembler}
    {session : Session}
    {opener : Opener}
    {report : Report}

/-- Of all that a line can report, only what the assembler answers may say that a variable does
not hold a number. -/
theorem Keeps.answers_of_mem_execute
    (keeps : session.Keeps assembler)
    {line : String}
    (reported : report ∈ (session.execute opener line).transcript.reports)
    (denies : DeniesNumber report.message) :
    assembler.Answers report.message := by
  cases kind : LineKind.ofLine line with
  | blank =>
      simp only [Session.execute, kind] at reported
      cases reported
  | assembly =>
      simp only [Session.execute, kind, executeAssembly, keeps.assembler_eq] at reported
      split at reported
      · cases reported
      · cases reported
      · rename_i error answered
        rw [List.mem_singleton.1 reported]
        exact ⟨_, _, _, answered⟩
  | builtin text =>
      exfalso
      rcases exists_diagnostic_of_mem_execute kind reported with
        ⟨diagnostic, rfl, ⟨error, _, rfl⟩ | ⟨command, _, reports⟩⟩
      · exact error.fault.not_deniesNumber denies
      · exact reports.not_deniesNumber keeps.sound denies

/-- Where all variables are numbers, only the assembler can say that one is none. -/
theorem Keeps.answers_of_mem_turn
    (keeps : session.Keeps assembler)
    (reported : report ∈ (session.turn opener).transcript.reports)
    (denies : DeniesNumber report.message) :
    assembler.Answers report.message := by
  rw [Session.turn] at reported
  rcases read : session.input.readLine with ⟨error | _ | line, input⟩
  · rw [read] at reported
    have isFailure : report = .failure error := by
      cases error with
      | terminal reason => cases reported
      | _ => exact List.mem_singleton.1 reported
    rw [isFailure] at denies
    exact absurd denies error.not_deniesNumber
  · rw [read] at reported
    cases reported
  · rw [read] at reported
    exact (keeps.withInput input).answers_of_mem_execute reported denies

theorem Keeps.answers_of_mem_runFor
    (keeps : session.Keeps assembler)
    {reads : Nat}
    (reported : report ∈ (session.runFor opener reads).transcript.reports)
    (denies : DeniesNumber report.message) :
    assembler.Answers report.message := by
  rcases exists_turn_of_mem_reports reported with ⟨count, _, _, inTurn⟩
  exact (keeps.runFor opener count).answers_of_mem_turn inTurn denies

end Session

end AsmShell
