import AsmShell.Proofs.EscapeFreeTexts
import AsmShell.Proofs.NumericVariables
import AsmShell.Proofs.PointedTokens

/-!
# Sessions that show no escape

A session gets its texts from the sources of its lines, the files that it opens, the
target of its assembler and the lines that it is given.  If none of them has an escape,
then nothing that it shows or reports has one, but for what the assembler answers.  This
is kept: the variables have names from lines and the values of expressions, and a script
that is pushed has lines from a file and the name that a line said.
-/

namespace AsmShell

open Text

/-! ## Where texts come from -/

/-- There is no escape in what the source says or is called. -/
structure Source.EscapeFree (source : Source) : Prop where
  name : Text.EscapeFree source.name
  pending : ∀ line ∈ source.pending, Text.EscapeFree line
  failure : ∀ reason, source.failure = some reason → Text.EscapeFree reason

/-- There is no escape in any source of the stack. -/
structure InputStack.EscapeFree (stack : InputStack) : Prop where
  scripts : ∀ script ∈ stack.scripts, script.EscapeFree
  terminal : stack.terminal.EscapeFree

/-- There is no escape in what the opener answers. -/
structure Opener.EscapeFree (opener : Opener) : Prop where
  bytes : ∀ path contents, opener path = .ok contents → Lines.escapeByte ∉ contents.bytes
  failure : ∀ path contents reason,
    opener path = .ok contents → contents.failure = some reason → Text.EscapeFree reason
  refusal : ∀ path failure, opener path = .error failure → Text.EscapeFree failure.reason

/-- There is no escape in the files. -/
def FileSystem.EscapeFree (fileSystem : FileSystem) : Prop :=
  ∀ names bytes, (names, Entry.file bytes) ∈ fileSystem.entries → Lines.escapeByte ∉ bytes

/-- There is no escape in the target. -/
structure Target.EscapeFree (target : Target) : Prop where
  triple : Text.EscapeFree target.triple
  cpu : Text.EscapeFree target.cpu

/-- There is no escape in the variables. -/
def Bindings.EscapeFree (bindings : Bindings) : Prop :=
  ∀ entry ∈ bindings.entries, Text.EscapeFree entry.1 ∧ entry.2.EscapeFree

/-- The session has the assembler, and there is no escape in what it is given or knows. -/
structure Session.EscapeFree (assembler : Assembler) (session : Session) : Prop where
  assembler_eq : session.assembler = assembler
  target : assembler.target.EscapeFree
  input : session.input.EscapeFree
  bindings : session.bindings.EscapeFree

/-- There is no escape in the report, unless its message is an answer of the assembler. -/
def Report.EscapeFree (assembler : Assembler) : Report → Prop
  | .located source diagnostic =>
      Text.EscapeFree source.name ∧ Text.EscapeFree source.text ∧
        (assembler.Answers diagnostic.message ∨ Text.EscapeFree diagnostic.message)
  | .failure error => Text.EscapeFree error.message

/-- There is no escape in what is shown, unless in an answer of the assembler. -/
structure Transcript.EscapeFree (assembler : Assembler) (transcript : Transcript) : Prop where
  output : ∀ line ∈ transcript.output, line.EscapeFree
  reports : ∀ report ∈ transcript.reports, report.EscapeFree assembler

theorem Transcript.escapeFree_empty
    (assembler : Assembler) :
    EscapeFree assembler {} :=
  ⟨by simp, by simp⟩

theorem Transcript.EscapeFree.append
    {assembler : Assembler}
    {first second : Transcript}
    (firstFree : first.EscapeFree assembler)
    (secondFree : second.EscapeFree assembler) :
    (first ++ second).EscapeFree assembler where
  output := List.forall_mem_append.2 ⟨firstFree.output, secondFree.output⟩
  reports := List.forall_mem_append.2 ⟨firstFree.reports, secondFree.reports⟩

/-! ## Sources -/

/-- The lines of a script have no escape if its bytes have none, as each character is decoded from
bytes of its own. -/
theorem Source.escapeFree_ofContents
    {name : String}
    {contents : Contents}
    (nameFree : Text.EscapeFree name)
    (bytesFree : Lines.escapeByte ∉ contents.bytes)
    (failureFree : ∀ reason, contents.failure = some reason → Text.EscapeFree reason) :
    (ofContents name contents).EscapeFree where
  name := nameFree
  pending := by
    show ∀ line ∈ contents.lines, Text.EscapeFree line
    unfold Contents.lines
    split
    · exact Lines.escapeFree_of_mem_ofBytes bytesFree
    · exact Lines.escapeFree_of_mem_ofBytes fun inPart =>
        bytesFree (Lines.mem_of_mem_endedPart inPart)
  failure := failureFree

/-- The source that is active is one of the stack. -/
theorem InputStack.EscapeFree.name_active
    {stack : InputStack}
    (free : stack.EscapeFree) :
    Text.EscapeFree stack.active.name := by
  rcases stack with ⟨_ | ⟨script, below⟩, terminal⟩
  · exact free.terminal.name
  · exact (free.scripts script List.mem_cons_self).name

theorem InputStack.EscapeFree.push
    {stack : InputStack}
    (free : stack.EscapeFree)
    {script : Source}
    (scriptFree : script.EscapeFree) :
    EscapeFree { stack with scripts := script :: stack.scripts } :=
  ⟨List.forall_mem_cons.2 ⟨scriptFree, free.scripts⟩, free.terminal⟩

/-- There is no escape in a line that is read, in the words for a failure, and in what is left. -/
theorem InputStack.EscapeFree.of_reads
    {stack after : InputStack}
    {given : Except InputError (Option String)}
    (free : stack.EscapeFree)
    (reads : stack.Reads given after) :
    after.EscapeFree ∧
      (∀ line, given = .ok (some line) → Text.EscapeFree line) ∧
      ∀ error, given = .error error → Text.EscapeFree error.message := by
  have delivered {source : Source} {line : String} {rest : List String}
      (sourceFree : source.EscapeFree) (pending : source.pending = line :: rest) :
      Text.EscapeFree line ∧
        Source.EscapeFree
          { source with pending := rest, delivered := source.delivered + 1 } := by
    have lines := sourceFree.pending
    rw [pending] at lines
    rcases List.forall_mem_cons.1 lines with ⟨first, others⟩
    exact ⟨first, sourceFree.name, others, sourceFree.failure⟩
  induction reads with
  | typed pending =>
      rcases delivered free.terminal pending with ⟨lineFree, terminalFree⟩
      refine ⟨⟨free.scripts, terminalFree⟩, ?_, nofun⟩
      rintro _ ⟨⟩
      exact lineFree
  | ended => exact ⟨free, nofun, nofun⟩
  | terminalFailed _ failure =>
      refine ⟨free, nofun, ?_⟩
      rintro _ ⟨⟩
      have front : Text.EscapeFree "terminal error: " := .ofList (by decide)
      exact front.append (free.terminal.failure _ failure)
  | line pending =>
      rcases List.forall_mem_cons.1 free.scripts with ⟨scriptFree, belowFree⟩
      rcases delivered scriptFree pending with ⟨lineFree, restFree⟩
      refine ⟨⟨List.forall_mem_cons.2 ⟨restFree, belowFree⟩, free.terminal⟩, ?_, nofun⟩
      rintro _ ⟨⟩
      exact lineFree
  | failed _ failure =>
      rcases List.forall_mem_cons.1 free.scripts with ⟨scriptFree, belowFree⟩
      refine ⟨⟨belowFree, free.terminal⟩, nofun, ?_⟩
      rintro _ ⟨⟩
      exact InputError.escapeFree_cannotRead scriptFree.name (scriptFree.failure _ failure)
  | exhausted _ _ _ belowHypothesis =>
      exact belowHypothesis ⟨(List.forall_mem_cons.1 free.scripts).2, free.terminal⟩

/-! ## Files -/

namespace FileSystem

/-- The reasons for which a path cannot be followed are fixed texts. -/
theorem escapeFree_reason_of_step
    {fileSystem : FileSystem}
    {place : Place}
    {name : String}
    {failure : OpenFailure}
    (stepped : fileSystem.step place name = .error failure) :
    Text.EscapeFree failure.reason := by
  have missing : Text.EscapeFree OpenFailure.notFound.reason := .ofList (by decide)
  have long : Text.EscapeFree OpenFailure.nameTooLong.reason := .ofList (by decide)
  unfold step at stepped
  split at stepped
  · cases stepped
    exact .ofList (by decide)
  · split at stepped
    · cases stepped
    · split at stepped
      · split at stepped <;> cases stepped
      · split at stepped
        · cases stepped
          exact long
        · split at stepped <;> cases stepped
          exact missing
  · split at stepped
    · cases stepped
    · split at stepped <;> cases stepped
      · exact long
      · exact missing

theorem escapeFree_reason_of_foldlM_step
    {fileSystem : FileSystem}
    (names : List String)
    {start : Place}
    {failure : OpenFailure}
    (walked : names.foldlM fileSystem.step start = .error failure) :
    Text.EscapeFree failure.reason := by
  induction names generalizing start with
  | nil => cases walked
  | cons name others othersHypothesis =>
      rw [List.foldlM_cons] at walked
      cases stepped : fileSystem.step start name with
      | error refusal =>
          rw [stepped] at walked
          cases walked
          exact escapeFree_reason_of_step stepped
      | ok place =>
          rw [stepped] at walked
          exact othersHypothesis walked

theorem escapeFree_reason_of_resolve
    {fileSystem : FileSystem}
    {path : String}
    {failure : OpenFailure}
    (resolved : fileSystem.resolve path = .error failure) :
    Text.EscapeFree failure.reason := by
  unfold resolve at resolved
  split at resolved
  · cases resolved
    exact .ofList (by decide)
  · split at resolved
    · cases resolved
      exact .ofList (by decide)
    · split at resolved
      · cases resolved
        exact .ofList (by decide)
      · dsimp only at resolved
        split at resolved
        · cases resolved
        · cases resolved
        · rename_i walked
          cases resolved
          exact escapeFree_reason_of_foldlM_step _ walked

/-- Files without an escape are opened without one, and so are directories. -/
theorem EscapeFree.opener
    {fileSystem : FileSystem}
    (free : fileSystem.EscapeFree) :
    fileSystem.opener.EscapeFree := by
  have opened {path : String} {contents : Contents}
      (opens : fileSystem.opener path = .ok contents) :
      ∃ entry, fileSystem.Holds entry ∧ contents = Contents.ofEntry entry := by
    unfold FileSystem.opener at opens
    rcases map_eq_ok.1 opens with ⟨entry, resolved, rfl⟩
    exact ⟨entry, holds_of_resolve resolved, rfl⟩
  refine ⟨?_, ?_, ?_⟩
  · intro path contents opens
    rcases opened opens with ⟨entry, rfl | ⟨names, member⟩, rfl⟩
    · exact List.not_mem_nil
    · cases entry with
      | file bytes => exact free names bytes member
      | directory => exact List.not_mem_nil
  · intro path contents reason opens failing
    rcases opened opens with ⟨entry, _, rfl⟩
    cases entry with
    | file bytes => cases failing
    | directory =>
        cases failing
        exact .ofList (by decide)
  · intro path failure refused
    unfold FileSystem.opener at refused
    exact escapeFree_reason_of_resolve (map_eq_error.1 refused)

end FileSystem

/-- A script that is pushed brings no escape with it. -/
theorem InputStack.EscapeFree.of_redirect
    {opener : Opener}
    (openerFree : opener.EscapeFree)
    {stack after : InputStack}
    (free : stack.EscapeFree)
    {path : String}
    (pathFree : Text.EscapeFree path)
    (pushed : stack.redirect opener path = .ok after) :
    after.EscapeFree := by
  rcases Nat.lt_or_ge stack.depth stackLimit with room | full
  · rw [redirect_of_room opener path room] at pushed
    cases opens : opener path with
    | ok contents =>
        rw [opens] at pushed
        cases pushed
        exact free.push
          (Source.escapeFree_ofContents pathFree (openerFree.bytes path contents opens)
            fun reason => openerFree.failure path contents reason opens)
    | error failure =>
        rw [opens] at pushed
        cases pushed
  · rw [redirect_of_full opener path full] at pushed
    cases pushed

/-- A script that is refused is named by its path, and by nothing of its contents. -/
theorem InputStack.escapeFree_of_redirect
    {opener : Opener}
    (openerFree : opener.EscapeFree)
    {stack : InputStack}
    {path : String}
    (pathFree : Text.EscapeFree path)
    {error : InputError}
    (refused : stack.redirect opener path = .error error) :
    Text.EscapeFree error.message := by
  rcases Nat.lt_or_ge stack.depth stackLimit with room | full
  · rw [redirect_of_room opener path room] at refused
    cases opens : opener path with
    | ok contents =>
        rw [opens] at refused
        cases refused
    | error failure =>
        rw [opens] at refused
        cases refused
        exact InputError.escapeFree_cannotOpen pathFree (openerFree.refusal path failure opens)
  · rw [redirect_of_full opener path full] at refused
    cases refused
    exact InputError.escapeFree_tooDeep

/-! ## Commands -/

namespace Builtin

/-- The names of the builtin commands have no escape. -/
theorem escapeFree_of_mem_names
    {builtin : Builtin}
    {name : String}
    (member : name ∈ builtin.names) :
    Text.EscapeFree name := by
  cases builtin with
  | quit =>
      rcases List.mem_pair.1 member with rfl | rfl <;> exact .ofList (by decide)
  | _ =>
      rw [List.mem_singleton.1 member]
      exact .ofList (by decide)

section

variable
    {assembler : Assembler}
    {opener : Opener}
    {session : Session}
    {command : Command}
    (openerFree : opener.EscapeFree)
    (sessionFree : session.EscapeFree assembler)
    (argumentsFree : ∀ argument ∈ command.arguments, argument.EscapeFree)

/-- A path is a text of the argument. -/
theorem escapeFree_of_scriptPath
    {bindings : Bindings}
    {argument : Expr}
    (argumentFree : argument.EscapeFree)
    {path : String}
    (named : scriptPath bindings argument = .ok path) :
    Text.EscapeFree path := by
  rcases bind_eq_ok.1 named with ⟨value, evaluated, isPath⟩
  split at isPath
  · rename_i text isText
    cases isPath
    exact argumentFree.of_eval (evalArgument_eq_ok evaluated) _ isText
  · cases isPath

include openerFree argumentsFree in
/-- Everything that a command reports says only what its arguments, the opener and the shell itself
say. -/
theorem Reports.escapeFree_message
    {diagnostic : Diagnostic}
    (reports : Reports opener session command diagnostic) :
    Text.EscapeFree diagnostic.message := by
  cases reports with
  | unknown => exact .ofList (by decide)
  | @arity builtin named =>
      have quote : Text.EscapeFree "`" := .ofList (by decide)
      have name := escapeFree_of_mem_names (mem_names_of_ofName? named)
      have plural : Text.EscapeFree (if builtin.arity = 1 then "" else "s") := by
        split <;> exact .ofList (by decide)
      exact ((((((quote.append name).append (.ofList (by decide))).append
        (escapeFree_toString _)).append (.ofList (by decide))).append plural).append
        (.ofList (by decide))).append (escapeFree_toString _)
  | failed member failed => exact (argumentsFree _ member).message_of_eval failed
  | notVariable => exact .ofList (by decide)
  | notNumber =>
      have front : Text.EscapeFree "`set` expects a number, found " := .ofList (by decide)
      exact front.append (Kind.escapeFree_name _)
  | undefined member =>
      have named : Text.EscapeFree _ := argumentsFree _ member
      exact Fault.EscapeFree.message named
  | notPath =>
      have front : Text.EscapeFree "`source` expects a file name, found " := .ofList (by decide)
      exact front.append (Kind.escapeFree_name _)
  | notPushed member named refused =>
      have pathFree := escapeFree_of_scriptPath (argumentsFree _ member) named
      exact InputStack.escapeFree_of_redirect openerFree pathFree refused

include openerFree sessionFree argumentsFree in
/-- Whatever a command leads to, the session stays free of escapes. -/
theorem Leads.escapeFree_session
    {effect : Effect}
    (leads : Leads opener session command effect) :
    effect.session.EscapeFree assembler := by
  cases leads with
  | kept same =>
      rw [same]
      exact sessionFree
  | set _ arguments evaluated numeric =>
      refine ⟨sessionFree.assembler_eq, sessionFree.target, sessionFree.input, ?_⟩
      intro entry member
      rcases Bindings.mem_insertEntry member with rfl | old
      · have named := argumentsFree _ (arguments ▸ List.mem_cons_self)
        exact ⟨named, Value.escapeFree_of_isNumeric numeric⟩
      · exact sessionFree.bindings entry old
  | unset =>
      refine ⟨sessionFree.assembler_eq, sessionFree.target, sessionFree.input, ?_⟩
      intro entry member
      exact sessionFree.bindings entry (List.mem_filter.1 member).1
  | @source argument path contents _ arguments named opened =>
      have argumentFree : argument.EscapeFree := argumentsFree _ (by simp [arguments])
      have scriptFree : (Source.ofContents path contents).EscapeFree :=
        Source.escapeFree_ofContents (escapeFree_of_scriptPath argumentFree named)
          (openerFree.bytes path contents opened) fun reason failing =>
            openerFree.failure path contents reason opened failing
      exact ⟨sessionFree.assembler_eq, sessionFree.target, sessionFree.input.push scriptFree,
        sessionFree.bindings⟩

end

/-! ## What commands print -/

theorem escapeFree_helpLines
    (useColor : Bool) :
    ∀ line ∈ helpLines useColor, line.EscapeFree := by
  have usagesFree : ∀ usage ∈ usages, Text.EscapeFree usage.1 ∧ Text.EscapeFree usage.2 := by
    simp only [usages, List.forall_mem_cons, List.not_mem_nil, false_imp_iff, implies_true,
      and_true]
    exact ⟨⟨.ofList (by decide), .ofList (by decide)⟩, ⟨.ofList (by decide), .ofList (by decide)⟩,
      ⟨.ofList (by decide), .ofList (by decide)⟩, ⟨.ofList (by decide), .ofList (by decide)⟩,
      ⟨.ofList (by decide), .ofList (by decide)⟩, ⟨.ofList (by decide), .ofList (by decide)⟩,
      ⟨.ofList (by decide), .ofList (by decide)⟩, ⟨.ofList (by decide), .ofList (by decide)⟩⟩
  have space : Text.EscapeFree " " := .ofList (by decide)
  have margin : Text.EscapeFree "  " := .ofList (by decide)
  intro line member
  rcases List.mem_append.1 member with isUsage | isLast
  · rcases List.mem_map.1 isUsage with ⟨usage, isListed, rfl⟩
    rcases usagesFree usage isListed with ⟨nameFree, purposeFree⟩
    have paddedFree : Text.EscapeFree (padded usageWidth usage.1) :=
      nameFree.append (.ofList (by simp [List.mem_replicate, Style.escape]))
    cases useColor with
    | true =>
        simp only [usageLine, Styled.EscapeFree, if_true, List.forall_mem_cons]
        exact ⟨margin, paddedFree, space.append purposeFree, by simp⟩
    | false =>
        exact Styled.escapeFree_plain
          (((margin.append paddedFree).append space).append purposeFree)
  · rw [List.mem_singleton.1 isLast]
    exact Styled.escapeFree_plain (.ofList (by decide))

/-- Printed values have no escape: texts are quoted, and names and numbers are made of other
characters. -/
theorem escapeFree_printedLines
    {bindings : Bindings}
    {arguments : List Expr}
    (argumentsFree : ∀ argument ∈ arguments, argument.EscapeFree) :
    ∀ line ∈ printedLines (arguments.map (·.eval bindings.find?)), line.EscapeFree := by
  intro line member
  unfold printedLines at member
  split at member
  · cases member
  · rw [List.mem_singleton.1 member]
    apply Styled.escapeFree_plain
    apply EscapeFree.intercalate (.ofList (by decide))
    intro text isText
    rcases List.mem_map.1 isText with ⟨value, isValue, rfl⟩
    rcases List.mem_filterMap.1 isValue with ⟨result, isResult, succeeded⟩
    rcases List.mem_map.1 isResult with ⟨argument, isArgument, rfl⟩
    cases evaluated : argument.eval bindings.find? with
    | error error =>
        rw [evaluated] at succeeded
        cases succeeded
    | ok found =>
        rw [evaluated] at succeeded
        rw [← Option.some.inj succeeded]
        exact ((argumentsFree argument isArgument).of_eval evaluated).render

/-- What a command puts out has no escape. -/
theorem escapeFree_output_run
    {assembler : Assembler}
    (opener : Opener)
    {session : Session}
    (sessionFree : session.EscapeFree assembler)
    {command : Command}
    (argumentsFree : ∀ argument ∈ command.arguments, argument.EscapeFree) :
    ∀ line ∈ (run opener session command).output, line.EscapeFree := by
  have unchanging {Part : Type} (apply : Part → Session) (result : Except Diagnostic Part) :
      (changed session apply result).output = [] := by
    cases result <;> rfl
  intro line member
  unfold run at member
  split at member
  · cases member
  · cases member
  · exact escapeFree_printedLines argumentsFree line member
  · exact escapeFree_helpLines session.useColor line member
  · rcases List.mem_map.1 member with ⟨entry, isEntry, rfl⟩
    rcases sessionFree.bindings entry isEntry with ⟨nameFree, valueFree⟩
    have sign : Text.EscapeFree "$" := .ofList (by decide)
    exact Styled.escapeFree_plain
      (((sign.append nameFree).append (.ofList (by decide))).append valueFree.render)
  · have triple : Text.EscapeFree "triple: " := .ofList (by decide)
    have cpu : Text.EscapeFree "cpu:    " := .ofList (by decide)
    rw [sessionFree.assembler_eq] at member
    rcases List.mem_pair.1 member with rfl | rfl
    · exact Styled.escapeFree_plain (triple.append sessionFree.target.triple)
    · exact Styled.escapeFree_plain (cpu.append sessionFree.target.cpu)
  · rw [unchanging] at member
    cases member
  · rw [unchanging] at member
    cases member
  · rw [unchanging] at member
    cases member
  · cases member

end Builtin

/-! ## Lines and runs -/

theorem escapeFree_hexBytes
    (bytes : List UInt8) :
    EscapeFree (hexBytes bytes) := by
  have checked : ∀ value < 16, Nat.digitChar value ≠ Style.escape := by decide
  apply EscapeFree.intercalate (.ofList (by decide))
  intro text member
  rcases List.mem_map.1 member with ⟨byte, _, rfl⟩
  have small := byte.toNat_lt
  apply EscapeFree.ofList
  simp only [hexByte, List.mem_cons, List.not_mem_nil, or_false, not_or]
  exact ⟨(checked _ (by omega)).symm, (checked _ (by omega)).symm⟩

/-- A builtin line is read with another character in place of its colon, which is no escape. -/
theorem LineKind.escapeFree_of_ofLine_eq_builtin
    {line text : String}
    (free : EscapeFree line)
    (isBuiltin : ofLine line = .builtin text) :
    EscapeFree text := by
  rcases exists_of_ofLine_eq_builtin isBuiltin with ⟨blanks, rest, _, line_eq, text_eq⟩
  rw [EscapeFree, line_eq] at free
  rw [EscapeFree, text_eq]
  simp only [List.mem_append, List.mem_cons, not_or] at free ⊢
  exact ⟨free.1, by decide, free.2.2⟩

namespace Session

variable
    {assembler : Assembler}
    {opener : Opener}
    {session : Session}

theorem EscapeFree.withInput
    (sessionFree : session.EscapeFree assembler)
    {input : InputStack}
    (inputFree : input.EscapeFree) :
    EscapeFree assembler { session with input := input } :=
  ⟨sessionFree.assembler_eq, sessionFree.target, inputFree, sessionFree.bindings⟩

theorem EscapeFree.transcript_executeAssembly
    (sessionFree : session.EscapeFree assembler)
    {line : String}
    (lineFree : Text.EscapeFree line) :
    (session.executeAssembly (session.input.sourceLine line) line).transcript.EscapeFree
      assembler := by
  unfold executeAssembly
  dsimp only
  split
  · exact Transcript.escapeFree_empty assembler
  · rename_i bytes _ _
    refine ⟨?_, by simp⟩
    intro shown member
    rw [List.mem_singleton.1 member]
    exact Styled.escapeFree_plain (escapeFree_hexBytes bytes)
  · rename_i error answered
    refine ⟨by simp, ?_⟩
    intro report member
    rw [List.mem_singleton.1 member]
    rw [sessionFree.assembler_eq] at answered
    exact ⟨sessionFree.input.name_active, lineFree, .inl ⟨_, _, _, answered⟩⟩

variable
    (openerFree : opener.EscapeFree)
    (sessionFree : session.EscapeFree assembler)
include openerFree sessionFree

/-- What a line without escapes shows has none, unless the assembler has answered it. -/
theorem EscapeFree.transcript_execute
    {line : String}
    (lineFree : Text.EscapeFree line) :
    (session.execute opener line).transcript.EscapeFree assembler := by
  cases kind : LineKind.ofLine line with
  | blank =>
      simp only [Session.execute, kind]
      exact Transcript.escapeFree_empty assembler
  | assembly =>
      simp only [Session.execute, kind]
      exact sessionFree.transcript_executeAssembly lineFree
  | builtin text =>
      have textFree := LineKind.escapeFree_of_ofLine_eq_builtin lineFree kind
      refine ⟨?_, ?_⟩
      · simp only [Session.execute, kind, executeBuiltin]
        cases parsed : (parseLine text).command with
        | none => simp
        | some command =>
            exact Builtin.escapeFree_output_run opener sessionFree fun argument =>
              Expr.escapeFree_of_mem_arguments textFree parsed
      · intro report member
        rcases exists_diagnostic_of_mem_execute kind member with
          ⟨diagnostic, rfl, ⟨error, _, rfl⟩ | ⟨command, parsed, reports⟩⟩
        · exact ⟨sessionFree.input.name_active, lineFree, .inr error.fault.escapeFree_message⟩
        · refine ⟨sessionFree.input.name_active, lineFree, .inr ?_⟩
          exact reports.escapeFree_message openerFree fun argument =>
            Expr.escapeFree_of_mem_arguments textFree parsed

/-- A line without an escape brings none into a session. -/
theorem EscapeFree.execute
    {line : String}
    (lineFree : Text.EscapeFree line) :
    (session.execute opener line).session.EscapeFree assembler := by
  rcases session.exists_command_or_assembled opener line with
    ⟨text, command, isBuiltin, parsed, same⟩ | ⟨assembled, same⟩
  · have textFree := LineKind.escapeFree_of_ofLine_eq_builtin lineFree isBuiltin
    rw [same]
    exact (Builtin.leads_run opener session command).escapeFree_session openerFree sessionFree
      fun argument => Expr.escapeFree_of_mem_arguments textFree parsed
  · rw [same]
    exact ⟨sessionFree.assembler_eq, sessionFree.target, sessionFree.input, sessionFree.bindings⟩

/-- A turn keeps the session free of escapes, and so is what it shows. -/
theorem EscapeFree.turn :
    (session.turn opener).session.EscapeFree assembler ∧
      (session.turn opener).transcript.EscapeFree assembler := by
  rw [Session.turn]
  rcases read : session.input.readLine with ⟨given, input⟩
  rcases sessionFree.input.of_reads (.of_readLine read) with ⟨inputFree, lineFree, errorFree⟩
  have after := sessionFree.withInput inputFree
  rcases given with error | _ | line
  · refine ⟨after, ?_⟩
    cases error with
    | terminal reason => exact Transcript.escapeFree_empty assembler
    | _ => exact ⟨by simp [InputError.transcript], List.forall_mem_singleton.2 (errorFree _ rfl)⟩
  · exact ⟨after, Transcript.escapeFree_empty assembler⟩
  · exact ⟨after.execute openerFree (lineFree line rfl),
      after.transcript_execute openerFree (lineFree line rfl)⟩

/-- So no run brings one in or shows one. -/
theorem EscapeFree.runFor
    (reads : Nat) :
    (session.runFor opener reads).session.EscapeFree assembler ∧
      (session.runFor opener reads).transcript.EscapeFree assembler := by
  induction reads generalizing session with
  | zero => exact ⟨sessionFree, Transcript.escapeFree_empty assembler⟩
  | succ reads readsHypothesis =>
      rw [runFor_succ]
      have turned := sessionFree.turn openerFree
      cases ended : (session.turn opener).ending with
      | some ending =>
          rw [RunResult.continued_of_ending ended]
          exact turned
      | none =>
          rw [RunResult.continued_of_none ended]
          rcases readsHypothesis turned.1 with ⟨afterFree, restFree⟩
          exact ⟨afterFree, turned.2.append restFree⟩

end Session

end AsmShell
