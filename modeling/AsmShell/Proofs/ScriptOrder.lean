import AsmShell.Program.Shell
import AsmShell.Proofs.RunsEnd

/-!
# The scripts of the program run one after the other

The scripts that the program is given are all pushed before the first line is read, the
last one first.  What the stack will give is then a row of lines, script after script
from the top.  A turn of the run takes the first line off this row and executes it, and
as long as no line quits or asks for a script, nothing else happens to the row; so the
scripts are executed line by line in their order, and then the terminal is read.

The stack has room for a bounded number of scripts.  Where more are given, the first
ones find the stack full: they are reported and never run.
-/

namespace AsmShell

open Text

/-! ## Lines that stay in their source -/

/-- The builtin command that a line gives, where it gives one. -/
def Builtin.ofLine? (line : String) : Option Builtin :=
  match LineKind.ofLine line with
  | .builtin text => (parseLine text).command.bind fun command => ofName? command.name
  | _ => none

/-- The line neither quits nor sources a script. -/
def StaysInSource (line : String) : Prop :=
  Builtin.ofLine? line ≠ some .quit ∧ Builtin.ofLine? line ≠ some .source

instance (line : String) : Decidable (StaysInSource line) :=
  inferInstanceAs (Decidable (_ ∧ _))

theorem Builtin.flow_changed
    {Part : Type}
    (session : Session)
    (apply : Part → Session)
    (result : Except Diagnostic Part) :
    (changed session apply result).flow = .next := by
  cases result <;> rfl

/-- Only one command ends the session. -/
theorem Builtin.flow_run
    (opener : Opener)
    (session : Session)
    {command : Command}
    (notQuit : ofName? command.name ≠ some .quit) :
    (run opener session command).flow = .next := by
  unfold run
  split
  · rfl
  · rename_i isQuit
    exact absurd isQuit notQuit
  · rfl
  · rfl
  · rfl
  · rfl
  · exact flow_changed _ _ _
  · exact flow_changed _ _ _
  · exact flow_changed _ _ _
  · rfl

namespace StaysInSource

variable
    {line : String}
    (stays : StaysInSource line)

include stays

theorem flow_execute
    (opener : Opener)
    (session : Session) :
    (session.execute opener line).flow = .next := by
  have notQuit := stays.1
  rw [Builtin.ofLine?] at notQuit
  rw [Session.execute]
  cases kind : LineKind.ofLine line with
  | blank =>
      rfl
  | assembly =>
      simp only [Session.executeAssembly]
      split <;> rfl
  | builtin text =>
      simp only [kind] at notQuit
      simp only [Session.executeBuiltin]
      cases parsed : (parseLine text).command with
      | none =>
          rfl
      | some command =>
          rw [parsed] at notQuit
          exact Builtin.flow_run opener session notQuit

theorem requestedScript?_eq_none
    (session : Session) :
    session.requestedScript? line = none := by
  cases asked : session.requestedScript? line with
  | none =>
      rfl
  | some path =>
      rcases Session.exists_command_of_some asked with ⟨text, span, argument, kind, parsed, _⟩
      refine absurd ?_ stays.2
      simp only [Builtin.ofLine?, kind, parsed, Option.bind_some]
      rfl

end StaysInSource

/-! ## The row of lines that a stack will give -/

/-- The lines that a source will give, each with its place. -/
def Source.places (source : Source) : List SourceLine :=
  (source.pending.zipIdx (source.delivered + 1)).map fun line => ⟨source.name, line.2, line.1⟩

namespace InputStack

/-- The lines that the scripts of a stack will give, from the top. -/
def scriptPlaces (stack : InputStack) : List SourceLine :=
  stack.scripts.flatMap Source.places

/-- All scripts of the stack can be read to their ends, and no line leaves its source. -/
structure RunsThrough (stack : InputStack) : Prop where
  readable : ∀ script ∈ stack.scripts, script.failure = none
  stays : ∀ script ∈ stack.scripts, ∀ line ∈ script.pending, StaysInSource line

theorem RunsThrough.below
    {script : Source}
    {below : List Source}
    {terminal : Source}
    (through : RunsThrough ⟨script :: below, terminal⟩) :
    RunsThrough ⟨below, terminal⟩ where
  readable := fun other member => through.readable other (List.mem_cons_of_mem _ member)
  stays := fun other member => through.stays other (List.mem_cons_of_mem _ member)

/-- Where the scripts have nothing left, the terminal is read. -/
theorem RunsThrough.readLine_of_nil
    {stack : InputStack}
    (through : stack.RunsThrough)
    (spent : stack.scriptPlaces = []) :
    stack.readLine = readTerminal stack.terminal := by
  rcases stack with ⟨scripts, terminal⟩
  induction scripts with
  | nil =>
      rfl
  | cons script below belowHypothesis =>
      rcases List.append_eq_nil_iff.1 spent with ⟨scriptSpent, belowSpent⟩
      have pending : script.pending = [] := by
        simpa [Source.places] using scriptSpent
      have failure : script.failure = none := through.readable script List.mem_cons_self
      simp only [readLine, readFrom, Source.next?, pending, failure]
      exact belowHypothesis through.below belowSpent

/-- A read takes the first line off the row, and makes its source the active one. -/
theorem RunsThrough.exists_readLine_of_cons
    {stack : InputStack}
    (through : stack.RunsThrough)
    {place : SourceLine}
    {rest : List SourceLine}
    (first : stack.scriptPlaces = place :: rest) :
    ∃ after,
      stack.readLine = (.ok (some place.text), after) ∧
        after.sourceLine place.text = place ∧
        StaysInSource place.text ∧
        after.RunsThrough ∧
        after.scriptPlaces = rest ∧
        after.terminal = stack.terminal := by
  rcases stack with ⟨scripts, terminal⟩
  induction scripts with
  | nil =>
      cases first
  | cons script below belowHypothesis =>
      have failure : script.failure = none := through.readable script List.mem_cons_self
      have stays := through.stays script List.mem_cons_self
      cases pending : script.pending with
      | nil =>
          have belowFirst : scriptPlaces ⟨below, terminal⟩ = place :: rest := by
            simpa [scriptPlaces, Source.places, pending] using first
          rcases belowHypothesis through.below belowFirst with ⟨after, read, others⟩
          refine ⟨after, ?_, others⟩
          simp only [readLine, readFrom, Source.next?, pending, failure]
          exact read
      | cons line lines =>
          simp only [scriptPlaces, List.flatMap_cons, Source.places, pending,
            List.zipIdx_cons, List.map_cons, List.cons_append, List.cons.injEq] at first
          rcases first with ⟨rfl, rfl⟩
          rcases List.forall_mem_cons.1 (pending ▸ stays) with ⟨lineStays, linesStay⟩
          let read : Source :=
            { script with pending := lines, delivered := script.delivered + 1 }
          refine ⟨⟨read :: below, terminal⟩, ?_, rfl, lineStays, ⟨?_, ?_⟩, rfl, rfl⟩
          · simp only [readLine, readFrom, Source.next?, pending, read]
          · exact List.forall_mem_cons.2 ⟨failure, through.below.readable⟩
          · exact List.forall_mem_cons.2 ⟨linesStay, through.below.stays⟩

end InputStack

/-! ## Running through the row -/

theorem Transcript.append_assoc
    (first second third : Transcript) :
    first ++ second ++ third = first ++ (second ++ third) := by
  show append (append first second) third = append first (append second third)
  simp only [append, List.append_assoc]

namespace Session

/-- The line that a turn executes, with its place. -/
def turnLine? (session : Session) : Option SourceLine :=
  match session.input.readLine with
  | (.ok (some line), input) => some (input.sourceLine line)
  | _ => none

/-- The lines that the first turns of a run execute, with their places. -/
def executed (opener : Opener) : (turns : Nat) → Session → List SourceLine
  | 0, _ => []
  | turns + 1, session =>
      session.turnLine?.toList ++
        match (session.turn opener).ending with
        | some _ => []
        | none => executed opener turns (session.turn opener).session

/-- Execute a line as one that is read at a place, whatever sources the session has. -/
def executeAt (opener : Opener) (session : Session) (place : SourceLine) : Step :=
  let source : Source := { name := place.name, pending := [], delivered := place.number }
  execute opener { session with input := ⟨[source], session.input.terminal⟩ } place.text

/-- Execute lines one after the other, each at its place: the session they lead to, and all that
they show. -/
def executeAll (opener : Opener) : List SourceLine → Session → Session × Transcript
  | [], session => (session, {})
  | place :: rest, session =>
      let step := session.executeAt opener place
      let later := executeAll opener rest step.session
      (later.1, step.transcript ++ later.2)

/-- The sessions differ at most in their sources. -/
def SameButInput (first second : Session) : Prop :=
  first = { second with input := first.input }

/-- A turn executes the first line of the row, as in any session with other sources, and leaves
the others. -/
theorem turn_of_scriptPlaces_cons
    (opener : Opener)
    {session other : Session}
    (same : session.SameButInput other)
    (through : session.input.RunsThrough)
    {place : SourceLine}
    {rest : List SourceLine}
    (first : session.input.scriptPlaces = place :: rest) :
    session.turnLine? = some place ∧
      (session.turn opener).ending = none ∧
      (session.turn opener).transcript = (other.executeAt opener place).transcript ∧
      (session.turn opener).session.SameButInput (other.executeAt opener place).session ∧
      (∀ report ∈ (session.turn opener).transcript.reports,
        ∃ diagnostic, report = .located place diagnostic) ∧
      (session.turn opener).session.input.RunsThrough ∧
      (session.turn opener).session.input.scriptPlaces = rest ∧
      (session.turn opener).session.input.terminal = session.input.terminal := by
  rcases through.exists_readLine_of_cons first with
    ⟨after, read, isPlace, stays, afterThrough, afterPlaces, sameTerminal⟩
  rcases exists_execute_of_none opener (stays.requestedScript?_eq_none other) with
    ⟨effect, executed⟩
  have flow : effect.flow = .next := by
    have flow := stays.flow_execute opener { other with input := after }
    rwa [executed after] at flow
  have started : { session with input := after } = { other with input := after } := by
    rw [same]
  simp only [turnLine?, turn, read, started, executed after, executeAt, executed _,
    Builtin.Effect.step, Step.result, flow, isPlace]
  refine ⟨trivial, trivial, rfl, rfl, ?_, afterThrough, afterPlaces, sameTerminal⟩
  intro report member
  rcases List.mem_map.1 member with ⟨diagnostic, _, rfl⟩
  exact ⟨diagnostic, rfl⟩

/-- As many turns as the row is long execute the row, and nothing else. -/
theorem runFor_scriptPlaces
    (opener : Opener)
    {session other : Session}
    (same : session.SameButInput other)
    (through : session.input.RunsThrough)
    {places : List SourceLine}
    (row : session.input.scriptPlaces = places) :
    session.executed opener places.length = places ∧
      (session.runFor opener places.length).ending = none ∧
      (session.runFor opener places.length).transcript = (other.executeAll opener places).2 ∧
      (session.runFor opener places.length).session.SameButInput
        (other.executeAll opener places).1 ∧
      (∀ report ∈ (session.runFor opener places.length).transcript.reports,
        ∃ place ∈ places, ∃ diagnostic, report = .located place diagnostic) ∧
      (session.runFor opener places.length).session.input.readLine =
        InputStack.readTerminal session.input.terminal := by
  induction places generalizing session other with
  | nil =>
      refine ⟨rfl, rfl, rfl, same, ?_, through.readLine_of_nil row⟩
      intro report member
      cases member
  | cons place rest restHypothesis =>
      rcases turn_of_scriptPlaces_cons opener same through row with
        ⟨isLine, goesOn, shows, afterSame, located, afterThrough, afterRow, sameTerminal⟩
      rcases restHypothesis afterSame afterThrough afterRow with
        ⟨restExecuted, restGoesOn, restShows, restSame, restLocated, restRead⟩
      rw [sameTerminal] at restRead
      rw [List.length_cons, runFor_succ, RunResult.continued_of_none goesOn]
      refine ⟨?_, restGoesOn, ?_, restSame, ?_, restRead⟩
      · rw [executed, isLine, goesOn]
        simp only [restExecuted, Option.toList_some, List.singleton_append]
      · simp only [RunResult.after, executeAll, shows, restShows]
      · intro report member
        rcases List.mem_append.1 member with inTurn | inRest
        · exact ⟨place, List.mem_cons_self, located report inTurn⟩
        · rcases restLocated report inRest with ⟨later, laterMember, isLocated⟩
          exact ⟨later, List.mem_cons_of_mem _ laterMember, isLocated⟩

/-- A run goes on from where fewer turns have left it. -/
theorem runFor_add
    {opener : Opener}
    {turns : Nat}
    {session : Session}
    (goesOn : (session.runFor opener turns).ending = none)
    (more : Nat) :
    session.runFor opener (turns + more) =
        ((session.runFor opener turns).session.runFor opener more).after
          (session.runFor opener turns).transcript ∧
      session.executed opener (turns + more) =
        session.executed opener turns ++
          (session.runFor opener turns).session.executed opener more := by
  induction turns generalizing session with
  | zero =>
      rw [Nat.zero_add]
      exact ⟨rfl, rfl⟩
  | succ turns turnsHypothesis =>
      rw [Nat.succ_add, executed, executed, runFor_succ, runFor_succ]
      rw [runFor_succ] at goesOn
      cases ended : (session.turn opener).ending with
      | some ending =>
          rw [RunResult.continued_of_ending ended, ended] at goesOn
          cases goesOn
      | none =>
          simp only [RunResult.continued_of_none ended] at goesOn ⊢
          rcases turnsHypothesis goesOn with ⟨later, laterExecuted⟩
          constructor
          · rw [later]
            simp only [RunResult.after, Transcript.append_assoc]
          · rw [laterExecuted, List.append_assoc]
            rfl

end Session

/-! ## Stacking the scripts -/

namespace Program

/-- A script that was opened, as a source from which nothing was read. -/
def openedScript (script : String × Contents) : Source :=
  .ofContents script.1 script.2

/-- The lines of scripts in their order, each with its place. -/
def scriptLines (scripts : List (String × Contents)) : List SourceLine :=
  scripts.flatMap fun script => (openedScript script).places

theorem runsThrough_opened
    {scripts : List (String × Contents)}
    (readable : ∀ script ∈ scripts, script.2.failure = none)
    (stays : ∀ script ∈ scripts, ∀ line ∈ script.2.lines, StaysInSource line)
    (terminal : Source) :
    InputStack.RunsThrough ⟨scripts.map openedScript, terminal⟩ :=
  ⟨List.forall_mem_map.2 readable, List.forall_mem_map.2 stays⟩

/-- Scripts that can be opened are pushed while there is room; those that come later are refused
and reported. -/
theorem pushScripts_of_opens
    {opener : Opener}
    (scripts : List (String × Contents))
    (opens : ∀ script ∈ scripts, opener script.1 = .ok script.2)
    (stack : InputStack) :
    pushScripts opener stack (scripts.map Prod.fst) =
      (⟨((scripts.take (stackLimit - stack.depth)).map openedScript).reverse ++ stack.scripts,
          stack.terminal⟩,
        List.replicate (scripts.length - (stackLimit - stack.depth)) (.failure .tooDeep)) := by
  induction scripts generalizing stack with
  | nil =>
      simp [pushScripts]
  | cons script rest restHypothesis =>
      have restOpens := fun other member => opens other (List.mem_cons_of_mem _ member)
      rw [List.map_cons, pushScripts]
      cases Nat.lt_or_ge stack.depth stackLimit with
      | inl room =>
          rw [InputStack.redirect_of_room opener script.1 room, opens script List.mem_cons_self]
          let pushed : InputStack := { stack with scripts := openedScript script :: stack.scripts }
          have depth : pushed.depth = stack.depth + 1 := rfl
          obtain ⟨left, left_eq⟩ : ∃ left, stackLimit - stack.depth = left + 1 :=
            ⟨stackLimit - stack.depth - 1, by omega⟩
          have leftAfter : stackLimit - pushed.depth = left := by omega
          show pushScripts opener pushed _ = _
          rw [restHypothesis restOpens pushed, leftAfter, left_eq]
          simp [pushed]
      | inr full =>
          rw [InputStack.redirect_of_full opener script.1 full]
          simp only [restHypothesis restOpens stack, Nat.sub_eq_zero_of_le full, List.take_zero,
            List.map_nil, List.reverse_nil, Nat.sub_zero, List.length_cons,
            List.replicate_succ]

/-- The session that the options choose has the last of the scripts stacked in their order, as
many as there is room for. -/
theorem start_of_opens
    {opener : Opener}
    {options : Options}
    {scripts : List (String × Contents)}
    (named : options.scripts = scripts.map Prod.fst)
    (opens : ∀ script ∈ scripts, opener script.1 = .ok script.2)
    (terminal : Source) :
    (start opener options terminal).1.input =
        ⟨(scripts.drop (scripts.length - stackLimit)).map openedScript, terminal⟩ ∧
      (start opener options terminal).2.reports =
        List.replicate (scripts.length - stackLimit) (.failure .tooDeep) := by
  have pushed := pushScripts_of_opens scripts.reverse
    (fun script member => opens script (List.mem_reverse.1 member)) { terminal := terminal }
  have atBottom : InputStack.depth { terminal := terminal } = 0 := rfl
  rw [List.map_reverse, ← named, atBottom, Nat.sub_zero, List.take_reverse, ← List.map_reverse,
    List.reverse_reverse, List.length_reverse, List.append_nil] at pushed
  simp only [start, pushed, and_self]

end Program

/--
The program is given scripts that can be opened and read to their ends, and none of their
lines quits or sources a script.  Unless there are more than the stack takes, nothing is
reported about opening or stacking them, and the run executes every line of the first
script, then of the second, and so on to the last, each at its place, before it reads the
terminal for the first time; all that is reported meanwhile is about these lines.  Of more
scripts than the stack takes, the first ones are each refused as too deep, and the run
executes the lines of the others in this way.  The run shows what these lines show when they
are executed one after the other, each at its place, and reaches the session they lead to,
with the scripts read to their ends.  What follows is the run of that session.
-/
theorem scripts_run_in_order
    (opener : Opener)
    (options : Program.Options)
    (terminal : Source)
    (scripts : List (String × Contents))
    (named : options.scripts = scripts.map Prod.fst)
    (opens : ∀ script ∈ scripts, opener script.1 = .ok script.2)
    (readable : ∀ script ∈ scripts, script.2.failure = none)
    (stays : ∀ script ∈ scripts, ∀ line ∈ script.2.lines, StaysInSource line)
    {session : Session}
    {greeting : Transcript}
    (started : Program.start opener options terminal = (session, greeting))
    {lines : List SourceLine}
    (row : lines = Program.scriptLines (scripts.drop (scripts.length - stackLimit))) :
    greeting.reports = List.replicate (scripts.length - stackLimit) (.failure .tooDeep) ∧
      session.executed opener lines.length = lines ∧
      ∃ (reached : Session) (shown : Transcript),
        session.runFor opener lines.length = ⟨none, reached, shown⟩ ∧
          shown = (session.executeAll opener lines).2 ∧
          reached.SameButInput (session.executeAll opener lines).1 ∧
          (∀ report ∈ shown.reports,
            ∃ place ∈ lines, ∃ diagnostic, report = .located place diagnostic) ∧
          reached.input.readLine = InputStack.readTerminal terminal ∧
          (∀ more,
            session.runFor opener (lines.length + more) =
                (reached.runFor opener more).after shown ∧
              session.executed opener (lines.length + more) =
                lines ++ reached.executed opener more) ∧
          ∀ fileSystem : FileSystem, opener = fileSystem.opener →
            session.run fileSystem = (reached.run fileSystem).after shown := by
  rcases Program.start_of_opens named opens terminal with ⟨stacked, reported⟩
  rw [started] at stacked reported
  have kept : ∀ script ∈ scripts.drop (scripts.length - stackLimit), script ∈ scripts :=
    fun script member => List.mem_of_mem_drop member
  have through : session.input.RunsThrough := by
    rw [stacked]
    exact Program.runsThrough_opened (fun script member => readable script (kept script member))
      (fun script member => stays script (kept script member)) terminal
  have places : session.input.scriptPlaces = lines := by
    rw [stacked, row, InputStack.scriptPlaces, List.flatMap_map, Program.scriptLines]
  have same : session.SameButInput session := rfl
  rcases session.runFor_scriptPlaces opener same through places with
    ⟨executed, goesOn, shows, reachedSame, located, read⟩
  have continues := Session.runFor_add goesOn
  refine ⟨reported, executed, (session.runFor opener lines.length).session,
    (session.runFor opener lines.length).transcript, ?_, shows, reachedSame, located, ?_, ?_,
    ?_⟩
  · rw [← goesOn]
  · rw [read, stacked]
  · intro more
    rw [executed] at continues
    exact continues more
  · rintro fileSystem rfl
    -- Both runs are given as many reads as the longer of their bounds asks for.
    let more := max (session.input.readBound fileSystem.mostLines)
      ((session.runFor fileSystem.opener lines.length).session.input.readBound
        fileSystem.mostLines)
    rw [← session.runFor_eq_run fileSystem
        (Nat.le_trans (Nat.le_max_left _ _) (Nat.le_add_left more lines.length)),
      ← Session.runFor_eq_run fileSystem _ (Nat.le_max_right _ _ : _ ≤ more)]
    exact (continues more).1

/-- Two scripts are run before the terminal is read, whatever their lines lead to. -/
theorem scripts_run_in_order_of_two :
    ∃ (fileSystem : FileSystem) (session reached : Session) (greeting shown : Transcript),
      Program.start fileSystem.opener { scripts := ["a", "b"] } (.terminal ["nop"] none) =
          (session, greeting) ∧
        greeting.reports = [] ∧
        session.executed fileSystem.opener 3 =
          [⟨"a", 1, ":print 1"⟩, ⟨"a", 2, "nop"⟩, ⟨"b", 1, ":set $x 2"⟩] ∧
        session.runFor fileSystem.opener 3 = ⟨none, reached, shown⟩ ∧
        shown.output = [Styled.plain "1"] ∧
        reached.input.readLine = InputStack.readTerminal (.terminal ["nop"] none) ∧
        session.run fileSystem = (reached.run fileSystem).after shown := by
  let first : Contents := { bytes := [58, 112, 114, 105, 110, 116, 32, 49, 10, 110, 111, 112] }
  let second : Contents := { bytes := [58, 115, 101, 116, 32, 36, 120, 32, 50] }
  let fileSystem : FileSystem :=
    ⟨[(["a"], .file first.bytes), (["b"], .file second.bytes)]⟩
  have stays : ∀ script ∈ [("a", first), ("b", second)], ∀ line ∈ script.2.lines,
      StaysInSource line := by
    decide +kernel
  have opensFirst : fileSystem.opener "a" = .ok first := rfl
  have opensSecond : fileSystem.opener "b" = .ok second := rfl
  have opens : ∀ script ∈ [("a", first), ("b", second)],
      fileSystem.opener script.1 = .ok script.2 :=
    List.forall_mem_cons.2
      ⟨opensFirst, List.forall_mem_cons.2 ⟨opensSecond, List.forall_mem_nil _⟩⟩
  let lines : List SourceLine :=
    [⟨"a", 1, ":print 1"⟩, ⟨"a", 2, "nop"⟩, ⟨"b", 1, ":set $x 2"⟩]
  let session :=
    (Program.start fileSystem.opener { scripts := ["a", "b"] } (.terminal ["nop"] none)).1
  have row :
      lines = Program.scriptLines ([("a", first), ("b", second)].drop (2 - stackLimit)) := by
    decide +kernel
  rcases scripts_run_in_order fileSystem.opener { scripts := ["a", "b"] }
      (.terminal ["nop"] none) [("a", first), ("b", second)] rfl opens (by decide) stays rfl
      row with
    ⟨reported, executed, reached, shown, ran, shows, _, _, read, _, run⟩
  refine ⟨fileSystem, session, reached, _, shown, rfl, reported.trans (by decide +kernel), executed,
    ran, ?_, read, run fileSystem rfl⟩
  rw [shows]
  decide +kernel

/-- Of one script more than the stack takes, the first is refused, and its line is never
executed. -/
theorem first_script_left_out_of_full_stack :
    ∃ (fileSystem : FileSystem) (first others : Contents) (session : Session)
        (greeting : Transcript),
      fileSystem.opener "a" = .ok first ∧
        fileSystem.opener "b" = .ok others ∧
        first.failure = none ∧
        first.lines = [":print 1"] ∧
        StaysInSource ":print 1" ∧
        others.failure = none ∧
        others.lines = [] ∧
        Program.start fileSystem.opener { scripts := "a" :: List.replicate stackLimit "b" }
            (.terminal [] none) = (session, greeting) ∧
        greeting.reports = [.failure .tooDeep] ∧
        ∀ turns, session.executed fileSystem.opener turns = [] := by
  let fileSystem : FileSystem :=
    ⟨[(["a"], .file [58, 112, 114, 105, 110, 116, 32, 49]), (["b"], .file [])]⟩
  let options : Program.Options := { scripts := "a" :: List.replicate stackLimit "b" }
  let session := (Program.start fileSystem.opener options (.terminal [] none)).1
  have noLine : session.turnLine? = none := by
    decide +kernel
  have ended : (session.turn fileSystem.opener).ending = some .endOfInput := by
    decide +kernel
  refine ⟨fileSystem, _, _, session, _, rfl, rfl, rfl, by decide +kernel, by decide +kernel,
    rfl, by decide +kernel, rfl, by decide +kernel, ?_⟩
  intro turns
  cases turns with
  | zero =>
      rfl
  | succ turns =>
      rw [Session.executed, noLine, ended]
      rfl

end AsmShell
