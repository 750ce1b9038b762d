import AsmShell.Proofs.RunsEnd
import Mathlib.Data.List.Forall2

/-!
# Sourcing a script is typing its lines

What a stack of sources will give can be written down as one list, as long as nothing
is pushed: the lines of each script and its failure, one script after the other, and
then the lines of the terminal.  A script that was just pushed and its lines in place of
the line that pushed it make the same list; only the depth at which a line is read
differs.  A run depends on nothing else, apart from the places that diagnostics name, so
two sessions whose lists agree go through their turns side by side.
-/

namespace AsmShell

/-! ## What a stack will give -/

/-- What a read will give, and the depth of the stack after the read. -/
structure Awaited where
  given : Except InputError String
  depth : Nat

/-- The second read gives the same as the first and leaves no deeper stack. -/
def Awaited.MatchedBy (left right : Awaited) : Prop :=
  left.given = right.given ∧ right.depth ≤ left.depth

/-- Lines that will be read at a depth. -/
def awaitedLines (depth : Nat) (lines : List String) : List Awaited :=
  lines.map fun line => ⟨.ok line, depth⟩

/-- What a script of a depth will give: its lines, and its failure where it fails. -/
def Source.awaited (depth : Nat) (script : Source) : List Awaited :=
  awaitedLines depth script.pending ++
    (script.failure.map fun reason =>
      ⟨.error (.cannotRead script.name reason), depth - 1⟩).toList

/-- What the scripts will give, the first of them first. -/
def awaitedFrom : List Source → List Awaited
  | [] => []
  | script :: below => script.awaited (below.length + 1) ++ awaitedFrom below

theorem awaitedLines_append
    (depth : Nat)
    (lines others : List String) :
    awaitedLines depth (lines ++ others) =
      awaitedLines depth lines ++ awaitedLines depth others :=
  List.map_append

/-- Nearer to the terminal, more scripts can be pushed. -/
theorem forall₂_awaitedLines
    (lines : List String)
    {deep shallow : Nat}
    (shallower : shallow ≤ deep) :
    List.Forall₂ Awaited.MatchedBy (awaitedLines deep lines) (awaitedLines shallow lines) := by
  rw [awaitedLines, awaitedLines, List.forall₂_map_left_iff, List.forall₂_map_right_iff]
  exact List.forall₂_same.2 fun _ _ => ⟨rfl, shallower⟩

/-- From a script that has run out nothing is awaited. -/
theorem Source.awaited_of_exhausted
    (script : Source)
    (pending : script.pending = [])
    (failure : script.failure = none)
    (depth : Nat) :
    script.awaited depth = [] := by
  simp [awaited, awaitedLines, pending, failure]

theorem Source.forall₂_awaited
    (script : Source)
    {deep shallow : Nat}
    (shallower : shallow ≤ deep) :
    List.Forall₂ Awaited.MatchedBy (script.awaited deep) (script.awaited shallow) := by
  apply List.rel_append (forall₂_awaitedLines script.pending shallower)
  cases script.failure with
  | none =>
      exact .nil
  | some reason =>
      exact .cons ⟨rfl, Nat.sub_le_sub_right shallower 1⟩ .nil

namespace InputStack

/-- What the stack will give, as long as nothing is pushed. -/
def awaited (stack : InputStack) : List Awaited :=
  awaitedFrom stack.scripts ++ awaitedLines 0 stack.terminal.pending

theorem awaited_push
    (script : Source)
    (below : List Source)
    (terminal : Source) :
    awaited ⟨script :: below, terminal⟩ =
      script.awaited (below.length + 1) ++ awaited ⟨below, terminal⟩ :=
  List.append_assoc _ _ _

/-- What a read gives where nothing is awaited. -/
def givenAtEnd (terminal : Source) : Except InputError (Option String) :=
  match terminal.failure with
  | some reason => .error (.terminal reason)
  | none => .ok none

/-- A read gives the first of what is awaited, and takes nothing else. -/
theorem Reads.awaited_eq
    {stack after : InputStack}
    {given : Except InputError (Option String)}
    (reads : stack.Reads given after) :
    (∃ next,
      given = next.given.map some ∧
        next.depth = after.depth ∧
        stack.awaited = next :: after.awaited) ∨
      given = givenAtEnd stack.terminal ∧ stack.awaited = [] ∧ after.awaited = [] := by
  induction reads with
  | @typed terminal line rest pending =>
      refine .inl ⟨⟨.ok line, 0⟩, rfl, rfl, ?_⟩
      simp [awaited, awaitedFrom, awaitedLines, pending]
  | ended pending failure =>
      refine .inr ⟨?_, ?_, ?_⟩ <;>
        simp [givenAtEnd, awaited, awaitedFrom, awaitedLines, pending, failure]
  | terminalFailed pending failure =>
      refine .inr ⟨?_, ?_, ?_⟩ <;>
        simp [givenAtEnd, awaited, awaitedFrom, awaitedLines, pending, failure]
  | @line script below terminal line rest pending =>
      refine .inl ⟨⟨.ok line, below.length + 1⟩, rfl, rfl, ?_⟩
      simp [awaited_push, Source.awaited, awaitedLines, pending]
  | @failed script below terminal reason pending failure =>
      refine .inl ⟨⟨.error (.cannotRead script.name reason), below.length⟩, rfl, rfl, ?_⟩
      simp [awaited_push, Source.awaited, awaitedLines, pending, failure]
  | @exhausted script below terminal _ _ pending failure _ belowHypothesis =>
      rw [awaited_push, script.awaited_of_exhausted pending failure]
      exact belowHypothesis

/-- Reading does not change how the terminal will fail. -/
theorem Reads.failure_eq
    {stack after : InputStack}
    {given : Except InputError (Option String)}
    (reads : stack.Reads given after) :
    after.terminal.failure = stack.terminal.failure := by
  induction reads with
  | exhausted _ _ _ belowHypothesis =>
      exact belowHypothesis
  | _ =>
      rfl

/-! ## Stacks that give the same -/

/-- The second stack gives what the first one gives and is never deeper after a read. -/
structure ReadsLike (left right : InputStack) : Prop where
  awaited : List.Forall₂ Awaited.MatchedBy left.awaited right.awaited
  failure : left.terminal.failure = right.terminal.failure

/-- Both stacks give the same and still read alike after it. -/
theorem ReadsLike.of_reads
    {left right leftAfter rightAfter : InputStack}
    {leftGiven rightGiven : Except InputError (Option String)}
    (readsLike : left.ReadsLike right)
    (leftReads : left.Reads leftGiven leftAfter)
    (rightReads : right.Reads rightGiven rightAfter) :
    leftGiven = rightGiven ∧
      leftAfter.ReadsLike rightAfter ∧
      ∀ line, leftGiven = .ok (some line) → rightAfter.depth ≤ leftAfter.depth := by
  have awaited := readsLike.awaited
  have failure : leftAfter.terminal.failure = rightAfter.terminal.failure := by
    rw [leftReads.failure_eq, rightReads.failure_eq, readsLike.failure]
  rcases leftReads.awaited_eq with
    ⟨leftNext, leftGives, leftDepth, leftAwaits⟩ | ⟨leftEnds, leftAwaits, leftRest⟩
  · rcases rightReads.awaited_eq with
      ⟨rightNext, rightGives, rightDepth, rightAwaits⟩ | ⟨_, rightAwaits, _⟩
    · rw [leftAwaits, rightAwaits, List.forall₂_cons] at awaited
      rcases awaited with ⟨⟨sameGiven, shallower⟩, restAwaited⟩
      refine ⟨?_, ⟨restAwaited, failure⟩, ?_⟩
      · rw [leftGives, rightGives, sameGiven]
      · intro line _
        rw [← leftDepth, ← rightDepth]
        exact shallower
    · rw [leftAwaits, rightAwaits] at awaited
      cases awaited
  · rcases rightReads.awaited_eq with ⟨_, _, _, rightAwaits⟩ | ⟨rightEnds, _, rightRest⟩
    · rw [leftAwaits, rightAwaits] at awaited
      cases awaited
    · refine ⟨?_, ⟨?_, failure⟩, ?_⟩
      · rw [leftEnds, rightEnds, givenAtEnd, givenAtEnd, readsLike.failure]
      · rw [leftRest, rightRest]
        exact .nil
      · intro line isLine
        rw [leftEnds, givenAtEnd] at isLine
        split at isLine <;> cases isLine

theorem ReadsLike.push
    {left right : InputStack}
    (readsLike : left.ReadsLike right)
    (shallower : right.depth ≤ left.depth)
    (script : Source) :
    ReadsLike { left with scripts := script :: left.scripts }
      { right with scripts := script :: right.scripts } where
  awaited := by
    rw [awaited_push, awaited_push]
    exact List.rel_append (script.forall₂_awaited (Nat.succ_le_succ shallower)) readsLike.awaited
  failure := readsLike.failure

end InputStack

/-! ## Lines in place of a line -/

/-- The source with lines in place of the line that it hands out next. -/
def Source.replaceNext (lines : List String) (source : Source) : Source :=
  { source with pending := lines ++ source.pending.tail }

/-- The lines of a script are awaited where the line stood that pushes it. -/
theorem Source.awaited_replaceNext
    {source : Source}
    {line : String}
    {rest : List String}
    (pending : source.pending = line :: rest)
    (lines : List String)
    (depth : Nat) :
    (source.replaceNext lines).awaited depth =
      awaitedLines depth lines ++
        Source.awaited depth
          { source with pending := rest, delivered := source.delivered + 1 } := by
  simp only [awaited, replaceNext, pending, List.tail_cons, awaitedLines_append,
    List.append_assoc]

namespace InputStack

/-- The stack of the scripts on the terminal, with lines in place of the line that is read next. -/
def replaceNextFrom (lines : List String) (terminal : Source) : List Source → InputStack
  | [] => ⟨[], terminal.replaceNext lines⟩
  | script :: below =>
      if script.pending = [] then
        let replaced := replaceNextFrom lines terminal below
        { replaced with scripts := script :: replaced.scripts }
      else ⟨script.replaceNext lines :: below, terminal⟩

/-- The stack with lines in place of the line that is read next, in the source that has it. -/
def replaceNext (lines : List String) (stack : InputStack) : InputStack :=
  replaceNextFrom lines stack.terminal stack.scripts

/-- A script reads like its lines in place of the line that pushed it. -/
theorem Reads.readsLike_replaceNext
    {stack after : InputStack}
    {given : Except InputError (Option String)}
    (reads : stack.Reads given after)
    {line : String}
    (isLine : given = .ok (some line))
    {contents : Contents}
    (readable : contents.failure = none)
    (path : String) :
    ReadsLike { after with scripts := Source.ofContents path contents :: after.scripts }
      (stack.replaceNext contents.lines) := by
  have opened : ∀ depth,
      (Source.ofContents path contents).awaited depth = awaitedLines depth contents.lines := by
    intro depth
    simp [Source.awaited, Source.ofContents, readable]
  rw [replaceNext]
  induction reads with
  | @typed terminal _ rest pending =>
      refine ⟨?_, rfl⟩
      rw [awaited_push, opened]
      simp only [awaited, awaitedFrom, replaceNextFrom, Source.replaceNext, pending,
        List.tail_cons, List.nil_append, awaitedLines_append]
      exact List.rel_append (forall₂_awaitedLines contents.lines (Nat.zero_le _))
        (forall₂_awaitedLines rest (Nat.le_refl 0))
  | @line script below terminal _ rest pending =>
      rw [replaceNextFrom, if_neg (by simp [pending])]
      refine ⟨?_, rfl⟩
      -- The lines of the script are read one level higher than in place of the line.
      rw [awaited_push, awaited_push, awaited_push, opened,
        Source.awaited_replaceNext pending, List.append_assoc]
      exact List.rel_append (forall₂_awaitedLines contents.lines (Nat.le_succ _))
        (List.forall₂_same.2 fun _ _ => ⟨rfl, Nat.le_refl _⟩)
  | @exhausted script below terminal _ _ pending failure _ belowHypothesis =>
      have readsLike := belowHypothesis isLine
      rw [replaceNextFrom, if_pos pending]
      refine ⟨?_, readsLike.failure⟩
      rw [awaited_push script, script.awaited_of_exhausted pending failure]
      exact readsLike.awaited
  | ended =>
      cases isLine
  | terminalFailed =>
      cases isLine
  | failed =>
      cases isLine

end InputStack

/-! ## Sessions side by side -/

/-- The report without the name of its source and the number of its line. -/
def Report.withoutPlace : Report → Report
  | .located source diagnostic => .located { text := source.text } diagnostic
  | .failure error => .failure error

theorem map_withoutPlace_located
    (input : InputStack)
    (line : String)
    (diagnostics : List Diagnostic) :
    (diagnostics.map (Report.located (input.sourceLine line))).map Report.withoutPlace =
      diagnostics.map (Report.located { text := line }) :=
  List.map_map

/-- The transcripts are the same, apart from the places of diagnostics. -/
structure Transcript.Alike (left right : Transcript) : Prop where
  output : left.output = right.output
  reports : left.reports.map Report.withoutPlace = right.reports.map Report.withoutPlace

theorem Transcript.Alike.refl
    (transcript : Transcript) :
    transcript.Alike transcript :=
  ⟨rfl, rfl⟩

/-- The same diagnostics at different places are alike. -/
theorem Transcript.Alike.of_diagnostics
    (output : List Text.Styled)
    (diagnostics : List Diagnostic)
    (line : String)
    (left right : InputStack) :
    Transcript.Alike
      ⟨output, diagnostics.map (Report.located (left.sourceLine line))⟩
      ⟨output, diagnostics.map (Report.located (right.sourceLine line))⟩ :=
  ⟨rfl, by rw [map_withoutPlace_located, map_withoutPlace_located]⟩

theorem Transcript.Alike.append
    {left right leftMore rightMore : Transcript}
    (alike : left.Alike right)
    (moreAlike : leftMore.Alike rightMore) :
    (left ++ leftMore).Alike (right ++ rightMore) where
  output := by
    rw [output_append, output_append, alike.output, moreAlike.output]
  reports := by
    rw [reports_append, reports_append, List.map_append, List.map_append, alike.reports,
      moreAlike.reports]

/-- The sessions differ in their stacks only, and the second stack reads like the first. -/
structure Session.Alike (left right : Session) : Prop where
  others : right = { left with input := right.input }
  input : left.input.ReadsLike right.input

/-- The runs ended alike, in sessions that are alike, and have shown the same. -/
structure RunResult.Alike (left right : RunResult) : Prop where
  ending : left.ending = right.ending
  session : left.session.Alike right.session
  transcript : left.transcript.Alike right.transcript

namespace Session

/-- A line does the same in both sessions, unless it asks the first one for too much. -/
theorem Alike.execute
    {opener : Opener}
    {left right : Session}
    (alike : left.Alike right)
    (shallower : right.input.depth ≤ left.input.depth)
    {line : String}
    (room : ∀ path, left.requestedScript? line = some path →
      left.input.redirect opener path ≠ .error .tooDeep) :
    (left.execute opener line).result.Alike (right.execute opener line).result := by
  rcases alike with ⟨others, readsLike⟩
  -- The second session is the first one on another stack.
  generalize right.input = input at others readsLike shallower
  subst others
  cases asked : left.requestedScript? line with
  | none =>
      rcases exists_execute_of_none opener asked with ⟨effect, executed⟩
      have leftExecuted : left.execute opener line = effect.step line left.input :=
        executed left.input
      rw [leftExecuted, executed input]
      exact ⟨rfl, ⟨rfl, readsLike⟩, .of_diagnostics _ _ _ _ _⟩
  | some path =>
      rcases exists_execute_of_some opener asked with ⟨diagnostics, column, executed⟩
      have leftRoom : left.input.depth < stackLimit := by
        rw [← Nat.not_le]
        intro full
        exact room path asked (InputStack.redirect_of_full opener path full)
      have rightRoom : input.depth < stackLimit := Nat.lt_of_le_of_lt shallower leftRoom
      have leftExecuted := executed left.input
      have rightExecuted := executed input
      rw [InputStack.redirect_of_room opener path leftRoom] at leftExecuted
      rw [InputStack.redirect_of_room opener path rightRoom] at rightExecuted
      cases opened : opener path with
      | error failure =>
          rw [opened] at leftExecuted rightExecuted
          rw [leftExecuted, rightExecuted]
          exact ⟨rfl, ⟨rfl, readsLike⟩, .of_diagnostics _ _ _ _ _⟩
      | ok contents =>
          rw [opened] at leftExecuted rightExecuted
          rw [leftExecuted, rightExecuted]
          exact ⟨rfl, ⟨rfl, readsLike.push shallower _⟩, .of_diagnostics _ _ _ _ _⟩

/-- The line that is read next asks for a script, but the stack is full. -/
def AsksTooDeep (opener : Opener) (session : Session) : Prop :=
  ∃ line input path,
    session.input.readLine = (.ok (some line), input) ∧
      session.requestedScript? line = some path ∧
      input.redirect opener path = .error .tooDeep

/-- No line of the run asks for a script when the stack is full. -/
def NeverTooDeep (opener : Opener) (session : Session) : Prop :=
  ∀ reads,
    (session.runFor opener reads).ending = none →
      ¬ (session.runFor opener reads).session.AsksTooDeep opener

/-- A run that never asks too deeply does not do so behind its first turn. -/
theorem NeverTooDeep.turn
    {opener : Opener}
    {session : Session}
    (never : session.NeverTooDeep opener)
    (goesOn : (session.turn opener).ending = none) :
    (session.turn opener).session.NeverTooDeep opener := by
  intro reads
  have later := never (reads + 1)
  rw [runFor_succ, RunResult.continued_of_none goesOn] at later
  exact later

/-- Where there is room for the script that is asked for, alike sessions have alike turns. -/
theorem Alike.turn
    {opener : Opener}
    {left right : Session}
    (alike : left.Alike right)
    (room : ¬ left.AsksTooDeep opener) :
    (left.turn opener).Alike (right.turn opener) := by
  rcases leftRead : left.input.readLine with ⟨given, leftAfter⟩
  rcases rightRead : right.input.readLine with ⟨rightGiven, rightAfter⟩
  rcases alike.input.of_reads (.of_readLine leftRead) (.of_readLine rightRead) with
    ⟨rfl, readsLike, shallower⟩
  have after :
      Alike { left with input := leftAfter } { right with input := rightAfter } := by
    refine ⟨?_, readsLike⟩
    rw [alike.others]
  unfold Session.turn
  rw [leftRead, rightRead]
  rcases given with error | _ | line
  · exact ⟨rfl, after, .refl _⟩
  · exact ⟨rfl, after, .refl _⟩
  · apply after.execute (shallower line rfl)
    intro path asked full
    exact room ⟨line, leftAfter, path, leftRead, asked, full⟩

/-- Sessions that are alike go through the same turns. -/
theorem Alike.runFor
    {opener : Opener}
    {left right : Session}
    (alike : left.Alike right)
    (never : left.NeverTooDeep opener)
    (reads : Nat) :
    (left.runFor opener reads).Alike (right.runFor opener reads) := by
  induction reads generalizing left right with
  | zero =>
      exact ⟨rfl, alike, .refl _⟩
  | succ reads readsHypothesis =>
      have turnAlike := alike.turn (never 0 rfl)
      rw [runFor_succ, runFor_succ]
      cases ended : (left.turn opener).ending with
      | some ending =>
          rw [RunResult.continued_of_ending ended,
            RunResult.continued_of_ending (turnAlike.ending.symm.trans ended)]
          exact turnAlike
      | none =>
          rw [RunResult.continued_of_none ended,
            RunResult.continued_of_none (turnAlike.ending.symm.trans ended)]
          have restAlike := readsHypothesis turnAlike.session (never.turn ended)
          exact ⟨restAlike.ending, restAlike.session,
            turnAlike.transcript.append restAlike.transcript⟩

/-! ## A full stack is seen -/

/-- A line that asks too deeply is reported, and the run goes on. -/
theorem AsksTooDeep.exists_report
    {opener : Opener}
    {session : Session}
    (asks : session.AsksTooDeep opener) :
    (session.turn opener).ending = none ∧
      ∃ source column,
        Report.located source ⟨InputError.tooDeep.message, column⟩ ∈
          (session.turn opener).transcript.reports := by
  rcases asks with ⟨line, input, path, read, asked, full⟩
  rcases exists_execute_of_some opener asked with ⟨diagnostics, column, executed⟩
  have lineExecuted := executed input
  rw [full] at lineExecuted
  unfold turn
  rw [read]
  simp only [lineExecuted]
  refine ⟨rfl, input.sourceLine line, column, ?_⟩
  exact List.mem_map_of_mem (List.mem_append_right _ (List.mem_singleton_self _))

/-- A run that ended and reported no full stack never met one. -/
theorem NeverTooDeep.of_reports
    {opener : Opener}
    {session : Session}
    {reads : Nat}
    {ending : Ending}
    (ended : (session.runFor opener reads).ending = some ending)
    (absent : ∀ source column,
      Report.located source ⟨InputError.tooDeep.message, column⟩ ∉
        (session.runFor opener reads).transcript.reports) :
    session.NeverTooDeep opener := by
  induction reads generalizing session with
  | zero =>
      cases ended
  | succ reads readsHypothesis =>
      intro count goesOn asks
      rw [runFor_succ] at ended absent
      cases turnEnding : (session.turn opener).ending with
      | some _ =>
          cases count with
          | zero =>
              cases asks.exists_report.1.symm.trans turnEnding
          | succ count =>
              rw [runFor_succ, RunResult.continued_of_ending turnEnding, turnEnding] at goesOn
              cases goesOn
      | none =>
          rw [RunResult.continued_of_none turnEnding] at ended absent
          cases count with
          | zero =>
              rcases asks.exists_report with ⟨_, source, column, reported⟩
              exact absent source column (List.mem_append_left _ reported)
          | succ count =>
              have later : (session.turn opener).session.NeverTooDeep opener := by
                apply readsHypothesis ended
                intro source column reported
                exact absent source column (List.mem_append_right _ reported)
              rw [runFor_succ, RunResult.continued_of_none turnEnding] at goesOn asks
              exact later count goesOn asks

end Session

/-! ## Sourcing and typing -/

/-- The session in which lines wait in place of the line that is read next. -/
def Session.replaceNext (lines : List String) (session : Session) : Session :=
  { session with input := session.input.replaceNext lines }

/-- A line that pushes a script and reports nothing shows nothing. -/
theorem Session.turn_of_sourced
    {opener : Opener}
    {session : Session}
    {line path : String}
    {input : InputStack}
    {contents : Contents}
    (read : session.input.readLine = (.ok (some line), input))
    (asked : session.requestedScript? line = some path)
    (quiet : (execute opener { session with input := input } line).transcript.reports = [])
    (opened : opener path = .ok contents) :
    session.turn opener =
      ⟨none,
        { session with
          input :=
            { input with scripts := Source.ofContents path contents :: input.scripts } },
        {}⟩ := by
  rcases exists_execute_of_some opener asked with ⟨diagnostics, column, executed⟩
  have lineExecuted := executed input
  rw [lineExecuted] at quiet
  unfold turn
  rw [read]
  simp only [lineExecuted]
  rcases Nat.lt_or_ge input.depth stackLimit with room | full
  · rw [InputStack.redirect_of_room opener path room, opened] at quiet ⊢
    rw [List.map_eq_nil_iff.1 quiet]
    rfl
  · rw [InputStack.redirect_of_full opener path full] at quiet
    simp at quiet

/-- The runs end alike, leave the same variables, gave the same lines to the assembler, and show
the same apart from the places of diagnostics. -/
structure RunResult.Agrees (left right : RunResult) : Prop where
  ending : left.ending = right.ending
  bindings : left.session.bindings = right.session.bindings
  assembled : left.session.assembled = right.session.assembled
  transcript : left.transcript.Alike right.transcript

theorem RunResult.Alike.agrees
    {left right : RunResult}
    (alike : left.Alike right) :
    left.Agrees right where
  ending := alike.ending
  bindings := (congrArg Session.bindings alike.session.others).symm
  assembled := (congrArg Session.assembled alike.session.others).symm
  transcript := alike.transcript

/--
Let the next line of a session push a script and report nothing, let the script be
readable to its end, and let no line of the run find the stack full.  Then the run agrees
with the run in which the lines of the script wait in place of the line: read for read
behind the first read, and to the endings of both where the scripts are those of a file
system.
-/
theorem sourcing_is_typing
    (opener : Opener)
    (session : Session)
    (line path : String)
    (input : InputStack)
    (contents : Contents)
    (read : session.input.readLine = (.ok (some line), input))
    (asked : session.requestedScript? line = some path)
    (quiet :
      (Session.execute opener { session with input := input } line).transcript.reports = [])
    (opened : opener path = .ok contents)
    (readable : contents.failure = none)
    (never : session.NeverTooDeep opener) :
    (∀ reads,
      (session.runFor opener (reads + 1)).Agrees
        ((session.replaceNext contents.lines).runFor opener reads)) ∧
      ∀ fileSystem : FileSystem, fileSystem.opener = opener →
        (session.run fileSystem).Agrees ((session.replaceNext contents.lines).run fileSystem) := by
  have turn := Session.turn_of_sourced read asked quiet opened
  have goesOn : (session.turn opener).ending = none := by
    rw [turn]
  have neverAfter := never.turn goesOn
  rw [turn] at neverAfter
  have alike :
      Session.Alike
        { session with
          input := { input with scripts := Source.ofContents path contents :: input.scripts } }
        (session.replaceNext contents.lines) :=
    ⟨rfl, (InputStack.Reads.of_readLine read).readsLike_replaceNext rfl readable path⟩
  have sideBySide :
      ∀ reads,
        (session.runFor opener (reads + 1)).Agrees
          ((session.replaceNext contents.lines).runFor opener reads) := by
    intro reads
    rw [Session.runFor_succ, RunResult.continued_of_none goesOn, turn]
    exact (alike.runFor neverAfter reads).agrees
  refine ⟨sideBySide, ?_⟩
  rintro fileSystem rfl
  -- As many reads as the longer of the two bounds complete both runs.
  let reads :=
    max (session.input.readBound fileSystem.mostLines)
      ((session.replaceNext contents.lines).input.readBound fileSystem.mostLines)
  have sourced : session.runFor fileSystem.opener (reads + 1) = session.run fileSystem :=
    session.runFor_eq_run fileSystem (Nat.le_succ_of_le (Nat.le_max_left _ _))
  have typed :
      (session.replaceNext contents.lines).runFor fileSystem.opener reads =
        (session.replaceNext contents.lines).run fileSystem :=
    Session.runFor_eq_run fileSystem _ (Nat.le_max_right _ _)
  rw [← sourced, ← typed]
  exact sideBySide reads

/-- The script sets a variable, which the terminal prints, and has a line that is refused; the
refusal names the script in one run and the terminal in the other. -/
theorem sourcing_is_typing_of_variable :
    ∃ (fileSystem : FileSystem) (session : Session) (contents : Contents),
      session.input = { terminal := .terminal [":source f", ":print $x"] none } ∧
        fileSystem.opener "f" = .ok contents ∧
        contents.lines = [":set $x 7", "nop"] ∧
        (session.run fileSystem).Agrees ((session.replaceNext contents.lines).run fileSystem) := by
  let contents : Contents :=
    { bytes := [58, 115, 101, 116, 32, 36, 120, 32, 55, 10, 110, 111, 112, 10] }
  let fileSystem : FileSystem := ⟨[(["f"], .file contents.bytes)]⟩
  let session : Session :=
    { input := { terminal := .terminal [":source f", ":print $x"] none }
      assembler := .unsupported ⟨"none", "none"⟩ }
  let input : InputStack :=
    ⟨[], { Source.terminal [":print $x"] none with delivered := 1 }⟩
  have opened : fileSystem.opener "f" = .ok contents := rfl
  have read : session.input.readLine = (.ok (some ":source f"), input) := rfl
  have asked : session.requestedScript? ":source f" = some "f" := by decide +kernel
  have quiet :
      (Session.execute fileSystem.opener { session with input := input }
        ":source f").transcript.reports = [] := by
    decide +kernel
  have never : session.NeverTooDeep fileSystem.opener := by
    have ended : (session.runFor fileSystem.opener 5).ending = some .endOfInput := by
      decide +kernel
    have reported :
        (session.runFor fileSystem.opener 5).transcript.reports =
          [.located ⟨"f", 2, "nop"⟩ ⟨"no code generation backend for target `none`", 0⟩] := by
      decide +kernel
    apply Session.NeverTooDeep.of_reports ended
    rw [reported]
    intro source column member
    rw [List.mem_singleton, Report.located.injEq, Diagnostic.mk.injEq] at member
    exact absurd member.2.1 (by decide +kernel)
  refine ⟨fileSystem, session, contents, rfl, opened, by decide +kernel, ?_⟩
  exact (sourcing_is_typing fileSystem.opener session ":source f" "f" input contents read asked
    quiet opened rfl never).2 fileSystem rfl

end AsmShell
