import AsmShell.Proofs.Deliveries
import AsmShell.Proofs.PrintedValues

/-!
# Diagnostics name the line they are about

The place of a diagnostic is taken from the source that is active while a line is
executed.  Reading the line has made its source active, and has counted the line; what
the line pushes goes on top only afterwards, when the place is already taken.  Which
source delivers which line is told by the ledger of the run: a run does to its stack
nothing but reading and, for a line that asks for a script, pushing one.

A diagnostic is shown as a header with the place and the message, the line, and a caret
below it.  The line is the second line of the output as long as the header is one line;
a name or a message that holds a line feed is written out as it is.
-/

namespace AsmShell

open Text

/-! ## What a run does to its stack -/

theorem InputStack.makeAll_append
    (stack : InputStack)
    (moves others : List InputMove) :
    (stack.makeAll (moves ++ others)).2 = ((stack.makeAll moves).2.makeAll others).2 := by
  induction moves generalizing stack with
  | nil =>
      rfl
  | cons move moves movesHypothesis =>
      exact movesHypothesis (stack.make move).2

namespace Session

/-- What a line does to the stack: it may ask for a script. -/
def lineMoves (opener : Opener) (session : Session) (line : String) : List InputMove :=
  ((session.requestedScript? line).map (.redirect opener)).toList

/-- What a turn does to the stack: it reads, and executes a line that it has read. -/
def turnMoves (opener : Opener) (session : Session) : List InputMove :=
  match session.input.readLine with
  | (.ok (some line), _) => .read :: session.lineMoves opener line
  | _ => [.read]

/-- What the first turns of a run do to the stack. -/
def runMoves (opener : Opener) : (turns : Nat) → Session → List InputMove
  | 0, _ => []
  | turns + 1, session =>
      session.turnMoves opener ++
        match (session.turn opener).ending with
        | some _ => []
        | none => runMoves opener turns (session.turn opener).session

theorem input_execute
    (opener : Opener)
    (session : Session)
    (line : String) :
    (session.execute opener line).session.input =
      (session.input.makeAll (session.lineMoves opener line)).2 := by
  rw [lineMoves]
  cases asked : session.requestedScript? line with
  | none =>
      rcases exists_execute_of_none opener asked with ⟨effect, executed⟩
      rw [executed session.input]
      rfl
  | some path =>
      rcases exists_execute_of_some opener asked with ⟨diagnostics, column, executed⟩
      rw [executed session.input, Option.map_some, Option.toList_some, InputStack.makeAll,
        InputStack.make]
      cases session.input.redirect opener path <;> rfl

theorem input_turn
    (opener : Opener)
    (session : Session) :
    (session.turn opener).session.input =
      (session.input.makeAll (session.turnMoves opener)).2 := by
  rw [turn, turnMoves]
  rcases read : session.input.readLine with ⟨error | _ | line, input⟩
  · simp only [InputStack.makeAll, InputStack.make, read]
  · simp only [InputStack.makeAll, InputStack.make, read]
  · simp only [InputStack.makeAll, InputStack.make, read]
    exact input_execute opener { session with input := input } line

theorem input_runFor
    (opener : Opener)
    (turns : Nat)
    (session : Session) :
    (session.runFor opener turns).session.input =
      (session.input.makeAll (session.runMoves opener turns)).2 := by
  induction turns generalizing session with
  | zero =>
      rfl
  | succ turns turnsHypothesis =>
      rw [runFor_succ, runMoves, InputStack.makeAll_append, ← input_turn]
      cases ended : (session.turn opener).ending with
      | some ending =>
          rw [RunResult.continued_of_ending ended]
          rfl
      | none =>
          rw [RunResult.continued_of_none ended]
          exact turnsHypothesis (session.turn opener).session

/-! ## Where a line comes from -/

/-- All that a line reports is located in the line of the active source. -/
theorem exists_reports_execute
    (opener : Opener)
    (session : Session)
    (line : String) :
    ∃ diagnostics : List Diagnostic,
      (session.execute opener line).transcript.reports =
        diagnostics.map (Report.located (session.input.sourceLine line)) := by
  cases asked : session.requestedScript? line with
  | none =>
      rcases exists_execute_of_none opener asked with ⟨effect, executed⟩
      exact ⟨effect.diagnostics, by rw [executed session.input]; rfl⟩
  | some path =>
      rcases exists_execute_of_some opener asked with ⟨diagnostics, column, executed⟩
      rw [executed session.input]
      cases session.input.redirect opener path with
      | ok after => exact ⟨diagnostics, rfl⟩
      | error error => exact ⟨diagnostics ++ [⟨error.message, column⟩], rfl⟩

end Session

theorem Ledger.Delivers.line_eq
    {ledger after : Ledger}
    {source : OpenedSource}
    {line : String}
    (delivers : ledger.Delivers source line after) :
    source.lines[source.delivered.length]? = some line := by
  have first : source.undelivered.head? = some line := by
    cases delivers with
    | script _ undelivered => rw [undelivered, List.head?_cons]
    | terminal _ undelivered => rw [undelivered, List.head?_cons]
  rwa [OpenedSource.undelivered, List.head?_drop] at first

/-- The line of a turn comes from the source that delivers it, and all that the line reports is
located there. -/
theorem Ledger.Describes.exists_delivers
    {opener : Opener}
    {session : Session}
    {ledger : Ledger}
    (describes : ledger.Describes session.input)
    {line : String}
    {input : InputStack}
    (read : session.input.readLine = (.ok (some line), input)) :
    ∃ source after,
      ledger.Delivers source line after ∧
        ∀ report ∈ (session.turn opener).transcript.reports,
          ∃ diagnostic,
            report =
              .located ⟨source.name, source.delivered.length + 1, line⟩ diagnostic := by
  rcases describes.exists_reads read with ⟨after, _, fromActive, _⟩
  rcases fromActive line rfl with ⟨source, delivers, isActive⟩
  refine ⟨source, after, delivers, ?_⟩
  have place :
      input.sourceLine line = ⟨source.name, source.delivered.length + 1, line⟩ := by
    simp only [InputStack.sourceLine, isActive, OpenedSource.onStack, OpenedSource.deliver,
      List.length_append, List.length_singleton]
  rcases Session.exists_reports_execute opener { session with input := input } line with
    ⟨diagnostics, reported⟩
  rw [Session.turn, read]
  simp only [Step.result, reported, place]
  intro report member
  rcases List.mem_map.1 member with ⟨diagnostic, _, rfl⟩
  exact ⟨diagnostic, rfl⟩

/-! ## The turns of a run -/

/-- What a turn without a line reports is about no line. -/
theorem Session.exists_line_of_located
    {opener : Opener}
    {session : Session}
    {place : SourceLine}
    {diagnostic : Diagnostic}
    (reported : .located place diagnostic ∈ (session.turn opener).transcript.reports) :
    ∃ line input, session.input.readLine = (.ok (some line), input) := by
  rw [Session.turn] at reported
  rcases read : session.input.readLine with ⟨error | _ | line, input⟩
  · rw [read] at reported
    cases error <;> simp [InputError.transcript] at reported
  · rw [read] at reported
    simp at reported
  · exact ⟨line, input, rfl⟩

/-- What a run reports was reported in one of its turns. -/
theorem Session.exists_turn_of_mem_reports
    {opener : Opener}
    {reads : Nat}
    {session : Session}
    {report : Report}
    (reported : report ∈ (session.runFor opener reads).transcript.reports) :
    ∃ count < reads,
      (session.runFor opener count).ending = none ∧
        report ∈ ((session.runFor opener count).session.turn opener).transcript.reports := by
  induction reads generalizing session with
  | zero =>
      cases reported
  | succ reads readsHypothesis =>
      rw [runFor_succ] at reported
      cases ended : (session.turn opener).ending with
      | some ending =>
          rw [RunResult.continued_of_ending ended] at reported
          exact ⟨0, Nat.succ_pos reads, rfl, reported⟩
      | none =>
          rw [RunResult.continued_of_none ended] at reported
          rcases List.mem_append.1 reported with inTurn | inRest
          · exact ⟨0, Nat.succ_pos reads, rfl, inTurn⟩
          · rcases readsHypothesis inRest with ⟨count, fewer, goesOn, inLater⟩
            refine ⟨count + 1, Nat.succ_lt_succ fewer, ?_⟩
            rw [runFor_succ, RunResult.continued_of_none ended]
            exact ⟨goesOn, inLater⟩

/-! ## How a diagnostic is shown -/

namespace Text

/-- The line of an output behind its first line feed. -/
def secondLine (output : String) : String :=
  String.ofList ((output.toList.dropWhile (· != '\n')).tail.takeWhile (· != '\n'))

theorem secondLine_append
    {first line : String}
    (firstPlain : '\n' ∉ first.toList)
    (linePlain : '\n' ∉ line.toList)
    (rest : String) :
    secondLine (first ++ "\n" ++ line ++ "\n" ++ rest) = line := by
  have others {text : String} (plain : '\n' ∉ text.toList) :
      ∀ character ∈ text.toList, (character != '\n') = true := by
    intro character member
    rw [bne_iff_ne]
    rintro rfl
    exact plain member
  simp only [secondLine, String.toList_append, List.append_assoc]
  rw [List.dropWhile_append_of_pos (others firstPlain)]
  show String.ofList ((line.toList ++ ('\n' :: rest.toList)).takeWhile (· != '\n')) = line
  rw [List.takeWhile_append_of_pos (others linePlain)]
  simp

theorem Styled.toList_render
    (colored : Bool)
    (styled : Styled) :
    (styled.render colored).toList = styled.flatMap (Segment.render colored) :=
  String.toList_ofList

/-- Where the style begins again inside a text, its own sequences are written. -/
theorem Style.mem_resumed
    {opening text : List Char}
    {character : Char}
    (member : character ∈ Style.resumed opening text) :
    character ∈ text ∨ character ∈ opening ∨ character ∈ Style.reset := by
  fun_induction Style.resumed opening text with
  | case1 rest restHypothesis =>
      simp only [List.mem_append, List.mem_cons] at member ⊢
      rcases member with (inReset | inOpening) | inRest
      · exact .inr (.inr inReset)
      · exact .inr (.inl inOpening)
      · rcases restHypothesis inRest with inRest | others
        · simp [inRest]
        · exact .inr others
  | case2 first rest _ restHypothesis =>
      rcases List.mem_cons.1 member with rfl | inRest
      · exact .inl List.mem_cons_self
      · exact (restHypothesis inRest).imp_left (List.mem_cons_of_mem _)
  | case3 =>
      cases member

/-- No line feed is added to a segment by its style. -/
theorem Segment.lineFeed_not_mem_render
    {segment : Segment}
    (plain : '\n' ∉ segment.text.toList)
    (styled : ∀ style ∈ segment.style, '\n' ∉ style.opening)
    (colored : Bool) :
    '\n' ∉ segment.render colored := by
  rw [render]
  cases isStyled : segment.style with
  | none =>
      exact plain
  | some style =>
      have opening := styled style isStyled
      have reset : '\n' ∉ Style.reset := by decide
      cases colored with
      | false =>
          exact plain
      | true =>
          simp only [if_true, List.mem_append, not_or]
          refine ⟨⟨opening, ?_⟩, reset⟩
          intro member
          rcases Style.mem_resumed member with inText | inOpening | inReset
          · exact plain inText
          · exact opening inOpening
          · exact reset inReset

end Text

namespace Diagnostic

variable
    (source : SourceLine)
    (diagnostic : Diagnostic)

/-- What is shown in front of the line: the place and the message. -/
def header : Styled :=
  [{ text :=
      source.name ++ ":" ++ toString source.number ++ ":" ++
        toString (diagnostic.column + 1) ++ ":"
     style := some emphasis },
   { text := " " },
   { text := "error:", style := some errorLabel },
   { text := " " },
   { text := diagnostic.message, style := some emphasis }]

/-- What is shown below the line. -/
def caretLine : Styled :=
  [{ text := String.ofList (caretPadding source.text diagnostic.column) },
   { text := "^", style := some caret },
   { text := "\n" }]

/-- The line stands between the header and the caret. -/
theorem render_shown
    (colored : Bool) :
    (diagnostic.shown source).render colored =
      (diagnostic.header source).render colored ++ "\n" ++ source.text ++ "\n" ++
        (diagnostic.caretLine source).render colored := by
  apply String.toList_injective
  simp only [String.toList_append, Styled.toList_render, shown, header, caretLine,
    List.flatMap_cons, List.flatMap_nil, Segment.render, List.append_assoc, List.append_nil]

/-- Written without its styles, what is shown is the plain text. -/
theorem render_shown_false :
    (diagnostic.shown source).render false = diagnostic.plainText source := by
  apply String.toList_injective
  simp [shown, plainText, Styled.toList_render, Segment.render]

theorem lineFeed_not_mem_toDigits
    (number : Nat) :
    '\n' ∉ Nat.toDigits 10 number := by
  intro member
  exact absurd (isDigit_of_mem_toDigits member) (by decide)

/-- The header is one line unless the name or the message has more. -/
theorem lineFeed_not_mem_header
    (namePlain : '\n' ∉ source.name.toList)
    (messagePlain : '\n' ∉ diagnostic.message.toList)
    (colored : Bool) :
    '\n' ∉ ((diagnostic.header source).render colored).toList := by
  have emphasisPlain : '\n' ∉ emphasis.opening := by decide
  have errorLabelPlain : '\n' ∉ errorLabel.opening := by decide
  rw [Styled.toList_render, List.mem_flatMap]
  rintro ⟨segment, member, inSegment⟩
  refine Segment.lineFeed_not_mem_render ?_ ?_ colored inSegment
  · simp only [header, List.mem_cons, List.not_mem_nil, or_false] at member
    rcases member with rfl | rfl | rfl | rfl | rfl
    · simp [namePlain, lineFeed_not_mem_toDigits]
    · decide
    · decide
    · decide
    · exact messagePlain
  · simp only [header, List.mem_cons, List.not_mem_nil, or_false] at member
    rcases member with rfl | rfl | rfl | rfl | rfl <;> simp [emphasisPlain, errorLabelPlain]

end Diagnostic

theorem render_shownError_false
    (message : String) :
    (shownError message).render false = "error: " ++ message ++ "\n" := by
  apply String.toList_injective
  simp [shownError, Styled.toList_render, Segment.render]

namespace Report

/-- The text of a report is what is shown, with its styles only where colors are used and
written. -/
theorem text_eq_render
    (useColor colored : Bool)
    (report : Report) :
    report.text useColor colored = report.shown.render (useColor && colored) := by
  cases useColor with
  | true =>
      cases report <;> rfl
  | false =>
      cases report with
      | located source diagnostic => exact (diagnostic.render_shown_false source).symm
      | failure error => exact (render_shownError_false error.message).symm

/-- A session that uses colors reports the same as one that does not, where these are not written
as codes. -/
theorem text_false
    (useColor : Bool)
    (report : Report) :
    report.text useColor false = report.text false false := by
  rw [text_eq_render, text_eq_render, Bool.and_false, Bool.and_false]

/-- A session that uses no colors writes no codes. -/
theorem text_without_colors
    (colored : Bool)
    (report : Report) :
    report.text false colored = report.text false false := by
  rw [text_eq_render, text_eq_render, Bool.false_and, Bool.false_and]

end Report

/-! ## What a sink is left with -/

/-- A sink that keeps diagnostics gives away all that was reported since they were last taken. -/
theorem CollectingSink.take_foldl_report
    (kept reported : List Diagnostic) :
    (reported.foldl report ⟨kept⟩).take = (kept ++ reported, {}) := by
  induction reported generalizing kept with
  | nil =>
      rw [List.append_nil]
      rfl
  | cons diagnostic others othersHypothesis =>
      rw [List.foldl_cons, report, othersHypothesis, List.append_assoc, List.singleton_append]

namespace ConsoleSink

variable
    (colored : Bool)
    (sink : ConsoleSink)

/-- Told the line of each report, a sink writes the stream of the reports. -/
theorem written_foldl_write
    (transcript : Transcript) :
    (transcript.reports.foldl (write colored) sink).written =
      sink.written ++ transcript.errorStream sink.useColor colored := by
  rw [Transcript.errorStream]
  induction transcript.reports generalizing sink with
  | nil =>
      rw [List.map_nil, String.join_nil, String.append_empty]
      rfl
  | cons report others othersHypothesis =>
      rw [List.foldl_cons, othersHypothesis, List.map_cons, String.join_cons,
        ← String.append_assoc]
      cases report <;> rfl

/-- A sink need not be told again the line that it writes against. -/
theorem foldl_write_located
    (source : SourceLine)
    (diagnostics : List Diagnostic) :
    (diagnostics.map (Report.located source)).foldl (write colored) (sink.setSource source) =
      diagnostics.foldl (report colored) (sink.setSource source) := by
  induction diagnostics generalizing sink with
  | nil =>
      rfl
  | cons diagnostic others othersHypothesis =>
      exact othersHypothesis (sink.emit (diagnostic.text sink.useColor colored source))

end ConsoleSink

/-- A sink that is told a line once, before the line is executed, and then each of its diagnostics
has written what the line writes to the stream of reports. -/
theorem Session.exists_written_execute
    (opener : Opener)
    (session : Session)
    (line : String)
    (colored : Bool)
    (sink : ConsoleSink) :
    ∃ diagnostics : List Diagnostic,
      (session.execute opener line).transcript.reports =
          diagnostics.map (Report.located (session.input.sourceLine line)) ∧
        (diagnostics.foldl (ConsoleSink.report colored)
            (sink.setSource (session.input.sourceLine line))).written =
          sink.written ++
            (session.execute opener line).transcript.errorStream sink.useColor colored := by
  rcases session.exists_reports_execute opener line with ⟨diagnostics, reported⟩
  refine ⟨diagnostics, reported, ?_⟩
  rw [← ConsoleSink.foldl_write_located, ← reported]
  exact ConsoleSink.written_foldl_write colored _ _

/-! ## Places of diagnostics -/

/-- A source that was found on a stack, with lines of which nothing is known in place of those
that were delivered before. -/
def OpenedSource.found (source : Source) : OpenedSource where
  name := source.name
  lines := List.replicate source.delivered "" ++ source.pending
  failure := source.failure
  delivered := List.replicate source.delivered ""

theorem OpenedSource.onStack_found
    (source : Source) :
    (found source).onStack = source := by
  simp [onStack, undelivered, found]

/-- Every stack is described by a ledger. -/
theorem Ledger.exists_describes
    (stack : InputStack) :
    ∃ ledger : Ledger, ledger.Describes stack := by
  refine ⟨⟨stack.scripts.map .found, .found stack.terminal⟩, ?_, ?_, ?_⟩
  · show Stacked (stack.scripts.map .found) stack.scripts
    induction stack.scripts with
    | nil =>
        exact .none
    | cons script below belowHypothesis =>
        have kept :
            Stacked (.found script :: below.map .found)
              ((OpenedSource.found script).onStack :: below) :=
          .kept rfl belowHypothesis
        rwa [OpenedSource.onStack_found] at kept
  · exact (OpenedSource.onStack_found _).symm
  · have inOrder (source : Source) :
        (OpenedSource.found source).delivered <+: (OpenedSource.found source).lines :=
      List.prefix_append _ _
    exact List.forall_mem_cons.2 ⟨inOrder _, List.forall_mem_map.2 fun source _ => inOrder source⟩

/--
The stack of every session is described by a ledger.  Whenever a run of the session reads
a line, the line is one that the ledger delivers from a source, and everything reported
while the line is executed names that source and the number of the line among all lines of
the source, and is written with the text of the line right behind its header, in a
session that uses colors as in one that uses none; that is the second line of the output
unless the name, the message or the line itself holds a line feed.  Everything that a run
reports about a line is reported in such a turn.
-/
theorem diagnostics_name_their_line
    (opener : Opener)
    (session : Session) :
    (∃ ledger : Ledger, ledger.Describes session.input) ∧
      (∀ (ledger : Ledger) count line input,
        ledger.Describes session.input →
        (session.runFor opener count).ending = none →
        (session.runFor opener count).session.input.readLine = (.ok (some line), input) →
        ∃ earlier source after,
          ledger.MakesAll (session.runMoves opener count)
              (session.input.makeAll (session.runMoves opener count)).1 earlier ∧
            earlier.Delivers source line after ∧
            source.lines[source.delivered.length]? = some line ∧
            ∀ report ∈ ((session.runFor opener count).session.turn opener).transcript.reports,
              ∃ (place : SourceLine) (diagnostic : Diagnostic),
                place = ⟨source.name, source.delivered.length + 1, line⟩ ∧
                  report = .located place diagnostic ∧
                  ∀ colored,
                    report.text session.useColor colored =
                        (diagnostic.header place).render (session.useColor && colored) ++ "\n" ++
                          line ++ "\n" ++
                          (diagnostic.caretLine place).render (session.useColor && colored) ∧
                      ('\n' ∉ source.name.toList → '\n' ∉ diagnostic.message.toList →
                        '\n' ∉ line.toList →
                        secondLine (report.text session.useColor colored) = line)) ∧
      ∀ reads place diagnostic,
        .located place diagnostic ∈ (session.runFor opener reads).transcript.reports →
          ∃ count < reads,
            (session.runFor opener count).ending = none ∧
              (∃ line input,
                (session.runFor opener count).session.input.readLine =
                  (.ok (some line), input)) ∧
              .located place diagnostic ∈
                ((session.runFor opener count).session.turn opener).transcript.reports := by
  refine ⟨Ledger.exists_describes _, ?_, ?_⟩
  · intro ledger count line input describes _ read
    rcases describes.exists_makesAll (session.runMoves opener count) with
      ⟨earlier, makesAll, earlierDescribes⟩
    rw [← Session.input_runFor] at earlierDescribes
    rcases earlierDescribes.exists_delivers read with ⟨source, after, delivers, reported⟩
    refine ⟨earlier, source, after, makesAll, delivers, delivers.line_eq, ?_⟩
    intro report member
    rcases reported report member with ⟨diagnostic, rfl⟩
    refine ⟨_, diagnostic, rfl, rfl, ?_⟩
    intro colored
    have shown := diagnostic.render_shown
      ⟨source.name, source.delivered.length + 1, line⟩ (session.useColor && colored)
    rw [Report.text_eq_render, Report.shown, shown]
    refine ⟨rfl, ?_⟩
    intro namePlain messagePlain linePlain
    exact secondLine_append
      (diagnostic.lineFeed_not_mem_header _ namePlain messagePlain _) linePlain _
  · intro reads place diagnostic reported
    rcases Session.exists_turn_of_mem_reports reported with ⟨count, fewer, goesOn, inTurn⟩
    exact ⟨count, fewer, goesOn, Session.exists_line_of_located inTurn, inTurn⟩

/-- A line at the terminal pushes a script although part of it is refused; the refusal names the
terminal, and the only line of the script names the script. -/
theorem diagnostics_name_their_line_of_sourced :
    ∃ (fileSystem : FileSystem) (session : Session),
      session.input = { terminal := .terminal [":source s )"] none } ∧
        (session.run fileSystem).transcript.reports =
          [.located ⟨"<stdin>", 1, ":source s )"⟩ ⟨"unmatched parentheses", 10⟩,
            .located ⟨"s", 1, "nop"⟩ ⟨"no code generation backend for target `none`", 0⟩] ∧
        ∃ earlier source after,
          Ledger.MakesAll ⟨[], .ofTerminal [":source s )"] none⟩
              (session.runMoves fileSystem.opener 1)
              (session.input.makeAll (session.runMoves fileSystem.opener 1)).1 earlier ∧
            earlier.Delivers source "nop" after ∧
            ∀ report ∈
              ((session.runFor fileSystem.opener 1).session.turn
                fileSystem.opener).transcript.reports,
              ∃ (place : SourceLine) (diagnostic : Diagnostic),
                place = ⟨source.name, source.delivered.length + 1, "nop"⟩ ∧
                  report = .located place diagnostic ∧
                  report.text session.useColor true =
                    (diagnostic.header place).render false ++ "\n" ++ "nop" ++ "\n" ++
                      (diagnostic.caretLine place).render false := by
  let fileSystem : FileSystem := ⟨[(["s"], .file [110, 111, 112])]⟩
  let session : Session :=
    { input := { terminal := .terminal [":source s )"] none }
      assembler := .unsupported ⟨"none", "none"⟩
      useColor := false }
  have goesOn : (session.runFor fileSystem.opener 1).ending = none := by
    decide +kernel
  have pushed :
      (session.runFor fileSystem.opener 1).session.input =
        ⟨[⟨"s", ["nop"], none, 0⟩], { Source.terminal [] none with delivered := 1 }⟩ := by
    decide +kernel
  have read :
      (session.runFor fileSystem.opener 1).session.input.readLine =
        (.ok (some "nop"),
          ⟨[⟨"s", [], none, 1⟩], { Source.terminal [] none with delivered := 1 }⟩) := by
    rw [pushed]
    rfl
  have described :
      Ledger.Describes ⟨[], .ofTerminal [":source s )"] none⟩ session.input :=
    ⟨.none, rfl, List.forall_mem_cons.2 ⟨List.nil_prefix, by simp⟩⟩
  rcases (diagnostics_name_their_line fileSystem.opener session).2.1 _ 1 "nop" _ described
      goesOn read with
    ⟨earlier, source, after, makesAll, delivers, _, reported⟩
  refine ⟨fileSystem, session, rfl, by decide +kernel, earlier, source, after, makesAll,
    delivers, ?_⟩
  intro report member
  rcases reported report member with ⟨place, diagnostic, isPlace, located, written⟩
  exact ⟨place, diagnostic, isPlace, located, (written true).1⟩

/-- A path with a line feed makes the header two lines long, so the second line of the output is
not the line that is reported. -/
theorem message_with_line_feed_displaces_line :
    ∃ session : Session,
      session.input = { terminal := .terminal [":source \"a\\nb\""] none } ∧
        ∃ diagnostic,
          (session.run {}).transcript.reports =
              [.located ⟨"<stdin>", 1, ":source \"a\\nb\""⟩ diagnostic] ∧
            secondLine ((session.run {}).transcript.errorStream session.useColor true) ≠
              ":source \"a\\nb\"" := by
  let session : Session :=
    { input := { terminal := .terminal [":source \"a\\nb\""] none }
      assembler := .unsupported ⟨"none", "none"⟩
      useColor := false }
  refine ⟨session, rfl,
    ⟨"could not open file `a\nb`: No such file or directory (os error 2)", 8⟩, ?_, ?_⟩
  · decide +kernel
  · decide +kernel

end AsmShell
