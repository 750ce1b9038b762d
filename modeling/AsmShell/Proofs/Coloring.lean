import AsmShell.Proofs.EscapeFreeSessions

/-!
# Color changes nothing but the styling

Two sessions that differ only in whether they use colors are given the same calls.  The
choice is read where the list of commands, the banner and the reports are written and
nowhere else, so both sessions answer alike, keep the same variables, report the same
and say the same in their output; only the styles differ.  Where styles are not written
as codes, the texts are therefore the same.  Where they are and no escape comes from
outside, what the codes stand around has no escape, so deleting them leaves the text of
the session that uses no colors.
-/

namespace AsmShell

open Text

/-! ## Calls -/

/-- Something that is done to a session from outside: a script is pushed, as each script is with
which a session is opened, lines are read until the run ends, or one line is executed. -/
inductive SessionCall where
  | push (fileSystem : FileSystem) (path : String)
  | run (fileSystem : FileSystem)
  | execute (fileSystem : FileSystem) (line : String)

/-- What a call answers. -/
inductive CallAnswer where
  | pushed (error : Option InputError)
  | ended (ending : Option Ending)
  | executed (flow : Flow)

/-- What a call leads to. -/
structure CallOutcome where
  answer : CallAnswer
  session : Session
  transcript : Transcript

/-- What calls lead to, one after the other. -/
structure CallHistory where
  /-- What each call answered, and the variables after it. -/
  answers : List (CallAnswer × Bindings)
  session : Session
  transcript : Transcript

namespace Session

/-- What a call leads to.  A session that is not quiet shows its banner when it is run. -/
def call (quiet : Bool) (session : Session) : SessionCall → CallOutcome
  | .push fileSystem path =>
      match session.input.redirect fileSystem.opener path with
      | .ok input => ⟨.pushed none, { session with input := input }, {}⟩
      | .error error => ⟨.pushed (some error), session, { reports := [.failure error] }⟩
  | .run fileSystem =>
      let result := (session.run fileSystem).after (Program.greeting quiet session)
      ⟨.ended result.ending, result.session, result.transcript⟩
  | .execute fileSystem line =>
      let step := session.execute fileSystem.opener line
      ⟨.executed step.flow, step.session, step.transcript⟩

/-- What calls lead to, one after the other. -/
def callAll (quiet : Bool) : Session → List SessionCall → CallHistory
  | session, [] => ⟨[], session, {}⟩
  | session, call :: calls =>
      let first := session.call quiet call
      let rest := callAll quiet first.session calls
      { rest with
        answers := (first.answer, first.session.bindings) :: rest.answers
        transcript := first.transcript ++ rest.transcript }

/-- The session with the choice whether it uses colors. -/
def withColor (session : Session) (useColor : Bool) : Session :=
  { session with useColor := useColor }

end Session

/-! ## What is said -/

/-- Both say the same in their outputs and report the same. -/
structure Transcript.SaysLike (first second : Transcript) : Prop where
  output : first.output.map (Styled.render false) = second.output.map (Styled.render false)
  reports : first.reports = second.reports

namespace Transcript.SaysLike

theorem refl
    (transcript : Transcript) :
    transcript.SaysLike transcript :=
  ⟨rfl, rfl⟩

/-- Transcripts that say the same do so one behind the other. -/
theorem append
    {first second others otherSecond : Transcript}
    (firstLike : first.SaysLike others)
    (secondLike : second.SaysLike otherSecond) :
    (first ++ second).SaysLike (others ++ otherSecond) := by
  refine ⟨?_, ?_⟩
  · rw [output_append, output_append, List.map_append, List.map_append, firstLike.output,
      secondLike.output]
  · rw [reports_append, reports_append, firstLike.reports, secondLike.reports]

variable
    {first second : Transcript}
    (like : first.SaysLike second)
include like

/-- Where styles are not written as codes, the outputs are the same text. -/
theorem outputText_eq :
    first.outputText false = second.outputText false := by
  have ended (transcript : Transcript) :
      transcript.outputText false =
        String.join ((transcript.output.map (Styled.render false)).map (· ++ "\n")) := by
    rw [outputText, List.map_map]
    rfl
  rw [ended, ended, like.output]

/-- Nor does it matter to the reports there whether colors are used. -/
theorem errorStream_eq
    (useColor otherUse : Bool) :
    first.errorStream useColor false = second.errorStream otherUse false := by
  have plain (use : Bool) : Report.text use false = Report.text false false :=
    funext (Report.text_false use)
  rw [errorStream, errorStream, like.reports, plain useColor, plain otherUse]

end Transcript.SaysLike

/-! ## Sessions with and without colors -/

namespace Builtin

/-- The list of commands is the same without its styles. -/
theorem render_helpLines_false
    (useColor : Bool) :
    (helpLines useColor).map (Styled.render false) =
      (helpLines false).map (Styled.render false) := by
  rw [helpLines, helpLines, List.map_append, List.map_append, List.map_map, List.map_map]
  exact congrArg (· ++ _) (List.map_congr_left fun usage _ => render_usageLine_false useColor usage)

/-- Two commands do the same but for the choice of colors, and say the same. -/
structure Effect.ActsLike (useColor : Bool) (effect other : Effect) : Prop where
  flow : other.flow = effect.flow
  session : other.session = effect.session.withColor useColor
  diagnostics : other.diagnostics = effect.diagnostics
  output : other.output.map (Styled.render false) = effect.output.map (Styled.render false)

/-- A change that is refused is refused for the same reason, and one that is made makes the same.
-/
theorem changed_withColor
    {Part : Type}
    {session : Session}
    {useColor : Bool}
    {apply otherApply : Part → Session}
    (applied : ∀ part, otherApply part = (apply part).withColor useColor)
    (result : Except Diagnostic Part) :
    (changed session apply result).ActsLike useColor
      (changed (session.withColor useColor) otherApply result) := by
  cases result with
  | ok part => exact ⟨rfl, applied part, rfl, rfl⟩
  | error diagnostic => exact ⟨rfl, rfl, rfl, rfl⟩

/-- Only what the list of commands looks like depends on the choice. -/
theorem run_withColor
    (opener : Opener)
    (session : Session)
    (useColor : Bool)
    (command : Command) :
    (run opener session command).ActsLike useColor
      (run opener (session.withColor useColor) command) := by
  rcases command with ⟨name, span, arguments⟩
  simp only [run]
  cases ofName? name with
  | none => exact ⟨rfl, rfl, rfl, rfl⟩
  | some builtin =>
      cases builtin with
      | help =>
          cases arguments with
          | nil =>
              refine ⟨rfl, rfl, rfl, ?_⟩
              exact (render_helpLines_false useColor).trans
                (render_helpLines_false session.useColor).symm
          | cons => exact ⟨rfl, rfl, rfl, rfl⟩
      | set =>
          rcases arguments with _ | ⟨first, _ | ⟨second, _ | ⟨third, others⟩⟩⟩
          · exact ⟨rfl, rfl, rfl, rfl⟩
          · exact ⟨rfl, rfl, rfl, rfl⟩
          · exact changed_withColor (fun _ => rfl) _
          · exact ⟨rfl, rfl, rfl, rfl⟩
      | unset =>
          rcases arguments with _ | ⟨first, _ | ⟨second, others⟩⟩
          · exact ⟨rfl, rfl, rfl, rfl⟩
          · exact changed_withColor (fun _ => rfl) _
          · exact ⟨rfl, rfl, rfl, rfl⟩
      | source =>
          rcases arguments with _ | ⟨first, _ | ⟨second, others⟩⟩
          · exact ⟨rfl, rfl, rfl, rfl⟩
          · exact changed_withColor (fun _ => rfl) _
          · exact ⟨rfl, rfl, rfl, rfl⟩
      | _ => cases arguments <;> exact ⟨rfl, rfl, rfl, rfl⟩

end Builtin

/-- Two lines lead to the same but for the choice of colors, and say the same. -/
structure Step.StepsLike (useColor : Bool) (step other : Step) : Prop where
  flow : other.flow = step.flow
  session : other.session = step.session.withColor useColor
  transcript : other.transcript.SaysLike step.transcript

/-- Two runs end alike but for the choice of colors, and say the same. -/
structure RunResult.RunsLike (useColor : Bool) (result other : RunResult) : Prop where
  ending : other.ending = result.ending
  session : other.session = result.session.withColor useColor
  transcript : other.transcript.SaysLike result.transcript

/-- Lines that step alike end alike. -/
theorem Step.StepsLike.result
    {useColor : Bool}
    {step other : Step}
    (like : step.StepsLike useColor other) :
    step.result.RunsLike useColor other.result := by
  refine ⟨?_, like.session, like.transcript⟩
  rw [Step.result, Step.result, like.flow]

namespace Session

variable
    (opener : Opener)
    (session : Session)
    (useColor : Bool)

theorem executeBuiltin_withColor
    (source : SourceLine)
    (text : String) :
    (session.executeBuiltin opener source text).StepsLike useColor
      ((session.withColor useColor).executeBuiltin opener source text) := by
  simp only [executeBuiltin]
  cases (parseLine text).command with
  | none => exact ⟨rfl, rfl, .refl _⟩
  | some command =>
      have ran := Builtin.run_withColor opener session useColor command
      refine ⟨ran.flow, ran.session, ran.output, ?_⟩
      exact congrArg (fun diagnostics => _ ++ diagnostics.map (Report.located source))
        ran.diagnostics

theorem executeAssembly_withColor
    (source : SourceLine)
    (line : String) :
    (session.executeAssembly source line).StepsLike useColor
      ((session.withColor useColor).executeAssembly source line) := by
  simp only [executeAssembly, withColor]
  split <;> exact ⟨rfl, rfl, .refl _⟩

/-- Whether colors are used is only looked at where something is shown. -/
theorem execute_withColor
    (line : String) :
    (session.execute opener line).StepsLike useColor
      ((session.withColor useColor).execute opener line) := by
  have samePlace : (session.withColor useColor).input.sourceLine line =
      session.input.sourceLine line :=
    rfl
  rw [execute, execute, samePlace]
  cases LineKind.ofLine line with
  | blank => exact ⟨rfl, rfl, .refl _⟩
  | builtin text => exact executeBuiltin_withColor opener session useColor _ text
  | assembly => exact executeAssembly_withColor session useColor _ line

/-- A turn reads the same line, and so goes on alike. -/
theorem turn_withColor :
    (session.turn opener).RunsLike useColor ((session.withColor useColor).turn opener) := by
  have sameInput : (session.withColor useColor).input = session.input := rfl
  rw [turn, turn, sameInput]
  rcases session.input.readLine with ⟨error | _ | line, input⟩
  · exact ⟨rfl, rfl, .refl _⟩
  · exact ⟨rfl, rfl, .refl _⟩
  · exact (execute_withColor opener { session with input := input } useColor line).result

/-- By induction over the reads, the sessions of a run differ in colors only. -/
theorem runFor_withColor
    (reads : Nat) :
    (session.runFor opener reads).RunsLike useColor
      ((session.withColor useColor).runFor opener reads) := by
  induction reads generalizing session with
  | zero => exact ⟨rfl, rfl, .refl _⟩
  | succ reads readsHypothesis =>
      have turned := turn_withColor opener session useColor
      have sameEnding := turned.ending
      rw [runFor_succ, runFor_succ]
      cases ended : (session.turn opener).ending with
      | some ending =>
          rw [ended] at sameEnding
          rw [RunResult.continued_of_ending ended, RunResult.continued_of_ending sameEnding]
          exact turned
      | none =>
          rw [ended] at sameEnding
          rw [RunResult.continued_of_none ended, RunResult.continued_of_none sameEnding,
            turned.session]
          have rest := readsHypothesis (session.turn opener).session
          exact ⟨rest.ending, rest.session, turned.transcript.append rest.transcript⟩

end Session

/-- Two calls answer alike and lead to the same but for the choice of colors, and say the same. -/
structure CallOutcome.EndsLike (useColor : Bool) (outcome other : CallOutcome) : Prop where
  answer : other.answer = outcome.answer
  session : other.session = outcome.session.withColor useColor
  transcript : other.transcript.SaysLike outcome.transcript

namespace Session

variable
    (quiet : Bool)
    (session : Session)
    (useColor : Bool)

theorem greeting_withColor :
    (Program.greeting quiet (session.withColor useColor)).SaysLike
      (Program.greeting quiet session) := by
  cases quiet with
  | true => exact .refl _
  | false =>
      refine ⟨?_, rfl⟩
      show [(Program.banner useColor session.assembler.target).render false] =
        [(Program.banner session.useColor session.assembler.target).render false]
      rw [Program.render_banner_false, Program.render_banner_false session.useColor]

/-- A call from outside ends alike. -/
theorem call_withColor
    (call : SessionCall) :
    (session.call quiet call).EndsLike useColor
      ((session.withColor useColor).call quiet call) := by
  cases call with
  | push fileSystem path =>
      have samePush :
          (session.withColor useColor).input.redirect fileSystem.opener path =
            session.input.redirect fileSystem.opener path :=
        rfl
      simp only [Session.call, samePush]
      cases session.input.redirect fileSystem.opener path <;> exact ⟨rfl, rfl, .refl _⟩
  | run fileSystem =>
      have ran :=
        runFor_withColor fileSystem.opener session useColor
          (session.input.readBound fileSystem.mostLines)
      exact ⟨congrArg CallAnswer.ended ran.ending, ran.session,
        (greeting_withColor quiet session useColor).append ran.transcript⟩
  | execute fileSystem line =>
      have executed := execute_withColor fileSystem.opener session useColor line
      exact ⟨congrArg CallAnswer.executed executed.flow, executed.session, executed.transcript⟩

/-- Whatever is done to two sessions that differ in the choice of colors, they answer alike, keep
the same variables, and say the same. -/
theorem callAll_withColor
    (calls : List SessionCall) :
    ((session.withColor useColor).callAll quiet calls).answers =
        (session.callAll quiet calls).answers ∧
      ((session.withColor useColor).callAll quiet calls).transcript.SaysLike
        (session.callAll quiet calls).transcript := by
  induction calls generalizing session with
  | nil => exact ⟨rfl, .refl _⟩
  | cons call calls callsHypothesis =>
      have first := call_withColor quiet session useColor call
      rcases callsHypothesis (session.call quiet call).session with ⟨sameAnswers, like⟩
      simp only [callAll]
      rw [first.answer, first.session, sameAnswers]
      exact ⟨rfl, first.transcript.append like⟩

end Session

/-! ## Texts without codes -/

/-- There is no escape in what the call brings in. -/
def SessionCall.EscapeFree : SessionCall → Prop
  | .push fileSystem path => fileSystem.EscapeFree ∧ Text.EscapeFree path
  | .run fileSystem => fileSystem.EscapeFree
  | .execute fileSystem line => fileSystem.EscapeFree ∧ Text.EscapeFree line

/-- A diagnostic is shown by the texts of its line and its message alone. -/
theorem Diagnostic.escapeFree_shown
    {source : SourceLine}
    {diagnostic : Diagnostic}
    (nameFree : Text.EscapeFree source.name)
    (textFree : Text.EscapeFree source.text)
    (messageFree : Text.EscapeFree diagnostic.message) :
    (diagnostic.shown source).EscapeFree := by
  have colon : Text.EscapeFree ":" := .ofList (by decide)
  have space : Text.EscapeFree " " := .ofList (by decide)
  have label : Text.EscapeFree "error:" := .ofList (by decide)
  have sign : Text.EscapeFree "^" := .ofList (by decide)
  have lineFeed : Text.EscapeFree "\n" := .ofList (by decide)
  have placeFree :=
    ((((nameFree.append colon).append (escapeFree_toString source.number)).append colon).append
      (escapeFree_toString (diagnostic.column + 1))).append colon
  have paddingFree :
      Text.EscapeFree (String.ofList (caretPadding source.text diagnostic.column)) := by
    apply EscapeFree.ofList
    intro member
    rcases List.mem_append.1 member with covered | beyond
    · rcases List.mem_map.1 covered with ⟨character, _, same⟩
      split at same <;> exact absurd same (by decide)
    · exact absurd (List.mem_replicate.1 beyond).2 (by decide)
  have lineFree := ((lineFeed.append textFree).append lineFeed).append paddingFree
  simp only [shown, Styled.EscapeFree, List.forall_mem_cons]
  exact ⟨placeFree, space, label, space, messageFree, lineFree, sign, lineFeed, by simp⟩

theorem escapeFree_shownError
    {message : String}
    (messageFree : EscapeFree message) :
    (shownError message).EscapeFree := by
  have label : EscapeFree "error:" := .ofList (by decide)
  have space : EscapeFree " " := .ofList (by decide)
  simp only [shownError, Styled.EscapeFree, List.forall_mem_cons]
  exact ⟨label, (space.append messageFree).append (.ofList (by decide)), by simp⟩

/-- A report of which the message has no escape has none. -/
theorem Report.EscapeFree.strips_text
    {assembler : Assembler}
    {report : Report}
    (free : report.EscapeFree assembler)
    (answersFree : assembler.Answers report.message → Text.EscapeFree report.message)
    (useColor : Bool) :
    Style.Strips (report.text useColor true).toList (report.text useColor false).toList := by
  have styled : Style.Strips (report.text true true).toList (report.text true false).toList := by
    cases report with
    | located source diagnostic =>
        have messageFree := free.2.2.elim answersFree id
        exact (Diagnostic.escapeFree_shown free.1 free.2.1 messageFree).strips_render
    | failure error => exact (escapeFree_shownError free).strips_render
  cases useColor with
  | true => exact styled
  | false =>
      have isFree := styled.free
      rw [Report.text_false] at isFree
      rw [Report.text_without_colors]
      exact .of_free isFree

namespace Transcript.EscapeFree

variable
    {assembler : Assembler}
    {transcript : Transcript}
    (free : transcript.EscapeFree assembler)
include free

/-- Of the output, exactly the styles are stripped. -/
theorem strips_outputText :
    Style.Strips (transcript.outputText true).toList (transcript.outputText false).toList := by
  have lineFeed : Text.EscapeFree "\n" := .ofList (by decide)
  simp only [outputText, String.toList_join, List.flatMap_map, String.toList_append]
  exact .flatMap fun line member =>
    (free.output line member).strips_render.append (.of_free lineFeed)

/-- Of the reports too, where the answers of the assembler have no escapes. -/
theorem strips_errorStream
    (answersFree :
      ∀ report ∈ transcript.reports,
        assembler.Answers report.message → Text.EscapeFree report.message)
    (useColor : Bool) :
    Style.Strips (transcript.errorStream useColor true).toList
      (transcript.errorStream useColor false).toList := by
  simp only [errorStream, String.toList_join, List.flatMap_map]
  exact .flatMap fun report member =>
    (free.reports report member).strips_text (answersFree report member) useColor

end Transcript.EscapeFree

theorem Program.escapeFree_greeting
    {assembler : Assembler}
    (quiet : Bool)
    {session : Session}
    (sessionFree : session.EscapeFree assembler) :
    (greeting quiet session).EscapeFree assembler := by
  have title : EscapeFree Program.title := .ofList (by decide)
  have target : EscapeFree session.assembler.target.render := by
    have bracket : EscapeFree " (" := .ofList (by decide)
    rw [sessionFree.assembler_eq]
    exact ((sessionFree.target.triple.append bracket).append sessionFree.target.cpu).append
      (.ofList (by decide))
  have before : EscapeFree " for " := .ofList (by decide)
  refine ⟨?_, by simp [greeting]⟩
  cases quiet with
  | true => simp [greeting]
  | false =>
      refine List.forall_mem_singleton.2 ?_
      rw [banner]
      split
      · simp only [Styled.EscapeFree, List.forall_mem_cons]
        exact ⟨title, before, target, .ofList (by decide), .ofList (by decide),
          .ofList (by decide), by simp⟩
      · exact Styled.escapeFree_plain
          (((title.append before).append target).append (.ofList (by decide)))

namespace Session

variable
    {assembler : Assembler}
    {session : Session}
    (sessionFree : session.EscapeFree assembler)
    (quiet : Bool)
include sessionFree

theorem EscapeFree.call
    {call : SessionCall}
    (callFree : call.EscapeFree) :
    (session.call quiet call).session.EscapeFree assembler ∧
      (session.call quiet call).transcript.EscapeFree assembler := by
  cases call with
  | push fileSystem path =>
      rcases callFree with ⟨filesFree, pathFree⟩
      simp only [Session.call]
      cases pushed : session.input.redirect fileSystem.opener path with
      | ok input =>
          have inputFree := sessionFree.input.of_redirect filesFree.opener pathFree pushed
          exact ⟨sessionFree.withInput inputFree, Transcript.escapeFree_empty assembler⟩
      | error error =>
          have errorFree := InputStack.escapeFree_of_redirect filesFree.opener pathFree pushed
          exact ⟨sessionFree, by simp, List.forall_mem_singleton.2 errorFree⟩
  | run fileSystem =>
      rcases sessionFree.runFor (FileSystem.EscapeFree.opener callFree)
        (session.input.readBound fileSystem.mostLines) with ⟨afterFree, shownFree⟩
      exact ⟨afterFree, (Program.escapeFree_greeting quiet sessionFree).append shownFree⟩
  | execute fileSystem line =>
      rcases callFree with ⟨filesFree, lineFree⟩
      exact ⟨sessionFree.execute filesFree.opener lineFree,
        sessionFree.transcript_execute filesFree.opener lineFree⟩

/-- All that the calls show is free of escapes, so the only codes are those of styles. -/
theorem EscapeFree.callAll
    {calls : List SessionCall}
    (callsFree : ∀ call ∈ calls, call.EscapeFree) :
    (session.callAll quiet calls).transcript.EscapeFree assembler := by
  induction calls generalizing session with
  | nil => exact Transcript.escapeFree_empty assembler
  | cons call calls callsHypothesis =>
      rcases List.forall_mem_cons.1 callsFree with ⟨callFree, othersFree⟩
      rcases sessionFree.call quiet callFree with ⟨afterFree, shownFree⟩
      exact shownFree.append (callsHypothesis afterFree othersFree)

end Session

/-! ## The two sessions -/

/--
Two sessions that differ only in whether they use colors are given the same calls.  Each
call answers the same in both and leaves the same variables.  Where styles are not
written as codes, all that was shown is the same text in both, and so is all that was
reported.  Where they are, and no escape is in the sources, the files, the target, the
lines that are executed or an answer of the assembler that is reported, the texts of the
output and of the reports become equal when their codes are deleted.
-/
theorem color_changes_only_styling
    (session : Session)
    (quiet : Bool)
    (calls : List SessionCall) :
    let styled := (session.withColor true).callAll quiet calls
    let plain := (session.withColor false).callAll quiet calls
    styled.answers = plain.answers ∧
      styled.transcript.outputText false = plain.transcript.outputText false ∧
      styled.transcript.errorStream true false = plain.transcript.errorStream false false ∧
      (session.EscapeFree session.assembler →
        (∀ call ∈ calls, call.EscapeFree) →
        (∀ report ∈ plain.transcript.reports,
          session.assembler.Answers report.message → EscapeFree report.message) →
        Style.withoutCodes (styled.transcript.outputText true).toList =
            Style.withoutCodes (plain.transcript.outputText true).toList ∧
          Style.withoutCodes (styled.transcript.errorStream true true).toList =
            Style.withoutCodes (plain.transcript.errorStream false true).toList) := by
  intro styled plain
  -- The session that uses colors is the other one with the choice made again.
  rcases Session.callAll_withColor quiet (session.withColor false) true calls with
    ⟨sameAnswers, like⟩
  refine ⟨sameAnswers, like.outputText_eq, like.errorStream_eq true false, ?_⟩
  intro sessionFree callsFree answersFree
  have colorFree (useColor : Bool) :
      (session.withColor useColor).EscapeFree session.assembler :=
    ⟨rfl, sessionFree.target, sessionFree.input, sessionFree.bindings⟩
  have styledFree : styled.transcript.EscapeFree session.assembler :=
    (colorFree true).callAll quiet callsFree
  have plainFree : plain.transcript.EscapeFree session.assembler :=
    (colorFree false).callAll quiet callsFree
  have styledAnswersFree :
      ∀ report ∈ styled.transcript.reports,
        session.assembler.Answers report.message → EscapeFree report.message := by
    rw [show styled.transcript.reports = plain.transcript.reports from like.reports]
    exact answersFree
  refine ⟨?_, ?_⟩
  · rw [styledFree.strips_outputText.withoutCodes_eq, plainFree.strips_outputText.withoutCodes_eq,
      show styled.transcript.outputText false = _ from like.outputText_eq]
  · rw [(styledFree.strips_errorStream styledAnswersFree true).withoutCodes_eq,
      (plainFree.strips_errorStream answersFree false).withoutCodes_eq,
      show styled.transcript.errorStream true false = _ from like.errorStream_eq true false]

/-- A session without an assembler refuses a line, and the report of it is the only text. -/
theorem color_changes_only_styling_of_refused_line :
    ∃ (session : Session) (calls : List SessionCall) (report : Report),
      ((session.withColor false).callAll true calls).transcript.reports = [report] ∧
      session.EscapeFree session.assembler ∧
      (∀ call ∈ calls, call.EscapeFree) ∧
      (session.assembler.Answers report.message → EscapeFree report.message) ∧
      Style.withoutCodes
          (((session.withColor true).callAll true calls).transcript.errorStream true true).toList =
        Style.withoutCodes
          (((session.withColor false).callAll true calls).transcript.errorStream false
            true).toList := by
  let session : Session :=
    { input := { terminal := .terminal [] none }
      assembler := .unsupported ⟨"none", "generic"⟩ }
  let calls : List SessionCall := [.execute {} "nop"]
  let report : Report :=
    .located ⟨"<stdin>", 0, "nop"⟩ ⟨"no code generation backend for target `none`", 0⟩
  have reported : ((session.withColor false).callAll true calls).transcript.reports = [report] :=
    rfl
  have inputFree : session.input.EscapeFree :=
    ⟨by simp [session], .ofList (by decide), by simp [session, Source.terminal], nofun⟩
  have sessionFree : session.EscapeFree session.assembler :=
    ⟨rfl, ⟨.ofList (by decide), .ofList (by decide)⟩, inputFree,
      by simp [session, Bindings.EscapeFree]⟩
  have callsFree : ∀ call ∈ calls, call.EscapeFree :=
    List.forall_mem_singleton.2 ⟨by simp [FileSystem.EscapeFree], .ofList (by decide)⟩
  have messageFree : EscapeFree "no code generation backend for target `none`" :=
    .ofList (by decide)
  have answersFree :
      ∀ shown ∈ ((session.withColor false).callAll true calls).transcript.reports,
        session.assembler.Answers shown.message → EscapeFree shown.message := by
    rw [reported]
    exact List.forall_mem_singleton.2 fun _ => messageFree
  have styling := (color_changes_only_styling session true calls).2.2.2 sessionFree callsFree
    answersFree
  exact ⟨session, calls, report, reported, sessionFree, callsFree, fun _ => messageFree,
    styling.2⟩

end AsmShell
