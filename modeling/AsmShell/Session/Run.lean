import AsmShell.Session.Execute

/-!
# Running a session

Lines are read and executed until one of them quits or the terminal ends or
fails.  A script that fails is reported, and reading goes on below it.

A run always ends, although scripts may push each other and themselves: a script
on a full stack pushes nothing, a script with room for one more pushes at most
one script for each of its lines, and so on down the stack.  Counting reads in
this way gives a bound that is computed before the run begins.
-/

namespace AsmShell

open AsmShell.Text

/-- How a run ended. -/
inductive Ending where
  | quit
  | endOfInput
  | terminalFailure (reason : String)
deriving DecidableEq, Inhabited, Repr

/-- The error a run ended with, where it did. -/
def Ending.error? : Ending → Option InputError
  | .quit | .endOfInput => none
  | .terminalFailure reason => some (.terminal reason)

/-- What a run leads to. -/
structure RunResult where
  /-- How the run ended, unless it was broken off. -/
  ending : Option Ending
  session : Session
  transcript : Transcript
deriving Inhabited

/-- A run with something shown before it. -/
def RunResult.after (shown : Transcript) (result : RunResult) : RunResult :=
  { result with transcript := shown ++ result.transcript }

namespace Session

/-- Read and execute lines, breaking off after a number of reads. -/
def runFor (opener : Opener) : (reads : Nat) → Session → RunResult
  | 0, session => ⟨none, session, {}⟩
  | reads + 1, session =>
      match session.input.readLine with
      | (.ok none, input) => ⟨some .endOfInput, { session with input := input }, {}⟩
      | (.error (.terminal reason), input) =>
          ⟨some (.terminalFailure reason), { session with input := input }, {}⟩
      | (.error error, input) =>
          (runFor opener reads { session with input := input }).after
            { reports := [.failure error] }
      | (.ok (some line), input) =>
          let step := execute opener { session with input := input } line
          match step.flow with
          | .quit => ⟨some .quit, step.session, step.transcript⟩
          | .next => (runFor opener reads step.session).after step.transcript

end Session

namespace FileSystem

/-- The largest number of lines that a file has. -/
def mostLines (fileSystem : FileSystem) : Nat :=
  (fileSystem.entries.map fun written => (Contents.ofEntry written.2).lines.length).foldl max 0

end FileSystem

/--
The most reads that a source with a number of pending lines takes, its end
included, where `levels` more scripts may be stacked above it and no script has
more than `longest` lines.
-/
def sourceReads (longest : Nat) : (levels : Nat) → (pending : Nat) → Nat
  | 0, pending => pending + 1
  | levels + 1, pending => pending * (1 + sourceReads longest levels longest) + 1

/-- The most reads that scripts take, the lowest of which stands on the terminal. -/
def scriptReads (longest : Nat) : List Source → Nat
  | [] => 0
  | script :: below =>
      sourceReads longest (stackLimit - (below.length + 1)) script.pending.length +
        scriptReads longest below

/-- The most reads that a stack of sources takes. -/
def InputStack.readBound (longest : Nat) (stack : InputStack) : Nat :=
  scriptReads longest stack.scripts +
    sourceReads longest stackLimit stack.terminal.pending.length

namespace Session

/-- Read and execute lines until the run ends. -/
def run (fileSystem : FileSystem) (session : Session) : RunResult :=
  session.runFor fileSystem.opener (session.input.readBound fileSystem.mostLines)

end Session

end AsmShell
