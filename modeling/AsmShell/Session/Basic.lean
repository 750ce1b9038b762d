import AsmShell.Assembler
import AsmShell.Bindings
import AsmShell.Input.Stack

/-!
# Sessions

A session is the state of the shell between two lines: where the next line comes
from, the variables, and what the assembler was given so far.  What a session
shows is kept apart from it, as a transcript of two streams: the output, and the
reports on what went wrong.  A session that uses colors shows some of it in
styles; whether these are written as sequences is decided only when the streams
are rendered.
-/

namespace AsmShell

open AsmShell.Text

/-- The state of the shell between two lines. -/
structure Session where
  input : InputStack
  assembler : Assembler
  /-- The lines that were handed to the assembler, the last one first. -/
  assembled : List String := []
  bindings : Bindings := {}
  useColor : Bool := true
deriving Inhabited

/-- Something that went wrong: in a line, or apart from all lines. -/
inductive Report where
  | located (source : SourceLine) (diagnostic : Diagnostic)
  | failure (error : InputError)
deriving DecidableEq, Inhabited, Repr

/-- The report as it is shown. -/
def Report.shown : Report → Styled
  | .located source diagnostic => diagnostic.shown source
  | .failure error => shownError error.message

/-- The text of the report; where colors are used, its styles are written as sequences if it is
`colored`. -/
def Report.text (useColor colored : Bool) : Report → String
  | .located source diagnostic => diagnostic.text useColor colored source
  | .failure error => errorText useColor colored error.message

/-- Write a report to a sink, which is told the line of the report where it has one. -/
def ConsoleSink.write (colored : Bool) (sink : ConsoleSink) : Report → ConsoleSink
  | .located source diagnostic => (sink.setSource source).report colored diagnostic
  | .failure error => sink.error colored error.message

/-- What a session has shown. -/
structure Transcript where
  output : List Styled := []
  reports : List Report := []
deriving DecidableEq, Inhabited, Repr

namespace Transcript

/-- One transcript followed by another. -/
def append (first second : Transcript) : Transcript :=
  ⟨first.output ++ second.output, first.reports ++ second.reports⟩

instance : Append Transcript :=
  ⟨append⟩

/-- The text of the output, each line with a line feed at its end. -/
def outputText (colored : Bool) (transcript : Transcript) : String :=
  String.join (transcript.output.map fun line => line.render colored ++ "\n")

/-- The text of the stream of reports. -/
def errorStream (useColor colored : Bool) (transcript : Transcript) : String :=
  String.join (transcript.reports.map (Report.text useColor colored))

end Transcript

/-- What happens after a line. -/
inductive Flow where
  | next
  | quit
deriving DecidableEq, Inhabited, Repr

end AsmShell
