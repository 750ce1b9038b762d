import AsmShell.Parser.SyntaxError
import AsmShell.Text.Styled
import AsmShell.Value.Fault

/-!
# Diagnostics

A diagnostic is a message about a column of a line.  It is shown with the name
of the source and the number of the line, the line itself, and a caret under the
column; tabs in front of the column are kept, so that the caret stands under it
however wide a tab is shown.

```text
script.s:3:7: error: unmatched parentheses
:print (1 + 2
      ^
```

Where colors are used, the parts of a diagnostic are shown in styles.

Diagnostics are reported to a sink.  One kind of sink keeps them; the other writes
each at once against the line that it was told last.
-/

namespace AsmShell

open AsmShell.Text

/-- A message about a column of a line, counted from zero. -/
structure Diagnostic where
  message : String
  column : Nat
deriving DecidableEq, Inhabited, Repr

/-- The diagnostic of a syntax error. -/
def SyntaxError.diagnostic (error : SyntaxError) : Diagnostic :=
  ⟨error.message, error.column⟩

/-- The diagnostic of a fault of evaluation. -/
def EvalError.diagnostic (error : EvalError) : Diagnostic :=
  ⟨error.message, error.column⟩

/-- A line, the name of the source it was read from, and its number there, counted from one. -/
structure SourceLine where
  name : String := ""
  number : Nat := 0
  text : String := ""
deriving DecidableEq, Inhabited, Repr

namespace Diagnostic

/-- How the place and the message of a diagnostic are shown. -/
def emphasis : Style :=
  ⟨true, none⟩

/-- How the word in front of a message is shown. -/
def errorLabel : Style :=
  ⟨true, some .brightRed⟩

/-- How the caret is shown. -/
def caret : Style :=
  ⟨true, some .brightGreen⟩

end Diagnostic

/-- What stands in front of the caret: a tab under a tab, and a space under everything else and
behind the end of the line. -/
def caretPadding (text : String) (column : Nat) : List Char :=
  let covered := (text.toList.take column).map fun character =>
    if character = '\t' then '\t' else ' '
  covered ++ List.replicate (column - covered.length) ' '

/-- A diagnostic shown against its line. -/
def Diagnostic.shown (source : SourceLine) (diagnostic : Diagnostic) : Styled :=
  let place :=
    source.name ++ ":" ++ toString source.number ++ ":" ++ toString (diagnostic.column + 1) ++ ":"
  [{ text := place, style := some Diagnostic.emphasis },
   { text := " " },
   { text := "error:", style := some Diagnostic.errorLabel },
   { text := " " },
   { text := diagnostic.message, style := some Diagnostic.emphasis },
   { text := "\n" ++ source.text ++ "\n" ++
      String.ofList (caretPadding source.text diagnostic.column) },
   { text := "^", style := some Diagnostic.caret },
   { text := "\n" }]

/-- A diagnostic against its line, without any style. -/
def Diagnostic.plainText (source : SourceLine) (diagnostic : Diagnostic) : String :=
  source.name ++ ":" ++ toString source.number ++ ":" ++ toString (diagnostic.column + 1) ++
    ": error: " ++ diagnostic.message ++ "\n" ++ source.text ++ "\n" ++
    String.ofList (caretPadding source.text diagnostic.column) ++ "^\n"

/-- The text of a diagnostic against its line; where colors are used, its styles are written as
sequences if it is `colored`. -/
def Diagnostic.text (useColor colored : Bool) (source : SourceLine) (diagnostic : Diagnostic) :
    String :=
  if useColor then (diagnostic.shown source).render colored else diagnostic.plainText source

/-- An error that is about no line, as it is shown. -/
def shownError (message : String) : Styled :=
  [{ text := "error:", style := some Diagnostic.errorLabel },
   { text := " " ++ message ++ "\n" }]

/-- The text of an error that is about no line; where colors are used, its style is written as
sequences if it is `colored`. -/
def errorText (useColor colored : Bool) (message : String) : String :=
  if useColor then (shownError message).render colored else "error: " ++ message ++ "\n"

/-! ## Sinks -/

/-- A sink that keeps what is reported to it, the oldest first. -/
structure CollectingSink where
  diagnostics : List Diagnostic := []
deriving DecidableEq, Inhabited, Repr

namespace CollectingSink

/-- Keep one more diagnostic. -/
def report (sink : CollectingSink) (diagnostic : Diagnostic) : CollectingSink :=
  ⟨sink.diagnostics ++ [diagnostic]⟩

/-- The number of diagnostics that are kept. -/
def size (sink : CollectingSink) : Nat :=
  sink.diagnostics.length

/-- Whether no diagnostic is kept. -/
def isEmpty (sink : CollectingSink) : Bool :=
  sink.diagnostics.isEmpty

/-- Give away all that is kept. -/
def take (sink : CollectingSink) : List Diagnostic × CollectingSink :=
  (sink.diagnostics, {})

end CollectingSink

/-- A sink that writes what is reported to it against its current line. -/
structure ConsoleSink where
  useColor : Bool
  source : SourceLine := {}
  written : String := ""
deriving DecidableEq, Inhabited, Repr

namespace ConsoleSink

/-- From now on, write against the line. -/
def setSource (sink : ConsoleSink) (source : SourceLine) : ConsoleSink :=
  { sink with source := source }

/-- Write a text behind what was written. -/
def emit (sink : ConsoleSink) (text : String) : ConsoleSink :=
  { sink with written := sink.written ++ text }

/-- Write a diagnostic against the current line. -/
def report (colored : Bool) (sink : ConsoleSink) (diagnostic : Diagnostic) : ConsoleSink :=
  sink.emit (diagnostic.text sink.useColor colored sink.source)

/-- Write an error that is about no line. -/
def error (colored : Bool) (sink : ConsoleSink) (message : String) : ConsoleSink :=
  sink.emit (errorText sink.useColor colored message)

end ConsoleSink

end AsmShell
