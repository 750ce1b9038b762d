import AsmShell.Parser.CommandLine
import AsmShell.Session.Builtin
import AsmShell.Text.CharClass

/-!
# Executing a line

A blank line does nothing.  A line whose first character that is not blank is a
colon gives a builtin command; it is read with a space in place of the colon, so
columns count in the line as it was typed.  Every other line is handed to the
assembler, and its machine code is printed.  All diagnostics of a line are
located in the source that the line was read from, also when the line itself
pushes a script.
-/

namespace AsmShell

open AsmShell.Text

/-- What kind of line a line is. -/
inductive LineKind where
  | blank
  /-- A builtin command, with a space in place of its colon. -/
  | builtin (text : String)
  | assembly
deriving DecidableEq, Inhabited, Repr

/-- The kind of a line. -/
def LineKind.ofLine (line : String) : LineKind :=
  match dropBlanks line.toList with
  | [] => .blank
  | ':' :: rest => .builtin (String.ofList (line.toList.takeWhile isBlank ++ ' ' :: rest))
  | _ => .assembly

/-- What a line leads to. -/
structure Step where
  session : Session
  transcript : Transcript := {}
  flow : Flow := .next
deriving Inhabited

namespace Session

/-- Run the builtin command in a text, in which the diagnostics have their columns. -/
def executeBuiltin (opener : Opener) (session : Session) (source : SourceLine) (text : String) :
    Step :=
  let parsed := parseLine text
  let syntaxReports := parsed.errors.map fun error => Report.located source error.diagnostic
  match parsed.command with
  | none => { session := session, transcript := { reports := syntaxReports } }
  | some command =>
      let effect := Builtin.run opener session command
      { session := effect.session
        transcript :=
          { output := effect.output
            reports := syntaxReports ++ effect.diagnostics.map (Report.located source) }
        flow := effect.flow }

/-- Hand a line to the assembler. -/
def executeAssembly (session : Session) (source : SourceLine) (line : String) : Step :=
  let after := { session with assembled := line :: session.assembled }
  match session.assembler.encode session.assembled.reverse line with
  | .ok [] => { session := after }
  | .ok bytes =>
      { session := after, transcript := { output := [Styled.plain (hexBytes bytes)] } }
  | .error error =>
      { session := after
        transcript := { reports := [.located source ⟨error.message, error.column⟩] } }

/-- Execute a line as one that was read from the active source. -/
def execute (opener : Opener) (session : Session) (line : String) : Step :=
  let source := session.input.sourceLine line
  match LineKind.ofLine line with
  | .blank => { session := session }
  | .builtin text => session.executeBuiltin opener source text
  | .assembly => session.executeAssembly source line

/-- The path of the script that a line asks for, so that it can be opened before the line is
executed. -/
def requestedScript? (session : Session) (line : String) : Option String :=
  match LineKind.ofLine line with
  | .builtin text =>
      match (parseLine text).command with
      | some ⟨"source", _, [argument]⟩ =>
          (Builtin.scriptPath session.bindings argument).toOption
      | _ => none
  | _ => none

end Session

end AsmShell
