import AsmShell.Expr
import AsmShell.Session.Basic

/-!
# Builtin commands

The commands that a line with a colon in front can give.  A command that is
refused changes nothing: a handler gives either the diagnostics that say why, or
the session after it.  Only `set` and `unset` change the variables, and only
`source` changes where lines are read from.
-/

namespace AsmShell

open AsmShell.Text

/-- A builtin command. -/
inductive Builtin where
  | help
  | quit
  | print
  | set
  | unset
  | vars
  | source
  | target
deriving DecidableEq, Inhabited, Repr

namespace Builtin

/-- The command of a name. -/
def ofName? : String → Option Builtin
  | "help" => some .help
  | "quit" | "exit" => some .quit
  | "print" => some .print
  | "set" => some .set
  | "unset" => some .unset
  | "vars" => some .vars
  | "source" => some .source
  | "target" => some .target
  | _ => none

/-- The number of arguments a command takes; for those that take any number, the least. -/
def arity : Builtin → Nat
  | .help | .vars | .target | .quit | .print => 0
  | .unset | .source => 1
  | .set => 2

/-- How each command is used, and what it does. -/
def usages : List (String × String) :=
  [(":help", "show this message"),
   (":quit, :exit", "end the session"),
   (":print args...", "evaluate and print each argument"),
   (":set $name value", "bind a variable to a number"),
   (":unset $name", "remove a variable"),
   (":vars", "list the defined variables"),
   (":source path", "read lines from a script file"),
   (":target", "show the assembler target")]

/-- How the usage of a command is shown. -/
def usageStyle : Style :=
  ⟨false, some .brightYellow⟩

/-- The number of columns that usages are padded to. -/
def usageWidth : Nat :=
  18

/-- A text with spaces behind it up to a number of characters. -/
def padded (width : Nat) (text : String) : String :=
  text ++ String.ofList (List.replicate (width - text.length) ' ')

/-- The line of a command in the list of commands. -/
def usageLine (useColor : Bool) (usage : String × String) : Styled :=
  if useColor then
    [{ text := "  " },
     { text := padded usageWidth usage.1, style := some usageStyle },
     { text := " " ++ usage.2 }]
  else Styled.plain ("  " ++ padded usageWidth usage.1 ++ " " ++ usage.2)

/-- The lines of the list of commands. -/
def helpLines (useColor : Bool) : List Styled :=
  usages.map (usageLine useColor) ++
    [Styled.plain "Any other line is assembled and its encoding printed in hex."]

/-- The diagnostic of a wrong number of arguments: at the first one too many, or at the name of
the command where one is missing. -/
def arityDiagnostic (command : Command) (expected : Nat) : Diagnostic :=
  let plural := if expected = 1 then "" else "s"
  { message :=
      "`" ++ command.name ++ "` expects " ++ toString expected ++ " argument" ++ plural ++
        ", found " ++ toString command.arguments.length
    column :=
      match command.arguments[expected]? with
      | some argument => argument.column
      | none => command.span.first }

/-- The variable that an argument names. -/
def expectVariable (argument : Expr) : Except Diagnostic String :=
  match argument with
  | .reference name _ => .ok name
  | _ => .error ⟨"expected a variable", argument.column⟩

/-- The value of an argument. -/
def evalArgument (bindings : Bindings) (argument : Expr) : Except Diagnostic Value :=
  (argument.eval bindings.find?).mapError EvalError.diagnostic

/-- Give the variable that one argument names the value of another, which has to be a number. -/
def setVariable (bindings : Bindings) (named argument : Expr) : Except Diagnostic Bindings := do
  let name ← expectVariable named
  let value ← evalArgument bindings argument
  if value.isNumeric then .ok (bindings.define name value).2
  else .error ⟨"`set` expects a number, found " ++ value.kind.name, argument.column⟩

/-- Remove the variable that an argument names, which has to be defined. -/
def unsetVariable (bindings : Bindings) (argument : Expr) : Except Diagnostic Bindings := do
  let name ← expectVariable argument
  match bindings.remove name with
  | (some _, rest) => .ok rest
  | (none, _) => .error (EvalError.diagnostic ⟨.unresolved name, argument.span⟩)

/-- The path of the script that an argument names. -/
def scriptPath (bindings : Bindings) (argument : Expr) : Except Diagnostic String := do
  let value ← evalArgument bindings argument
  match value.text? with
  | some path => .ok path
  | none =>
      .error ⟨"`source` expects a file name, found " ++ value.kind.name, argument.column⟩

/-- Push the script that an argument names. -/
def pushScript (opener : Opener) (session : Session) (argument : Expr) :
    Except Diagnostic InputStack := do
  let path ← scriptPath session.bindings argument
  (session.input.redirect opener path).mapError fun error => ⟨error.message, argument.column⟩

/-- The line of a variable in the list of variables. -/
def variableLine (entry : String × Value) : Styled :=
  Styled.plain ("$" ++ entry.1 ++ " = " ++ entry.2.render)

/-- The lines that show a target. -/
def targetLines (target : Target) : List Styled :=
  [Styled.plain ("triple: " ++ target.triple), Styled.plain ("cpu:    " ++ target.cpu)]

/-- The output of `print`: the values that could be computed on one line, unless there are
none. -/
def printedLines (results : List (Except EvalError Value)) : List Styled :=
  match results.filterMap (·.toOption) with
  | [] => []
  | values => [Styled.plain (" ".intercalate (values.map Value.render))]

/-- The diagnostics of the arguments that could not be evaluated. -/
def failedDiagnostics (results : List (Except EvalError Value)) : List Diagnostic :=
  results.filterMap fun
    | .ok _ => none
    | .error error => some error.diagnostic

/-- What a command leads to. -/
structure Effect where
  session : Session
  diagnostics : List Diagnostic := []
  output : List Styled := []
  flow : Flow := .next
deriving Inhabited

/-- The effect of a command that is refused: nothing but the diagnostic. -/
def refused (session : Session) (diagnostic : Diagnostic) : Effect :=
  { session := session, diagnostics := [diagnostic] }

/-- The effect of a change that may be refused. -/
def changed {Part : Type} (session : Session) (apply : Part → Session)
    (result : Except Diagnostic Part) : Effect :=
  match result with
  | .ok part => { session := apply part }
  | .error diagnostic => refused session diagnostic

/-- The effect of a command: unknown commands and wrong numbers of arguments are refused. -/
def run (opener : Opener) (session : Session) (command : Command) : Effect :=
  match ofName? command.name, command.arguments with
  | none, _ => refused session ⟨"unknown command", command.span.first⟩
  | some .quit, _ => { session := session, flow := .quit }
  | some .print, arguments =>
      let results := arguments.map (·.eval session.bindings.find?)
      { session := session
        diagnostics := failedDiagnostics results
        output := printedLines results }
  | some .help, [] => { session := session, output := helpLines session.useColor }
  | some .vars, [] =>
      { session := session, output := session.bindings.entries.map variableLine }
  | some .target, [] => { session := session, output := targetLines session.assembler.target }
  | some .set, [named, argument] =>
      changed session (fun bindings => { session with bindings := bindings })
        (setVariable session.bindings named argument)
  | some .unset, [argument] =>
      changed session (fun bindings => { session with bindings := bindings })
        (unsetVariable session.bindings argument)
  | some .source, [argument] =>
      changed session (fun input => { session with input := input })
        (pushScript opener session argument)
  | some builtin, _ => refused session (arityDiagnostic command builtin.arity)

end Builtin

end AsmShell
