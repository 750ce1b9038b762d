import AsmShell.Diagnostic
import AsmShell.Input.Source

/-!
# The stack of sources

Lines are read from the script that was pushed last, until it has no more, then
from the one below it, and from the terminal below all scripts.  A script that
has run out stays on the stack until the next line is read, so the line that was
read last can always be named.
-/

namespace AsmShell

/-- The most scripts that may be stacked at once. -/
def stackLimit : Nat :=
  128

/-- Why a line could not be read, or a script not pushed. -/
inductive InputError where
  | tooDeep
  | cannotOpen (path : String) (failure : OpenFailure)
  | cannotRead (name : String) (reason : String)
  | terminal (reason : String)
deriving DecidableEq, Inhabited, Repr

/-- What went wrong, in words. -/
def InputError.message : InputError → String
  | .tooDeep => "input redirection stack too deep (limit is " ++ toString stackLimit ++ ")"
  | .cannotOpen path failure => "could not open file `" ++ path ++ "`: " ++ failure.reason
  | .cannotRead name reason => "could not read from `" ++ name ++ "`: " ++ reason
  | .terminal reason => "terminal error: " ++ reason

/-- How scripts are opened: what a path gives, or why it cannot be opened. -/
abbrev Opener : Type :=
  String → Except OpenFailure Contents

/-- Scripts are opened in the file system. -/
def FileSystem.opener (fileSystem : FileSystem) : Opener :=
  fun path => (fileSystem.resolve path).map Contents.ofEntry

/-- The terminal and the scripts stacked above it. -/
structure InputStack where
  /-- The scripts, the one pushed last first. -/
  scripts : List Source := []
  terminal : Source
deriving DecidableEq, Inhabited, Repr

namespace InputStack

/-- The number of scripts above the terminal. -/
def depth (stack : InputStack) : Nat :=
  stack.scripts.length

/-- The source that the line read last came from. -/
def active (stack : InputStack) : Source :=
  stack.scripts.headD stack.terminal

/-- A line of the active source, as a place for diagnostics. -/
def sourceLine (stack : InputStack) (text : String) : SourceLine :=
  ⟨stack.active.name, stack.active.delivered, text⟩

/-- Push a script, from which the next line will be read. -/
def push (stack : InputStack) (script : Source) : Except InputError InputStack :=
  if stackLimit ≤ stack.depth then .error .tooDeep
  else .ok { stack with scripts := script :: stack.scripts }

/-- Open the script at a path and push it.  A full stack is noticed before anything is opened. -/
def redirect (opener : Opener) (stack : InputStack) (path : String) :
    Except InputError InputStack :=
  if stackLimit ≤ stack.depth then .error .tooDeep
  else
    match opener path with
    | .ok contents => stack.push (Source.ofContents path contents)
    | .error failure => .error (.cannotOpen path failure)

/-- A line is typed at the terminal, behind those that wait to be read. -/
def typed (stack : InputStack) (line : String) : InputStack :=
  { stack with terminal := { stack.terminal with pending := stack.terminal.pending ++ [line] } }

/-- Read a line of the terminal, where no script is left. -/
def readTerminal (terminal : Source) : Except InputError (Option String) × InputStack :=
  match terminal.next? with
  | some (line, after) => (.ok (some line), { terminal := after })
  | none =>
      match terminal.failure with
      | some reason => (.error (.terminal reason), { terminal := terminal })
      | none => (.ok none, { terminal := terminal })

/-- Read a line from the first of the scripts that has one, or else from the terminal.  A script
that fails is removed. -/
def readFrom (terminal : Source) :
    List Source → Except InputError (Option String) × InputStack
  | [] => readTerminal terminal
  | script :: below =>
      match script.next? with
      | some (line, after) => (.ok (some line), ⟨after :: below, terminal⟩)
      | none =>
          match script.failure with
          | some reason => (.error (.cannotRead script.name reason), ⟨below, terminal⟩)
          | none => readFrom terminal below

/-- Read the next line: none when the terminal has ended. -/
def readLine (stack : InputStack) : Except InputError (Option String) × InputStack :=
  readFrom stack.terminal stack.scripts

end InputStack

end AsmShell
