import AsmShell.Program.Options
import AsmShell.Session.Run

/-!
# The program

The program answers a request for its help or its version, refuses options that
are wrong, or runs a session: it pushes the scripts it was given so that the
first one is read first, shows a banner, and runs until the input ends.
-/

namespace AsmShell.Program

open AsmShell.Text

/-- The name and the version of the program. -/
def title : String :=
  "asmrepl 0.1.0"

/-- The list of options. -/
def helpText : String :=
  "Interactive assembly REPL with a command language for inspecting values\n" ++
  "\n" ++
  "Usage: asmrepl [OPTIONS] [SCRIPTS]...\n" ++
  "\n" ++
  "Arguments:\n" ++
  "  [SCRIPTS]...  Scripts to run, in order, before the interactive prompt\n" ++
  "\n" ++
  "Options:\n" ++
  "  -t, --triple <TRIPLE>  Target triple to assemble for. Defaults to the host\n" ++
  "  -c, --cpu <CPU>        CPU model within the target [default: generic]\n" ++
  "      --no-color         Disables colored output\n" ++
  "  -q, --quiet            Skips the banner\n" ++
  "  -h, --help             Print help\n" ++
  "  -V, --version          Print version\n"

/-- The version of the program. -/
def versionText : String :=
  title ++ "\n"

/-- The target where none is chosen. -/
def defaultTriple : String :=
  "x86_64-unknown-linux-gnu"

/-- The target that the options choose. -/
def Options.target (options : Options) : Target where
  triple := options.triple.getD defaultTriple
  cpu := options.cpu.getD Target.defaultCpu

/-- How the name of the program is shown. -/
def titleStyle : Style :=
  ⟨true, some .brightCyan⟩

/-- How the target is shown. -/
def targetStyle : Style :=
  ⟨false, some .brightYellow⟩

/-- How a command to type is shown. -/
def hintStyle : Style :=
  ⟨false, some .brightGreen⟩

/-- The line a session begins with. -/
def banner (useColor : Bool) (target : Target) : Styled :=
  if useColor then
    [{ text := title, style := some titleStyle },
     { text := " for " },
     { text := target.render, style := some targetStyle },
     { text := ". Type " },
     { text := ":help", style := some hintStyle },
     { text := " for commands." }]
  else Styled.plain (title ++ " for " ++ target.render ++ ". Type :help for commands.")

/-- What a session shows before its first line, unless it is to be quiet. -/
def greeting (quiet : Bool) (session : Session) : Transcript where
  output := if quiet then [] else [banner session.useColor session.assembler.target]

/-- Push scripts one after the other.  One that cannot be pushed is reported and left out. -/
def pushScripts (opener : Opener) : InputStack → List String → InputStack × List Report
  | stack, [] => (stack, [])
  | stack, path :: rest =>
      match stack.redirect opener path with
      | .ok pushed => pushScripts opener pushed rest
      | .error error =>
          let (final, reports) := pushScripts opener stack rest
          (final, .failure error :: reports)

/-- The session that the options choose, and what is shown before its first line.  The last script
is pushed first, so that the first one is read first. -/
def start (opener : Opener) (options : Options) (terminal : Source) : Session × Transcript :=
  let (input, reports) := pushScripts opener { terminal := terminal } options.scripts.reverse
  let session : Session :=
    { input := input, assembler := .unsupported options.target, useColor := !options.noColor }
  (session, { greeting options.quiet session with reports := reports })

/-- What the program leaves behind: a status, and what it wrote to its two streams. -/
structure Outcome where
  status : Nat
  output : String := ""
  errors : String := ""
deriving DecidableEq, Inhabited, Repr

/-- The status of a run that succeeded. -/
def successStatus : Nat :=
  0

/-- The status of a run that failed. -/
def failureStatus : Nat :=
  1

/-- The status of wrong options. -/
def usageStatus : Nat :=
  2

/-- What a session that was started and run leaves behind. -/
def runSession (options : Options) (input : List UInt8) (fileSystem : FileSystem)
    (takesColors : Bool) : Outcome :=
  let (session, shown) := start fileSystem.opener options (Source.terminalOfBytes input)
  let result := (session.run fileSystem).after shown
  let colored := takesColors && !options.noColor
  let output := result.transcript.outputText colored
  let errors := result.transcript.errorStream result.session.useColor colored
  match result.ending.bind Ending.error? with
  | none => ⟨successStatus, output, errors⟩
  | some error => ⟨failureStatus, output, errors ++ error.message ++ "\n"⟩

/-- What the program leaves behind when it is given words, bytes on its input and files, and when
its output takes colors or not. -/
def run (words : List String) (input : List UInt8) (fileSystem : FileSystem)
    (takesColors : Bool) : Outcome :=
  match Invocation.ofWords words with
  | .error error => ⟨usageStatus, "", error.message ++ "\n"⟩
  | .ok .help => ⟨successStatus, helpText, ""⟩
  | .ok .version => ⟨successStatus, versionText, ""⟩
  | .ok (.session options) => runSession options input fileSystem takesColors

end AsmShell.Program
