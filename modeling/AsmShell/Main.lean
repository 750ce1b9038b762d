import AsmShell.Program.Shell

/-!
# The executable

Reads words, files and typed lines, and writes what the session shows.  Every
decision is made elsewhere: a line is executed after the script that it asks for
was opened, and what it shows is written before the next line is read.
-/

namespace AsmShell.Executable

open AsmShell.Program
open AsmShell.Text

/-- The prompt in front of a typed line. -/
def prompt : String :=
  "asm> "

/-- Open the file at a path and read it. -/
def openFile (path : String) : IO (Except OpenFailure Contents) := do
  if path.toList.contains '\x00' then return .error .nulInPath
  try
    let bytes ← IO.FS.readBinFile path
    return .ok { bytes := bytes.toList }
  catch failure =>
    match failure with
    | .noFileOrDirectory _ _ _ => return .error .notFound
    | .inappropriateType _ 20 _ => return .error .notDirectory
    | .inappropriateType _ _ _ => return .ok (Contents.ofEntry .directory)
    | other => return .error (.other (toString other))

/-- Open the files at the paths.  No other path can be opened with the result. -/
def openFiles (paths : List String) : IO Opener := do
  let opened ← paths.mapM fun path => do
    let result ← openFile path
    return (path, result)
  return fun path => (opened.lookup path).getD (.error .notFound)

/-- Write what a session has shown. -/
def writeTranscript (colored : Bool) (session : Session) (transcript : Transcript) : IO Unit := do
  let output ← IO.getStdout
  let errors ← IO.getStderr
  errors.putStr (transcript.errorStream session.useColor colored)
  errors.flush
  output.putStr (transcript.outputText colored)
  output.flush

/-- Read bytes up to a line feed or the end of the input, behind those that were read before,
the last of which comes first. -/
partial def readBytes (input : IO.FS.Stream) (earlier : List UInt8) : IO (List UInt8) := do
  let chunk ← input.read 1
  match chunk.toList with
  | [] => return earlier.reverse
  | byte :: _ =>
      if byte = Lines.lineFeedByte then return (byte :: earlier).reverse
      else readBytes input (byte :: earlier)

/-- Read a typed line: none at the end of the input, an error where it is not well formed. -/
def typedLine : IO (Except String (Option String)) := do
  let input ← IO.getStdin
  if ← input.isTty then
    let output ← IO.getStdout
    output.putStr prompt
    output.flush
  let typed := Source.terminalOfBytes (← readBytes input [])
  match typed.pending, typed.failure with
  | [], some reason => return .error reason
  | lines, _ => return .ok lines.head?

/-- End with an error of the terminal. -/
def failWith (reason : String) : IO UInt32 := do
  IO.eprintln (InputError.message (.terminal reason))
  return UInt32.ofNat failureStatus

/-- Read and execute lines until one of them quits or the input ends. -/
partial def serve (colored : Bool) (session : Session) : IO UInt32 := do
  match session.input.readLine with
  | (.ok (some line), input) =>
      let reading := { session with input := input }
      let opener ← openFiles (reading.requestedScript? line).toList
      let step := reading.execute opener line
      writeTranscript colored step.session step.transcript
      match step.flow with
      | .quit => return UInt32.ofNat successStatus
      | .next => serve colored step.session
  | (.ok none, input) =>
      match ← typedLine with
      | .ok (some line) => serve colored { session with input := input.typed line }
      | .ok none => return UInt32.ofNat successStatus
      | .error reason => failWith reason
  | (.error (.terminal reason), _) => failWith reason
  | (.error error, input) =>
      writeTranscript colored session { reports := [.failure error] }
      serve colored { session with input := input }

/-- Whether the output takes colors. -/
def takesColors : IO Bool := do
  match ← IO.getEnv "CLICOLOR_FORCE" with
  | some setting => return setting != "0"
  | none =>
      let output ← IO.getStdout
      output.isTty

/-- Run the program with the words behind its name. -/
def runProgram (words : List String) : IO UInt32 := do
  match Invocation.ofWords words with
  | .error error =>
      IO.eprintln error.message
      return UInt32.ofNat usageStatus
  | .ok .help =>
      IO.print helpText
      return UInt32.ofNat successStatus
  | .ok .version =>
      IO.print versionText
      return UInt32.ofNat successStatus
  | .ok (.session options) =>
      let colored := (← takesColors) && !options.noColor
      let opener ← openFiles options.scripts
      let (session, shown) := start opener options (Source.terminal [] none)
      writeTranscript colored session shown
      serve colored session

end AsmShell.Executable

/-- The program, given the words behind its name. -/
def main (words : List String) : IO UInt32 :=
  AsmShell.Executable.runProgram words
