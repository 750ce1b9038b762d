import AsmShell.Input.FileSystem
import AsmShell.Text.Lines

/-!
# Sources of lines

A source hands out its lines one after the other and counts them.  Behind its
last line it either ends or fails.
-/

namespace AsmShell

open AsmShell.Text

/-- A place that lines are read from: the lines that were not yet handed out, the number of those
that were, and why reading fails behind the last line, where it does. -/
structure Source where
  name : String
  pending : List String
  failure : Option String := none
  delivered : Nat := 0
deriving DecidableEq, Inhabited, Repr

/-- What a file gives once it is open: bytes, and behind them perhaps a failure. -/
structure Contents where
  bytes : List UInt8
  failure : Option String := none
deriving DecidableEq, Inhabited, Repr

namespace Contents

/-- The lines that can be read.  A last line that no line feed ends is lost when reading fails
before its end is seen. -/
def lines (contents : Contents) : List String :=
  match contents.failure with
  | none => Lines.ofBytes contents.bytes
  | some _ => Lines.ofBytes (Lines.endedPart contents.bytes)

/-- What an entry of a file system gives: a directory can be opened but not read. -/
def ofEntry : Entry → Contents
  | .file bytes => { bytes := bytes }
  | .directory => { bytes := [], failure := some "Is a directory (os error 21)" }

end Contents

namespace Source

/-- A script of the name with the contents. -/
def ofContents (name : String) (contents : Contents) : Source where
  name := name
  pending := contents.lines
  failure := contents.failure

/-- The name of the terminal in diagnostics. -/
def terminalName : String :=
  "<stdin>"

/-- A terminal at which the lines are typed. -/
def terminal (lines : List String) (failure : Option String) : Source where
  name := terminalName
  pending := lines
  failure := failure

/-- The lines in front of the first one that is not well formed, and whether there is one. -/
def decodedLines : List (List UInt8) → List String × Bool
  | [] => ([], false)
  | line :: rest =>
      match Utf8.decode? line with
      | none => ([], true)
      | some text =>
          let (texts, failed) := decodedLines rest
          (String.ofList text :: texts, failed)

/-- A terminal to which the bytes are sent.  A line that is not well formed ends it. -/
def terminalOfBytes (bytes : List UInt8) : Source :=
  let (lines, failed) := decodedLines (Lines.bytesOfLines bytes)
  terminal lines (if failed then some "stream did not contain valid UTF-8" else none)

/-- The source after its first pending line was handed out, and that line. -/
def next? (source : Source) : Option (String × Source) :=
  match source.pending with
  | [] => none
  | line :: rest =>
      some (line, { source with pending := rest, delivered := source.delivered + 1 })

end Source

end AsmShell
