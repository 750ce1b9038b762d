import AsmShell.Text.Utf8

/-!
# Lines

A line feed ends a line, and so does a carriage return in front of a line feed.
What stands behind the last line feed is a line of its own unless it is empty;
a carriage return at its end belongs to it.
-/

namespace AsmShell.Text.Lines

variable {Item : Type} [DecidableEq Item]

/-- The pieces of a list that end with a line feed, each with its line feed, and what stands
behind the last one, unless it is empty. -/
def chunks (lineFeed : Item) : List Item → List (List Item)
  | [] => []
  | item :: rest =>
      if item = lineFeed then [item] :: chunks lineFeed rest
      else
        match chunks lineFeed rest with
        | [] => [[item]]
        | chunk :: others => (item :: chunk) :: others

/-- Whether the piece ends with a line feed. -/
def isEnded (lineFeed : Item) (chunk : List Item) : Bool :=
  chunk.getLast? = some lineFeed

/-- The piece without the line feed at its end and a carriage return in front of that. -/
def stripEnd (lineFeed carriageReturn : Item) (chunk : List Item) : List Item :=
  if chunk.getLast? = some lineFeed then
    let line := chunk.dropLast
    if line.getLast? = some carriageReturn then line.dropLast else line
  else chunk

/-- The lines of a text. -/
def ofText (text : String) : List String :=
  (chunks '\n' text.toList).map fun chunk => String.ofList (stripEnd '\n' '\r' chunk)

/-- The line feed as a byte. -/
def lineFeedByte : UInt8 :=
  0x0A

/-- The carriage return as a byte. -/
def carriageReturnByte : UInt8 :=
  0x0D

/-- The lines of a text that is given as bytes, still as bytes. -/
def bytesOfLines (bytes : List UInt8) : List (List UInt8) :=
  (chunks lineFeedByte bytes).map (stripEnd lineFeedByte carriageReturnByte)

/-- The lines of a text that is given as bytes.  Bytes that are not well formed affect no line but
their own. -/
def ofBytes (bytes : List UInt8) : List String :=
  (bytesOfLines bytes).map fun line => String.ofList (Utf8.decodeLossy line)

/-- The part of the bytes up to the last line feed. -/
def endedPart (bytes : List UInt8) : List UInt8 :=
  ((chunks lineFeedByte bytes).filter (isEnded lineFeedByte)).flatten

end AsmShell.Text.Lines
