/-!
# Columns, spans and tokens

A place in a line is a column: the number of characters that stand before it.
A span names the columns of its first and of its last character, so it always
covers at least one column, and two adjacent spans share none.

A token is a piece of a line with its kind and its place.  Every list of tokens
made from a line ends with a token of kind `endOfLine`, which stands one column
behind the last character.
-/

namespace AsmShell

/-- The columns of the first and the last character of a piece of a line. -/
structure Span where
  first : Nat
  last : Nat
deriving DecidableEq, Inhabited, Repr

namespace Span

/-- The span from the first column of one piece to the last column of another. -/
def through (opening closing : Span) : Span :=
  ⟨opening.first, closing.last⟩

/-- The same piece of text with `columns` more characters in front of it. -/
def shift (columns : Nat) (span : Span) : Span :=
  ⟨span.first + columns, span.last + columns⟩

end Span

/-- What a piece of a line is. -/
inductive TokenKind where
  | identifier
  | integer
  | float
  | string
  /-- A name after a dollar sign. -/
  | reference
  | plus
  | minus
  | star
  | slash
  | percent
  | doubleEqual
  | bangEqual
  | greater
  | less
  | greaterEqual
  | lessEqual
  | doubleAmpersand
  | doubleBar
  | ampersand
  | bar
  | caret
  | doubleLess
  | doubleGreater
  | bang
  | tilde
  | openParen
  | closeParen
  /-- A text whose closing quote is missing. -/
  | unclosedString
  /-- A character with which no token begins. -/
  | unknown
  | endOfLine
deriving DecidableEq, Inhabited, Repr

/-- A piece of a line with its kind and its place. -/
structure Token where
  kind : TokenKind
  span : Span
  /-- What it says: the decoded text of a string, the bare name of a variable, and the
  characters themselves otherwise. -/
  text : String
deriving DecidableEq, Inhabited, Repr

namespace Token

/-- The column of the first character. -/
def column (token : Token) : Nat :=
  token.span.first

/-- The token that marks the end of a line of `column` characters. -/
def endOfLine (column : Nat) : Token where
  kind := .endOfLine
  span := ⟨column, column⟩
  text := ""

end Token

end AsmShell
