import AsmShell.Text.Quoted
import AsmShell.Token.Lexeme

/-!
# Splitting a line into tokens

At each place of a line the longest lexeme that begins there is taken, and the
scan goes on behind it.  A character with which no lexeme begins becomes a token
of its own, so splitting never fails and the parser can report the character at
its column.
-/

namespace AsmShell

namespace Token

/-- What a token of the kind says when `source` is how it stands in the line. -/
def textOf (kind : TokenKind) (source : List Char) : List Char :=
  match kind with
  | .string => Text.Quoted.decode source.tail.dropLast
  | .reference => source.tail
  | _ => source

/-- The token of the kind that stands in the line as `source`, from `column` on. -/
def ofSource (kind : TokenKind) (column : Nat) (source : List Char) : Token where
  kind := kind
  span := ⟨column, column + (source.length - 1)⟩
  text := String.ofList (textOf kind source)

end Token

/--
The tokens of the rest of a line that begins at `column`, of which the first
`covered` characters belong to a lexeme that was already taken.
-/
def tokensFrom (column covered : Nat) : List Char → List Token
  | [] => [Token.endOfLine column]
  | character :: rest =>
      match covered with
      | stillCovered + 1 => tokensFrom (column + 1) stillCovered rest
      | 0 =>
          match Text.longestMatch Lexeme.patterns (character :: rest) with
          | some (.token kind, length) =>
              Token.ofSource kind column ((character :: rest).take length) ::
                tokensFrom (column + 1) (length - 1) rest
          | some (.separators, length) => tokensFrom (column + 1) (length - 1) rest
          | none =>
              Token.ofSource .unknown column [character] :: tokensFrom (column + 1) 0 rest

/-- The tokens of a line, the end of the line last. -/
def tokenize (line : String) : List Token :=
  tokensFrom 0 0 line.toList

end AsmShell
