import AsmShell.Text.CharClass
import AsmShell.Text.Pattern
import AsmShell.Token.Basic

/-!
# The spelling of tokens

Each kind of token that is read from a line has a pattern that says how it is
spelled.  The kinds `unknown` and `endOfLine` have no spelling of their own.
No text is spelled by two of them, so the order of `Lexeme.all` decides nothing.
-/

namespace AsmShell

open Text

namespace TokenKind

/-- The fixed spelling of an operator or a parenthesis. -/
def symbol? : TokenKind → Option String
  | .plus => some "+"
  | .minus => some "-"
  | .star => some "*"
  | .slash => some "/"
  | .percent => some "%"
  | .doubleEqual => some "=="
  | .bangEqual => some "!="
  | .greater => some ">"
  | .less => some "<"
  | .greaterEqual => some ">="
  | .lessEqual => some "<="
  | .doubleAmpersand => some "&&"
  | .doubleBar => some "||"
  | .ampersand => some "&"
  | .bar => some "|"
  | .caret => some "^"
  | .doubleLess => some "<<"
  | .doubleGreater => some ">>"
  | .bang => some "!"
  | .tilde => some "~"
  | .openParen => some "("
  | .closeParen => some ")"
  | _ => none

end TokenKind

namespace Spelling

/-- One decimal digit or more. -/
def digits : Pattern :=
  .plus (.oneOf isDigit)

/-- The power of ten behind a number: a mark, an optional sign and digits. -/
def exponent : Pattern :=
  .inOrder [.oneOf isExponentMark, .optional (.oneOf isSign), digits]

/-- A number with a fraction, with an exponent, or with both. -/
def float : Pattern :=
  .anyOf
    [.inOrder [digits, .char '.', digits, .optional exponent],
     .inOrder [.char '.', digits, .optional exponent],
     .inOrder [digits, exponent]]

/-- Digits of another base behind the zero and the letter, in either case, that name it. -/
def based (lower upper : Char) (isBaseDigit : Char → Bool) : Pattern :=
  .inOrder
    [.char '0', .oneOf fun character => character == lower || character == upper,
     .plus (.oneOf isBaseDigit)]

/-- A whole number in base ten, sixteen, two or eight. -/
def integer : Pattern :=
  .anyOf
    [digits, based 'x' 'X' isHexDigit, based 'b' 'B' isBinaryDigit,
     based 'o' 'O' isOctalDigit]

/-- A bare name. -/
def identifier : Pattern :=
  .seq (.oneOf isNameStart) (.star (.oneOf isBareNameChar))

/-- A name behind a dollar sign. -/
def reference : Pattern :=
  .inOrder [.char '$', .oneOf isNameStart, .star (.oneOf isNameChar)]

/-- What stands behind an opening quote: plain characters, and pairs of a backslash and any
character but a line feed. -/
def stringBody : Pattern :=
  .star
    (.alt (.oneOf fun character => character != '"' && character != '\\')
      (.seq (.char '\\') (.oneOf fun character => character != '\n')))

/-- A text between quotes. -/
def string : Pattern :=
  .inOrder [.char '"', stringBody, .char '"']

/-- An opening quote and a text that no quote closes. -/
def unclosedString : Pattern :=
  .seq (.char '"') stringBody

end Spelling

/-- The texts that spell a token of the kind. -/
def TokenKind.pattern (kind : TokenKind) : Pattern :=
  match kind with
  | .identifier => Spelling.identifier
  | .integer => Spelling.integer
  | .float => Spelling.float
  | .string => Spelling.string
  | .reference => Spelling.reference
  | .unclosedString => Spelling.unclosedString
  | _ =>
      match kind.symbol? with
      | some symbol => .literal symbol.toList
      | none => .never

/-- What a longest match in a line stands for. -/
inductive Lexeme where
  | separators
  | token (kind : TokenKind)
deriving DecidableEq, Inhabited, Repr

namespace Lexeme

/-- The texts that spell the lexeme. -/
def pattern : Lexeme → Pattern
  | .separators => .plus (.oneOf isSeparator)
  | .token kind => kind.pattern

/-- Every lexeme that can be read from a line. -/
def all : List Lexeme :=
  .separators ::
    [TokenKind.float, .integer, .identifier, .reference, .string, .unclosedString, .plus,
     .minus, .star, .slash, .percent, .doubleEqual, .bangEqual, .greater, .less,
     .greaterEqual, .lessEqual, .doubleAmpersand, .doubleBar, .ampersand, .bar, .caret,
     .doubleLess, .doubleGreater, .bang, .tilde, .openParen, .closeParen].map .token

/-- Every lexeme with its pattern. -/
def patterns : List (Lexeme × Pattern) :=
  all.map fun lexeme => (lexeme, lexeme.pattern)

end Lexeme

end AsmShell
