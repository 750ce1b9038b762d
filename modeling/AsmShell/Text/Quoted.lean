import AsmShell.Text.Grapheme
import AsmShell.Text.Printable

/-!
# Quoted text

A text is written between double quotes.  The quote, the backslash and the
common control characters are written with a backslash and a letter, and every
other character that would not show as itself is written by its code point in
hexadecimal.  Reading undoes the escapes that have a letter; after a backslash
any other character stands for itself.
-/

namespace AsmShell.Text.Quoted

/-- The letter that stands for a character after a backslash, where it has one. -/
def escapeLetter? : Char → Option Char
  | '\x00' => some '0'
  | '\t' => some 't'
  | '\r' => some 'r'
  | '\n' => some 'n'
  | '\\' => some '\\'
  | '"' => some '"'
  | _ => none

/-- The digits of a number in base sixteen, in lower case and without leading zeros. -/
def hexDigits (number : Nat) : List Char :=
  Nat.toDigits 16 number

/-- A character as it is written between the quotes. -/
def encodeChar (character : Char) : List Char :=
  match escapeLetter? character with
  | some letter => ['\\', letter]
  | none =>
      if extendsGrapheme character || !isPrintable character then
        ['\\', 'u', '\x7b'] ++ hexDigits character.toNat ++ ['\x7d']
      else
        [character]

/-- The text between the quotes. -/
def encode (text : List Char) : List Char :=
  text.flatMap encodeChar

/-- The text with quotes around it. -/
def quote (text : String) : String :=
  String.ofList ('"' :: encode text.toList ++ ['"'])

/-- What a character stands for when a backslash precedes it. -/
def decodeEscaped : Char → Char
  | 'n' => '\n'
  | 't' => '\t'
  | '0' => '\x00'
  | other => other

/-- Undoes the escapes in the text between two quotes. -/
def decode : List Char → List Char
  | [] => []
  | '\\' :: escaped :: rest => decodeEscaped escaped :: decode rest
  | character :: rest => character :: decode rest

end AsmShell.Text.Quoted
