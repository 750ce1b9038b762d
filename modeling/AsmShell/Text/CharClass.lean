/-!
# Classes of characters

The classes that the spelling of tokens is made of hold characters of the basic
alphabet only: a letter or a digit of another script belongs to none.

The blanks are another class: the characters with the Unicode property
`White_Space`.  A line that holds nothing else is blank, and the blanks in front
of a line do not decide what kind of line it is.  The tables of such properties
list code points as closed ranges, in increasing order.
-/

namespace AsmShell.Text

/-- A decimal digit. -/
def isDigit (character : Char) : Bool :=
  '0' ≤ character && character ≤ '9'

/-- A digit of base sixteen, in either case. -/
def isHexDigit (character : Char) : Bool :=
  isDigit character || ('a' ≤ character && character ≤ 'f') ||
    ('A' ≤ character && character ≤ 'F')

/-- A digit of base eight. -/
def isOctalDigit (character : Char) : Bool :=
  '0' ≤ character && character ≤ '7'

/-- A digit of base two. -/
def isBinaryDigit (character : Char) : Bool :=
  character == '0' || character == '1'

/-- A character with which a name may begin: a letter or an underscore. -/
def isNameStart (character : Char) : Bool :=
  ('a' ≤ character && character ≤ 'z') || ('A' ≤ character && character ≤ 'Z') ||
    character == '_'

/-- A character with which a name may go on. -/
def isNameChar (character : Char) : Bool :=
  isNameStart character || isDigit character

/-- A character with which a bare name may go on: mnemonics and file names have dots. -/
def isBareNameChar (character : Char) : Bool :=
  isNameChar character || character == '.'

/-- A character that separates tokens and is otherwise ignored. -/
def isSeparator (character : Char) : Bool :=
  character == ' ' || character == '\t' || character == '\x0c' ||
    character == '\r' || character == '\n'

/-- The mark in front of a power of ten. -/
def isExponentMark (character : Char) : Bool :=
  character == 'e' || character == 'E'

/-- The sign of a power of ten. -/
def isSign (character : Char) : Bool :=
  character == '+' || character == '-'

/-- The value of a digit, letters in either case counting from ten. -/
def digitValue (character : Char) : Nat :=
  if isDigit character then character.toNat - '0'.toNat
  else if 'a' ≤ character && character ≤ 'z' then character.toNat - 'a'.toNat + 10
  else if 'A' ≤ character && character ≤ 'Z' then character.toNat - 'A'.toNat + 10
  else 36

/-- The number that the digits write in the base, most significant digit first. -/
def valueOfDigits (base : Nat) (digits : List Char) : Nat :=
  digits.foldl (fun value digit => value * base + digitValue digit) 0

/-! ## Blanks -/

/-- Whether the character lies in one of the closed ranges of code points. -/
def inRanges (ranges : List (Nat × Nat)) (character : Char) : Bool :=
  ranges.any fun range => range.1 ≤ character.toNat && character.toNat ≤ range.2

/-- The characters with the Unicode property `White_Space`, as ranges of code points. -/
def blankRanges : List (Nat × Nat) :=
  [(0x9, 0xD), (0x20, 0x20), (0x85, 0x85), (0xA0, 0xA0), (0x1680, 0x1680),
   (0x2000, 0x200A), (0x2028, 0x2029), (0x202F, 0x202F), (0x205F, 0x205F),
   (0x3000, 0x3000)]

/-- Whether the character is white space. -/
def isBlank (character : Char) : Bool :=
  inRanges blankRanges character

/-- The text without the blanks in front of it. -/
def dropBlanks (text : List Char) : List Char :=
  text.dropWhile isBlank

end AsmShell.Text
