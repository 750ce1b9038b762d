import AsmShell.Text.CharClass

/-!
# Whole numbers of 64 bits

A decimal literal has to fit the signed range.  A literal in another base names
a bit pattern: it has to fit 64 bits, and is then read as a signed number in
two's complement.
-/

namespace AsmShell.Number

open AsmShell.Text

/-- The number of bits of an integer. -/
def integerBits : Nat :=
  64

/-- The number of bit patterns of an integer. -/
def patternCount : Nat :=
  Nat.pow 2 integerBits

/-- The magnitude of the least integer, which is one more than the greatest integer. -/
def signedBound : Nat :=
  Nat.pow 2 (integerBits - 1)

/-- The number that a text writes in the base: digits, at least one, after an optional plus. -/
def readNatural? (base : Nat) (text : List Char) : Option Nat :=
  let digits :=
    match text with
    | '+' :: rest => rest
    | _ => text
  if !digits.isEmpty && digits.all (fun digit => digitValue digit < base) then
    some (valueOfDigits base digits)
  else none

/-- The integer with the bit pattern that a text writes in the base. -/
def readBitPattern? (base : Nat) (text : List Char) : Option Int64 :=
  match readNatural? base text with
  | some value => if value < patternCount then some (Int64.ofNat value) else none
  | none => none

/-- The integer that a text writes in base ten, after an optional sign. -/
def readSigned? (text : List Char) : Option Int64 :=
  match text with
  | '-' :: '+' :: _ => none
  | '-' :: digits =>
      match readNatural? 10 digits with
      | some value => if value ≤ signedBound then some (Int64.ofInt (-value)) else none
      | none => none
  | _ =>
      match readNatural? 10 text with
      | some value => if value < signedBound then some (Int64.ofNat value) else none
      | none => none

/-- The base that a letter behind a leading zero names. -/
def baseOfMark? : Char → Option Nat
  | 'x' | 'X' => some 16
  | 'b' | 'B' => some 2
  | 'o' | 'O' => some 8
  | _ => none

/-- The integer that a literal writes, unless it is out of range or no literal. -/
def readInteger? (text : String) : Option Int64 :=
  match text.toList with
  | '0' :: mark :: digits =>
      match baseOfMark? mark with
      | some base => readBitPattern? base digits
      | none => readSigned? ('0' :: mark :: digits)
  | characters => readSigned? characters

/-- The number of places of a shift, which has to be less than the number of bits. -/
def shiftAmount? (amount : Int64) : Option Nat :=
  if 0 ≤ amount.toInt && amount.toInt < integerBits then some amount.toInt.toNat else none

end AsmShell.Number
