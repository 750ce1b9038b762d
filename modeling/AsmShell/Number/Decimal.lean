import AsmShell.Number.Binary64
import AsmShell.Text.CharClass

/-!
# Decimal text of floating-point numbers

A number is written in positional notation, never with an exponent.  A whole
number is written with all its digits and one zero behind the point.  Any other
number is written with the fewest digits that read back as the number: the
decimal grids are searched from the coarsest to the finest, and on the first
grid that has a point among the reals that round to the number, the point
nearest to the number is taken, of two equally near ones the larger.

Reading takes a sign, digits with an optional point among them, and an optional
power of ten, and rounds to the nearest number; it also takes the names of the
infinities and of the value that is no number.
-/

namespace AsmShell.Number

open AsmShell.Text

/-- The value `significand * 10 ^ exponent`. -/
structure Decimal where
  significand : Nat
  exponent : Int
deriving DecidableEq, Inhabited, Repr

namespace Decimal

/--
The point of the grid of multiples of `10 ^ grid` that is nearest to the value
among the two that enclose it, provided it rounds to the value.  Quarter units
of the value are counted, so that the ends of the interval of the reals that
round to it are whole; the ends belong to it when the significand is even.
-/
def onGrid? (value : Binary64) (grid : Int) : Option Decimal :=
  let quarters := 4 * value.significand
  let below :=
    if value.significand = Binary64.leastNormalSignificand &&
        Binary64.leastExponent < value.exponent then 1 else 2
  let exponent := value.exponent - 2
  -- `count` quarter units are `count * scale / step` steps of the grid.
  let scale := Nat.pow 2 exponent.toNat * Nat.pow 10 (-grid).toNat
  let step := Nat.pow 2 (-exponent).toNat * Nat.pow 10 grid.toNat
  let low := (quarters - below) * scale
  let high := (quarters + 2) * scale
  let roundsBack (point : Nat) : Bool :=
    if value.significand % 2 = 0 then low ≤ point * step && point * step ≤ high
    else low < point * step && point * step < high
  let beneath := quarters * scale / step
  let above := beneath + 1
  match roundsBack beneath, roundsBack above with
  | true, true =>
      if 2 * (quarters * scale - beneath * step) < step then some ⟨beneath, grid⟩
      else some ⟨above, grid⟩
  | true, false => some ⟨beneath, grid⟩
  | false, true => some ⟨above, grid⟩
  | false, false => none

/-- The power of ten of a grid that has no point but zero below the value: at least the decimal
logarithm of the value, of which `30103 / 100000` per binary place is slightly more. -/
def coarsestGrid (value : Binary64) : Int :=
  (value.significand.log2 + 1 + value.exponent) * 30103 / 100000 + 1

/-- The decimal with the fewest digits that rounds to the positive value.  Seventeen digits are
always enough, so the grids tried reach far enough. -/
def shortest (value : Binary64) : Decimal :=
  let start := coarsestGrid value
  ((List.range 24).findSome? fun (finer : Nat) => onGrid? value (start - finer)).getD ⟨0, 0⟩

/-- The digits of the value with a point among or in front of them where it has a fraction. -/
def positional (value : Decimal) : List Char :=
  let digits := Nat.toDigits 10 value.significand
  if 0 ≤ value.exponent then digits ++ List.replicate value.exponent.toNat '0'
  else
    let places := value.exponent.natAbs
    let padded := List.replicate (places + 1 - digits.length) '0' ++ digits
    padded.take (padded.length - places) ++ '.' :: padded.drop (padded.length - places)

/-- The floating-point number nearest to the value.  A value whose first digit stands beyond the
range of the format is infinite or zero without further reckoning. -/
def toFloat (value : Decimal) : Float :=
  if value.significand = 0 then 0.0
  else
    let places := (Nat.toDigits 10 value.significand).length + value.exponent
    if 400 < places then 1.0 / 0.0
    else if places < -400 then 0.0
    else Float.ofScientific value.significand (value.exponent < 0) value.exponent.natAbs

end Decimal

/-- The text of a floating-point number. -/
def floatText (number : Float) : String :=
  match Binary64.ofFloat? number with
  | some value =>
      let magnitude :=
        if value.isWhole then Nat.toDigits 10 value.wholePart ++ ['.', '0']
        else (Decimal.shortest value).positional
      String.ofList (if value.negative then '-' :: magnitude else magnitude)
  | none =>
      if number.isNaN then "NaN"
      else if Binary64.signBit number then "-inf"
      else "inf"

/-- A sign in front of a text, where there is one: whether it is a minus, and the rest. -/
def splitSign : List Char → Bool × List Char
  | '-' :: rest => (true, rest)
  | '+' :: rest => (false, rest)
  | text => (false, text)

/-- The power of ten behind a number; nothing behind it stands for zero. -/
def readExponent? : List Char → Option Int
  | [] => some 0
  | mark :: rest =>
      let (negative, digits) := splitSign rest
      if isExponentMark mark && !digits.isEmpty && digits.all isDigit then
        let magnitude : Int := valueOfDigits 10 digits
        some (if negative then -magnitude else magnitude)
      else none

/-- The value of a number without a sign: digits, at least one of them before or behind an
optional point, and an optional power of ten. -/
def readDecimal? (text : List Char) : Option Decimal :=
  let whole := text.takeWhile isDigit
  let behindWhole := text.dropWhile isDigit
  let (fraction, behindFraction) :=
    match behindWhole with
    | '.' :: rest => (rest.takeWhile isDigit, rest.dropWhile isDigit)
    | rest => ([], rest)
  if whole.isEmpty && fraction.isEmpty then none
  else
    (readExponent? behindFraction).map fun exponent =>
      ⟨valueOfDigits 10 (whole ++ fraction), exponent - fraction.length⟩

/-- The magnitude that a text without a sign writes. -/
def readMagnitude? (text : List Char) : Option Float :=
  let lowered := String.ofList (text.map Char.toLower)
  if lowered = "inf" || lowered = "infinity" then some (1.0 / 0.0)
  else if lowered = "nan" then some notANumber
  else (readDecimal? text).map Decimal.toFloat

/-- The floating-point number that a text writes. -/
def readFloat? (text : String) : Option Float :=
  let (negative, magnitude) := splitSign text.toList
  (readMagnitude? magnitude).map fun number => if negative then -number else number

end AsmShell.Number
