/-!
# Finite binary64 numbers as exact values

A finite floating-point number is a whole number of units, each unit a power of
two.  Reading the fields of its representation gives that exact value, on which
remainders and decimal forms are computed without rounding.
-/

namespace AsmShell.Number

/-- The exact value of a finite number: a sign and `significand * 2 ^ exponent`. -/
structure Binary64 where
  negative : Bool
  significand : Nat
  exponent : Int
deriving DecidableEq, Inhabited, Repr

namespace Binary64

/-- The exponent of the smallest unit. -/
def leastExponent : Int :=
  -1074

/-- The significand with which the numbers of full precision begin. -/
def leastNormalSignificand : Nat :=
  Nat.pow 2 52

/-- Whether the sign bit is set. -/
def signBit (number : Float) : Bool :=
  Nat.pow 2 63 ≤ number.toBits.toNat

/-- The exact value of a number, unless it is an infinity or no number. -/
def ofFloat? (number : Float) : Option Binary64 :=
  let bits : Nat := number.toBits.toNat
  let fraction : Nat := bits % Nat.pow 2 52
  let scale : Nat := bits / Nat.pow 2 52 % Nat.pow 2 11
  if scale = 2047 then none
  else if scale = 0 then some ⟨signBit number, fraction, leastExponent⟩
  else some ⟨signBit number, leastNormalSignificand + fraction, leastExponent + scale - 1⟩

/--
The number with the given value.  Right whenever the value is representable:
whenever the significand is below `2 ^ 53`, and the exponent is at least the
least one and leaves the number finite.
-/
def toFloat (value : Binary64) : Float :=
  let sign := if value.negative then Nat.pow 2 63 else 0
  if value.significand = 0 then Float.ofBits (UInt64.ofNat sign)
  else
    let room := 52 - value.significand.log2
    let shift := min room (value.exponent - leastExponent).toNat
    let significand := value.significand * Nat.pow 2 shift
    let scale := (value.exponent - shift - leastExponent).toNat
    if significand < leastNormalSignificand then
      Float.ofBits (UInt64.ofNat (sign + significand))
    else
      Float.ofBits
        (UInt64.ofNat (sign + (scale + 1) * Nat.pow 2 52 + (significand - leastNormalSignificand)))

/-- Whether the value is a whole number. -/
def isWhole (value : Binary64) : Bool :=
  0 ≤ value.exponent || value.significand % Nat.pow 2 value.exponent.natAbs == 0

/-- The whole part of the value's magnitude. -/
def wholePart (value : Binary64) : Nat :=
  if 0 ≤ value.exponent then value.significand * Nat.pow 2 value.exponent.toNat
  else value.significand / Nat.pow 2 value.exponent.natAbs

/-- The remainder of the division that rounds its quotient toward zero, which is exact.
It has the sign of the dividend, also when it is zero. -/
def remainder (dividend divisor : Binary64) : Binary64 :=
  let exponent := min dividend.exponent divisor.exponent
  let units (value : Binary64) := value.significand * Nat.pow 2 (value.exponent - exponent).toNat
  ⟨dividend.negative, units dividend % units divisor, exponent⟩

end Binary64

/-- The floating-point value that is no number. -/
def notANumber : Float :=
  0.0 / 0.0

/--
The remainder of the division that rounds its quotient toward zero.  An infinite
divisor leaves a finite dividend as it is; an infinite dividend and a zero
divisor have no remainder.
-/
def floatRemainder (dividend divisor : Float) : Float :=
  match Binary64.ofFloat? dividend, Binary64.ofFloat? divisor with
  | some exactDividend, some exactDivisor =>
      if exactDivisor.significand = 0 then notANumber
      else (exactDividend.remainder exactDivisor).toFloat
  | some _, none => if divisor.isNaN then notANumber else dividend
  | none, _ => notANumber

/-- The floating-point number nearest to an integer, of two equally near ones the even one. -/
def floatOfInteger (integer : Int64) : Float :=
  Float.ofInt integer.toInt

end AsmShell.Number
