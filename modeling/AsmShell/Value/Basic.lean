import AsmShell.Number.Decimal
import AsmShell.Number.Integer
import AsmShell.Text.Quoted

/-!
# Values

What an argument evaluates to: a bare name, a whole number of 64 bits, a
floating-point number or a text.  Each value has a printed form, in which a text
is quoted and a floating-point number is told from a whole one by its point.
-/

namespace AsmShell

/-- What an argument evaluates to. -/
inductive Value where
  | identifier (name : String)
  | integer (number : Int64)
  | float (number : Float)
  | string (text : String)
deriving BEq, Inhabited

/-- The kind of a value. -/
inductive Kind where
  | identifier
  | integer
  | float
  | string
deriving DecidableEq, Inhabited, Repr

/-- The word for the kind in messages. -/
def Kind.name : Kind → String
  | .identifier => "identifier"
  | .integer => "integer"
  | .float => "float"
  | .string => "string"

/-- The decimal text of an integer. -/
def integerText (number : Int64) : String :=
  let digits := Nat.toDigits 10 number.toInt.natAbs
  String.ofList (if number.toInt < 0 then '-' :: digits else digits)

namespace Value

/-- The kind of the value. -/
def kind : Value → Kind
  | .identifier _ => .identifier
  | .integer _ => .integer
  | .float _ => .float
  | .string _ => .string

/-- Whether the value is a number. -/
def isNumeric : Value → Bool
  | .integer _ | .float _ => true
  | .identifier _ | .string _ => false

/-- Whether the value counts as true: a number other than zero, or a text that is not empty. -/
def isTruthy : Value → Bool
  | .integer number => number != 0
  | .float number => number != 0.0
  | .identifier text | .string text => !text.isEmpty

/-- The text of a value that is one, bare or quoted. -/
def text? : Value → Option String
  | .identifier text | .string text => some text
  | .integer _ | .float _ => none

/-- The integer that stands for a truth value. -/
def ofBool (truth : Bool) : Value :=
  .integer (if truth then 1 else 0)

/-- The printed form of the value. -/
def render : Value → String
  | .identifier name => name
  | .integer number => integerText number
  | .float number => Number.floatText number
  | .string text => Text.Quoted.quote text

end Value

end AsmShell
