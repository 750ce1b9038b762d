/-!
# Assemblers

An assembler turns lines into machine code for a target.  Its answer to a line
may depend on the lines it was given before, such as those that define labels.
-/

namespace AsmShell

/-- What code is made for: a machine with its vendor and system, and the model of its processor. -/
structure Target where
  triple : String
  cpu : String
deriving DecidableEq, Inhabited, Repr

namespace Target

/-- The target as it is shown. -/
def render (target : Target) : String :=
  target.triple ++ " (" ++ target.cpu ++ ")"

/-- The model of the processor where none is given. -/
def defaultCpu : String :=
  "generic"

end Target

/-- Why a line has no machine code, and the column that is at fault. -/
structure AssembleError where
  message : String
  column : Nat
deriving DecidableEq, Inhabited, Repr

/-- An assembler for a target, which makes machine code of a line given the lines before it. -/
structure Assembler where
  target : Target
  encode : (earlier : List String) → (line : String) → Except AssembleError (List UInt8)

namespace Assembler

/-- The assembler for a target that no code can be made for. -/
def unsupported (target : Target) : Assembler where
  target := target
  encode _ _ :=
    .error ⟨"no code generation backend for target `" ++ target.triple ++ "`", 0⟩

instance : Inhabited Assembler :=
  ⟨unsupported default⟩

end Assembler

/-- A byte as two digits of base sixteen. -/
def hexByte (byte : UInt8) : List Char :=
  [Nat.digitChar (byte.toNat / 16), Nat.digitChar (byte.toNat % 16)]

/-- Machine code as it is shown: two digits for each byte, with spaces between the bytes. -/
def hexBytes (bytes : List UInt8) : String :=
  " ".intercalate (bytes.map fun byte => String.ofList (hexByte byte))

end AsmShell
