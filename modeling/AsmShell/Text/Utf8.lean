/-!
# Texts as bytes

The decoder cuts a list of bytes into units: a unit is either a well-formed
sequence, which stands for a character, or a longest piece that begins like a
well-formed sequence and does not go on like one, which stands for none.  A byte
with which no sequence begins is a piece of its own.
-/

namespace AsmShell.Text.Utf8

/-- The bytes of a text. -/
def encode (text : List Char) : List UInt8 :=
  text.flatMap String.utf8EncodeChar

/-- What the first byte of a sequence says: the leading bits of the character, and the range of
each byte that has to follow.  The ranges exclude what has a shorter sequence, the surrogates,
and what lies beyond the last character. -/
structure Lead where
  bits : Nat
  following : List (UInt8 × UInt8)
deriving DecidableEq, Inhabited, Repr

/-- The range of a byte that is not the first of its sequence. -/
def continuation : UInt8 × UInt8 :=
  (0x80, 0xBF)

/-- What a byte says as the first of a sequence. -/
def lead? (byte : UInt8) : Option Lead :=
  let value := byte.toNat
  if value < 0x80 then some ⟨value, []⟩
  else if value < 0xC2 then none
  else if value < 0xE0 then some ⟨value - 0xC0, [continuation]⟩
  else if value = 0xE0 then some ⟨0x0, [(0xA0, 0xBF), continuation]⟩
  else if value = 0xED then some ⟨0xD, [(0x80, 0x9F), continuation]⟩
  else if value < 0xF0 then some ⟨value - 0xE0, [continuation, continuation]⟩
  else if value = 0xF0 then some ⟨0x0, [(0x90, 0xBF), continuation, continuation]⟩
  else if value < 0xF4 then some ⟨value - 0xF0, [continuation, continuation, continuation]⟩
  else if value = 0xF4 then some ⟨0x4, [(0x80, 0x8F), continuation, continuation]⟩
  else none

/-- The longest part of the bytes that lies in the ranges, one byte for a range. -/
def fitting : List (UInt8 × UInt8) → List UInt8 → List UInt8
  | range :: ranges, byte :: rest =>
      if range.1 ≤ byte && byte ≤ range.2 then byte :: fitting ranges rest else []
  | _, _ => []

/-- The code point of a sequence, six bits for each byte that follows the first. -/
def codePoint (bits : Nat) (following : List UInt8) : Nat :=
  following.foldl (fun value byte => value * 64 + byte.toNat % 64) bits

/-- The first unit of a list of bytes: its character, where it is well formed, and the number of
its bytes behind the first. -/
def firstUnit (first : UInt8) (rest : List UInt8) : Option Char × Nat :=
  match lead? first with
  | none => (none, 0)
  | some lead =>
      let following := fitting lead.following rest
      if following.length = lead.following.length then
        (some (Char.ofNat (codePoint lead.bits following)), following.length)
      else
        (none, following.length)

/-- The characters of the units of the bytes, of which the first `covered` bytes belong to a unit
that was already taken. -/
def unitsFrom (covered : Nat) : List UInt8 → List (Option Char)
  | [] => []
  | byte :: rest =>
      match covered with
      | stillCovered + 1 => unitsFrom stillCovered rest
      | 0 =>
          let (unit, length) := firstUnit byte rest
          unit :: unitsFrom length rest

/-- The character that stands for what is no character. -/
def replacement : Char :=
  '\uFFFD'

/-- The text of the bytes, with a replacement character for each piece that is not well formed. -/
def decodeLossy (bytes : List UInt8) : List Char :=
  (unitsFrom 0 bytes).map (·.getD replacement)

/-- The text of the bytes, where they are well formed. -/
def decode? (bytes : List UInt8) : Option (List Char) :=
  (unitsFrom 0 bytes).mapM id

end AsmShell.Text.Utf8
