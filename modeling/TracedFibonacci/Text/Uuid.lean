import TracedFibonacci.Text.Numeral

/-!
# Random identifiers

A random identifier is sixteen random bytes, of which six bits are fixed to tell that it is one. It
is written in hexadecimal, in groups of eight, four, four, four and twelve digits.
-/

namespace TracedFibonacci.Text.Uuid

/-- Sixteen bytes with the bits of a random identifier set. -/
def mark (bytes : List UInt8) : List UInt8 :=
  (bytes.modify 6 fun b ↦ (b &&& 0x0F) ||| 0x40).modify 8 fun b ↦ (b &&& 0x3F) ||| 0x80

/-- A byte in two hexadecimal digits. -/
def writeByte (b : UInt8) : List Char :=
  [b.toNat / 16, b.toNat % 16].map Numeral.digitChar

/-- Bytes in hexadecimal. -/
def writeBytes (bytes : List UInt8) : String := String.ofList (bytes.flatMap writeByte)

/-- The identifier made of sixteen random bytes. -/
def ofBytes (bytes : List UInt8) : String :=
  let b := mark bytes
  String.intercalate "-"
    [writeBytes (b.take 4), writeBytes ((b.drop 4).take 2), writeBytes ((b.drop 6).take 2),
      writeBytes ((b.drop 8).take 2), writeBytes (b.drop 10)]

end TracedFibonacci.Text.Uuid
