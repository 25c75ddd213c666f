/-!
# Hexadecimal text

Bytes as two lower-case hexadecimal digits each.
-/

namespace GraphDriver.Text

def hexDigit (n : Nat) : Char :=
  if n < 10 then Char.ofNat (48 + n) else Char.ofNat (87 + n)

/-- The two digits of a byte. -/
def hexByte (b : UInt8) : List Char := [hexDigit (b.toNat / 16), hexDigit (b.toNat % 16)]

/-- The digits of a byte string, most significant first within each byte. -/
def hex (bytes : ByteArray) : String := String.ofList (bytes.data.toList.flatMap hexByte)

end GraphDriver.Text
