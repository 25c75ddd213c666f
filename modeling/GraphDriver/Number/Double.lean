/-!
# Double-precision numbers

A `Double` is the 64-bit word of an IEEE 754 binary64 number. Equality is equality of words: a NaN
equals itself and the two zeros differ, which is what an exact codec needs. The conversions into
doubles are written in exact arithmetic on natural numbers.
-/

namespace GraphDriver

/-- A binary64 number, kept as its word: sign, 11 exponent bits, 52 fraction bits. -/
structure Double where
  bits : UInt64
deriving DecidableEq, Inhabited

namespace Double

/-- Weight of the lowest exponent bit. -/
def fractionSize : Nat := 1 <<< 52

/-- Weight of the sign bit. -/
def signWeight : Nat := 1 <<< 63

def isNegative (d : Double) : Bool := signWeight ≤ d.bits.toNat

def biasedExponent (d : Double) : Nat := d.bits.toNat / fractionSize % 2048

def fraction (d : Double) : Nat := d.bits.toNat % fractionSize

def isNaN (d : Double) : Bool := d.biasedExponent = 2047 && d.fraction ≠ 0

def isInfinite (d : Double) : Bool := d.biasedExponent = 2047 && d.fraction = 0

/-- A finite double has magnitude `significand * 2 ^ exponent`. -/
def significand (d : Double) : Nat :=
  if d.biasedExponent = 0 then d.fraction else fractionSize + d.fraction

/-- The power of two that goes with `significand`. -/
def exponent (d : Double) : Int :=
  if d.biasedExponent = 0 then -1074 else (d.biasedExponent : Int) - 1075

/-- Assembles a word from its sign and the remaining 63 bits. -/
def ofSigned (negative : Bool) (rest : Nat) : Double :=
  ⟨UInt64.ofNat ((if negative then signWeight else 0) + rest)⟩

/-- The 63 low bits of the double nearest to `n`; a number halfway between two doubles goes to the
one with the even significand. Rounding up past the last significand carries into the exponent. -/
def magnitudeOfNat (n : Nat) : Nat :=
  if n = 0 then 0
  else
    let length := n.log2 + 1
    let significand :=
      if length ≤ 53 then n <<< (53 - length)
      else
        let unit := 1 <<< (length - 53)
        let below := n % unit
        let kept := n / unit
        if unit < 2 * below ∨ (unit = 2 * below ∧ kept % 2 = 1) then kept + 1 else kept
    (length + 1022) * fractionSize + (significand - fractionSize)

/-- The double nearest to an integer. -/
def ofInt (n : Int) : Double := ofSigned (n < 0) (magnitudeOfNat n.natAbs)

/-- Widens a binary32 word. Every single is a double; a NaN keeps its payload and becomes quiet. -/
def ofSingle (bits : UInt32) : Double :=
  let word := bits.toNat
  let negative := decide (0x80000000 ≤ word)
  let biased := word / 0x800000 % 256
  let fraction := word % 0x800000
  if biased = 255 then
    let quiet := if fraction = 0 then 0 else (1 <<< 51) + (fraction % 0x400000) <<< 29
    ofSigned negative (2047 * fractionSize + quiet)
  else if biased = 0 then
    if fraction = 0 then ofSigned negative 0
    else ofSigned negative (magnitudeOfNat fraction - 149 * fractionSize)
  else ofSigned negative ((biased + 896) * fractionSize + fraction <<< 29)

example : ofInt 1 = ⟨0x3ff0000000000000⟩ := by decide
example : ofInt (-3) = ⟨0xc008000000000000⟩ := by decide
example : ofInt 9007199254740993 = ofInt 9007199254740992 := by decide +kernel
example : ofInt 9007199254740995 = ofInt 9007199254740996 := by decide +kernel
example : ofSingle 0x3fc00000 = ⟨0x3ff8000000000000⟩ := by decide
example : ofSingle 1 = ⟨0x36a0000000000000⟩ := by decide

end Double

end GraphDriver
