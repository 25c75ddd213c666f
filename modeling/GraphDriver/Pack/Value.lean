/-!
# MessagePack values

The value tree that a MessagePack byte string spells, and its one canonical spelling. Integers keep
apart whether they were written by an unsigned or a signed marker, because only an unsigned one may
stand for a field or variant number; text keeps its raw bytes, because a marker promises UTF-8 but
does not ensure it. `encode` always picks the shortest marker.
-/

namespace GraphDriver.Pack

/-- Byte strings are equal when their bytes are. The instance is named here so that every module
picks the same one. -/
instance decidableEqBytes : DecidableEq ByteArray := ByteArray.instDecidableEq

/-- A MessagePack value. -/
inductive Value where
  | nil
  | bool (b : Bool)
  | unsigned (n : UInt64)
  | signed (n : Int64)
  | single (bits : UInt32)
  | double (bits : UInt64)
  | text (bytes : ByteArray)
  | binary (bytes : ByteArray)
  | array (items : List Value)
  | map (entries : List (Value × Value))
  | extension (kind : UInt8) (bytes : ByteArray)
deriving Inhabited

/-- The low `width` bytes of a number, most significant first. -/
def bigEndian : Nat → Nat → List UInt8
  | 0, _ => []
  | width + 1, n => bigEndian width (n / 256) ++ [UInt8.ofNat n]

/-- The number that bytes spell, most significant first. -/
def ofBigEndian (bytes : List UInt8) : Nat :=
  bytes.foldl (fun n byte => n * 256 + byte.toNat) 0

/-- A marker followed by a number of `width` bytes. -/
def tagged (marker : UInt8) (width n : Nat) : List UInt8 := marker :: bigEndian width n

/-- The shortest spelling of a natural number below `2 ^ 64`. -/
def unsignedHead (n : Nat) : List UInt8 :=
  if n < 128 then [UInt8.ofNat n]
  else if n < 0x100 then tagged 0xcc 1 n
  else if n < 0x10000 then tagged 0xcd 2 n
  else if n < 0x100000000 then tagged 0xce 4 n
  else tagged 0xcf 8 n

/-- The shortest spelling of an integer by a signed marker; the number is written in two's
complement. -/
def signedHead (n : Int) : List UInt8 :=
  if -32 ≤ n ∧ n < 0 then [UInt8.ofNat (n + 256).toNat]
  else if -0x80 ≤ n ∧ n < 0x80 then tagged 0xd0 1 (n % 0x100).toNat
  else if -0x8000 ≤ n ∧ n < 0x8000 then tagged 0xd1 2 (n % 0x10000).toNat
  else if -0x80000000 ≤ n ∧ n < 0x80000000 then tagged 0xd2 4 (n % 0x100000000).toNat
  else tagged 0xd3 8 (n % 0x10000000000000000).toNat

def textHead (length : Nat) : List UInt8 :=
  if length < 32 then [UInt8.ofNat (0xa0 + length)]
  else if length < 0x100 then tagged 0xd9 1 length
  else if length < 0x10000 then tagged 0xda 2 length
  else tagged 0xdb 4 length

def binaryHead (length : Nat) : List UInt8 :=
  if length < 0x100 then tagged 0xc4 1 length
  else if length < 0x10000 then tagged 0xc5 2 length
  else tagged 0xc6 4 length

def arrayHead (count : Nat) : List UInt8 :=
  if count < 16 then [UInt8.ofNat (0x90 + count)]
  else if count < 0x10000 then tagged 0xdc 2 count
  else tagged 0xdd 4 count

def mapHead (count : Nat) : List UInt8 :=
  if count < 16 then [UInt8.ofNat (0x80 + count)]
  else if count < 0x10000 then tagged 0xde 2 count
  else tagged 0xdf 4 count

def extensionHead (kind : UInt8) (length : Nat) : List UInt8 :=
  let marker : List UInt8 :=
    if length = 1 then [0xd4]
    else if length = 2 then [0xd5]
    else if length = 4 then [0xd6]
    else if length = 8 then [0xd7]
    else if length = 16 then [0xd8]
    else if length < 0x100 then tagged 0xc7 1 length
    else if length < 0x10000 then tagged 0xc8 2 length
    else tagged 0xc9 4 length
  marker ++ [kind]

mutual

/-- The bytes of a value. -/
def Value.encode : Value → ByteArray
  | .nil => [0xc0].toByteArray
  | .bool false => [0xc2].toByteArray
  | .bool true => [0xc3].toByteArray
  | .unsigned n => (unsignedHead n.toNat).toByteArray
  | .signed n => (signedHead n.toInt).toByteArray
  | .single bits => (tagged 0xca 4 bits.toNat).toByteArray
  | .double bits => (tagged 0xcb 8 bits.toNat).toByteArray
  | .text bytes => (textHead bytes.size).toByteArray ++ bytes
  | .binary bytes => (binaryHead bytes.size).toByteArray ++ bytes
  | .array items => (arrayHead items.length).toByteArray ++ encodeItems items
  | .map entries => (mapHead entries.length).toByteArray ++ encodeEntries entries
  | .extension kind bytes => (extensionHead kind bytes.size).toByteArray ++ bytes

/-- The values of an array, one after the other. -/
def encodeItems : List Value → ByteArray
  | [] => .empty
  | item :: rest => item.encode ++ encodeItems rest

/-- The keys and values of a map, in turn. -/
def encodeEntries : List (Value × Value) → ByteArray
  | [] => .empty
  | (key, value) :: rest => key.encode ++ (value.encode ++ encodeEntries rest)

end

mutual

/-- How many arrays, maps and extensions are nested inside each other. -/
def Value.nesting : Value → Nat
  | .array items => itemsNesting items + 1
  | .map entries => entriesNesting entries + 1
  | .extension _ _ => 1
  | _ => 0

def itemsNesting : List Value → Nat
  | [] => 0
  | item :: rest => max item.nesting (itemsNesting rest)

def entriesNesting : List (Value × Value) → Nat
  | [] => 0
  | (key, value) :: rest => max (max key.nesting value.nesting) (entriesNesting rest)

end

/-- The value of an integer: unsigned unless it is negative. -/
def Value.ofInt (n : Int) : Value :=
  if 0 ≤ n then .unsigned (UInt64.ofNat n.toNat) else .signed (Int64.ofInt n)

/-- The integer of an integer value. -/
def Value.toInt? : Value → Option Int
  | .unsigned n => some n.toNat
  | .signed n => some n.toInt
  | _ => none

/-- Text as a value. -/
def Value.ofString (s : String) : Value := .text s.toUTF8

end GraphDriver.Pack
