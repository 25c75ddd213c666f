import GraphDriver.Pack.Value

/-!
# Reading MessagePack

`parse` reads one value from the front of a byte list and returns the bytes after it. Every marker
is understood at every width, so a number or a length need not be written in its shortest form. It
fails on a byte string that ends inside a value and on the one marker that is never used.
-/

namespace GraphDriver.Pack

/-- What the first bytes of a value announce: a whole scalar, or how many values follow. -/
inductive Head where
  | scalar (value : Value)
  | array (count : Nat)
  | map (count : Nat)

/-- Splits off the first `n` bytes. -/
def takeBytes (n : Nat) (bytes : List UInt8) : Option (List UInt8 × List UInt8) :=
  let front := bytes.take n
  if front.length = n then some (front, bytes.drop n) else none

/-- Splits off a number of `width` bytes. -/
def takeNumber (width : Nat) (bytes : List UInt8) : Option (Nat × List UInt8) :=
  (takeBytes width bytes).map fun (front, rest) => (ofBigEndian front, rest)

/-- Splits off `length` bytes as the contents of a scalar. -/
def contents (make : ByteArray → Value) (length : Nat) (bytes : List UInt8) :
    Option (Head × List UInt8) :=
  (takeBytes length bytes).map fun (front, rest) => (.scalar (make front.toByteArray), rest)

/-- Reads a length of `width` bytes, then that many bytes. -/
def sized (make : ByteArray → Value) (width : Nat) (bytes : List UInt8) :
    Option (Head × List UInt8) :=
  (takeNumber width bytes).bind fun (length, rest) => contents make length rest

/-- Reads an extension: its kind, then its bytes. -/
def extensionOf (length : Nat) (bytes : List UInt8) : Option (Head × List UInt8) :=
  match bytes with
  | [] => none
  | kind :: rest => contents (.extension kind) length rest

/-- Reads a number of `width` bytes and makes a head of it. -/
def numeric (make : Nat → Head) (width : Nat) (bytes : List UInt8) : Option (Head × List UInt8) :=
  (takeNumber width bytes).map fun (n, rest) => (make n, rest)

/-- A two's complement number of `width` bytes. -/
def signedOf (width n : Nat) : Value :=
  .signed (Int64.ofInt (Int.bmod n (1 <<< (8 * width))))

/-- Reads the marker of a value and, for a scalar, all of it. -/
def Head.parse : List UInt8 → Option (Head × List UInt8)
  | [] => none
  | marker :: rest =>
    let m := marker.toNat
    if m < 0x80 then some (.scalar (.unsigned (UInt64.ofNat m)), rest)
    else if m < 0x90 then some (.map (m - 0x80), rest)
    else if m < 0xa0 then some (.array (m - 0x90), rest)
    else if m < 0xc0 then contents .text (m - 0xa0) rest
    else if 0xe0 ≤ m then some (.scalar (.signed (Int64.ofInt ((m : Int) - 256))), rest)
    else
      match m with
      | 0xc0 => some (.scalar .nil, rest)
      | 0xc2 => some (.scalar (.bool false), rest)
      | 0xc3 => some (.scalar (.bool true), rest)
      | 0xc4 => sized .binary 1 rest
      | 0xc5 => sized .binary 2 rest
      | 0xc6 => sized .binary 4 rest
      | 0xc7 => (takeNumber 1 rest).bind fun (length, rest) => extensionOf length rest
      | 0xc8 => (takeNumber 2 rest).bind fun (length, rest) => extensionOf length rest
      | 0xc9 => (takeNumber 4 rest).bind fun (length, rest) => extensionOf length rest
      | 0xca => numeric (fun n => .scalar (.single (UInt32.ofNat n))) 4 rest
      | 0xcb => numeric (fun n => .scalar (.double (UInt64.ofNat n))) 8 rest
      | 0xcc => numeric (fun n => .scalar (.unsigned (UInt64.ofNat n))) 1 rest
      | 0xcd => numeric (fun n => .scalar (.unsigned (UInt64.ofNat n))) 2 rest
      | 0xce => numeric (fun n => .scalar (.unsigned (UInt64.ofNat n))) 4 rest
      | 0xcf => numeric (fun n => .scalar (.unsigned (UInt64.ofNat n))) 8 rest
      | 0xd0 => numeric (fun n => .scalar (signedOf 1 n)) 1 rest
      | 0xd1 => numeric (fun n => .scalar (signedOf 2 n)) 2 rest
      | 0xd2 => numeric (fun n => .scalar (signedOf 4 n)) 4 rest
      | 0xd3 => numeric (fun n => .scalar (signedOf 8 n)) 8 rest
      | 0xd4 => extensionOf 1 rest
      | 0xd5 => extensionOf 2 rest
      | 0xd6 => extensionOf 4 rest
      | 0xd7 => extensionOf 8 rest
      | 0xd8 => extensionOf 16 rest
      | 0xd9 => sized .text 1 rest
      | 0xda => sized .text 2 rest
      | 0xdb => sized .text 4 rest
      | 0xdc => numeric .array 2 rest
      | 0xdd => numeric .array 4 rest
      | 0xde => numeric .map 2 rest
      | 0xdf => numeric .map 4 rest
      | _ => none

/-- Runs a parser `count` times. -/
def repeatParse {α : Type} (parser : List UInt8 → Option (α × List UInt8)) :
    Nat → List UInt8 → Option (List α × List UInt8)
  | 0, bytes => some ([], bytes)
  | count + 1, bytes =>
    match parser bytes with
    | none => none
    | some (first, rest) =>
      (repeatParse parser count rest).map fun (others, rest) => (first :: others, rest)

/-- Runs a parser twice, for a key and its value. -/
def pairParse {α : Type} (parser : List UInt8 → Option (α × List UInt8)) (bytes : List UInt8) :
    Option ((α × α) × List UInt8) :=
  match parser bytes with
  | none => none
  | some (key, rest) => (parser rest).map fun (value, rest) => ((key, value), rest)

/-- Reads one value whose arrays and maps are nested less than `levels` deep. -/
def parseWithin : Nat → List UInt8 → Option (Value × List UInt8)
  | 0, _ => none
  | levels + 1, bytes =>
    match Head.parse bytes with
    | none => none
    | some (.scalar value, rest) => some (value, rest)
    | some (.array count, rest) =>
      (repeatParse (parseWithin levels) count rest).map fun (items, rest) => (.array items, rest)
    | some (.map count, rest) =>
      (repeatParse (pairParse (parseWithin levels)) count rest).map fun (entries, rest) =>
        (.map entries, rest)

/-- Reads one value. A value of `n` bytes is nested less than `n` deep. -/
def parse (bytes : List UInt8) : Option (Value × List UInt8) :=
  parseWithin (bytes.length + 1) bytes

end GraphDriver.Pack
