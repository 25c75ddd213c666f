import GraphDriver.Schema.Basic
import GraphDriver.Pack.Parse

/-!
# Reading by schema

A record is read from a map in any order of its entries, or from an array that gives its fields in
order. In a map a field may be named by text, by bytes or by its number; entries that name no field
are skipped, a field named twice is an error, and a field that is missing is absent if it is an
option. A variant is named in the same three ways. Numbers are accepted at every width that fits.
Where an array is expected, a byte string counts as the array of its bytes, each a number; a record
takes the bytes that it has fields for and leaves the rest. Arrays, maps and extensions may be
nested at most `depthLimit` deep, counting records and lists but neither the map that wraps a
variant nor a byte string.
-/

namespace GraphDriver

open Pack (Value)

/-- How deep arrays, maps and extensions may be nested in a message. -/
def depthLimit : Nat := 1023

/-- What a field or variant is called on the wire: its name, or its number. -/
inductive Identifier where
  | name (bytes : ByteArray)
  | index (n : Nat)
deriving DecidableEq

/-- The identifier that a key spells. -/
def Identifier.ofValue? : Value → Option Identifier
  | .text bytes => some (.name bytes)
  | .binary bytes => some (.name bytes)
  | .unsigned n => some (.index n.toNat)
  | _ => none

/-- Whether an identifier means the field or variant of a name at a position. -/
def Identifier.denotes (id : Identifier) (position : Nat) (name : String) : Bool :=
  match id with
  | .name bytes => bytes = name.toUTF8
  | .index n => n = position

/-- The entries of a record with their keys read. -/
def identified : List (Value × Value) → Option (List (Identifier × Value))
  | [] => some []
  | (key, value) :: rest =>
    (Identifier.ofValue? key).bind fun id =>
      (identified rest).map fun others => (id, value) :: others

/-- Text from a value: UTF-8 under a text or a binary marker. -/
def readText? : Value → Option String
  | .text bytes => String.fromUTF8? bytes
  | .binary bytes => String.fromUTF8? bytes
  | _ => none

/-- A byte from a value. -/
def readByte? (v : Value) : Option UInt8 :=
  v.toInt?.bind fun n => if 0 ≤ n ∧ n < 0x100 then some (UInt8.ofNat n.toNat) else none

/-- A byte string from a value: binary, the raw bytes of a text, or an array of bytes. -/
def readBytes? (depth : Nat) : Value → Option ByteArray
  | .binary bytes => some bytes
  | .text bytes => some bytes
  | .array items =>
    if depth = 0 then none else (items.mapM readByte?).map List.toByteArray
  | _ => none

def readWord? (v : Value) : Option UInt32 :=
  v.toInt?.bind fun n => if 0 ≤ n ∧ n < 0x100000000 then some (UInt32.ofNat n.toNat) else none

def readCount? (v : Value) : Option UInt64 :=
  v.toInt?.bind fun n => if 0 ≤ n then some (UInt64.ofNat n.toNat) else none

def readLong? (v : Value) : Option Int64 :=
  v.toInt?.bind fun n => if n < 0x8000000000000000 then some (Int64.ofInt n) else none

/-- A double from a value: either width of float, or an integer rounded to the nearest double. -/
def readDouble? : Value → Option Double
  | .double bits => some ⟨bits⟩
  | .single bits => some (.ofSingle bits)
  | v => v.toInt?.map Double.ofInt

/-- An entry of a map whose keys are names only. -/
def nameAndValue? : Value × Value → Option (ByteArray × Value)
  | (.text bytes, value) => some (bytes, value)
  | (.binary bytes, value) => some (bytes, value)
  | _ => none

/-- The one value that stands under a name in a map whose keys are all known. -/
def onlyUnder (name : String) (entries : List (ByteArray × Value)) : Option Value :=
  match entries.filter (·.1 = name.toUTF8) with
  | [(_, value)] => some value
  | _ => none

/-- A span from a value: a map of exactly its two parts, an array of them, or at least two bytes. -/
def readSpan? (depth : Nat) : Value → Option Span
  | .binary bytes =>
    match bytes.data.toList with
    | secs :: nanos :: _ => Span.normalise? secs.toUInt64 nanos.toUInt32
    | _ => none
  | .array [secs, nanos] =>
    if depth = 0 then none
    else
      (readCount? secs).bind fun secs => (readWord? nanos).bind fun nanos =>
      Span.normalise? secs nanos
  | .map entries =>
    if depth = 0 ∨ entries.length ≠ 2 then none
    else
      (entries.mapM nameAndValue?).bind fun entries =>
      (onlyUnder "secs" entries).bind fun secs => (onlyUnder "nanos" entries).bind fun nanos =>
      (readCount? secs).bind fun secs => (readWord? nanos).bind fun nanos =>
      Span.normalise? secs nanos
  | _ => none

/-- Whether some field is denoted by an identifier; the first field has the given position. -/
def Fields.denoted : Fields → Nat → Identifier → Bool
  | .nil, _, _ => false
  | .cons name _ _ rest, position, id =>
    id.denotes position name || rest.denoted (position + 1) id

/-- The value for a field that a map does not give. -/
def Schema.absent : Schema → Option Pack.Value → Option Pack.Value
  | _, some standIn => some standIn
  | .option _, none => some .nil
  | _, none => none

/-- Reads a value that is given as one byte: a number. -/
def Schema.ofByte? : (s : Schema) → UInt8 → Option s.Carrier
  | .word, b => some b.toUInt32
  | .count, b => some b.toUInt64
  | .long, b => some (Int64.ofNat b.toNat)
  | .double, b => some (Double.ofInt b.toNat)
  | .named _ s, b => s.ofByte? b
  | _, _ => none

/-- The values that the entries of a map give for the field of a name at a position. -/
def valuesAt (position : Nat) (name : String) (entries : List (Identifier × Value)) : List Value :=
  (entries.filter fun (id, _) => id.denotes position name).map (·.2)

/-- The value of a field: the only one given, or the stand-in if none is. -/
def givenOnce (standIn : Option Value) : List Value → Option Value
  | [] => standIn
  | [value] => some value
  | _ => none

mutual

/-- Reads a value whose arrays and maps are nested at most `depth` deep. -/
def Schema.ofValue? : (s : Schema) → (depth : Nat) → Value → Option s.Carrier
  | .flag, _, v => match v with
    | .bool b => some b
    | _ => none
  | .word, _, v => readWord? v
  | .count, _, v => readCount? v
  | .long, _, v => readLong? v
  | .double, _, v => readDouble? v
  | .text, _, v => readText? v
  | .bytes, depth, v => readBytes? depth v
  | .span, depth, v => readSpan? depth v
  | .option s, depth, v => match v with
    | .nil => some none
    | v => (s.ofValue? depth v).map some
  | .list s, depth, v => match depth, v with
    | depth + 1, .array items => items.mapM (s.ofValue? depth)
    | _, .binary bytes => bytes.data.toList.mapM s.ofByte?
    | _, _ => none
  | .dict s, depth, v => match depth, v with
    | depth + 1, .map entries =>
      (entries.mapM fun (key, value) =>
        (readText? key).bind fun key => (s.ofValue? depth value).map fun a => (key, a)).map
          Dict.ofList
    | _, _ => none
  | .record _ fields, depth, v => fields.ofValue? depth v
  | .choice variants, depth, v => match v with
    | .map [(key, content)] =>
      (Identifier.ofValue? key).bind fun id => variants.select? depth 0 id (some content)
    | v => (Identifier.ofValue? v).bind fun id => variants.select? depth 0 id none
  | .named _ s, depth, v => s.ofValue? depth v

/-- Reads a record from a map, an array or a byte string. -/
def Fields.ofValue? (fs : Fields) (depth : Nat) (v : Value) : Option fs.Carrier :=
  match depth, v with
  | depth + 1, .map entries =>
    (identified entries).bind fun entries =>
      if entries.all fun (id, value) => fs.denoted 0 id || value.nesting ≤ depth then
        fs.ofEntries? depth 0 entries
      else none
  | depth + 1, .array items => fs.ofItems? depth items
  | depth, .binary bytes => fs.ofBytes? depth bytes.data.toList
  | _, _ => none

/-- Reads the fields of a record from the entries of a map; the first field has the given
position. -/
def Fields.ofEntries? : (fs : Fields) → (depth position : Nat) → List (Identifier × Value) →
    Option fs.Carrier
  | .nil, _, _, _ => some ()
  | .cons name s standIn rest, depth, position, entries =>
    (givenOnce (s.absent standIn) (valuesAt position name entries)).bind fun value =>
    (s.ofValue? depth value).bind fun a =>
    (rest.ofEntries? depth (position + 1) entries).map fun r => (a, r)

/-- Reads the fields of a record in order. -/
def Fields.ofItems? : (fs : Fields) → (depth : Nat) → List Value → Option fs.Carrier
  | .nil, _, [] => some ()
  | .nil, _, _ :: _ => none
  | .cons _ s standIn rest, depth, [] =>
    (standIn.bind (s.ofValue? depth)).bind fun a =>
      (rest.ofItems? depth []).map fun r => (a, r)
  | .cons _ s _ rest, depth, item :: items =>
    (s.ofValue? depth item).bind fun a => (rest.ofItems? depth items).map fun r => (a, r)

/-- Reads the fields of a record in order, one byte each; bytes after the last field are ignored. -/
def Fields.ofBytes? : (fs : Fields) → (depth : Nat) → List UInt8 → Option fs.Carrier
  | .nil, _, _ => some ()
  | .cons _ s standIn rest, depth, [] =>
    (standIn.bind (s.ofValue? depth)).bind fun a =>
      (rest.ofBytes? depth []).map fun r => (a, r)
  | .cons _ s _ rest, depth, byte :: bytes =>
    (s.ofByte? byte).bind fun a => (rest.ofBytes? depth bytes).map fun r => (a, r)

/-- Reads the variant that an identifier denotes; the first variant has the given position. The
content is missing when the identifier stands alone, which only a variant without content allows. -/
def Variants.select? : (vs : Variants) → (depth position : Nat) → Identifier → Option Value →
    Option vs.Carrier
  | .nil, _, _, _, _ => none
  | .unit name rest, depth, position, id, content =>
    if id.denotes position name then
      match content with
      | none | some .nil => some (.inl ())
      | some _ => none
    else (rest.select? depth (position + 1) id content).map .inr
  | .value name s rest, depth, position, id, content =>
    if id.denotes position name then (content.bind (s.ofValue? depth)).map .inl
    else (rest.select? depth (position + 1) id content).map .inr
  | .fields name fs rest, depth, position, id, content =>
    if id.denotes position name then (content.bind (fs.ofValue? depth)).map .inl
    else (rest.select? depth (position + 1) id content).map .inr

end

/-- Reads a value of a schema from the front of a payload; bytes after it are ignored. -/
def Schema.decode? (s : Schema) (payload : ByteArray) : Option s.Carrier :=
  (Pack.parse payload.data.toList).bind fun (value, _) => s.ofValue? depthLimit value

/-- Reads a message from the front of a payload. -/
def decode? (α : Type) [Described α] (payload : ByteArray) : Option α :=
  ((schema α).decode? payload).map ofCarrier

end GraphDriver
