import GraphDriver.Schema.Basic

/-!
# Writing by schema

A record is written as a map from field names to values, a choice as the name of the variant alone
or as a map of one entry from that name to the content, an absent option as nil.
-/

namespace GraphDriver

open Pack (Value)

/-- A span as a record of its two parts. -/
def Span.toValue (s : Span) : Value :=
  .map [(.ofString "secs", .unsigned s.secs), (.ofString "nanos", .unsigned s.nanos.toUInt64)]

mutual

/-- The wire form of a value. -/
def Schema.toValue : (s : Schema) → s.Carrier → Value
  | .flag, b => .bool b
  | .word, n => .unsigned n.toUInt64
  | .count, n => .unsigned n
  | .long, n => .ofInt n.toInt
  | .double, d => .double d.bits
  | .text, t => .ofString t
  | .bytes, b => .binary b
  | .span, s => s.toValue
  | .option s, a => match a with
    | none => .nil
    | some a => s.toValue a
  | .list s, as => .array (as.map s.toValue)
  | .dict s, d => .map (d.entries.map fun (key, a) => (.ofString key, s.toValue a))
  | .record _ fields, r => .map (fields.toEntries r)
  | .choice variants, v => variants.toValue v
  | .named _ s, a => s.toValue a

/-- The entries of the map that a record is written as. -/
def Fields.toEntries : (fs : Fields) → fs.Carrier → List (Value × Value)
  | .nil, _ => []
  | .cons name s _ rest, (a, r) => (.ofString name, s.toValue a) :: rest.toEntries r

/-- The wire form of a variant. -/
def Variants.toValue : (vs : Variants) → vs.Carrier → Value
  | .unit name _, .inl _ => .ofString name
  | .unit _ rest, .inr v => rest.toValue v
  | .value name s _, .inl a => .map [(.ofString name, s.toValue a)]
  | .value _ _ rest, .inr v => rest.toValue v
  | .fields name fs _, .inl r => .map [(.ofString name, .map (fs.toEntries r))]
  | .fields _ _ rest, .inr v => rest.toValue v

end

/-- The bytes of a value of a schema. -/
def Schema.encode (s : Schema) (a : s.Carrier) : ByteArray := (s.toValue a).encode

/-- The bytes of a message. -/
def encode {α : Type} [Described α] (a : α) : ByteArray := (schema α).encode (toCarrier a)

end GraphDriver
