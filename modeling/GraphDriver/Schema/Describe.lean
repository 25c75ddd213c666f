import GraphDriver.Schema.Basic
import GraphDriver.Number.Shortest
import GraphDriver.Text.Quoted

/-!
# Diagnostic text by schema

How a value is shown inside an error message: a record as `Name { field: value, … }`, a variant as
its name followed by its content, lists in brackets, text in quotes.
-/

namespace GraphDriver

/-- Parts between two delimiters, separated by commas. -/
def enclosed (opening closing : String) (parts : List String) : String :=
  opening ++ ", ".intercalate parts ++ closing

/-- A name with labelled parts in braces. -/
def labelled (name : String) (parts : List (String × String)) : String :=
  name ++ enclosed " \x7b " " \x7d" (parts.map fun (label, text) => label ++ ": " ++ text)

/-- The text of a dictionary: its entries in braces. -/
def braced (entries : List (String × String)) : String :=
  enclosed "\x7b" "\x7d" (entries.map fun (key, text) => Text.quoted key ++ ": " ++ text)

def describeFlag (b : Bool) : String := if b then "true" else "false"

def Span.describe (s : Span) : String :=
  labelled "Span" [("secs", toString s.secs.toNat), ("nanos", toString s.nanos.toNat)]

mutual

/-- The diagnostic text of a value. -/
def Schema.describe : (s : Schema) → s.Carrier → String
  | .flag, b => describeFlag b
  | .word, n => toString n.toNat
  | .count, n => toString n.toNat
  | .long, n => toString n.toInt
  | .double, d => d.describe
  | .text, t => Text.quoted t
  | .bytes, b => enclosed "[" "]" (b.data.toList.map fun byte => toString byte.toNat)
  | .span, s => s.describe
  | .option s, a => match a with
    | none => "None"
    | some a => "Some(" ++ s.describe a ++ ")"
  | .list s, as => enclosed "[" "]" (as.map s.describe)
  | .dict s, d => braced (d.entries.map fun (key, a) => (key, s.describe a))
  | .record name fields, r => labelled name (fields.describe r)
  | .choice variants, v => variants.describe v
  | .named name s, a => name ++ "(" ++ s.describe a ++ ")"

/-- The labels and texts of the fields of a record. -/
def Fields.describe : (fs : Fields) → fs.Carrier → List (String × String)
  | .nil, _ => []
  | .cons name s _ rest, (a, r) => (name, s.describe a) :: rest.describe r

/-- The text of a variant. -/
def Variants.describe : (vs : Variants) → vs.Carrier → String
  | .unit name _, .inl _ => name
  | .unit _ rest, .inr v => rest.describe v
  | .value name s _, .inl a => name ++ "(" ++ s.describe a ++ ")"
  | .value _ _ rest, .inr v => rest.describe v
  | .fields name fs _, .inl r => labelled name (fs.describe r)
  | .fields _ _ rest, .inr v => rest.describe v

end

/-- The diagnostic text of a message. -/
def describe {α : Type} [Described α] (a : α) : String := (schema α).describe (toCarrier a)

end GraphDriver
