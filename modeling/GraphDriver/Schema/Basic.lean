import GraphDriver.Dict
import GraphDriver.Span
import GraphDriver.Number.Double
import GraphDriver.Pack.Value

/-!
# Schemas

A schema describes the shape of a message once; its wire form, its reading and its diagnostic text
are functions of the schema. `Schema.Carrier` is the type of the values of a schema: a record is
the product of its fields, a choice the sum of its variants. A domain type is tied to a schema by
an instance of `Described`, which says how its values stand for values of the carrier.
-/

namespace GraphDriver

mutual

/-- The shape of a value. -/
inductive Schema where
  /-- True or false. -/
  | flag
  /-- An unsigned 32-bit number. -/
  | word
  /-- An unsigned 64-bit number. -/
  | count
  /-- A signed 64-bit number. -/
  | long
  | double
  | text
  | bytes
  /-- A length of time. -/
  | span
  /-- A value that may be missing. -/
  | option (s : Schema)
  | list (s : Schema)
  /-- A finite map with text keys. -/
  | dict (s : Schema)
  /-- Named fields, all present. -/
  | record (name : String) (fields : Fields)
  /-- One of several named variants. -/
  | choice (variants : Variants)
  /-- A value that has a name of its own but is written like its content. -/
  | named (name : String) (s : Schema)

/-- The fields of a record, in order. A field with a stand-in may be left out of any record that is
read, and then has the stand-in for its value. -/
inductive Fields where
  | nil
  | cons (name : String) (s : Schema) (standIn : Option Pack.Value) (rest : Fields)

/-- The variants of a choice, in order: without content, with one value, or with named fields. -/
inductive Variants where
  | nil
  | unit (name : String) (rest : Variants)
  | value (name : String) (s : Schema) (rest : Variants)
  | fields (name : String) (fs : Fields) (rest : Variants)

end

namespace Fields

/-- Puts a field that must be present in front of others. -/
abbrev field (name : String) (s : Schema) (rest : Fields) : Fields := cons name s none rest

/-- Puts a field with a stand-in in front of others. -/
abbrev defaulted (name : String) (s : Schema) (standIn : Pack.Value) (rest : Fields) : Fields :=
  cons name s (some standIn) rest

end Fields

mutual

/-- The values of a schema. -/
@[reducible] def Schema.Carrier : Schema → Type
  | .flag => Bool
  | .word => UInt32
  | .count => UInt64
  | .long => Int64
  | .double => Double
  | .text => String
  | .bytes => ByteArray
  | .span => Span
  | .option s => Option s.Carrier
  | .list s => List s.Carrier
  | .dict s => Dict s.Carrier
  | .record _ fields => fields.Carrier
  | .choice variants => variants.Carrier
  | .named _ s => s.Carrier

/-- The values of the fields of a record. -/
@[reducible] def Fields.Carrier : Fields → Type
  | .nil => Unit
  | .cons _ s _ rest => s.Carrier × rest.Carrier

/-- A variant with its content. -/
@[reducible] def Variants.Carrier : Variants → Type
  | .nil => Empty
  | .unit _ rest => Unit ⊕ rest.Carrier
  | .value _ s rest => s.Carrier ⊕ rest.Carrier
  | .fields _ fs rest => fs.Carrier ⊕ rest.Carrier

end

/-! ## Picking a variant

`alt0 x` is the first variant of a choice with content `x`, `alt1 x` the second, and so on. -/

section

variable {α β γ δ ε ζ η θ ι κ : Type}

@[match_pattern] abbrev alt0 (x : α) : α ⊕ β := .inl x
@[match_pattern] abbrev alt1 (x : β) : α ⊕ β ⊕ γ := .inr (.inl x)
@[match_pattern] abbrev alt2 (x : γ) : α ⊕ β ⊕ γ ⊕ δ := .inr (.inr (.inl x))
@[match_pattern] abbrev alt3 (x : δ) : α ⊕ β ⊕ γ ⊕ δ ⊕ ε := .inr (.inr (.inr (.inl x)))
@[match_pattern] abbrev alt4 (x : ε) : α ⊕ β ⊕ γ ⊕ δ ⊕ ε ⊕ ζ := .inr (.inr (.inr (.inr (.inl x))))
@[match_pattern] abbrev alt5 (x : ζ) : α ⊕ β ⊕ γ ⊕ δ ⊕ ε ⊕ ζ ⊕ η :=
  .inr (.inr (.inr (.inr (.inr (.inl x)))))
@[match_pattern] abbrev alt6 (x : η) : α ⊕ β ⊕ γ ⊕ δ ⊕ ε ⊕ ζ ⊕ η ⊕ θ :=
  .inr (.inr (.inr (.inr (.inr (.inr (.inl x))))))
@[match_pattern] abbrev alt7 (x : θ) : α ⊕ β ⊕ γ ⊕ δ ⊕ ε ⊕ ζ ⊕ η ⊕ θ ⊕ ι :=
  .inr (.inr (.inr (.inr (.inr (.inr (.inr (.inl x)))))))
@[match_pattern] abbrev alt8 (x : ι) : α ⊕ β ⊕ γ ⊕ δ ⊕ ε ⊕ ζ ⊕ η ⊕ θ ⊕ ι ⊕ κ :=
  .inr (.inr (.inr (.inr (.inr (.inr (.inr (.inr (.inl x))))))))

end

/-! ## Described types -/

/-- A type whose values are values of a schema. Nothing is lost on the way to the carrier. -/
class Described (α : Type) where
  schema : Schema
  toCarrier : α → schema.Carrier
  ofCarrier : schema.Carrier → α
  ofCarrier_toCarrier : ∀ a, ofCarrier (toCarrier a) = a

export Described (schema toCarrier ofCarrier ofCarrier_toCarrier)

attribute [simp] ofCarrier_toCarrier

instance : Described Bool := ⟨.flag, id, id, fun _ => rfl⟩
instance : Described UInt32 := ⟨.word, id, id, fun _ => rfl⟩
instance : Described UInt64 := ⟨.count, id, id, fun _ => rfl⟩
instance : Described Int64 := ⟨.long, id, id, fun _ => rfl⟩
instance : Described Double := ⟨.double, id, id, fun _ => rfl⟩
instance : Described String := ⟨.text, id, id, fun _ => rfl⟩
instance : Described ByteArray := ⟨.bytes, id, id, fun _ => rfl⟩
instance : Described Span := ⟨.span, id, id, fun _ => rfl⟩

instance {α : Type} [Described α] : Described (Option α) where
  schema := .option (schema α)
  toCarrier := Option.map toCarrier
  ofCarrier := Option.map ofCarrier
  ofCarrier_toCarrier a := by cases a <;> simp

instance {α : Type} [Described α] : Described (List α) where
  schema := .list (schema α)
  toCarrier := List.map toCarrier
  ofCarrier := List.map ofCarrier
  ofCarrier_toCarrier a := by simp [Function.comp_def]

instance {α : Type} [Described α] : Described (Dict α) where
  schema := .dict (schema α)
  toCarrier := Dict.map toCarrier
  ofCarrier := Dict.map ofCarrier
  ofCarrier_toCarrier a := Dict.ext (by simp [Function.comp_def])

instance decidableEqExcept {ε α : Type} [DecidableEq ε] [DecidableEq α] :
    DecidableEq (Except ε α)
  | .ok a, .ok b => if h : a = b then isTrue (by rw [h]) else isFalse (by simp [h])
  | .error a, .error b => if h : a = b then isTrue (by rw [h]) else isFalse (by simp [h])
  | .ok _, .error _ => isFalse (by simp)
  | .error _, .ok _ => isFalse (by simp)

/-- The outcome of a request at the server: an answer or its error. -/
instance {ε α : Type} [Described ε] [Described α] : Described (Except ε α) where
  schema := .choice (.value "Ok" (schema α) (.value "Err" (schema ε) .nil))
  toCarrier
    | .ok a => alt0 (toCarrier a)
    | .error e => alt1 (toCarrier e)
  ofCarrier
    | alt0 a => .ok (ofCarrier a)
    | alt1 e => .error (ofCarrier e)
  ofCarrier_toCarrier a := by cases a <;> simp

end GraphDriver
