import GraphDriver.Error

/-!
# Concepts

What a database is made of: types with their labels, and things with their identifiers. A concept
of any kind is one value; asking for it as a concept of a particular kind may fail.
-/

namespace GraphDriver

/-- The name of a type. The name of a role is scoped by its relation. -/
structure Label where
  scope : Option String
  name : String
deriving DecidableEq, Inhabited

namespace Label

/-- A label without a scope. -/
def unscoped (name : String) : Label := ⟨none, name⟩

/-- Reads `scope:name`, split at the first colon, or a bare name. -/
def parse (text : String) : Label :=
  let front := text.toList.takeWhile (· ≠ ':')
  match text.toList.dropWhile (· ≠ ':') with
  | [] => unscoped text
  | _ :: rest => ⟨some (String.ofList front), String.ofList rest⟩

def display (l : Label) : String :=
  match l.scope with
  | some scope => scope ++ ":" ++ l.name
  | none => l.name

instance : Described Label where
  schema := .record "Label" (.field "scope" (.option .text) (.field "name" .text .nil))
  toCarrier l := (l.scope, l.name, ())
  ofCarrier := fun (scope, name, _) => ⟨scope, name⟩
  ofCarrier_toCarrier _ := rfl

end Label

/-- The identifier of a thing inside the database. -/
structure Iid where
  bytes : ByteArray
deriving DecidableEq, Inhabited

namespace Iid

def display (iid : Iid) : String := "0x" ++ Text.hex iid.bytes

instance : Described Iid where
  schema := .named "Iid" .bytes
  toCarrier iid := iid.bytes
  ofCarrier bytes := ⟨bytes⟩
  ofCarrier_toCarrier _ := rfl

end Iid

/-- The type of the values of an attribute type. -/
inductive ValueType where
  | object
  | boolean
  | long
  | double
  | string
  | dateTime
deriving DecidableEq, Inhabited

instance : Described ValueType where
  schema := .choice <| .unit "Object" <| .unit "Boolean" <| .unit "Long" <| .unit "Double" <|
    .unit "String" <| .unit "DateTime" .nil
  toCarrier
    | .object => alt0 ()
    | .boolean => alt1 ()
    | .long => alt2 ()
    | .double => alt3 ()
    | .string => alt4 ()
    | .dateTime => alt5 ()
  ofCarrier
    | alt0 _ => .object
    | alt1 _ => .boolean
    | alt2 _ => .long
    | alt3 _ => .double
    | alt4 _ => .string
    | alt5 _ => .dateTime
  ofCarrier_toCarrier a := by cases a <;> rfl

/-- The value of an attribute. A date is counted in milliseconds from the start of 1970. -/
inductive AttributeValue where
  | boolean (value : Bool)
  | long (value : Int64)
  | double (value : Double)
  | string (value : String)
  | dateTime (millis : Int64)
deriving DecidableEq, Inhabited

namespace AttributeValue

def valueType : AttributeValue → ValueType
  | .boolean _ => .boolean
  | .long _ => .long
  | .double _ => .double
  | .string _ => .string
  | .dateTime _ => .dateTime

def asBoolean? : AttributeValue → Option Bool
  | .boolean value => some value
  | _ => none

def asLong? : AttributeValue → Option Int64
  | .long value => some value
  | _ => none

def asDouble? : AttributeValue → Option Double
  | .double value => some value
  | _ => none

def asString? : AttributeValue → Option String
  | .string value => some value
  | _ => none

def asDateTime? : AttributeValue → Option Int64
  | .dateTime millis => some millis
  | _ => none

instance : Described AttributeValue where
  schema := .choice <| .value "Boolean" .flag <| .value "Long" .long <| .value "Double" .double <|
    .value "String" .text <| .value "DateTime" .long .nil
  toCarrier
    | .boolean value => alt0 value
    | .long value => alt1 value
    | .double value => alt2 value
    | .string value => alt3 value
    | .dateTime millis => alt4 millis
  ofCarrier
    | alt0 value => .boolean value
    | alt1 value => .long value
    | alt2 value => .double value
    | alt3 value => .string value
    | alt4 millis => .dateTime millis
  ofCarrier_toCarrier a := by cases a <;> rfl

end AttributeValue

/-- An entity, relation or role type. -/
structure TypeInfo where
  label : Label
  isRoot : Bool
  isAbstract : Bool
deriving DecidableEq, Inhabited

instance : Described TypeInfo where
  schema := .record "TypeInfo" <|
    .field "label" (schema Label) <| .field "is_root" .flag <| .field "is_abstract" .flag .nil
  toCarrier t := (toCarrier t.label, t.isRoot, t.isAbstract, ())
  ofCarrier := fun (label, isRoot, isAbstract, _) => ⟨ofCarrier label, isRoot, isAbstract⟩
  ofCarrier_toCarrier _ := by simp

/-- An attribute type with the type of its values. -/
structure AttributeTypeInfo where
  label : Label
  isRoot : Bool
  isAbstract : Bool
  valueType : ValueType
deriving DecidableEq, Inhabited

instance : Described AttributeTypeInfo where
  schema := .record "AttributeTypeInfo" <|
    .field "label" (schema Label) <| .field "is_root" .flag <| .field "is_abstract" .flag <|
    .field "value_type" (schema ValueType) .nil
  toCarrier t := (toCarrier t.label, t.isRoot, t.isAbstract, toCarrier t.valueType, ())
  ofCarrier := fun (label, isRoot, isAbstract, valueType, _) =>
    ⟨ofCarrier label, isRoot, isAbstract, ofCarrier valueType⟩
  ofCarrier_toCarrier _ := by simp

/-- An entity or a relation. -/
structure ThingInfo where
  iid : Iid
  typeLabel : Label
  inferred : Bool
deriving DecidableEq, Inhabited

instance : Described ThingInfo where
  schema := .record "ThingInfo" <|
    .field "iid" (schema Iid) <| .field "type_label" (schema Label) <| .field "inferred" .flag .nil
  toCarrier t := (toCarrier t.iid, toCarrier t.typeLabel, t.inferred, ())
  ofCarrier := fun (iid, typeLabel, inferred, _) => ⟨ofCarrier iid, ofCarrier typeLabel, inferred⟩
  ofCarrier_toCarrier _ := by simp

/-- An attribute with its value. -/
structure AttributeInfo where
  iid : Iid
  typeLabel : Label
  inferred : Bool
  value : AttributeValue
deriving DecidableEq, Inhabited

instance : Described AttributeInfo where
  schema := .record "AttributeInfo" <|
    .field "iid" (schema Iid) <| .field "type_label" (schema Label) <|
    .field "inferred" .flag <| .field "value" (schema AttributeValue) .nil
  toCarrier t := (toCarrier t.iid, toCarrier t.typeLabel, t.inferred, toCarrier t.value, ())
  ofCarrier := fun (iid, typeLabel, inferred, value, _) =>
    ⟨ofCarrier iid, ofCarrier typeLabel, inferred, ofCarrier value⟩
  ofCarrier_toCarrier _ := by simp

/-- A concept of any kind. -/
inductive Concept where
  | rootThingType
  | entityType (info : TypeInfo)
  | relationType (info : TypeInfo)
  | attributeType (info : AttributeTypeInfo)
  | roleType (info : TypeInfo)
  | entity (info : ThingInfo)
  | relation (info : ThingInfo)
  | attribute (info : AttributeInfo)
deriving DecidableEq, Inhabited

namespace Concept

instance : Described Concept where
  schema := .choice <| .unit "RootThingType" <| .value "EntityType" (schema TypeInfo) <|
    .value "RelationType" (schema TypeInfo) <| .value "AttributeType" (schema AttributeTypeInfo) <|
    .value "RoleType" (schema TypeInfo) <| .value "Entity" (schema ThingInfo) <|
    .value "Relation" (schema ThingInfo) <| .value "Attribute" (schema AttributeInfo) .nil
  toCarrier
    | .rootThingType => alt0 ()
    | .entityType info => alt1 (toCarrier info)
    | .relationType info => alt2 (toCarrier info)
    | .attributeType info => alt3 (toCarrier info)
    | .roleType info => alt4 (toCarrier info)
    | .entity info => alt5 (toCarrier info)
    | .relation info => alt6 (toCarrier info)
    | .attribute info => alt7 (toCarrier info)
  ofCarrier
    | alt0 _ => .rootThingType
    | alt1 info => .entityType (ofCarrier info)
    | alt2 info => .relationType (ofCarrier info)
    | alt3 info => .attributeType (ofCarrier info)
    | alt4 info => .roleType (ofCarrier info)
    | alt5 info => .entity (ofCarrier info)
    | alt6 info => .relation (ofCarrier info)
    | alt7 info => .attribute (ofCarrier info)
  ofCarrier_toCarrier a := by cases a <;> simp

/-- The name of a concept's kind. -/
def kindName : Concept → String
  | .rootThingType => "ThingType"
  | .entityType _ => "EntityType"
  | .relationType _ => "RelationType"
  | .attributeType _ => "AttributeType"
  | .roleType _ => "RoleType"
  | .entity _ => "Entity"
  | .relation _ => "Relation"
  | .attribute _ => "Attribute"

def isThing : Concept → Bool
  | .entity _ | .relation _ | .attribute _ => true
  | _ => false

def isType (c : Concept) : Bool := !c.isThing

/-- The label of a type, or of the type of a thing. -/
def label : Concept → Label
  | .rootThingType => .unscoped "thing"
  | .entityType info | .relationType info | .roleType info => info.label
  | .attributeType info => info.label
  | .entity info | .relation info => info.typeLabel
  | .attribute info => info.typeLabel

/-- The identifier of a thing; a type has none. -/
def iid? : Concept → Option Iid
  | .entity info | .relation info => some info.iid
  | .attribute info => some info.iid
  | _ => none

/-- The error of taking a concept for one of another kind. -/
def castError (c : Concept) (target : String) : Error := .invalidConceptCast c.kindName target

def asEntityType : Concept → Except Error TypeInfo
  | .entityType info => .ok info
  | other => .error (other.castError "EntityType")

def asRelationType : Concept → Except Error TypeInfo
  | .relationType info => .ok info
  | other => .error (other.castError "RelationType")

def asAttributeType : Concept → Except Error AttributeTypeInfo
  | .attributeType info => .ok info
  | other => .error (other.castError "AttributeType")

def asEntity : Concept → Except Error ThingInfo
  | .entity info => .ok info
  | other => .error (other.castError "Entity")

def asRelation : Concept → Except Error ThingInfo
  | .relation info => .ok info
  | other => .error (other.castError "Relation")

def asAttribute : Concept → Except Error AttributeInfo
  | .attribute info => .ok info
  | other => .error (other.castError "Attribute")

end Concept

end GraphDriver
