import GraphDriver.Concept

/-!
# Answers

What queries are answered with: maps from variables to concepts, groups of them, numbers, rules.
-/

namespace GraphDriver

/-- One answer of a match query: a concept for each variable. -/
structure ConceptMap where
  map : Dict Concept
deriving DecidableEq, Inhabited

namespace ConceptMap

/-- The answer of a list of pairs; a variable that comes twice has its later concept. -/
def ofList (pairs : List (String × Concept)) : ConceptMap := ⟨.ofList pairs⟩

def get? (m : ConceptMap) (name : String) : Option Concept := m.map.get? name

def names (m : ConceptMap) : List String := m.map.keys

def concepts (m : ConceptMap) : List Concept := m.map.values

def size (m : ConceptMap) : Nat := m.map.size

instance : Described ConceptMap where
  schema := .record "ConceptMap" (.field "map" (schema (Dict Concept)) .nil)
  toCarrier m := (toCarrier m.map, ())
  ofCarrier c := ⟨ofCarrier c.1⟩
  ofCarrier_toCarrier _ := by simp

end ConceptMap

/-- The result of an aggregate query; over no answers it is not a number. -/
inductive Numeric where
  | long (value : Int64)
  | double (value : Double)
  | nan
deriving DecidableEq, Inhabited

namespace Numeric

def asLong? : Numeric → Option Int64
  | .long value => some value
  | _ => none

/-- The number as a double; a whole number is rounded to the nearest one. -/
def asDouble? : Numeric → Option Double
  | .double value => some value
  | .long value => some (.ofInt value.toInt)
  | .nan => none

def isNaN (n : Numeric) : Bool := n = .nan

instance : Described Numeric where
  schema := .choice <| .value "Long" .long <| .value "Double" .double <| .unit "NaN" .nil
  toCarrier
    | .long value => alt0 value
    | .double value => alt1 value
    | .nan => alt2 ()
  ofCarrier
    | alt0 value => .long value
    | alt1 value => .double value
    | alt2 _ => .nan
  ofCarrier_toCarrier a := by cases a <;> rfl

end Numeric

/-- The answers of a group query that share an owner. -/
structure ConceptMapGroup where
  owner : Concept
  conceptMaps : List ConceptMap
deriving DecidableEq, Inhabited

instance : Described ConceptMapGroup where
  schema := .record "ConceptMapGroup" <|
    .field "owner" (schema Concept) <| .field "concept_maps" (schema (List ConceptMap)) .nil
  toCarrier g := (toCarrier g.owner, toCarrier g.conceptMaps, ())
  ofCarrier := fun (owner, maps, _) => ⟨ofCarrier owner, ofCarrier maps⟩
  ofCarrier_toCarrier _ := by simp

/-- The aggregate of one group of a group query. -/
structure NumericGroup where
  owner : Concept
  numeric : Numeric
deriving DecidableEq, Inhabited

instance : Described NumericGroup where
  schema := .record "NumericGroup" <|
    .field "owner" (schema Concept) <| .field "numeric" (schema Numeric) .nil
  toCarrier g := (toCarrier g.owner, toCarrier g.numeric, ())
  ofCarrier := fun (owner, numeric, _) => ⟨ofCarrier owner, ofCarrier numeric⟩
  ofCarrier_toCarrier _ := by simp

/-- A rule of inference. -/
structure Rule where
  label : String
  condition : String
  conclusion : String
deriving DecidableEq, Inhabited

instance : Described Rule where
  schema := .record "Rule" <|
    .field "label" .text <| .field "when" .text <| .field "then" .text .nil
  toCarrier r := (r.label, r.condition, r.conclusion, ())
  ofCarrier := fun (label, condition, conclusion, _) => ⟨label, condition, conclusion⟩
  ofCarrier_toCarrier _ := rfl

end GraphDriver
