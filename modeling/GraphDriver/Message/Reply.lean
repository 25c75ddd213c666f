import GraphDriver.Answer

/-!
# Answers inside a transaction

A request is answered either by one response or by a sequence of parts. A part is data or a marker:
`continue` offers more if the client asks again, `done` ends the answer.
-/

namespace GraphDriver

inductive QueryResponse where
  | defined
  | undefined
  | deleted
  | matchAggregate (numeric : Numeric)
deriving DecidableEq, Inhabited

instance : Described QueryResponse where
  schema := .choice <| .unit "Defined" <| .unit "Undefined" <| .unit "Deleted" <|
    .value "MatchAggregate" (schema Numeric) .nil
  toCarrier
    | .defined => alt0 ()
    | .undefined => alt1 ()
    | .deleted => alt2 ()
    | .matchAggregate numeric => alt3 (toCarrier numeric)
  ofCarrier
    | alt0 _ => .defined
    | alt1 _ => .undefined
    | alt2 _ => .deleted
    | alt3 numeric => .matchAggregate (ofCarrier numeric)
  ofCarrier_toCarrier a := by cases a <;> simp

inductive ConceptManagerResponse where
  | thingType (concept : Option Concept)
  | thing (concept : Option Concept)
  | putType (concept : Concept)
deriving DecidableEq, Inhabited

instance : Described ConceptManagerResponse where
  schema := .choice <| .value "ThingType" (schema (Option Concept)) <|
    .value "Thing" (schema (Option Concept)) <| .value "PutType" (schema Concept) .nil
  toCarrier
    | .thingType concept => alt0 (toCarrier concept)
    | .thing concept => alt1 (toCarrier concept)
    | .putType concept => alt2 (toCarrier concept)
  ofCarrier
    | alt0 concept => .thingType (ofCarrier concept)
    | alt1 concept => .thing (ofCarrier concept)
    | alt2 concept => .putType (ofCarrier concept)
  ofCarrier_toCarrier a := by cases a <;> simp

inductive LogicResponse where
  | rule (rule : Option Rule)
  | putRule (rule : Rule)
deriving DecidableEq, Inhabited

instance : Described LogicResponse where
  schema := .choice <| .value "Rule" (schema (Option Rule)) <|
    .value "PutRule" (schema Rule) .nil
  toCarrier
    | .rule rule => alt0 (toCarrier rule)
    | .putRule rule => alt1 (toCarrier rule)
  ofCarrier
    | alt0 rule => .rule (ofCarrier rule)
    | alt1 rule => .putRule (ofCarrier rule)
  ofCarrier_toCarrier a := by cases a <;> simp

/-- What a request that succeeded is answered with. -/
inductive ResponsePayload where
  | opened
  | committed
  | rolledBack
  | query (response : QueryResponse)
  | conceptManager (response : ConceptManagerResponse)
  | logic (response : LogicResponse)
deriving DecidableEq, Inhabited

instance : Described ResponsePayload where
  schema := .choice <| .unit "Opened" <| .unit "Committed" <| .unit "RolledBack" <|
    .value "Query" (schema QueryResponse) <|
    .value "ConceptManager" (schema ConceptManagerResponse) <|
    .value "Logic" (schema LogicResponse) .nil
  toCarrier
    | .opened => alt0 ()
    | .committed => alt1 ()
    | .rolledBack => alt2 ()
    | .query response => alt3 (toCarrier response)
    | .conceptManager response => alt4 (toCarrier response)
    | .logic response => alt5 (toCarrier response)
  ofCarrier
    | alt0 _ => .opened
    | alt1 _ => .committed
    | alt2 _ => .rolledBack
    | alt3 response => .query (ofCarrier response)
    | alt4 response => .conceptManager (ofCarrier response)
    | alt5 response => .logic (ofCarrier response)
  ofCarrier_toCarrier a := by cases a <;> simp

/-- The one answer to a request. -/
structure Response where
  id : RequestId
  result : Except ServerError ResponsePayload
deriving DecidableEq, Inhabited

instance : Described Response where
  schema := .record "Response" <|
    .field "id" (schema RequestId) <|
    .field "result" (schema (Except ServerError ResponsePayload)) .nil
  toCarrier r := (toCarrier r.id, toCarrier r.result, ())
  ofCarrier := fun (id, result, _) => ⟨ofCarrier id, ofCarrier result⟩
  ofCarrier_toCarrier _ := by simp

/-- Whether more of a streamed answer can be had. -/
inductive StreamState where
  | continue
  | done
deriving DecidableEq, Inhabited

instance : Described StreamState where
  schema := .choice <| .unit "Continue" <| .unit "Done" .nil
  toCarrier
    | .continue => alt0 ()
    | .done => alt1 ()
  ofCarrier
    | alt0 _ => .continue
    | alt1 _ => .done
  ofCarrier_toCarrier a := by cases a <;> rfl

inductive QueryPart where
  | match (answers : List ConceptMap)
  | matchGroup (groups : List ConceptMapGroup)
  | matchGroupAggregate (groups : List NumericGroup)
  | insert (answers : List ConceptMap)
  | update (answers : List ConceptMap)
deriving DecidableEq, Inhabited

instance : Described QueryPart where
  schema := .choice <| .value "Match" (schema (List ConceptMap)) <|
    .value "MatchGroup" (schema (List ConceptMapGroup)) <|
    .value "MatchGroupAggregate" (schema (List NumericGroup)) <|
    .value "Insert" (schema (List ConceptMap)) <|
    .value "Update" (schema (List ConceptMap)) .nil
  toCarrier
    | .match answers => alt0 (toCarrier answers)
    | .matchGroup groups => alt1 (toCarrier groups)
    | .matchGroupAggregate groups => alt2 (toCarrier groups)
    | .insert answers => alt3 (toCarrier answers)
    | .update answers => alt4 (toCarrier answers)
  ofCarrier
    | alt0 answers => .match (ofCarrier answers)
    | alt1 groups => .matchGroup (ofCarrier groups)
    | alt2 groups => .matchGroupAggregate (ofCarrier groups)
    | alt3 answers => .insert (ofCarrier answers)
    | alt4 answers => .update (ofCarrier answers)
  ofCarrier_toCarrier a := by cases a <;> simp

inductive LogicPart where
  | rules (rules : List Rule)
deriving DecidableEq, Inhabited

instance : Described LogicPart where
  schema := .choice (.value "Rules" (schema (List Rule)) .nil)
  toCarrier
    | .rules rules => alt0 (toCarrier rules)
  ofCarrier
    | alt0 rules => .rules (ofCarrier rules)
  ofCarrier_toCarrier a := by cases a; simp

/-- What one part of a streamed answer holds. -/
inductive PartPayload where
  | streamState (state : StreamState)
  | query (part : QueryPart)
  | logic (part : LogicPart)
deriving DecidableEq, Inhabited

instance : Described PartPayload where
  schema := .choice <| .value "StreamState" (schema StreamState) <|
    .value "Query" (schema QueryPart) <| .value "Logic" (schema LogicPart) .nil
  toCarrier
    | .streamState state => alt0 (toCarrier state)
    | .query part => alt1 (toCarrier part)
    | .logic part => alt2 (toCarrier part)
  ofCarrier
    | alt0 state => .streamState (ofCarrier state)
    | alt1 part => .query (ofCarrier part)
    | alt2 part => .logic (ofCarrier part)
  ofCarrier_toCarrier a := by cases a <;> simp

/-- One part of a streamed answer. -/
structure ResponsePart where
  id : RequestId
  payload : PartPayload
deriving DecidableEq, Inhabited

instance : Described ResponsePart where
  schema := .record "ResponsePart" <|
    .field "id" (schema RequestId) <| .field "payload" (schema PartPayload) .nil
  toCarrier p := (toCarrier p.id, toCarrier p.payload, ())
  ofCarrier := fun (id, payload, _) => ⟨ofCarrier id, ofCarrier payload⟩
  ofCarrier_toCarrier _ := by simp

/-- One message from the server, with the number of the request that it answers. -/
inductive ServerMessage where
  | response (response : Response)
  | responsePart (part : ResponsePart)
deriving DecidableEq, Inhabited

namespace ServerMessage

/-- The request that a message answers. -/
def requestId : ServerMessage → RequestId
  | .response r => r.id
  | .responsePart p => p.id

/-- Whether a message is the last one for its request. -/
def isTerminal : ServerMessage → Bool
  | .response _ => true
  | .responsePart p => p.payload = .streamState .done

instance : Described ServerMessage where
  schema := .choice <| .value "Response" (schema Response) <|
    .value "ResponsePart" (schema ResponsePart) .nil
  toCarrier
    | .response r => alt0 (toCarrier r)
    | .responsePart p => alt1 (toCarrier p)
  ofCarrier
    | alt0 r => .response (ofCarrier r)
    | alt1 p => .responsePart (ofCarrier p)
  ofCarrier_toCarrier a := by cases a <;> simp

end ServerMessage

end GraphDriver
