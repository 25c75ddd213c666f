import GraphDriver.Concept
import GraphDriver.Options

/-!
# Requests of a transaction

What a client asks for inside a transaction, and the batch in which requests travel.
-/

namespace GraphDriver

/-- A query in the query language. -/
inductive QueryRequest where
  | define (query : String)
  | undefine (query : String)
  | match (query : String)
  | matchAggregate (query : String)
  | matchGroup (query : String)
  | matchGroupAggregate (query : String)
  | insert (query : String)
  | delete (query : String)
  | update (query : String)
deriving DecidableEq, Inhabited

instance : Described QueryRequest where
  schema := .choice <| .value "Define" .text <| .value "Undefine" .text <| .value "Match" .text <|
    .value "MatchAggregate" .text <| .value "MatchGroup" .text <|
    .value "MatchGroupAggregate" .text <| .value "Insert" .text <| .value "Delete" .text <|
    .value "Update" .text .nil
  toCarrier
    | .define query => alt0 query
    | .undefine query => alt1 query
    | .match query => alt2 query
    | .matchAggregate query => alt3 query
    | .matchGroup query => alt4 query
    | .matchGroupAggregate query => alt5 query
    | .insert query => alt6 query
    | .delete query => alt7 query
    | .update query => alt8 query
  ofCarrier
    | alt0 query => .define query
    | alt1 query => .undefine query
    | alt2 query => .match query
    | alt3 query => .matchAggregate query
    | alt4 query => .matchGroup query
    | alt5 query => .matchGroupAggregate query
    | alt6 query => .insert query
    | alt7 query => .delete query
    | alt8 query => .update query
  ofCarrier_toCarrier a := by cases a <;> rfl

/-- Looking up and making types, looking up things. -/
inductive ConceptManagerRequest where
  | getThingType (label : String)
  | getThing (iid : Iid)
  | putEntityType (label : String)
  | putRelationType (label : String)
  | putAttributeType (label : String) (valueType : ValueType)
deriving DecidableEq, Inhabited

instance : Described ConceptManagerRequest where
  schema := .choice <| .fields "GetThingType" (.field "label" .text .nil) <|
    .fields "GetThing" (.field "iid" (schema Iid) .nil) <|
    .fields "PutEntityType" (.field "label" .text .nil) <|
    .fields "PutRelationType" (.field "label" .text .nil) <|
    .fields "PutAttributeType"
      (.field "label" .text (.field "value_type" (schema ValueType) .nil)) .nil
  toCarrier
    | .getThingType label => alt0 (label, ())
    | .getThing iid => alt1 (toCarrier iid, ())
    | .putEntityType label => alt2 (label, ())
    | .putRelationType label => alt3 (label, ())
    | .putAttributeType label valueType => alt4 (label, toCarrier valueType, ())
  ofCarrier
    | alt0 (label, _) => .getThingType label
    | alt1 (iid, _) => .getThing (ofCarrier iid)
    | alt2 (label, _) => .putEntityType label
    | alt3 (label, _) => .putRelationType label
    | alt4 (label, valueType, _) => .putAttributeType label (ofCarrier valueType)
  ofCarrier_toCarrier a := by cases a <;> simp

/-- Looking up and making rules. -/
inductive LogicRequest where
  | getRule (label : String)
  | putRule (label condition conclusion : String)
  | getRules
deriving DecidableEq, Inhabited

instance : Described LogicRequest where
  schema := .choice <| .fields "GetRule" (.field "label" .text .nil) <|
    .fields "PutRule" (.field "label" .text (.field "when" .text (.field "then" .text .nil))) <|
    .unit "GetRules" .nil
  toCarrier
    | .getRule label => alt0 (label, ())
    | .putRule label condition conclusion => alt1 (label, condition, conclusion, ())
    | .getRules => alt2 ()
  ofCarrier
    | alt0 (label, _) => .getRule label
    | alt1 (label, condition, conclusion, _) => .putRule label condition conclusion
    | alt2 _ => .getRules
  ofCarrier_toCarrier a := by cases a <;> rfl

/-- What one request asks for. -/
inductive RequestPayload where
  /-- The first request of every transaction. -/
  | open (sessionId : SessionId) (transactionType : TransactionType) (options : Options)
      (networkLatencyMillis : UInt32)
  | commit
  | rollback
  /-- Asks for the next page of a streamed answer, under the number of its request. -/
  | streamContinue
  | query (query : QueryRequest) (options : Options)
  | conceptManager (request : ConceptManagerRequest)
  | logic (request : LogicRequest)
deriving DecidableEq, Inhabited

instance : Described RequestPayload where
  schema := .choice <|
    .fields "Open" (.field "session_id" (schema SessionId) <|
      .field "transaction_type" (schema TransactionType) <| .field "options" (schema Options) <|
      .field "network_latency_millis" .word .nil) <|
    .unit "Commit" <| .unit "Rollback" <| .unit "StreamContinue" <|
    .fields "Query"
      (.field "query" (schema QueryRequest) <| .field "options" (schema Options) .nil) <|
    .value "ConceptManager" (schema ConceptManagerRequest) <|
    .value "Logic" (schema LogicRequest) .nil
  toCarrier
    | .open sessionId transactionType options latency =>
      alt0 (toCarrier sessionId, toCarrier transactionType, toCarrier options, latency, ())
    | .commit => alt1 ()
    | .rollback => alt2 ()
    | .streamContinue => alt3 ()
    | .query query options => alt4 (toCarrier query, toCarrier options, ())
    | .conceptManager request => alt5 (toCarrier request)
    | .logic request => alt6 (toCarrier request)
  ofCarrier
    | alt0 (sessionId, transactionType, options, latency, _) =>
      .open (ofCarrier sessionId) (ofCarrier transactionType) (ofCarrier options) latency
    | alt1 _ => .commit
    | alt2 _ => .rollback
    | alt3 _ => .streamContinue
    | alt4 (query, options, _) => .query (ofCarrier query) (ofCarrier options)
    | alt5 request => .conceptManager (ofCarrier request)
    | alt6 request => .logic (ofCarrier request)
  ofCarrier_toCarrier a := by cases a <;> simp

/-- One unit of work inside a transaction. -/
structure Request where
  id : RequestId
  payload : RequestPayload
deriving DecidableEq, Inhabited

instance : Described Request where
  schema := .record "Request" <|
    .field "id" (schema RequestId) <| .field "payload" (schema RequestPayload) .nil
  toCarrier r := (toCarrier r.id, toCarrier r.payload, ())
  ofCarrier := fun (id, payload, _) => ⟨ofCarrier id, ofCarrier payload⟩
  ofCarrier_toCarrier _ := by simp

/-- Requests that leave the client together. -/
structure ClientMessage where
  requests : List Request
deriving DecidableEq, Inhabited

instance : Described ClientMessage where
  schema := .record "ClientMessage" (.field "requests" (schema (List Request)) .nil)
  toCarrier m := (toCarrier m.requests, ())
  ofCarrier c := ⟨ofCarrier c.1⟩
  ofCarrier_toCarrier _ := by simp

end GraphDriver
