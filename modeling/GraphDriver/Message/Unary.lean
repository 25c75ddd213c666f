import GraphDriver.Message.Basic
import GraphDriver.Options

/-!
# Calls outside of transactions

One request with one answer: asking for the servers of a deployment, managing databases, opening,
keeping and closing sessions.
-/

namespace GraphDriver

inductive UnaryRequest where
  | serversAll
  | databaseCreate (name : String)
  | databaseContains (name : String)
  | databaseDelete (name : String)
  | databasesAll
  | databaseReplicas (name : String)
  | sessionOpen (database : String) (sessionType : SessionType) (options : Options)
  | sessionClose (sessionId : SessionId)
  | sessionPulse (sessionId : SessionId)
deriving DecidableEq, Inhabited

instance : Described UnaryRequest where
  schema := .choice <| .unit "ServersAll" <|
    .fields "DatabaseCreate" (.field "name" .text .nil) <|
    .fields "DatabaseContains" (.field "name" .text .nil) <|
    .fields "DatabaseDelete" (.field "name" .text .nil) <|
    .unit "DatabasesAll" <|
    .fields "DatabaseReplicas" (.field "name" .text .nil) <|
    .fields "SessionOpen" (.field "database" .text <|
      .field "session_type" (schema SessionType) <| .field "options" (schema Options) .nil) <|
    .fields "SessionClose" (.field "session_id" (schema SessionId) .nil) <|
    .fields "SessionPulse" (.field "session_id" (schema SessionId) .nil) .nil
  toCarrier
    | .serversAll => alt0 ()
    | .databaseCreate name => alt1 (name, ())
    | .databaseContains name => alt2 (name, ())
    | .databaseDelete name => alt3 (name, ())
    | .databasesAll => alt4 ()
    | .databaseReplicas name => alt5 (name, ())
    | .sessionOpen database sessionType options =>
      alt6 (database, toCarrier sessionType, toCarrier options, ())
    | .sessionClose sessionId => alt7 (toCarrier sessionId, ())
    | .sessionPulse sessionId => alt8 (toCarrier sessionId, ())
  ofCarrier
    | alt0 _ => .serversAll
    | alt1 (name, _) => .databaseCreate name
    | alt2 (name, _) => .databaseContains name
    | alt3 (name, _) => .databaseDelete name
    | alt4 _ => .databasesAll
    | alt5 (name, _) => .databaseReplicas name
    | alt6 (database, sessionType, options, _) =>
      .sessionOpen database (ofCarrier sessionType) (ofCarrier options)
    | alt7 (sessionId, _) => .sessionClose (ofCarrier sessionId)
    | alt8 (sessionId, _) => .sessionPulse (ofCarrier sessionId)
  ofCarrier_toCarrier a := by cases a <;> simp

/-- The name of what a request asks for. -/
def UnaryRequest.name : UnaryRequest → String
  | .serversAll => "ServersAll"
  | .databaseCreate _ => "DatabaseCreate"
  | .databaseContains _ => "DatabaseContains"
  | .databaseDelete _ => "DatabaseDelete"
  | .databasesAll => "DatabasesAll"
  | .databaseReplicas _ => "DatabaseReplicas"
  | .sessionOpen _ _ _ => "SessionOpen"
  | .sessionClose _ => "SessionClose"
  | .sessionPulse _ => "SessionPulse"

/-- What a server says about its replica of a database. -/
structure ReplicaInfo where
  address : String
  database : String
  term : Int64
  isPrimary : Bool
  isPreferred : Bool
deriving DecidableEq, Inhabited

instance : Described ReplicaInfo where
  schema := .record "ReplicaInfo" <| .field "address" .text <| .field "database" .text <|
    .field "term" .long <| .field "is_primary" .flag <| .field "is_preferred" .flag .nil
  toCarrier r := (r.address, r.database, r.term, r.isPrimary, r.isPreferred, ())
  ofCarrier := fun (address, database, term, isPrimary, isPreferred, _) =>
    ⟨address, database, term, isPrimary, isPreferred⟩
  ofCarrier_toCarrier _ := rfl

inductive UnaryResponse where
  | servers (addresses : List String)
  | databaseCreated
  | databaseContains (contains : Bool)
  | databaseDeleted
  | databases (names : List String)
  | replicas (replicas : List ReplicaInfo)
  | sessionOpened (sessionId : SessionId) (serverDurationMillis : UInt32)
  | sessionClosed
  | sessionPulse (alive : Bool)
deriving DecidableEq, Inhabited

instance : Described UnaryResponse where
  schema := .choice <| .value "Servers" (schema (List String)) <|
    .unit "DatabaseCreated" <| .value "DatabaseContains" .flag <| .unit "DatabaseDeleted" <|
    .value "Databases" (schema (List String)) <|
    .value "Replicas" (schema (List ReplicaInfo)) <|
    .fields "SessionOpened" (.field "session_id" (schema SessionId) <|
      .field "server_duration_millis" .word .nil) <|
    .unit "SessionClosed" <|
    .fields "SessionPulse" (.field "alive" .flag .nil) .nil
  toCarrier
    | .servers addresses => alt0 (toCarrier addresses)
    | .databaseCreated => alt1 ()
    | .databaseContains contains => alt2 contains
    | .databaseDeleted => alt3 ()
    | .databases names => alt4 (toCarrier names)
    | .replicas replicas => alt5 (toCarrier replicas)
    | .sessionOpened sessionId millis => alt6 (toCarrier sessionId, millis, ())
    | .sessionClosed => alt7 ()
    | .sessionPulse alive => alt8 (alive, ())
  ofCarrier
    | alt0 addresses => .servers (ofCarrier addresses)
    | alt1 _ => .databaseCreated
    | alt2 contains => .databaseContains contains
    | alt3 _ => .databaseDeleted
    | alt4 names => .databases (ofCarrier names)
    | alt5 replicas => .replicas (ofCarrier replicas)
    | alt6 (sessionId, millis, _) => .sessionOpened (ofCarrier sessionId) millis
    | alt7 _ => .sessionClosed
    | alt8 (alive, _) => .sessionPulse alive
  ofCarrier_toCarrier a := by cases a <;> simp

end GraphDriver
