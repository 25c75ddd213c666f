import GraphDriver.Client.Program

/-!
# Transactions

A transaction is opened over a session by the first request of a stream of its own. Committing ends
it, whatever the server answers; so does an opening that the server does not answer as it should.
Rolling back leaves it open. In between it is queried: requests with one answer wait for it,
requests with many give a reader of answers.
-/

namespace GraphDriver.Transaction

open Operation (expect ofOutcome outcome onAbandon)

/-- Connects a new stream to a server. A stream that did not connect leaves no dispatcher behind. -/
def openStream (hub : Nat) (address : String) : Operation Nat := do
  let dispatcher ← ofOutcome (← modifyGet (Connections.onHub hub Hub.reserve))
  let giveBack (c : Connections) : Connections := c.modifyHub hub (·.release dispatcher)
  let dialled ← outcome <|
    onAbandon giveBack (ExceptT.mk (Program.perform (.dial address hub dispatcher)))
  match dialled with
  | .ok () => modifyGet (Connections.onHub hub (·.attach dispatcher address))
  | .error e => do
    modify giveBack
    throw e

/-- Sends a request with one answer and waits for it. -/
def ask (t : Transaction) (payload : RequestPayload) (batched : Bool) :
    Operation ResponsePayload := do
  let now := (← get).now
  let call ← ofOutcome (← modifyGet (Connections.onHub t.hub (·.send now t.stream payload batched)))
  let delivery ← ExceptT.lift (Program.perform (.receive t.hub call))
  ofOutcome (Hub.singleAnswer call.id delivery)

/-- Closes the stream of a transaction, which fails every call on it. -/
def close (t : Transaction) : Operation Unit := modify (·.closeTransaction t)

/-- Opens a transaction over a session. -/
def openOn (session : Nat) (transactionType : TransactionType) (options : Options) :
    Operation Transaction := do
  let c ← get
  let s := c.session session
  unless s.isOpen do throw .sessionClosed
  unless c.clientIsOpen s.client do throw .clientClosed
  let client := c.client s.client
  let stream ← openStream client.hub client.address
  let t : Transaction := { hub := client.hub, stream, transactionType, options }
  let first := .open s.id transactionType options s.networkLatencyMillis
  let opened ← outcome do
    expect "transaction open" (fun | .opened => some () | _ => none)
      (← onAbandon (·.closeTransaction t) (ask t first false))
  match opened with
  | .ok () => return t
  | .error e => do
    close t
    throw e

/-- Commits and closes a transaction. -/
def commit (t : Transaction) : Operation Unit := do
  let answer ← outcome (onAbandon (·.closeTransaction t) (ask t .commit false))
  close t
  expect "commit" (fun | .committed => some () | _ => none) (← ofOutcome answer)

/-- Discards what was written. The transaction stays open. -/
def rollback (t : Transaction) : Operation Unit := do
  expect "rollback" (fun | .rolledBack => some () | _ => none) (← ask t .rollback false)

/-! ## Queries -/

/-- A query with one answer. -/
def querySingle (t : Transaction) (query : QueryRequest) (options : Options) :
    Operation QueryResponse := do
  expect "query" (fun | .query response => some response | _ => none)
    (← ask t (.query query options) true)

def define (t : Transaction) (query : String) (options : Options) : Operation Unit := do
  expect "define" (fun | .defined => some () | _ => none) (← querySingle t (.define query) options)

def undefine (t : Transaction) (query : String) (options : Options) : Operation Unit := do
  expect "undefine" (fun | .undefined => some () | _ => none)
    (← querySingle t (.undefine query) options)

def delete (t : Transaction) (query : String) (options : Options) : Operation Unit := do
  expect "delete" (fun | .deleted => some () | _ => none) (← querySingle t (.delete query) options)

def matchAggregate (t : Transaction) (query : String) (options : Options) : Operation Numeric := do
  expect "match aggregate" (fun | .matchAggregate numeric => some numeric | _ => none)
    (← querySingle t (.matchAggregate query) options)

/-- Sends a request that is answered in parts. -/
def askMany (t : Transaction) (kind : AnswerKind) (payload : RequestPayload) :
    Operation AnswerReader := do
  let now := (← get).now
  let call ← ofOutcome (← modifyGet (Connections.onHub t.hub (·.send now t.stream payload true)))
  return { kind, parts := { call } }

def matchQuery (t : Transaction) (query : String) (options : Options) : Operation AnswerReader :=
  askMany t .match (.query (.match query) options)

def insert (t : Transaction) (query : String) (options : Options) : Operation AnswerReader :=
  askMany t .insert (.query (.insert query) options)

def update (t : Transaction) (query : String) (options : Options) : Operation AnswerReader :=
  askMany t .update (.query (.update query) options)

def matchGroup (t : Transaction) (query : String) (options : Options) : Operation AnswerReader :=
  askMany t .matchGroup (.query (.matchGroup query) options)

def matchGroupAggregate (t : Transaction) (query : String) (options : Options) :
    Operation AnswerReader :=
  askMany t .matchGroupAggregate (.query (.matchGroupAggregate query) options)

/-! ## Concepts -/

/-- A request about concepts. -/
def askConcepts (t : Transaction) (request : ConceptManagerRequest) :
    Operation ConceptManagerResponse := do
  expect "concept manager" (fun | .conceptManager response => some response | _ => none)
    (← ask t (.conceptManager request) true)

def getThingType (t : Transaction) (label : String) : Operation (Option Concept) := do
  expect "get thing type" (fun | .thingType concept => some concept | _ => none)
    (← askConcepts t (.getThingType label))

def getThing (t : Transaction) (iid : Iid) : Operation (Option Concept) := do
  expect "get thing" (fun | .thing concept => some concept | _ => none)
    (← askConcepts t (.getThing iid))

/-- Lets a concept pass if it is of a kind. -/
def checked {α : Type} (cast : Concept → Except Error α) (found : Option Concept) :
    Operation (Option Concept) := do
  match found with
  | none => return none
  | some concept =>
    let _ ← ofOutcome (cast concept)
    return some concept

def getEntityType (t : Transaction) (label : String) : Operation (Option Concept) := do
  checked Concept.asEntityType (← getThingType t label)

def getRelationType (t : Transaction) (label : String) : Operation (Option Concept) := do
  checked Concept.asRelationType (← getThingType t label)

def getAttributeType (t : Transaction) (label : String) : Operation (Option Concept) := do
  checked Concept.asAttributeType (← getThingType t label)

def getEntity (t : Transaction) (iid : Iid) : Operation (Option Concept) := do
  checked Concept.asEntity (← getThing t iid)

def getRelation (t : Transaction) (iid : Iid) : Operation (Option Concept) := do
  checked Concept.asRelation (← getThing t iid)

def getAttribute (t : Transaction) (iid : Iid) : Operation (Option Concept) := do
  checked Concept.asAttribute (← getThing t iid)

/-- A request that makes a type. -/
def putType (t : Transaction) (request : ConceptManagerRequest) : Operation Concept := do
  expect "put type" (fun | .putType concept => some concept | _ => none) (← askConcepts t request)

def putEntityType (t : Transaction) (label : String) : Operation Concept :=
  putType t (.putEntityType label)

def putRelationType (t : Transaction) (label : String) : Operation Concept :=
  putType t (.putRelationType label)

def putAttributeType (t : Transaction) (label : String) (valueType : ValueType) :
    Operation Concept :=
  putType t (.putAttributeType label valueType)

/-! ## Rules -/

/-- A request about rules. -/
def askRules (t : Transaction) (request : LogicRequest) : Operation LogicResponse := do
  expect "logic" (fun | .logic response => some response | _ => none)
    (← ask t (.logic request) true)

def getRule (t : Transaction) (label : String) : Operation (Option Rule) := do
  expect "get rule" (fun | .rule rule => some rule | _ => none) (← askRules t (.getRule label))

def putRule (t : Transaction) (label condition conclusion : String) : Operation Rule := do
  expect "put rule" (fun | .putRule rule => some rule | _ => none)
    (← askRules t (.putRule label condition conclusion))

def getRules (t : Transaction) : Operation AnswerReader := askMany t .rules (.logic .getRules)

end GraphDriver.Transaction
