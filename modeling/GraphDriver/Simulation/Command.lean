import GraphDriver.Simulation.Member

/-!
# Steps and their outcomes

What an application can do with the things it holds, and what each step can come to.
-/

namespace GraphDriver.Simulation

/-- Something that the application holds. -/
inductive Object where
  | client (client : Nat)
  | cluster (cluster : Nat)
  | session (session : Nat)
  | clusterSession (session : Nat)
  | transaction (transaction : Transaction)
deriving DecidableEq, Inhabited

/-- A value with its schema. -/
structure Document where
  schema : Schema
  content : schema.Carrier

/-- The document of a value. -/
def Document.of {α : Type} [Described α] (a : α) : Document := ⟨GraphDriver.schema α, toCarrier a⟩

/-- The document of one answer of many. -/
def Document.ofAnswer : Answer → Document
  | .conceptMap answer => .of answer
  | .conceptMapGroup group => .of group
  | .numericGroup group => .of group
  | .rule rule => .of rule

/-- A request with one answer inside a transaction. -/
inductive Question where
  | rollback
  | define (query : String) (options : Options)
  | undefine (query : String) (options : Options)
  | delete (query : String) (options : Options)
  | matchAggregate (query : String) (options : Options)
  | getThingType (label : String)
  | getEntityType (label : String)
  | getRelationType (label : String)
  | getAttributeType (label : String)
  | putEntityType (label : String)
  | putRelationType (label : String)
  | putAttributeType (label : String) (valueType : ValueType)
  | getThing (iid : Iid)
  | getEntity (iid : Iid)
  | getRelation (iid : Iid)
  | getAttribute (iid : Iid)
  | getRule (label : String)
  | putRule (label condition conclusion : String)
deriving DecidableEq, Inhabited

/-- What the application does with something that it holds. -/
inductive Action where
  | createDatabase (name : String)
  | containsDatabase (name : String)
  | deleteDatabase (name : String)
  | findDatabase (name : String)
  | findAndDeleteDatabase (name : String)
  | databases
  | servers
  | fetchReplicas (name : String)
  | runPrimary (name : String) (results : List (Except Error String))
  | runAny (name : String) (results : List (Except Error String))
  | openSession (as database : String) (sessionType : SessionType) (options : Options)
  | openTransaction (as : String) (transactionType : TransactionType) (options : Options)
  | ask (question : Question)
  | stream (kind : AnswerKind) (query : String) (options : Options) (limit : Option Nat)
  | commit
  | close
  | drop
  | info
deriving DecidableEq, Inhabited

/-- A step of the application, or of the world around it. -/
inductive Command where
  | makeClient (as address : String) (shared : Bool)
  | makeCluster (as : String) (seeds : List String) (config : FailoverConfig)
  | pass (millis : Nat)
  | push (address : String) (acts : List ServerAct)
  | closeSharedTransmitter
  | use (name : String) (action : Action)
deriving DecidableEq, Inhabited

/-- What can be seen of an object. -/
inductive Info where
  | client (address : String) (isOpen : Bool)
  | cluster (members : List String) (isOpen : Bool) (config : FailoverConfig)
  | session (session : Session)
  | clusterSession (session : ClusterSession) (isOpen : Bool)
  | transaction (transaction : Transaction) (isOpen : Bool)

/-- What a step came to. -/
inductive Outcome where
  | nothing
  | absent
  | timedOut
  | failed (error : Error)
  /-- Something was made. -/
  | made
  /-- An operation succeeded, with a document unless there is nothing to tell. -/
  | got (content : Option Document)
  | answers (answers : List (Except Error Answer))
  | replicas (replicas : DatabaseReplicas)
  /-- A database of a cluster was found. -/
  | database (replicas : DatabaseReplicas)
  | ran (result : Except Error String) (runs : List (String × Bool))
  | info (info : Info) (text : String)

end GraphDriver.Simulation
