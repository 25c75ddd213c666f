import GraphDriver.Simulation.Command
import GraphDriver.Simulation.Progress

/-!
# An application in a simulated world

An application that names what it makes, and the steps that it takes with it: each step is one
operation, which is given up after a while. The record of a step tells what the application got,
what the servers saw and how long it took.
-/

namespace GraphDriver.Simulation

/-- An application and the world around it. -/
structure Stage where
  world : World
  batching : TransmitterConfig
  sharedHub : Nat
  names : Dict Object := .empty

namespace Stage

/-- A stage before the first step. -/
def new (members : List Member) (isDark : Bool) (batching : TransmitterConfig) : Stage :=
  let (sharedHub, connections) := ({} : Connections).newHub batching
  { world := { connections, members, isDark }, batching, sharedHub }

/-- Changes the connections and queues what comes up. -/
def modify (s : Stage) (f : Connections → Connections) : Stage :=
  { s with world := (s.world.modify f).notice }

/-- Lets go of an object. -/
def letGo (s : Stage) : Object → Stage
  | .client client => s.modify (·.releaseClient client)
  | .cluster cluster => s.modify (·.releaseCluster cluster)
  | .session session => s.modify (·.releaseSession session)
  | .clusterSession session => s.modify (·.dropClusterSession session)
  | .transaction transaction => s.modify (·.closeTransaction transaction)

/-- Gives a name to an object. What had the name before is let go. -/
def name (s : Stage) (as : String) (object : Object) : Stage :=
  let named := { s with names := s.names.insert as object }
  match s.names.get? as with
  | none => named
  | some old => named.letGo old

/-- Runs an operation and makes something of its outcome. -/
def run {α : Type} (s : Stage) (op : Operation α)
    (conclude : Except Error α → Stage → Outcome × Stage) : Outcome × Stage :=
  match World.drive op.run s.world with
  | (none, world) => (.timedOut, { s with world })
  | (some result, world) => conclude result { s with world }

/-- Runs an operation and tells its result. -/
def tell {α : Type} (s : Stage) (op : Operation α) (document : α → Option Document) :
    Outcome × Stage :=
  s.run op fun
    | .ok a, s => (.got (document a), s)
    | .error e, s => (.failed e, s)

/-- Runs an operation that has nothing to tell. -/
def tellUnit (s : Stage) (op : Operation Unit) : Outcome × Stage := s.tell op fun _ => none

/-- Runs an operation and tells its result as a document. -/
def tellOf {α : Type} [Described α] (s : Stage) (op : Operation α) : Outcome × Stage :=
  s.tell op fun a => some (.of a)

/-- Runs an operation that makes something, and gives it a name. -/
def make {α : Type} (s : Stage) (as : String) (op : Operation α) (object : α → Object) :
    Outcome × Stage :=
  s.run op fun
    | .ok a, s => (.made, s.name as (object a))
    | .error e, s => (.failed e, s)

/-- Asks something inside a transaction. -/
def ask (s : Stage) (t : Transaction) : Question → Outcome × Stage
  | .rollback => s.tellUnit t.rollback
  | .define query options => s.tellUnit (t.define query options)
  | .undefine query options => s.tellUnit (t.undefine query options)
  | .delete query options => s.tellUnit (t.delete query options)
  | .matchAggregate query options => s.tellOf (t.matchAggregate query options)
  | .getThingType label => s.tellOf (t.getThingType label)
  | .getEntityType label => s.tellOf (t.getEntityType label)
  | .getRelationType label => s.tellOf (t.getRelationType label)
  | .getAttributeType label => s.tellOf (t.getAttributeType label)
  | .putEntityType label => s.tellOf (t.putEntityType label)
  | .putRelationType label => s.tellOf (t.putRelationType label)
  | .putAttributeType label valueType => s.tellOf (t.putAttributeType label valueType)
  | .getThing iid => s.tellOf (t.getThing iid)
  | .getEntity iid => s.tellOf (t.getEntity iid)
  | .getRelation iid => s.tellOf (t.getRelation iid)
  | .getAttribute iid => s.tellOf (t.getAttribute iid)
  | .getRule label => s.tellOf (t.getRule label)
  | .putRule label condition conclusion => s.tellOf (t.putRule label condition conclusion)

/-- Sends a request with many answers and gathers them. -/
def gather (s : Stage) (t : Transaction) (limit : Option Nat) (op : Operation AnswerReader) :
    Outcome × Stage :=
  s.run op fun
    | .error e, s => (.failed e, s)
    | .ok reader, s =>
      match World.gather t.hub limit reader s.world with
      | (none, world) => (.timedOut, { s with world })
      | (some answers, world) => (.answers answers, { s with world })

/-- Runs work of the application on replicas of a cluster. -/
def runWork (s : Stage) (results : List (Except Error String)) (op : Operation String) :
    Outcome × Stage :=
  { s with world := { s.world with results, runs := [] } }.run op fun result s =>
    (.ran result s.world.runs, s)

/-! ## Actions by the kind of object -/

def useClient (s : Stage) (client : Nat) : Action → Outcome × Stage
  | .createDatabase name => s.tellUnit (Client.createDatabase client name)
  | .containsDatabase name => s.tellOf (Client.containsDatabase client name)
  | .deleteDatabase name => s.tellUnit (Client.deleteDatabase client name)
  | .findDatabase name => s.tellOf (Client.findDatabase client name)
  | .findAndDeleteDatabase name => s.tellUnit do
    Client.deleteDatabase client (← Client.findDatabase client name)
  | .databases => s.tellOf (Client.databases client)
  | .servers => s.tellOf (Client.servers client)
  | .openSession as database sessionType options =>
    s.make as (Session.openAt client database sessionType options) .session
  | .close => (.nothing, s.modify (·.closeClient client))
  | .info =>
    let c := s.world.connections
    (.info (.client (c.client client).address (c.clientIsOpen client)) (c.describeClient client), s)
  | _ => (.absent, s)

def useCluster (s : Stage) (cluster : Nat) : Action → Outcome × Stage
  | .createDatabase name => s.tellUnit (Cluster.createDatabase cluster name)
  | .containsDatabase name => s.tellOf (Cluster.containsDatabase cluster name)
  | .deleteDatabase name => s.tellUnit (Cluster.deleteDatabase cluster name)
  | .findDatabase name => s.run (Cluster.findDatabase cluster name) (conclude .database)
  | .databases => s.tellOf (Cluster.databases cluster)
  | .fetchReplicas name => s.run (Cluster.fetchReplicas cluster name) (conclude .replicas)
  | .runPrimary name results => s.runWork results (Cluster.runPrimary cluster name work)
  | .runAny name results => s.runWork results (Cluster.runAny cluster name work)
  | .openSession as database sessionType options =>
    s.make as (ClusterSession.openAt cluster database sessionType options) .clusterSession
  | .close => (.nothing, s.modify (·.closeCluster cluster))
  | .info =>
    let c := s.world.connections
    let x := c.cluster cluster
    (.info (.cluster x.members x.isOpen x.config) (c.describeCluster cluster), s)
  | _ => (.absent, s)
where
  conclude (found : DatabaseReplicas → Outcome) :
      Except Error DatabaseReplicas → Stage → Outcome × Stage
    | .ok replicas, s => (found replicas, s)
    | .error e, s => (.failed e, s)
  work (client : Nat) (first : Bool) : Operation String :=
    ExceptT.mk (Program.perform (.work client first))

def useSession (s : Stage) (session : Nat) : Action → Outcome × Stage
  | .openTransaction as transactionType options =>
    s.make as (Transaction.openOn session transactionType options) .transaction
  | .close => s.tellUnit (Session.close session)
  | .info =>
    let c := s.world.connections
    (.info (.session (c.session session)) (c.describeSession session), s)
  | _ => (.absent, s)

def useClusterSession (s : Stage) (session : Nat) : Action → Outcome × Stage
  | .openTransaction as transactionType options =>
    s.make as (ClusterSession.transaction session transactionType options) .transaction
  | .close => s.tellUnit (ClusterSession.close session)
  | .info =>
    let c := s.world.connections
    (.info (.clusterSession (c.clusterSession session) (c.clusterSessionIsOpen session))
      (c.describeClusterSession session), s)
  | _ => (.absent, s)

def useTransaction (s : Stage) (t : Transaction) : Action → Outcome × Stage
  | .ask question => s.ask t question
  | .stream kind query options limit =>
    s.gather t limit <| match kind with
      | .match => t.matchQuery query options
      | .insert => t.insert query options
      | .update => t.update query options
      | .matchGroup => t.matchGroup query options
      | .matchGroupAggregate => t.matchGroupAggregate query options
      | .rules => t.getRules
  | .commit => s.tellUnit t.commit
  | .close => (.nothing, s.modify (·.closeTransaction t))
  | .info =>
    let c := s.world.connections
    (.info (.transaction t ((c.hub t.hub).stream t.stream).isOpen) (c.describeTransaction t), s)
  | _ => (.absent, s)

def useObject (s : Stage) (action : Action) : Object → Outcome × Stage
  | .client client => s.useClient client action
  | .cluster cluster => s.useCluster cluster action
  | .session session => s.useSession session action
  | .clusterSession session => s.useClusterSession session action
  | .transaction t => s.useTransaction t action

/-- Does what a step says. -/
def perform (s : Stage) : Command → Outcome × Stage
  | .makeClient as address shared =>
    let c := s.world.connections
    let (client, connections) :=
      if shared then c.shareHub address s.sharedHub else c.newClient address s.batching
    (.nothing, { s with world := { s.world with connections } }.name as (.client client))
  | .makeCluster as seeds config => s.make as (Cluster.connect seeds config s.batching) .cluster
  | .pass millis =>
    s.run (Operation.pause millis) fun _ s => (.nothing, s)
  | .push address acts => (.nothing, { s with world := s.world.push address acts })
  | .closeSharedTransmitter => (.nothing, s.modify (·.modifyHub s.sharedHub Hub.close))
  | .use name action =>
    match s.names.get? name with
    | none => (.absent, s)
    | some object =>
      let forgotten (s : Stage) : Stage := { s with names := s.names.erase name }
      match action, object with
      | .drop, object => (.nothing, (forgotten s).letGo object)
      | .commit, .transaction t =>
        let (outcome, s) := s.useTransaction t .commit
        (outcome, forgotten s)
      | action, object => s.useObject action object

/-- What a step shows. -/
structure Record where
  outcome : Outcome
  sights : List (String × Sight)
  millis : Nat

/-- Takes a step, with a number of milliseconds to wait for it. -/
def step (s : Stage) (patience : Nat) (command : Command) : Record × Stage :=
  let start := s.world.now
  let (outcome, s) :=
    { s with world := { s.world with deadline := start + patience } }.perform command
  let millis := s.world.now - start
  let w := s.world.settle
  ({ outcome, sights := w.sights, millis }, { s with world := { w with sights := [] } })

end Stage

end GraphDriver.Simulation
