import GraphDriver.Client.Databases
import GraphDriver.Client.Session

/-!
# Clusters and failover

A cluster is discovered through any of its members. Work that needs the primary replica of a
database follows it through elections: a replica that is not the primary any more sends the work on
to the next one, one that cannot be reached does so after a pause. Work that any replica can do goes
to the preferred one first. How often either is tried is bounded.
-/

namespace GraphDriver.Cluster

open Operation (call expect outcome onAbandon pause)

/-! ## Discovery -/

/-- Asks addresses one after the other for the members, until one answers. -/
def discover (hub : Nat) : List String → Operation (Option (List String))
  | [] => return none
  | address :: rest => do
    let client ← modifyGet (Connections.shareHub address hub)
    let answer ← outcome (onAbandon (·.releaseClient client) (Client.servers client))
    modify (·.releaseClient client)
    match answer with
    | .ok members => return some members
    | .error _ => discover hub rest

/-- A client at an address, one that is there already or a new one. -/
def clientAt (cluster : Nat) (address : String) : Operation Nat :=
  modifyGet fun c =>
    let x := c.cluster cluster
    match x.clients.get? address with
    | some client => (client, c)
    | none =>
      let (client, c) := c.shareHub address x.hub
      (client, c.modifyCluster cluster fun x =>
        { x with clients := x.clients.insert address client })

/-- Connects to a cluster through any of some addresses. -/
def connect (seeds : List String) (config : FailoverConfig) (batching : TransmitterConfig) :
    Operation Nat := do
  let hub ← modifyGet (Connections.newHub batching)
  match ← onAbandon (·.releaseHub hub) (discover hub seeds) with
  | none => do
    modify (·.releaseHub hub)
    throw .clusterUnavailable
  | some members => do
    let cluster ← modifyGet fun c =>
      (c.clusters.length,
        { c with clusters := c.clusters ++ [{ members, clients := .empty, hub, config }] })
    for member in members do
      let _ ← clientAt cluster member
    return cluster

/-- Refuses to go on with a cluster that was closed. -/
def ensureOpen (cluster : Nat) : Operation Unit := do
  unless ((← get).cluster cluster).isOpen do throw .clientClosed

/-! ## Any member -/

/-- Runs a task with one member after the other, as long as they cannot be reached. -/
def onMembers {α : Type} (cluster : Nat) (task : Nat → Operation α) : List String → Operation α
  | [] => throw .clusterUnavailable
  | member :: rest => do
    match ← outcome (task (← clientAt cluster member)) with
    | .ok a => return a
    | .error (.unreachable _) => onMembers cluster task rest
    | .error e => throw e

/-- Runs a task with any member. -/
def runAnyMember {α : Type} (cluster : Nat) (task : Nat → Operation α) : Operation α := do
  ensureOpen cluster
  onMembers cluster task ((← get).cluster cluster).members

/-! ## Replicas -/

/-- Asks the members for the replicas of a database, and remembers the answer. -/
def fetchReplicas (cluster : Nat) (database : String) : Operation DatabaseReplicas :=
  runAnyMember cluster fun client => do
    let replicas ←
      expect "replicas" (fun | .replicas replicas => some replicas | _ => none)
        (← call client (.databaseReplicas database))
    let found : DatabaseReplicas := ⟨database, replicas⟩
    modify (·.modifyCluster cluster fun x =>
      { x with replicas := x.replicas.insert database found })
    return found

/-- The replicas of a database as they were last reported. -/
def cachedReplicas (cluster : Nat) (database : String) : Operation (Option DatabaseReplicas) :=
  return ((← get).cluster cluster).replicas.get? database

/-- Fetches replicas until one claims to be primary, pausing before each fetch but the first. -/
def seekPrimaryWithin (cluster : Nat) (database : String) :
    (fetches : Nat) → (first : Bool) → Operation ReplicaInfo
  | 0, _ => throw .clusterUnavailable
  | fetches + 1, first => do
    unless first do
      pause ((← get).cluster cluster).config.waitForPrimarySelection.millis
    match (← fetchReplicas cluster database).primary with
    | some primary => return primary
    | none => seekPrimaryWithin cluster database fetches false

/-- Looks for the primary replica, as often as the configuration allows. -/
def seekPrimary (cluster : Nat) (database : String) : Operation ReplicaInfo := do
  let config := ((← get).cluster cluster).config
  seekPrimaryWithin cluster database config.fetchReplicasMaxRetries.toNat true

/-- Runs a task on the primary replica and on those that follow it, at most a number of times. -/
def followPrimary {α : Type} (cluster : Nat) (database : String) (task : Nat → Bool → Operation α) :
    (runs : Nat) → (first : Bool) → ReplicaInfo → Operation α
  | 0, _, _ => throw .clusterUnavailable
  | runs + 1, first, primary => do
    match ← outcome (task (← clientAt cluster primary.address) first) with
    | .ok a => return a
    | .error .notPrimary => do
      let next ← seekPrimary cluster database
      followPrimary cluster database task runs false next
    | .error (.unreachable _) => do
      pause ((← get).cluster cluster).config.waitForPrimarySelection.millis
      let next ← seekPrimary cluster database
      followPrimary cluster database task runs false next
    | .error e => throw e

/-- Runs a task on the primary replica of a database, following it through elections. The task
learns whether it runs for the first time. -/
def runPrimary {α : Type} (cluster : Nat) (database : String) (task : Nat → Bool → Operation α) :
    Operation α := do
  ensureOpen cluster
  let primary ←
    match (← cachedReplicas cluster database).bind (·.primary) with
    | some primary => pure primary
    | none => seekPrimary cluster database
  let config := ((← get).cluster cluster).config
  followPrimary cluster database task config.primaryTaskMaxRetries.toNat true primary

/-- Runs a task on one replica after the other, as long as they cannot be reached. -/
def onReplicas {α : Type} (cluster : Nat) (task : Nat → Bool → Operation α) :
    (first : Bool) → List ReplicaInfo → Operation α
  | _, [] => throw .clusterUnavailable
  | first, replica :: rest => do
    match ← outcome (task (← clientAt cluster replica.address) first) with
    | .ok a => return a
    | .error (.unreachable _) => onReplicas cluster task false rest
    | .error e => throw e

/-- Runs a task on any replica of a database, the preferred one first. -/
def runAny {α : Type} (cluster : Nat) (database : String) (task : Nat → Bool → Operation α) :
    Operation α := do
  ensureOpen cluster
  let replicas ←
    match ← cachedReplicas cluster database with
    | some replicas => pure replicas
    | none => fetchReplicas cluster database
  onReplicas cluster task true replicas.readOrder

/-! ## Databases -/

def createDatabase (cluster : Nat) (name : String) : Operation Unit :=
  runAnyMember cluster fun client => Client.createDatabase client name

def containsDatabase (cluster : Nat) (name : String) : Operation Bool :=
  runAnyMember cluster fun client => Client.containsDatabase client name

def databases (cluster : Nat) : Operation (List String) := runAnyMember cluster Client.databases

def deleteDatabase (cluster : Nat) (name : String) : Operation Unit :=
  runPrimary cluster name fun client _ => Client.deleteDatabase client name

/-- The replicas of a database that exists. -/
def findDatabase (cluster : Nat) (name : String) : Operation DatabaseReplicas := do
  if ← containsDatabase cluster name then fetchReplicas cluster name
  else throw (.databaseNotFound name)

end GraphDriver.Cluster
