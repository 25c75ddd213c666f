import GraphDriver.Client.Transaction
import GraphDriver.Cluster.Failover

/-!
# Sessions of a cluster

A session of a cluster lives at one replica at a time. When a transaction cannot be opened because
the replica is gone or no longer the primary one, the session moves to another replica, once, and
the transaction is tried again there.
-/

namespace GraphDriver.ClusterSession

open Operation (ofOutcome outcome onAbandon)

/-- Opens a session at the primary replica, or at any if the options allow it. -/
def openAtReplica (cluster : Nat) (database : String) (sessionType : SessionType)
    (options : Options) : Operation Nat :=
  let task (client : Nat) (_ : Bool) := Session.openAt client database sessionType options
  if options.allowsAnyReplica then Cluster.runAny cluster database task
  else Cluster.runPrimary cluster database task

/-- Opens a session of a cluster. The session holds its cluster. -/
def openAt (cluster : Nat) (database : String) (sessionType : SessionType) (options : Options) :
    Operation Nat := do
  let current ← openAtReplica cluster database sessionType options
  modifyGet fun c =>
    (c.clusterSessions.length,
      { c.retainCluster cluster with
        clusterSessions := c.clusterSessions ++
          [{ cluster, database, sessionType, options, current }] })

/-- Does something over a session, which is held meanwhile and let go of in the end. -/
def holding {α : Type} (current : Nat) (op : Operation α) : Operation α := do
  let result ← outcome (onAbandon (·.releaseSession current) op)
  modify (·.releaseSession current)
  ofOutcome result

/-- Takes hold of the session that a session of a cluster uses. -/
def takeCurrent (session : Nat) (c : Connections) : Nat × Connections :=
  let current := (c.clusterSession session).current
  (current, c.retainSession current)

/-- Moves a session of a cluster to a new session, which is held by who moves it too. -/
def moveTo (session fresh : Nat) (c : Connections) : Connections :=
  let old := (c.clusterSession session).current
  ((c.retainSession fresh).modifyClusterSession session fun x =>
    { x with current := fresh }).releaseSession old

/-- Moves to a new session, closing the stale one whatever its server answers. The new one is held
by the caller. -/
def reopen (session stale : Nat) : Operation Nat := do
  let _ ← outcome (Session.close stale)
  let x := (← get).clusterSession session
  let fresh ← openAtReplica x.cluster x.database x.sessionType x.options
  modify (moveTo session fresh)
  return fresh

/-- Opens a transaction, moving the session to another replica if that is called for. -/
def transaction (session : Nat) (transactionType : TransactionType) (options : Options) :
    Operation Transaction := do
  let stale ← modifyGet (takeCurrent session)
  holding stale do
    match ← outcome (Transaction.openOn stale transactionType options) with
    | .ok t => return t
    | .error e =>
      if e.isReplicaFailure then
        let fresh ← reopen session stale
        holding fresh (Transaction.openOn fresh transactionType options)
      else throw e

/-- Closes the session at the replica in use. -/
def close (session : Nat) : Operation Unit := do
  let current ← modifyGet (takeCurrent session)
  holding current (Session.close current)

end GraphDriver.ClusterSession
