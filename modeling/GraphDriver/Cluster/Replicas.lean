import GraphDriver.Message.Unary
import GraphDriver.Schema.Encode

/-!
# Replicas of a database

What the members of a cluster report about one database: which replicas there are, which of them
claims to be the primary one, and in which order they should be asked for reads.
-/

namespace GraphDriver

/-- The replicas of one database, as reported. -/
structure DatabaseReplicas where
  name : String
  replicas : List ReplicaInfo
deriving DecidableEq, Inhabited

namespace DatabaseReplicas

/-- The later of two replicas in an election; of equal terms the one reported later. -/
def laterTerm (best : Option ReplicaInfo) (r : ReplicaInfo) : Option ReplicaInfo :=
  match best with
  | some best => if r.term < best.term then some best else some r
  | none => some r

/-- The replica that claims to be primary with the highest term. Across an election two replicas can
both claim it. -/
def primary (d : DatabaseReplicas) : Option ReplicaInfo :=
  (d.replicas.filter (·.isPrimary)).foldl laterTerm none

/-- The first replica that is preferred for reads. -/
def preferred (d : DatabaseReplicas) : Option ReplicaInfo := d.replicas.find? (·.isPreferred)

/-- The preferred replica, then all that differ from it in reported order. -/
def readOrder (d : DatabaseReplicas) : List ReplicaInfo :=
  d.preferred.toList ++ d.replicas.filter fun r => some r ≠ d.preferred

end DatabaseReplicas

/-- How failover is retried. -/
structure FailoverConfig where
  /-- How often a task is tried on a primary replica. -/
  primaryTaskMaxRetries : UInt64 := 10
  /-- How often replicas are fetched while none claims to be primary. -/
  fetchReplicasMaxRetries : UInt64 := 10
  /-- The pause after an unreachable primary, and between fetches. -/
  waitForPrimarySelection : Span := .ofMillis 2000
deriving DecidableEq

instance : Inhabited FailoverConfig := ⟨{}⟩

instance : Described FailoverConfig where
  schema := .record "ClusterConfig" <|
    .defaulted "primary_task_max_retries" .count (.unsigned 10) <|
    .defaulted "fetch_replicas_max_retries" .count (.unsigned 10) <|
    .defaulted "wait_for_primary_selection" .span (Span.ofMillis 2000).toValue .nil
  toCarrier c :=
    (c.primaryTaskMaxRetries, c.fetchReplicasMaxRetries, c.waitForPrimarySelection, ())
  ofCarrier := fun (tasks, fetches, wait, _) => ⟨tasks, fetches, wait⟩
  ofCarrier_toCarrier _ := rfl

end GraphDriver
