import GraphDriver.Schema.Basic

/-!
# Options

Options of sessions, transactions and queries. An option that is not set is left to the server.
-/

namespace GraphDriver

/-- Options sent along with a session, a transaction or a query. -/
structure Options where
  infer : Option Bool := none
  traceInference : Option Bool := none
  explain : Option Bool := none
  parallel : Option Bool := none
  prefetch : Option Bool := none
  prefetchSize : Option UInt32 := none
  sessionIdleTimeoutMillis : Option UInt32 := none
  transactionTimeoutMillis : Option UInt32 := none
  schemaLockAcquireTimeoutMillis : Option UInt32 := none
  /-- A session of a cluster may be served by a replica that is not the primary one. -/
  readAnyReplica : Option Bool := none
deriving DecidableEq, Inhabited

namespace Options

/-- Whether any replica may serve the session. -/
def allowsAnyReplica (o : Options) : Bool := o.readAnyReplica.getD false

/-- The fields of options; each may be left out. -/
def fields : Fields :=
  .defaulted "infer" (.option .flag) .nil <|
  .defaulted "trace_inference" (.option .flag) .nil <|
  .defaulted "explain" (.option .flag) .nil <|
  .defaulted "parallel" (.option .flag) .nil <|
  .defaulted "prefetch" (.option .flag) .nil <|
  .defaulted "prefetch_size" (.option .word) .nil <|
  .defaulted "session_idle_timeout_millis" (.option .word) .nil <|
  .defaulted "transaction_timeout_millis" (.option .word) .nil <|
  .defaulted "schema_lock_acquire_timeout_millis" (.option .word) .nil <|
  .defaulted "read_any_replica" (.option .flag) .nil .nil

instance : Described Options where
  schema := .record "Options" fields
  toCarrier o := (o.infer, o.traceInference, o.explain, o.parallel, o.prefetch, o.prefetchSize,
    o.sessionIdleTimeoutMillis, o.transactionTimeoutMillis, o.schemaLockAcquireTimeoutMillis,
    o.readAnyReplica, ())
  ofCarrier := fun (infer, trace, explain, parallel, prefetch, size, idle, timeout, lock, any, _) =>
    ⟨infer, trace, explain, parallel, prefetch, size, idle, timeout, lock, any⟩
  ofCarrier_toCarrier _ := rfl

end Options

end GraphDriver
