import GraphDriver.Cluster.Session
import GraphDriver.Proofs.Cluster.Following

/-!
# Signals

That a replica is not the primary one, or is not there, is a signal to go on at another replica.
Work on the primary replica uses up every signal that it gets. Work that any member or any replica
can do goes on only if nobody is there, so a refusal by the one that is there reaches the caller,
and so does a refusal to tell of replicas. A session of a cluster moves once: what its second
attempt to open a transaction comes to is the answer, a signal or not.

* §1 how operations fail
* §2 members and replicas
* §3 databases and sessions
* §4 what a session was opened for
* §5 transactions
* §6 signals that reach the caller
-/

namespace GraphDriver

/-! ## §1  How operations fail -/

namespace Operation

variable {α β : Type} {others : Connections → Connections → Prop}

/-- In every run in which an operation fails, the error is one that some waits explain. -/
def FailsOnly (others : Connections → Connections → Prop) (how : List Event → Error → Prop)
    (op : Operation α) : Prop :=
  ∀ c log e c', Runs others op c log (.error e) c' → how log e

/-- That a replica is not the primary one is the answer to the last request, one of some kind. -/
def Refused (kind : UnaryRequest → Prop) (log : List Event) (e : Error) : Prop :=
  e = .notPrimary → ∃ earlier address request, kind request ∧
    log = earlier ++ [⟨.call address request, .error .notPrimary⟩]

/-- The error is no signal, except that the last request, one of some kind, was refused. -/
structure IsKeptFrom (kind : UnaryRequest → Prop) (log : List Event) (e : Error) : Prop where
  reached : ∀ address, e ≠ .unreachable address
  refused : Refused kind log e

variable {kind kind' : UnaryRequest → Prop} {front log : List Event} {e : Error}

theorem Refused.append (h : Refused kind log e) : Refused kind (front ++ log) e := by
  intro he
  obtain ⟨earlier, address, request, hkind, rfl⟩ := h he
  exact ⟨front ++ earlier, address, request, hkind, (List.append_assoc ..).symm⟩

theorem Refused.mono (h : Refused kind log e) (himp : ∀ request, kind request → kind' request) :
    Refused kind' log e := by
  intro he
  obtain ⟨earlier, address, request, hkind, rfl⟩ := h he
  exact ⟨earlier, address, request, himp request hkind, rfl⟩

theorem IsKeptFrom.append (h : IsKeptFrom kind log e) : IsKeptFrom kind (front ++ log) e :=
  ⟨h.reached, h.refused.append⟩

theorem IsKeptFrom.mono (h : IsKeptFrom kind log e)
    (himp : ∀ request, kind request → kind' request) : IsKeptFrom kind' log e :=
  ⟨h.reached, h.refused.mono himp⟩

theorem isKeptFrom_of_not_isReplicaFailure (h : e.isReplicaFailure = false) :
    IsKeptFrom kind log e := by
  constructor
  · rintro address rfl
    cases h
  · rintro rfl
    cases h

variable {how how' : List Event → Error → Prop} {op : Operation α}

theorem FailsOnly.mono (h : FailsOnly others how op) (himp : ∀ log e, how log e → how' log e) :
    FailsOnly others how' op :=
  fun c log e c' hrun => himp log e (h c log e c' hrun)

/-- What goes on fails as its parts do, if what explains an error explains it after other waits. -/
theorem FailsOnly.bind {k : α → Operation β}
    (hhow : ∀ front log e, how log e → how (front ++ log) e)
    (hop : FailsOnly others how op) (hk : ∀ a, FailsOnly others how (k a)) :
    FailsOnly others how (op >>= k) := by
  intro c log e c' h
  rcases runs_bind.mp h with ⟨e, hrun, heq⟩ | ⟨a, c₁, front, rest, -, hrun, rfl⟩
  · cases heq
    exact hop c log _ c' hrun
  · exact hhow front rest e (hk a c₁ rest e c' hrun)

theorem FailsOnly.kept_bind {k : α → Operation β} (hop : FailsOnly others (IsKeptFrom kind) op)
    (hk : ∀ a, FailsOnly others (IsKeptFrom kind) (k a)) :
    FailsOnly others (IsKeptFrom kind) (op >>= k) :=
  hop.bind (fun _ _ _ => .append) hk

theorem failsOnly_pure {a : α} : FailsOnly others how (pure a) := by
  intro c log e c' h
  cases (runs_pure.mp h).2.1

theorem failsOnly_get_bind {k : Connections → Operation α} (h : ∀ c, FailsOnly others how (k c)) :
    FailsOnly others how (get >>= k) :=
  fun c log e c' hrun => h c c log e c' (runs_get_bind.mp hrun)

theorem failsOnly_modifyGet {f : Connections → α × Connections} :
    FailsOnly others how (modifyGet f) := by
  intro c log e c' h
  cases (runs_modifyGet.mp h).2.1

/-- An error that is no signal needs no explanation. -/
theorem failsOnly_throw (h : e.isReplicaFailure = false) :
    FailsOnly others (IsKeptFrom kind) (throw e : Operation α) := by
  intro c log e' c' hrun
  cases (runs_throw.mp hrun).2.1
  exact isKeptFrom_of_not_isReplicaFailure h

/-- A question of which something is expected is refused by its answer. -/
theorem failsOnly_call_expect {client : Nat} {request : UnaryRequest} {expected : String}
    {pick : UnaryResponse → Option α} :
    FailsOnly others (Refused (· = request)) (call client request >>= expect expected pick) := by
  rintro c log e c' hrun rfl
  rw [runs_call_expect] at hrun
  split at hrun
  · obtain ⟨-, reply, rfl, hresult⟩ := hrun
    cases reply with
    | error e =>
        cases hresult
        exact ⟨[], _, request, rfl, rfl⟩
    | ok response =>
        simp only [Except.bind, taken] at hresult
        split at hresult <;> cases hresult
  · cases hrun.2.1

theorem failsOnly_outcome {op : Operation α} : FailsOnly others how (outcome op) := by
  intro c log e c' h
  obtain ⟨_, -, heq⟩ := runs_outcome.mp h
  cases heq

theorem failsOnly_pause {millis : Nat} : FailsOnly others how (pause millis) := by
  intro c log e c' h
  cases (runs_pause.mp h).2.2

end Operation

namespace Cluster

open Operation

variable {α : Type} {others : Connections → Connections → Prop} {kind : UnaryRequest → Prop}
  {k : Nat} {database : String}

/-! ## §2  Members and replicas -/

theorem failsOnly_ensureOpen : FailsOnly others (IsKeptFrom kind) (ensureOpen k) := by
  refine failsOnly_get_bind fun c => ?_
  split
  · exact failsOnly_pure
  · exact failsOnly_throw rfl

/-- A task that somebody else goes on with if nobody is there: only its refusals are left. -/
theorem failsOnly_try {task : Nat → Operation α} {address : String} {next : Operation α}
    (htask : ∀ client, FailsOnly others (Refused kind) (task client))
    (hnext : FailsOnly others (IsKeptFrom kind) next) :
    FailsOnly others (IsKeptFrom kind)
      (clientAt k address >>= fun client => outcome (task client) >>= fun answer =>
        if isUnreachable answer then next else ofOutcome answer) := by
  intro c log e c' h
  obtain ⟨client, c₁, front, answer, c₂, later, -, hrun, hgo, rfl⟩ := runs_try.mp h
  split at hgo
  · exact (hnext c₂ later e c' hgo).append
  · rename_i hthere
    obtain ⟨rfl, rfl, rfl⟩ := runs_ofOutcome.mp hgo
    rw [List.append_nil]
    refine ⟨?_, htask client c₁ front e c' hrun⟩
    rintro address rfl
    exact hthere rfl

theorem failsOnly_onMembers {task : Nat → Operation α} {members : List String}
    (htask : ∀ client, FailsOnly others (Refused kind) (task client)) :
    FailsOnly others (IsKeptFrom kind) (onMembers k task members) := by
  induction members with
  | nil => exact failsOnly_throw rfl
  | cons member rest ih =>
      rw [onMembers_cons]
      exact failsOnly_try htask ih

theorem failsOnly_runAnyMember {task : Nat → Operation α}
    (htask : ∀ client, FailsOnly others (Refused kind) (task client)) :
    FailsOnly others (IsKeptFrom kind) (runAnyMember k task) :=
  failsOnly_ensureOpen.kept_bind fun _ =>
    failsOnly_get_bind fun _ => failsOnly_onMembers htask

/-- The only request of a fetch is the one for replicas. -/
theorem failsOnly_fetchReplicas :
    FailsOnly others (IsKeptFrom (· = .databaseReplicas database)) (fetchReplicas k database) := by
  rw [fetchReplicas_eq]
  refine failsOnly_runAnyMember fun client => ?_
  rw [askReplicas, ← bind_assoc]
  exact failsOnly_call_expect.bind (fun _ _ _ => .append) fun _ =>
    failsOnly_modifyGet.bind (fun _ _ _ => .append) fun _ => failsOnly_pure

theorem failsOnly_pauseBefore {first : Bool} {how : List Event → Error → Prop} :
    FailsOnly others how (pauseBefore k first) := by
  cases first with
  | true => exact failsOnly_pure
  | false => exact failsOnly_get_bind fun _ => failsOnly_pause

theorem failsOnly_seekPrimaryWithin {fetches : Nat} {first : Bool} :
    FailsOnly others (IsKeptFrom (· = .databaseReplicas database))
      (seekPrimaryWithin k database fetches first) := by
  induction fetches generalizing first with
  | zero => exact failsOnly_throw rfl
  | succ fetches ih =>
      rw [seekPrimaryWithin_succ]
      refine failsOnly_pauseBefore.kept_bind fun _ => ?_
      refine failsOnly_fetchReplicas.kept_bind fun found => ?_
      split
      · exact failsOnly_pure
      · exact ih

theorem failsOnly_seekPrimary :
    FailsOnly others (IsKeptFrom (· = .databaseReplicas database)) (seekPrimary k database) :=
  failsOnly_get_bind fun _ => failsOnly_seekPrimaryWithin

theorem failsOnly_ofOutcome {outcome : Except Error α} (h : sendsOn outcome = false) :
    FailsOnly others (IsKeptFrom kind) (ofOutcome outcome) := by
  cases outcome with
  | error e => exact failsOnly_throw h
  | ok a => exact failsOnly_pure

theorem failsOnly_seekNext {outcome : Except Error α} :
    FailsOnly others (IsKeptFrom (· = .databaseReplicas database))
      (seekNext k database outcome) :=
  failsOnly_pauseBefore.kept_bind fun _ => failsOnly_seekPrimary

/-- Whatever signals a task on the primary replica gets, none is left. -/
theorem failsOnly_followPrimary {task : Nat → Bool → Operation α} {runs : Nat} {first : Bool}
    {p : ReplicaInfo} :
    FailsOnly others (IsKeptFrom (· = .databaseReplicas database))
      (followPrimary k database task runs first p) := by
  induction runs generalizing first p with
  | zero => exact failsOnly_throw rfl
  | succ runs ih =>
      rw [followPrimary_succ]
      refine failsOnly_modifyGet.kept_bind fun client => ?_
      refine failsOnly_outcome.kept_bind fun outcome => ?_
      split
      · exact failsOnly_seekNext.kept_bind fun _ => ih
      · rename_i hstays
        exact failsOnly_ofOutcome (Bool.eq_false_iff.mpr hstays)

theorem failsOnly_runPrimary {task : Nat → Bool → Operation α} :
    FailsOnly others (IsKeptFrom (· = .databaseReplicas database))
      (runPrimary k database task) := by
  rw [runPrimary_eq, openingReplica, cachedReplicas]
  refine failsOnly_ensureOpen.kept_bind fun _ => ?_
  refine FailsOnly.kept_bind ?_ fun p => failsOnly_get_bind fun _ => failsOnly_followPrimary
  refine FailsOnly.kept_bind (failsOnly_get_bind fun _ => failsOnly_pure) fun cached => ?_
  split
  · exact failsOnly_pure
  · exact failsOnly_seekPrimary

theorem onReplicas_cons {task : Nat → Bool → Operation α} {first : Bool} {replica : ReplicaInfo}
    {rest : List ReplicaInfo} :
    onReplicas k task first (replica :: rest) =
      clientAt k replica.address >>= fun client => outcome (task client first) >>= fun answer =>
        if isUnreachable answer then onReplicas k task false rest else ofOutcome answer := by
  rw [onReplicas]
  refine try_congr fun answer => ?_
  rcases answer with (e | a)
  · cases e <;> rfl
  · rfl

theorem failsOnly_onReplicas {task : Nat → Bool → Operation α} {first : Bool}
    {replicas : List ReplicaInfo}
    (htask : ∀ client first, FailsOnly others (Refused kind) (task client first)) :
    FailsOnly others (IsKeptFrom kind) (onReplicas k task first replicas) := by
  induction replicas generalizing first with
  | nil => exact failsOnly_throw rfl
  | cons replica rest ih =>
      rw [onReplicas_cons]
      exact failsOnly_try (fun client => htask client first) ih

theorem failsOnly_runAny {task : Nat → Bool → Operation α}
    (htask : ∀ client first, FailsOnly others (Refused kind) (task client first)) :
    FailsOnly others (IsKeptFrom fun request => request = .databaseReplicas database ∨ kind request)
      (runAny k database task) := by
  rw [runAny]
  refine failsOnly_ensureOpen.kept_bind fun _ => ?_
  refine FailsOnly.kept_bind (failsOnly_get_bind fun _ => failsOnly_pure) fun cached => ?_
  have hon (found : DatabaseReplicas) :
      FailsOnly others
        (IsKeptFrom fun request => request = .databaseReplicas database ∨ kind request)
        (onReplicas k task true found.readOrder) :=
    (failsOnly_onReplicas htask).mono fun _ _ h => h.mono fun _ => .inr
  cases cached with
  | some found => exact failsOnly_pure.kept_bind hon
  | none =>
      refine FailsOnly.kept_bind ?_ hon
      exact failsOnly_fetchReplicas.mono fun _ _ h => h.mono fun _ => .inl

/-! ## §3  Databases and sessions -/

theorem failsOnly_createDatabase {name : String} :
    FailsOnly others (IsKeptFrom (· = .databaseCreate name)) (createDatabase k name) :=
  failsOnly_runAnyMember fun _ => failsOnly_call_expect

theorem failsOnly_containsDatabase {name : String} :
    FailsOnly others (IsKeptFrom (· = .databaseContains name)) (containsDatabase k name) :=
  failsOnly_runAnyMember fun _ => failsOnly_call_expect

theorem failsOnly_databases : FailsOnly others (IsKeptFrom (· = .databasesAll)) (databases k) :=
  failsOnly_runAnyMember fun _ => failsOnly_call_expect

theorem failsOnly_findDatabase {name : String} :
    FailsOnly others
      (IsKeptFrom fun request =>
        request = .databaseContains name ∨ request = .databaseReplicas name)
      (findDatabase k name) := by
  refine FailsOnly.kept_bind ?_ fun there => ?_
  · exact failsOnly_containsDatabase.mono fun _ _ h => h.mono fun _ => .inl
  · split
    · exact failsOnly_fetchReplicas.mono fun _ _ h => h.mono fun _ => .inr
    · exact failsOnly_throw rfl

end Cluster

namespace ClusterSession

open Operation

variable {others : Connections → Connections → Prop} {k : Nat} {database : String}
  {sessionType : SessionType} {options : Options}

/-- The requests whose refusal keeps a session of a cluster from being opened: one for replicas, and
that for the session itself if any replica may open it. -/
def Opens (database : String) (sessionType : SessionType) (options : Options)
    (request : UnaryRequest) : Prop :=
  request = .databaseReplicas database ∨
    options.allowsAnyReplica = true ∧ request = .sessionOpen database sessionType options

theorem failsOnly_openAtReplica :
    FailsOnly others (IsKeptFrom (Opens database sessionType options))
      (openAtReplica k database sessionType options) := by
  have htask (client : Nat) (_ : Bool) :
      FailsOnly others (Refused (· = .sessionOpen database sessionType options))
        (Session.openAt client database sessionType options) := by
    refine failsOnly_get_bind fun c => ?_
    dsimp only
    rw [← bind_assoc]
    exact failsOnly_call_expect.bind (fun _ _ _ => .append) fun _ => failsOnly_modifyGet
  unfold openAtReplica
  split
  · rename_i hany
    refine (Cluster.failsOnly_runAny htask).mono fun _ _ h => h.mono fun request => ?_
    exact Or.imp_right fun heq => ⟨hany, heq⟩
  · exact Cluster.failsOnly_runPrimary.mono fun _ _ h => h.mono fun _ => .inl

theorem failsOnly_openAt :
    FailsOnly others (IsKeptFrom (Opens database sessionType options))
      (openAt k database sessionType options) :=
  failsOnly_openAtReplica.kept_bind fun _ => failsOnly_modifyGet

/-! ## §4  What a session was opened for -/

/-- A session of a cluster is for what another one is for, at whatever replica. -/
def IsFor (x : ClusterSession) (session : Nat) (c : Connections) : Prop :=
  ∃ current, c.clusterSession session = { x with current }

/-- Others may move a session of a cluster, but they change nothing about what it is for. -/
def Spares (session : Nat) (others : Connections → Connections → Prop) : Prop :=
  ∀ x c c', others c c' → IsFor x session c → IsFor x session c'

variable {session : Nat} {x : ClusterSession} {c c' : Connections}

theorem IsFor.of_eq (h : IsFor x session c) (heq : c'.clusterSessions = c.clusterSessions) :
    IsFor x session c' := by
  obtain ⟨current, hx⟩ := h
  exact ⟨current, (congrArg (·.getD session default) heq).trans hx⟩

theorem clusterSessions_markClosed {s : Nat} :
    (c.markClosed s).2.clusterSessions = c.clusterSessions := by
  unfold Connections.markClosed
  split <;> rfl

/-- Closing a session at a replica does not change what sessions of clusters are for. -/
theorem keeps_close (hspares : Spares session others) {stale : Nat} :
    Keeps others (IsFor x session) (Session.close stale) := by
  refine (keeps_modifyGet fun c h => h.of_eq clusterSessions_markClosed).bind fun wasOpen => ?_
  split
  · exact keeps_get_bind fun _ => (keeps_call (hspares x)).bind fun _ => keeps_expect
  · exact keeps_pure

theorem keeps_openStream (hspares : Spares session others) {hub : Nat} {address : String} :
    Keeps others (IsFor x session) (Transaction.openStream hub address) := by
  refine (keeps_modifyGet fun c h => h.of_eq rfl).bind fun reserved => ?_
  refine (keeps_ofOutcome reserved).bind fun dispatcher => ?_
  have hdial : Keeps others (IsFor x session)
      (ExceptT.mk (Program.perform (.dial address hub dispatcher))) := by
    intro c log result c' h
    exact hspares x c c' (Program.runs_perform.mp h).1
  refine (hdial.onAbandon _).outcome.bind fun dialled => ?_
  cases dialled with
  | ok u => exact keeps_modifyGet fun c h => h.of_eq rfl
  | error e => exact (keeps_modifyGet fun c h => h.of_eq rfl).bind fun _ => keeps_throw

theorem keeps_ask (hspares : Spares session others) {t : Transaction} {payload : RequestPayload}
    {batched : Bool} : Keeps others (IsFor x session) (Transaction.ask t payload batched) := by
  refine keeps_get_bind fun c => ?_
  refine (keeps_modifyGet fun c h => h.of_eq rfl).bind fun sent => ?_
  refine (keeps_ofOutcome sent).bind fun call => ?_
  exact (keeps_perform (hspares x)).bind fun _ => keeps_ofOutcome _

/-- Opening a transaction at a replica does not change what sessions of clusters are for. -/
theorem keeps_openOn (hspares : Spares session others) {current : Nat}
    {transactionType : TransactionType} {options : Options} :
    Keeps others (IsFor x session) (Transaction.openOn current transactionType options) := by
  refine keeps_get_bind fun c => ?_
  dsimp only
  split
  · split
    · refine (keeps_openStream hspares).bind fun stream => ?_
      refine (((keeps_ask hspares).onAbandon _).bind fun _ => keeps_expect).outcome.bind
        fun opened => ?_
      cases opened with
      | ok u => exact keeps_pure
      | error e => exact (keeps_modifyGet fun c h => h.of_eq rfl).bind fun _ => keeps_throw
    · exact keeps_throw_bind
  · exact keeps_throw_bind

/-! ## §5  Transactions -/

/-- A session that moves finds a replica as a new one does. -/
theorem reopen_fails (hspares : Spares session others) (hx : IsFor x session c) {stale : Nat}
    {log : List Event} {e : Error}
    (h : Runs others (reopen session stale) c log (.error e) c') :
    IsKeptFrom (Opens x.database x.sessionType x.options) log e := by
  rcases runs_bind.mp h with ⟨_, hclose, -⟩ | ⟨_, c₁, front, rest, hclose, hgo, rfl⟩
  · obtain ⟨_, -, heq⟩ := runs_outcome.mp hclose
    cases heq
  · obtain ⟨current, hx'⟩ := (keeps_close hspares).outcome _ _ _ _ hclose hx
    rw [runs_get_bind, hx'] at hgo
    rcases runs_bind.mp hgo with ⟨_, hopen, heq⟩ | ⟨fresh, c₂, _, _, -, hmove, -⟩
    · cases heq
      exact (failsOnly_openAtReplica c₁ rest e c' hopen).append
    · rw [runs_modify_bind, runs_pure] at hmove
      cases hmove.2.1

/-- What is done over a session that is held lets go of it in the end. -/
theorem runs_holding {α : Type} {s : Nat} {op : Operation α} {log : List Event}
    {result : Except Error α} :
    Runs others (holding s op) c log result c' ↔
      ∃ c₁, Runs others op c log result c₁ ∧ c' = c₁.releaseSession s := by
  unfold holding
  rw [runs_bind]
  simp only [runs_outcome, runs_onAbandon, runs_modify_bind, runs_ofOutcome]
  constructor
  · rintro (⟨e, ⟨_, -, heq⟩, -⟩ | ⟨_, c₁, front, _, ⟨_, hop, heq⟩, ⟨rfl, rfl, rfl⟩, rfl⟩)
    · cases heq
    · cases heq
      exact ⟨c₁, by rwa [List.append_nil], rfl⟩
  · rintro ⟨c₁, hop, rfl⟩
    exact .inr ⟨result, c₁, log, [], ⟨result, hop, rfl⟩, ⟨rfl, rfl, rfl⟩,
      (List.append_nil log).symm⟩

/-- The error is what the second attempt to open a transaction came to, at the replica to which the
session moved because the first one ended with a signal. -/
def IsSecondAttempt (others : Connections → Connections → Prop) (session : Nat)
    (transactionType : TransactionType) (options : Options) (c : Connections) (log : List Event)
    (e : Error) (c' : Connections) : Prop :=
  ∃ signal fresh first moving second c₀ c₁ c₂ c₃,
    c₀ = c.retainSession (c.clusterSession session).current ∧
      Runs others (Transaction.openOn (c.clusterSession session).current transactionType options) c₀
        first (.error signal) c₁ ∧
      signal.isReplicaFailure = true ∧
      Runs others (reopen session (c.clusterSession session).current) c₁ moving (.ok fresh) c₂ ∧
      Runs others (Transaction.openOn fresh transactionType options) c₂ second (.error e) c₃ ∧
      log = first ++ (moving ++ second) ∧
      c' = (c₃.releaseSession fresh).releaseSession (c.clusterSession session).current

/-- A transaction that cannot be opened fails as the session would if it were opened now, or as the
second attempt does. -/
theorem transaction_fails (hspares : Spares session others) {transactionType : TransactionType}
    {log : List Event} {e : Error} (hx : c.clusterSession session = x)
    (h : Runs others (transaction session transactionType options) c log (.error e) c') :
    IsKeptFrom (Opens x.database x.sessionType x.options) log e ∨
      IsSecondAttempt others session transactionType options c log e c' := by
  rw [transaction, runs_modifyGet_bind, runs_holding] at h
  obtain ⟨c₄, h, rfl⟩ := h
  simp only [takeCurrent, runs_bind, runs_outcome] at h
  rcases h with ⟨_, ⟨_, -, heq⟩, -⟩ | ⟨answer, c₁, first, rest, ⟨_, hfirst, heq⟩, hgo, rfl⟩
  · cases heq
  cases heq
  cases answer with
  | ok t => cases (runs_pure.mp hgo).2.1
  | error signal =>
      dsimp only at hgo
      split at hgo
      · rename_i hsignal
        have hstill : IsFor x session c₁ :=
          keeps_openOn hspares _ _ _ _ hfirst ⟨x.current, hx⟩
        rcases runs_bind.mp hgo with
          ⟨_, hmoving, heq⟩ | ⟨fresh, c₂, moving, second, hmoving, hsecond, rfl⟩
        · cases heq
          exact .inl (reopen_fails hspares hstill hmoving).append
        · obtain ⟨c₃, hattempt, rfl⟩ := runs_holding.mp hsecond
          exact .inr ⟨signal, fresh, first, moving, second, _, c₁, c₂, c₃, rfl, hfirst, hsignal,
            hmoving, hattempt, rfl, rfl⟩
      · rename_i hother
        cases (runs_throw.mp hgo).2.1
        exact .inl (isKeptFrom_of_not_isReplicaFailure (Bool.eq_false_iff.mpr hother))

/-- **Signals are kept from the caller.** Whatever the members answer, and whatever others do
meanwhile, no operation on the databases of a cluster and no opening of a session says that nobody
is there. That a replica is not the primary one is said only if the last request was refused so, and
this was a request that no one else is asked: one that any member may serve, one for replicas, or
one for a session that any replica may open. Deleting a database and opening a session at the
primary replica follow it instead. Opening a transaction over a session fails as opening that
session anew does, or as its second attempt does; for this, others must leave the session what it
is for. -/
theorem signals_are_kept (others : Connections → Connections → Prop) (k : Nat) :
    (∀ name, FailsOnly others (IsKeptFrom (· = .databaseCreate name))
      (Cluster.createDatabase k name)) ∧
    (∀ name, FailsOnly others (IsKeptFrom (· = .databaseContains name))
      (Cluster.containsDatabase k name)) ∧
    FailsOnly others (IsKeptFrom (· = .databasesAll)) (Cluster.databases k) ∧
    (∀ name, FailsOnly others (IsKeptFrom (· = .databaseReplicas name))
      (Cluster.deleteDatabase k name)) ∧
    (∀ name, FailsOnly others
      (IsKeptFrom fun request =>
        request = .databaseContains name ∨ request = .databaseReplicas name)
      (Cluster.findDatabase k name)) ∧
    (∀ database sessionType options,
      FailsOnly others (IsKeptFrom (Opens database sessionType options))
        (openAt k database sessionType options)) ∧
    ∀ session x transactionType options c log e c', Spares session others →
      c.clusterSession session = x →
      Runs others (transaction session transactionType options) c log (.error e) c' →
        IsKeptFrom (Opens x.database x.sessionType x.options) log e ∨
          IsSecondAttempt others session transactionType options c log e c' := by
  refine ⟨?_, ?_, Cluster.failsOnly_databases, ?_, ?_, ?_, ?_⟩
  · exact fun name => Cluster.failsOnly_createDatabase
  · exact fun name => Cluster.failsOnly_containsDatabase
  · exact fun name => Cluster.failsOnly_runPrimary
  · exact fun name => Cluster.failsOnly_findDatabase
  · exact fun database sessionType options => failsOnly_openAt
  · intro session x transactionType options c log e c' hspares hx h
    exact transaction_fails hspares hx h

/-! ## §6  Signals that reach the caller

A cluster of one member, which is the primary replica of a database. It refuses to create databases,
to tell of the replicas of another database, and to open sessions that any replica may open; and it
accepts no connection for a transaction. -/

def unwilling : Nat → (e : Effect) → e.Reply
  | _, .call _ .serversAll => .ok (.servers ["a"])
  | _, .call _ (.databaseReplicas "social") => .ok (.replicas [⟨"a", "social", 1, true, false⟩])
  | _, .call _ (.sessionOpen _ _ options) =>
    if options.allowsAnyReplica then .error .notPrimary else .ok (.sessionOpened default 0)
  | _, .call _ (.sessionClose _) => .ok .sessionClosed
  | _, .call _ _ => .error .notPrimary
  | _, .dial address _ _ => .error (.unreachable address)
  | _, .pause _ => ()
  | _, .receive _ _ => default
  | _, .work _ _ => .ok ""

/-- Connects to the cluster and opens a session. -/
def arriving : Operation Nat := do
  openAt (← Cluster.connect ["a"] {} {}) "social" .data {}

theorem exists_run_of_replay {α : Type} {op : Operation α} {c : Connections} {e : Error}
    (h : (op.replay unwilling c).2.1 = .error e) : ∃ log c', Runs Eq op c log (.error e) c' :=
  ⟨_, _, h ▸ runs_replay Eq.refl op unwilling c⟩

theorem signals_are_kept_moved :
    let arrived := (arriving.replay unwilling {}).2.2
    ∃ log c', IsSecondAttempt Eq 0 .read {} arrived log (.unreachable "a") c' := by
  intro arrived
  obtain ⟨log, c', h⟩ : ∃ log c',
      Runs Eq (transaction 0 .read {}) arrived log (.error (.unreachable "a")) c' :=
    exists_run_of_replay (by decide +kernel)
  have hspares : Spares 0 Eq := by
    rintro x c _ rfl hx
    exact hx
  rcases (signals_are_kept Eq 0).2.2.2.2.2.2 0 _ .read {} _ _ _ _ hspares rfl h with hkept | hmoved
  · exact absurd rfl (hkept.reached "a")
  · exact ⟨log, c', hmoved⟩

theorem signals_reach_the_caller :
    let arrived := (arriving.replay unwilling {}).2
    arrived.1 = .ok 0 ∧
      (∃ log c', Runs Eq (Cluster.createDatabase 0 "social") arrived.2 log
        (.error .notPrimary) c') ∧
      (∃ log c', Runs Eq (Cluster.deleteDatabase 0 "other") arrived.2 log
        (.error .notPrimary) c') ∧
      (∃ log c', Runs Eq (openAt 0 "social" .data { readAnyReplica := some true }) arrived.2 log
        (.error .notPrimary) c') ∧
      ∃ log c', Runs Eq (transaction 0 .read {}) arrived.2 log (.error (.unreachable "a")) c' := by
  refine ⟨by decide +kernel, ?_, ?_, ?_, ?_⟩ <;>
    exact exists_run_of_replay (by decide +kernel)

end ClusterSession

end GraphDriver
