import GraphDriver.Proofs.Cluster.Signals

/-!
# Reading from any replica

A task that any replica can do goes from replica to replica in the order for reads: the preferred
one first, then the others as they were reported. It stops at the first replica that is there,
whatever comes of it. Only if nobody was there at any of them is the cluster unavailable. Which
replicas there are is asked for only if it is not remembered.

* §1 the order for reads
* §2 tours of replicas
* §3 what a failed question leaves
* §4 from the question to the last replica
-/

namespace GraphDriver

/-! ## §1  The order for reads -/

namespace DatabaseReplicas

/-- In which order replicas that were reported are read from. -/
structure IsReadOrder (reported order : List ReplicaInfo) : Prop where
  /-- The first one that is flagged preferred comes before all that differ from it; these stay in
  the order in which they were reported. -/
  preferred : ∀ earlier p later, reported = earlier ++ p :: later → p.isPreferred = true →
    (∀ r ∈ earlier, r.isPreferred = false) → order = p :: reported.filter (· ≠ p)
  /-- If none is flagged, the order is that of the report. -/
  plain : (∀ r ∈ reported, r.isPreferred = false) → order = reported
  complete : ∀ r, r ∈ order ↔ r ∈ reported
  once : reported.Nodup → ∀ r ∈ reported, order.count r = 1

variable {d : DatabaseReplicas} {p : ReplicaInfo}

theorem readOrder_of_preferred (h : d.preferred = some p) :
    d.readOrder = p :: d.replicas.filter (· ≠ p) := by
  unfold readOrder
  rw [h, Option.toList_some, List.singleton_append]
  simp

theorem readOrder_of_none (h : d.preferred = none) : d.readOrder = d.replicas := by
  unfold readOrder
  rw [h, Option.toList_none, List.nil_append, List.filter_eq_self]
  simp

theorem preferred_eq_none (h : ∀ r ∈ d.replicas, r.isPreferred = false) : d.preferred = none := by
  apply List.find?_eq_none.mpr
  intro r hr
  simp [h r hr]

theorem preferred_eq_some {earlier later : List ReplicaInfo}
    (hsplit : d.replicas = earlier ++ p :: later) (hp : p.isPreferred = true)
    (hfirst : ∀ r ∈ earlier, r.isPreferred = false) : d.preferred = some p := by
  apply List.find?_eq_some_iff_append.mpr
  refine ⟨hp, earlier, later, hsplit, ?_⟩
  intro r hr
  simp [hfirst r hr]

theorem mem_replicas_of_preferred (h : d.preferred = some p) : p ∈ d.replicas :=
  List.mem_of_find?_eq_some h

theorem mem_readOrder {r : ReplicaInfo} : r ∈ d.readOrder ↔ r ∈ d.replicas := by
  cases h : d.preferred with
  | none => rw [readOrder_of_none h]
  | some p =>
      rw [readOrder_of_preferred h, List.mem_cons, List.mem_filter, decide_eq_true_eq]
      constructor
      · rintro (rfl | ⟨hr, -⟩)
        · exact mem_replicas_of_preferred h
        · exact hr
      · intro hr
        by_cases heq : r = p
        · exact .inl heq
        · exact .inr ⟨hr, heq⟩

/-- The preferred replica does not come a second time. -/
theorem nodup_readOrder (h : d.replicas.Nodup) : d.readOrder.Nodup := by
  cases hp : d.preferred with
  | none => rwa [readOrder_of_none hp]
  | some p =>
      rw [readOrder_of_preferred hp]
      apply List.nodup_cons.mpr
      constructor
      · simp
      · exact h.filter _

theorem isReadOrder_readOrder (d : DatabaseReplicas) : IsReadOrder d.replicas d.readOrder where
  preferred _ _ _ hsplit hp hfirst := readOrder_of_preferred (preferred_eq_some hsplit hp hfirst)
  plain h := readOrder_of_none (preferred_eq_none h)
  complete _ := mem_readOrder
  once h _ hr := by rw [(nodup_readOrder h).count, if_pos (mem_readOrder.mpr hr)]

end DatabaseReplicas

namespace Cluster

open Operation (Runs)

variable {α : Type} {others : Connections → Connections → Prop} {k : Nat} {database : String}
  {c c' : Connections} {log : List Event} {task : Nat → Bool → Operation α}
  {result : Except Error α} {first : Bool}

/-! ## §2  Tours of replicas -/

/-- A run of a task at a replica. -/
structure Visit (α : Type) where
  replica : ReplicaInfo
  client : Nat
  /-- Whether the task was told that it runs for the first time. -/
  first : Bool
  before : Connections
  log : List Event
  outcome : Except Error α
  after : Connections

/-- The state in which some visits end. -/
def leftBy (c : Connections) (visits : List (Visit α)) : Connections :=
  (visits.getLast?.map (·.after)).getD c

/-- A visit among those before it and those after it. -/
structure Visit.Fits (others : Connections → Connections → Prop) (k : Nat)
    (task : Nat → Bool → Operation α) (first : Bool) (c : Connections) (earlier : List (Visit α))
    (v : Visit α) (later : List (Visit α)) (result : Except Error α) : Prop where
  /-- A client for the address of the replica is there or made, and nothing else happens before the
  task runs with it. -/
  entered : Runs others (clientAt k v.replica.address) (leftBy c earlier) [] (.ok v.client) v.before
  serves : IsKept k (leftBy c earlier) → Serves v.before v.replica.address v.client
  ran : Runs others (task v.client v.first) v.before v.log v.outcome v.after
  /-- Only the first visit is told to be the first. -/
  first_eq : v.first = (first && earlier.isEmpty)
  /-- An outcome other than that nobody is there is the result, and there are no more visits. -/
  settled : isUnreachable v.outcome = false → later = [] ∧ result = v.outcome

/-- The visits of a task to replicas in some order, up to its result. -/
structure IsTour (others : Connections → Connections → Prop) (k : Nat)
    (task : Nat → Bool → Operation α) (first : Bool) (c : Connections) (order : List ReplicaInfo)
    (visits : List (Visit α)) (result : Except Error α) (c' : Connections) : Prop where
  ordered : visits.map (·.replica) <+: order
  fits : ∀ earlier v later, visits = earlier ++ v :: later →
    v.Fits others k task first c earlier later result
  /-- If nobody was there, all replicas were visited. -/
  unsettled : (∀ v ∈ visits, isUnreachable v.outcome = true) →
    visits.map (·.replica) = order ∧ result = .error .clusterUnavailable
  ends : c' = leftBy c visits

theorem leftBy_cons {v : Visit α} {visits : List (Visit α)} :
    leftBy c (v :: visits) = leftBy v.after visits := by
  unfold leftBy
  rw [List.getLast?_cons]
  cases visits.getLast? <;> rfl

namespace IsTour

variable {r : ReplicaInfo} {v : Visit α} {visits : List (Visit α)} {order : List ReplicaInfo}

theorem nobody : IsTour others k task first c [] [] (.error .clusterUnavailable) c where
  ordered := List.prefix_refl []
  fits earlier v later h := by simp at h
  unsettled _ := ⟨rfl, rfl⟩
  ends := rfl

/-- The last visit of a tour. -/
theorem last (hr : v.replica = r) (hthere : isUnreachable v.outcome = false)
    (hfits : v.Fits others k task first c [] [] v.outcome) :
    IsTour others k task first c (r :: order) [v] v.outcome v.after where
  ordered := ⟨order, by rw [← hr]; rfl⟩
  fits earlier v' later h := by
    obtain ⟨rfl, rfl, rfl⟩ : earlier = [] ∧ v' = v ∧ later = [] := by
      cases earlier with
      | nil => simpa [eq_comm] using h
      | cons u rest => simp at h
    exact hfits
  unsettled hnobody := by
    rw [hnobody v List.mem_cons_self] at hthere
    cases hthere
  ends := rfl

/-- A visit before those of a tour. -/
theorem more (hr : v.replica = r)
    (h : IsTour others k task false v.after order visits result c')
    (hfits : v.Fits others k task first c [] visits result) :
    IsTour others k task first c (r :: order) (v :: visits) result c' where
  ordered := by
    rw [List.map_cons, hr, List.prefix_cons_inj]
    exact h.ordered
  fits earlier v' later heq := by
    cases earlier with
    | nil =>
        cases heq
        exact hfits
    | cons u earlier =>
        cases heq
        have hold := h.fits earlier v' later rfl
        refine { hold with entered := ?_, serves := ?_, first_eq := ?_ }
        · rw [leftBy_cons]
          exact hold.entered
        · rw [leftBy_cons]
          exact hold.serves
        · simpa using hold.first_eq
  unsettled hall := by
    obtain ⟨hvisited, hresult⟩ := h.unsettled (List.forall_mem_cons.mp hall).2
    exact ⟨by rw [List.map_cons, hr, hvisited], hresult⟩
  ends := by
    rw [leftBy_cons]
    exact h.ends

end IsTour

/-- A client for an address serves that address, if the clients that were there did. -/
theorem IsKept.serves (hkept : IsKept k c) {address : String} {client : Nat}
    (h : Runs others (clientAt k address) c log (.ok client) c') : Serves c' address client := by
  obtain ⟨-, h⟩ := runs_clientAt.mp h
  split at h
  · rename_i old hold
    obtain ⟨heq, rfl⟩ := h
    cases heq
    exact hkept.registered address _ hold
  · obtain ⟨heq, rfl⟩ := h
    cases heq
    apply (hkept.withClient address).registered address
    rw [cluster_withClient hkept.there, Dict.get?_insert, if_pos rfl]

/-- The runs of a task at some replicas are a tour. -/
theorem toured {order : List ReplicaInfo}
    (h : Runs others (onReplicas k task first order) c log result c') :
    ∃ visits, IsTour others k task first c order visits result c' ∧
      log = visits.flatMap (·.log) := by
  -- on the replicas that are left: a visit where nobody is comes before the tour of the others
  induction order generalizing c log first with
  | nil =>
      obtain ⟨rfl, rfl, rfl⟩ := Operation.runs_throw.mp h
      exact ⟨[], .nobody, rfl⟩
  | cons r order ih =>
      rw [onReplicas_cons, runs_try] at h
      obtain ⟨client, c₁, front, outcome, c₂, later, hclient, hrun, hgo, rfl⟩ := h
      have hfits (visits : List (Visit α)) (result : Except Error α)
          (settled : isUnreachable outcome = false → visits = [] ∧ result = outcome) :
          Visit.Fits others k task first c [] ⟨r, client, first, c₁, front, outcome, c₂⟩ visits
            result :=
        { entered := hclient, serves := fun hkept => hkept.serves hclient, ran := hrun,
          first_eq := (Bool.and_true first).symm, settled }
      split at hgo
      · rename_i hnobody
        obtain ⟨visits, htour, rfl⟩ := ih hgo
        refine ⟨_, .more rfl htour (hfits visits result ?_), by simp⟩
        intro hthere
        rw [hnobody] at hthere
        cases hthere
      · rename_i hthere
        obtain ⟨rfl, rfl, rfl⟩ := Operation.runs_ofOutcome.mp hgo
        refine ⟨_, .last rfl (Bool.eq_false_iff.mpr hthere) (hfits [] result ?_), by simp⟩
        exact fun _ => ⟨rfl, rfl⟩

/-! ## §3  What a failed question leaves -/

/-- Others change nothing about what a cluster remembers. -/
def LeavesMemory (k : Nat) (others : Connections → Connections → Prop) : Prop :=
  ∀ c c', others c c' → (c'.cluster k).replicas = (c.cluster k).replicas

theorem replicas_withClient {address : String} :
    ((withClient k address c).cluster k).replicas = (c.cluster k).replicas := by
  by_cases hk : k < c.clusters.length
  · rw [cluster_withClient hk]
  · have hnone : (c.shareHub address (c.cluster k).hub).2.clusters[k]? = none :=
      List.getElem?_eq_none (Nat.not_lt.mp hk)
    show (((c.shareHub address (c.cluster k).hub).2.clusters.modify k _).getD k default).replicas =
      (c.clusters.getD k default).replicas
    rw [List.getD_eq_getElem?_getD, List.getElem?_modify, hnone, List.getD_eq_getElem?_getD,
      List.getElem?_eq_none (Nat.not_lt.mp hk)]
    rfl

/-- One more client is nothing that a cluster remembers. -/
theorem replicas_clientAt {address : String} {found : Except Error Nat}
    (h : Runs others (clientAt k address) c log found c') :
    (c'.cluster k).replicas = (c.cluster k).replicas := by
  obtain ⟨-, h⟩ := runs_clientAt.mp h
  split at h
  · obtain ⟨-, rfl⟩ := h
    rfl
  · obtain ⟨-, rfl⟩ := h
    exact replicas_withClient

/-- A member that does not tell leaves what is remembered as it is. -/
theorem replicas_of_askReplicas_error (hothers : LeavesMemory k others) {client : Nat} {e : Error}
    (h : Runs others (askReplicas k database client) c log (.error e) c') :
    (c'.cluster k).replicas = (c.cluster k).replicas := by
  rw [askReplicas, ← bind_assoc] at h
  rcases Operation.runs_bind.mp h with ⟨e', hcall, -⟩ | ⟨told, c₁, _, _, -, hnote, -⟩
  · rw [Operation.runs_call_expect] at hcall
    split at hcall
    · exact hothers c c' hcall.1
    · obtain ⟨-, -, rfl⟩ := hcall
      rfl
  · rw [Operation.runs_modify_bind, Operation.runs_pure] at hnote
    cases hnote.2.1

theorem replicas_of_fetchReplicas_error (hothers : LeavesMemory k others) {e : Error}
    (h : Runs others (fetchReplicas k database) c log (.error e) c') :
    (c'.cluster k).replicas = (c.cluster k).replicas := by
  rw [fetchReplicas_eq, runAnyMember, runs_ensureOpen_bind] at h
  split at h
  · rename_i hopen
    clear hopen
    rw [Operation.runs_get_bind] at h
    generalize (c.cluster k).members = members at h
    -- on the members that are left to ask: those before them did not tell
    induction members generalizing c log with
    | nil =>
        obtain ⟨-, -, rfl⟩ := Operation.runs_throw.mp h
        rfl
    | cons member rest ih =>
        obtain ⟨client, c₁, front, answer, c₂, later, hclient, hask, hgo, -⟩ :=
          runs_onMembers_cons.mp h
        have hentered := replicas_clientAt hclient
        split at hgo
        · rename_i hnobody
          obtain ⟨address, rfl⟩ := isUnreachable_iff.mp hnobody
          have hasked := replicas_of_askReplicas_error hothers hask
          rw [ih hgo, hasked, hentered]
        · obtain ⟨-, rfl, rfl⟩ := hgo
          rw [replicas_of_askReplicas_error hothers hask, hentered]
  · obtain ⟨-, -, rfl⟩ := h
    rfl

/-! ## §4  From the question to the last replica -/

/-- What becomes of a task on any replica of a database, from the state in which it starts to the
one in which it ends: the question for the replicas, if there is one, and the visits. -/
structure Reads (others : Connections → Connections → Prop) (k : Nat) (database : String)
    (task : Nat → Bool → Operation α) (c : Connections) (asking : List Event)
    (found : Except Error DatabaseReplicas) (start : Connections) (visits : List (Visit α))
    (log : List Event) (result : Except Error α) (c' : Connections) : Prop where
  /-- There are no other waits than those of the question and of the visits. -/
  log_eq : log = asking ++ visits.flatMap (·.log)
  /-- Replicas that are remembered are not asked for. -/
  asks :
    match (c.cluster k).replicas.get? database with
    | some d => asking = [] ∧ found = .ok d ∧ start = c
    | none => Runs others (fetchReplicas k database) c asking found start
  /-- A question that failed leaves all that is remembered as it is, if others do. -/
  forgets : LeavesMemory k others → ∀ e, found = .error e →
    (start.cluster k).replicas = (c.cluster k).replicas
  /-- The replicas are toured in the order for reads. If there is no telling which they are, the
  task does not run. -/
  tours :
    match found with
    | .ok d => ∃ order, DatabaseReplicas.IsReadOrder d.replicas order ∧
        IsTour others k task true start order visits result c'
    | .error e => visits = [] ∧ result = .error e ∧ c' = start

/-- The replicas that a task may run on. -/
def readableReplicas (k : Nat) (database : String) : Operation DatabaseReplicas := do
  match ← cachedReplicas k database with
  | some replicas => return replicas
  | none => fetchReplicas k database

theorem runAny_eq :
    runAny k database task =
      ensureOpen k >>= fun _ => readableReplicas k database >>= fun d =>
        onReplicas k task true d.readOrder := by
  rw [runAny, readableReplicas]
  simp only [bind_assoc]
  refine congrArg (ensureOpen k >>= ·) (funext fun _ => ?_)
  refine congrArg (cachedReplicas k database >>= ·) (funext fun cached => ?_)
  cases cached <;> rfl

/-- Replicas that are remembered are there without a wait; others are fetched. -/
theorem runs_readableReplicas {found : Except Error DatabaseReplicas} :
    Runs others (readableReplicas k database) c log found c' ↔
      match (c.cluster k).replicas.get? database with
      | some d => log = [] ∧ found = .ok d ∧ c' = c
      | none => Runs others (fetchReplicas k database) c log found c' := by
  rw [readableReplicas, cachedReplicas, bind_assoc, Operation.runs_get_bind, pure_bind]
  split
  · exact Operation.runs_pure
  · exact Iff.rfl

theorem replicas_of_readableReplicas_error (hothers : LeavesMemory k others) {e : Error}
    (h : Runs others (readableReplicas k database) c log (.error e) c') :
    (c'.cluster k).replicas = (c.cluster k).replicas := by
  rw [runs_readableReplicas] at h
  split at h
  · cases h.2.1
  · exact replicas_of_fetchReplicas_error hothers h

/-- What every run of a task on any replica of an open cluster comes to. -/
theorem reads_of_isOpen (hopen : (c.cluster k).isOpen = true)
    (h : Runs others (runAny k database task) c log result c') :
    ∃ asking found start visits,
      Reads others k database task c asking found start visits log result c' := by
  rw [runAny_eq, runs_ensureOpen_bind, if_pos hopen] at h
  rcases Operation.runs_bind.mp h with ⟨e, hfound, rfl⟩ | ⟨d, start, asking, _, hfound, hrun, rfl⟩
  · refine ⟨log, .error e, c', [], by simp, runs_readableReplicas.mp hfound, ?_, rfl, rfl, rfl⟩
    exact fun hothers _ _ => replicas_of_readableReplicas_error hothers hfound
  · obtain ⟨visits, htour, rfl⟩ := toured hrun
    refine ⟨asking, .ok d, start, visits, rfl, runs_readableReplicas.mp hfound, ?_, ?_⟩
    · rintro - e ⟨⟩
    · exact ⟨d.readOrder, d.isReadOrder_readOrder, htour⟩

/-- **Every replica is tried before a task gives up.** However the waits of the task and of the
question for replicas are answered, and whatever others do meanwhile, a task on any replica of a
database comes to an end. If the cluster is closed, it was not even started. Otherwise it visited
replicas in the order for reads, each with a client for its address, and only the first visit was
told to be the first. The first outcome other than that nobody is there is the result, and after it
nothing is run. If nobody was there at any replica, or there is none, the cluster is unavailable.
Nobody is asked for the replicas if they are remembered; if the question for them fails, the task
does not run, its error is the result, and what is remembered stays as it is. -/
theorem every_replica_is_tried (others : Connections → Connections → Prop)
    (hothers : ∀ c, others c c) (k : Nat) (database : String) (task : Nat → Bool → Operation α)
    (c : Connections) :
    (∀ answer, ∃ log result c',
      Runs others (runAny k database task) c log result c' ∧ IsAnswered answer 0 log) ∧
    ∀ log result c', Runs others (runAny k database task) c log result c' →
      if (c.cluster k).isOpen then
        ∃ asking found start visits,
          Reads others k database task c asking found start visits log result c'
      else log = [] ∧ result = .error .clientClosed ∧ c' = c := by
  constructor
  · intro answer
    exact Operation.exists_run hothers _ answer c
  · intro log result c' h
    split
    · rename_i hopen
      exact reads_of_isOpen hopen h
    · rename_i hshut
      rwa [runAny_eq, runs_ensureOpen_bind, if_neg hshut] at h

/-! Two members tell of three replicas, of which the second is the preferred one. Nobody is there at
it, nor at the one that was reported before it. -/

def desertion : Nat → (e : Effect) → e.Reply
  | 0, .call _ _ => .error (.unreachable "a")
  | _, .call _ _ => .ok (.replicas [⟨"a", "db", 1, true, false⟩, ⟨"b", "db", 1, false, true⟩,
      ⟨"c", "db", 1, false, true⟩])
  | 2, .work _ _ | 3, .work _ _ => .error (.unreachable "nobody")
  | _, .work _ _ => .ok "done"
  | _, .dial _ _ _ => .ok ()
  | _, .pause _ => ()
  | _, .receive _ _ => default

theorem every_replica_is_tried_deserted :
    let run := (runAny 0 "db" working).replay desertion divided
    run.1.map (·.effect) =
        [.call "a" (.databaseReplicas "db"), .call "b" (.databaseReplicas "db"), .work 1 true,
          .work 0 false, .work 2 false] ∧
      run.2.1 = .ok "done" ∧
      ∃ asking found start visits,
        Reads Eq 0 "db" working divided asking found start visits run.1 run.2.1 run.2.2 := by
  refine ⟨by decide +kernel, by decide +kernel, ?_⟩
  exact (every_replica_is_tried Eq Eq.refl 0 "db" working divided).2 _ _ _
    (Operation.runs_replay Eq.refl _ desertion divided)

end Cluster

end GraphDriver
