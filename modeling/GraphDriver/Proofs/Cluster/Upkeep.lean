import GraphDriver.Proofs.Client.Upkeep
import GraphDriver.Proofs.Cluster.Signals

/-!
# What the operations of a cluster uphold

Whatever is done over a cluster is done with clients over its hub, those included that are made for
addresses nobody used before. So where that hub is shut a search for a replica ends at the first
member that would be asked, and work that follows the primary replica is over after the pause in
which it waits. A transaction that is opened over a session of a cluster is tried at most twice; of
both tries nothing is left but the transaction that the caller gets.

* §1 clients of a cluster
* §2 work at any member
* §3 looking for the primary replica
* §4 work at a replica
* §5 discovery
* §6 sessions of a cluster
-/

namespace GraphDriver

open Operation

/-! ## §1  Clients of a cluster -/

namespace Cluster

variable {α : Type} {h k : Nat} {c : Connections} {database : String}
  {good : α → Connections → Prop}

section Clients

variable {next : Nat → Operation α} {address : String}

/-- Takes the client for an address, and makes one if there is none. -/
def takeClient (k : Nat) (address : String) (c : Connections) : Nat × Connections :=
  match (c.cluster k).clients.get? address with
  | some client => (client, c)
  | none =>
    let (client, c') := c.shareHub address (c.cluster k).hub
    (client, c'.modifyCluster k fun x => { x with clients := x.clients.insert address client })

theorem clientAt_eq : clientAt k address = modifyGet (takeClient k address) := rfl

/-- The client for an address is over the hub of the cluster. -/
theorem clientOn_takeClient (hc : c.Sane) (hk : c.ClusterOn h k) (address : String) :
    c.Evolves (takeClient k address c).2 ∧
      (takeClient k address c).2.ClientOn h (takeClient k address c).1 := by
  obtain ⟨hhub, hclients, -⟩ := hc.cluster k hk.1
  rw [hk.2] at hhub hclients
  unfold takeClient
  split
  · rename_i i hfound
    exact ⟨.refl hc, hclients i (Dict.mem_values_of_get? hfound)⟩
  · rw [hk.2]
    have hmade := Connections.evolves_shareHub hc address hhub
    have hclient := Connections.client_shareHub c address h
    have hkept := Connections.evolves_modifyCluster hmade.sane k
      (f := fun x => { x with clients := x.clients.insert address (c.shareHub address h).1 }) ?_
    · exact ⟨hmade.trans hkept, hkept.clientOn hclient⟩
    · intro hlt
      obtain ⟨hhub', hclients', hclosed'⟩ := hmade.sane.cluster k hlt
      refine ⟨rfl, id, hhub', ?_, hclosed'⟩
      intro i hi
      rcases Dict.mem_values_insert hi with rfl | hi
      · rw [(hmade.cluster k hk.1).2.1, hk.2]
        exact hclient
      · exact hclients' i hi

theorem quiet_clientAt_bind (hc : c.Sane) (hk : c.ClusterOn h k)
    (hnext : ∀ i c', c.Evolves c' → c'.ClientOn h i → Quiet h good (next i) c') :
    Quiet h good (clientAt k address >>= next) c := by
  obtain ⟨hevolves, hclient⟩ := clientOn_takeClient hc hk address
  rw [clientAt_eq]
  exact quiet_modifyGet_bind hevolves (hnext _ _ hevolves hclient)

theorem refuses_clientAt_bind (hc : c.Sane) (hk : c.ClusterOn h k)
    (hnext : ∀ i c', c.Evolves c' → c'.ClientOn h i → (next i).Refuses c') :
    (clientAt k address >>= next).Refuses c := by
  obtain ⟨hevolves, hclient⟩ := clientOn_takeClient hc hk address
  rw [clientAt_eq]
  exact refuses_modifyGet_bind (hnext _ _ hevolves hclient)

end Clients

theorem quiet_ensureOpen : Quiet h (fun _ _ => True) (ensureOpen k) c := by
  refine quiet_get_bind ?_
  split
  · exact quiet_pure trivial
  · exact quiet_throw

/-- A cluster that is closed begins nothing. -/
theorem refuses_of_closed {next : Unit → Operation α} (hclosed : (c.cluster k).isOpen = false) :
    (ensureOpen k >>= next).Refuses c := by
  show ((if (c.cluster k).isOpen then pure () else throw .clientClosed) >>= next :
    Operation α).Refuses c
  rw [hclosed, if_neg Bool.false_ne_true]
  exact refuses_throw_bind rfl

/-- Whether the cluster is open or closed, what comes next need not be asked for more than to
refuse. -/
theorem refuses_ensureOpen_bind {next : Unit → Operation α} (hnext : (next ()).Refuses c) :
    (ensureOpen k >>= next).Refuses c := by
  cases hopen : (c.cluster k).isOpen with
  | true =>
      show ((if (c.cluster k).isOpen then pure () else throw .clientClosed) >>= next :
        Operation α).Refuses c
      rw [hopen, if_pos rfl]
      exact hnext
  | false => exact refuses_of_closed hopen

/-! ## §2  Work at any member -/

section Trying

variable {task : Nat → Operation α} {address : String} {next : Except Error α → Operation α}
  {goesOn : Except Error α → Bool}

/-- With every client of a hub, a task is quiet and comes to something good. -/
def IsQuiet (h : Nat) (good : α → Connections → Prop) (task : Nat → Operation α) : Prop :=
  ∀ i c, c.Sane → c.ClientOn h i → Quiet h good (task i) c

/-- With every client of a hub that is shut, a task refuses. -/
def IsRefused (h : Nat) (task : Nat → Operation α) : Prop :=
  ∀ i c, c.Sane → c.ClientOn h i → c.Shut h → (task i).Refuses c

theorem goesOn_eq_false (hgoesOn : ∀ answer, sendsOn answer = false → goesOn answer = false)
    {e : Error} (he : e.isReplicaFailure = false) : goesOn (.error e) = false :=
  hgoesOn (.error e) he

/-- A task that is tried with the client of an address. -/
theorem quiet_try (hgoesOn : ∀ answer, sendsOn answer = false → goesOn answer = false)
    (hc : c.Sane) (hk : c.ClusterOn h k) (htask : IsQuiet h good task)
    (hnext : ∀ answer c', c.Evolves c' → Quiet h good (next answer) c') :
    Quiet h good (clientAt k address >>= fun client => outcome (task client) >>= fun answer =>
      if goesOn answer then next answer else ofOutcome answer) c := by
  refine quiet_clientAt_bind hc hk fun i c₁ hc₁ hi => ?_
  refine (htask i c₁ hc₁.sane hi).outcome_bind hc₁.sane ?_ ?_
  · intro answer c₂ hc₂ hgood
    split
    · exact hnext answer c₂ (hc₁.trans hc₂)
    · exact quiet_ofOutcome hgood
  · intro e c₂ _ _ he
    rw [goesOn_eq_false hgoesOn he, if_neg Bool.false_ne_true]
    exact refuses_throw he

/-- What refuses does not do so because of a replica, so nothing else is tried. -/
theorem refuses_try (hgoesOn : ∀ answer, sendsOn answer = false → goesOn answer = false)
    (hc : c.Sane) (hk : c.ClusterOn h k) (hshut : c.Shut h) (htask : IsRefused h task) :
    (clientAt k address >>= fun client => outcome (task client) >>= fun answer =>
      if goesOn answer then next answer else ofOutcome answer).Refuses c := by
  refine refuses_clientAt_bind hc hk fun i c₁ hc₁ hi => ?_
  refine (htask i c₁ hc₁.sane hi (hc₁.shut hshut)).outcome_bind fun e c₂ _ he => ?_
  rw [goesOn_eq_false hgoesOn he, if_neg Bool.false_ne_true]
  exact refuses_throw he

theorem quiet_onMembers (hc : c.Sane) (hk : c.ClusterOn h k) (htask : IsQuiet h good task)
    (members : List String) : Quiet h good (onMembers k task members) c := by
  induction members generalizing c with
  | nil => exact quiet_throw
  | cons member rest ih =>
      rw [onMembers_cons]
      refine quiet_try (fun _ => isUnreachable_eq_false) hc hk htask fun answer c' hc' => ?_
      exact ih hc'.sane (hc'.clusterOn hk)

theorem refuses_onMembers (hc : c.Sane) (hk : c.ClusterOn h k) (hshut : c.Shut h)
    (htask : IsRefused h task) (members : List String) :
    (onMembers k task members).Refuses c := by
  cases members with
  | nil => exact refuses_throw rfl
  | cons member rest =>
      rw [onMembers_cons]
      exact refuses_try (fun _ => isUnreachable_eq_false) hc hk hshut htask

/-- **Work at any member** of a cluster needs what the work with each client needs. -/
theorem needs_runAnyMember {good : Nat → α → Connections → Prop}
    (htask : ∀ i, Needs (fun h c => c.ClientOn h i) good (task i)) :
    Needs (fun h c => c.ClusterOn h k) good (runAnyMember k task) where
  quiet hc hk := by
    refine quiet_ensureOpen.bind hc fun _ c' hc' _ => quiet_get_bind ?_
    exact quiet_onMembers hc'.sane (hc'.clusterOn hk) (fun i _ => (htask i).quiet) _
  refuses hc hk hshut := by
    refine refuses_ensureOpen_bind (refuses_get_bind ?_)
    exact refuses_onMembers hc hk hshut (fun i _ => (htask i).refuses) _

end Trying

/-! ## §3  Looking for the primary replica -/

/-- An operation needs the servers of a cluster. -/
abbrev Asks (k : Nat) (op : Operation α) : Prop :=
  Needs (fun h c => c.ClusterOn h k) (fun _ _ _ => True) op

theorem asks_fetchReplicas : Asks k (fetchReplicas k database) := by
  rw [fetchReplicas_eq]
  refine needs_runAnyMember fun i => ?_
  have hask : Client.Asks i (call i (.databaseReplicas database)) := needs_call
  refine hask.bind fun {h} {c} response hc _ => ?_
  refine quiet_expect.bind hc fun replicas c' hc' _ => ?_
  refine quiet_modify_bind ?_ (quiet_pure trivial)
  exact Connections.evolves_modifyCluster hc'.sane k fun hlt => ⟨rfl, id, hc'.sane.cluster k hlt⟩

theorem seekPrimaryWithin_paused {fetches : Nat} :
    seekPrimaryWithin k database (fetches + 1) false =
      get >>= fun c => pause (c.cluster k).config.waitForPrimarySelection.millis >>= fun _ =>
        seekPrimaryWithin k database (fetches + 1) true := by
  simp only [seekPrimaryWithin_succ]
  rfl

/-- A search refuses at its first fetch. -/
theorem refuses_seekPrimaryWithin (hc : c.Sane) (hk : c.ClusterOn h k) (hshut : c.Shut h)
    (fetches : Nat) : (seekPrimaryWithin k database fetches true).Refuses c := by
  cases fetches with
  | zero => exact refuses_throw rfl
  | succ fetches =>
      rw [seekPrimaryWithin_succ]
      exact (asks_fetchReplicas.refuses hc hk hshut).bind _

theorem quiet_seekPrimaryWithin (hc : c.Sane) (hk : c.ClusterOn h k) (fetches : Nat)
    (first : Bool) :
    Quiet h (fun _ _ => True) (seekPrimaryWithin k database fetches first) c := by
  induction fetches generalizing first c with
  | zero => exact quiet_throw
  | succ fetches ih =>
      have hfetch : ∀ c', c.Evolves c' → Quiet h (fun _ _ => True)
          (seekPrimaryWithin k database (fetches + 1) true) c' := by
        intro c' hc'
        rw [seekPrimaryWithin_succ]
        refine (asks_fetchReplicas.quiet hc'.sane (hc'.clusterOn hk)).bind hc'.sane ?_
        intro found c'' hc'' _
        split
        · exact quiet_pure trivial
        · exact ih hc''.sane (hc''.clusterOn (hc'.clusterOn hk)) false
      cases first with
      | true => exact hfetch c (.refl hc)
      | false =>
          rw [seekPrimaryWithin_paused]
          refine quiet_get_bind (quiet_pause_bind hfetch fun c' hc' hshut => ?_)
          exact refuses_seekPrimaryWithin hc'.sane (hc'.clusterOn hk) hshut _

theorem asks_seekPrimary : Asks k (seekPrimary k database) where
  quiet hc hk := quiet_get_bind (quiet_seekPrimaryWithin hc hk _ _)
  refuses hc hk hshut := refuses_get_bind (refuses_seekPrimaryWithin hc hk hshut _)

/-- After the pause in which an election is waited for, the search for its outcome refuses where the
hub was shut meanwhile. -/
theorem quiet_seekNext (hc : c.Sane) (hk : c.ClusterOn h k) (answer : Except Error α) :
    Quiet h (fun _ _ => True) (seekNext k database answer) c := by
  have hseek : ∀ c', c.Evolves c' → Quiet h (fun _ _ => True) (seekPrimary k database) c' :=
    fun c' hc' => asks_seekPrimary.quiet hc'.sane (hc'.clusterOn hk)
  rw [seekNext]
  cases isUnreachable answer with
  | false => exact hseek c (.refl hc)
  | true =>
      show Quiet h _ (get >>= fun c => pause (c.cluster k).config.waitForPrimarySelection.millis >>=
        fun _ => seekPrimary k database) c
      refine quiet_get_bind (quiet_pause_bind hseek fun c' hc' hshut => ?_)
      exact asks_seekPrimary.refuses hc'.sane (hc'.clusterOn hk) hshut

/-! ## §4  Work at a replica -/

section Replicas

variable {task : Nat → Bool → Operation α}

theorem quiet_followPrimary (hc : c.Sane) (hk : c.ClusterOn h k)
    (htask : ∀ first, IsQuiet h good (task · first)) (runs : Nat) (first : Bool) (p : ReplicaInfo) :
    Quiet h good (followPrimary k database task runs first p) c := by
  induction runs generalizing first p c with
  | zero => exact quiet_throw
  | succ runs ih =>
      rw [followPrimary_succ]
      refine quiet_try (fun _ => id) hc hk (htask first) fun answer c' hc' => ?_
      have hk' := hc'.clusterOn hk
      refine (quiet_seekNext hc'.sane hk' answer).bind hc'.sane fun next c'' hc'' _ => ?_
      exact ih hc''.sane (hc''.clusterOn hk') false next

theorem refuses_followPrimary (hc : c.Sane) (hk : c.ClusterOn h k) (hshut : c.Shut h)
    (htask : ∀ first, IsRefused h (task · first)) (runs : Nat) (first : Bool) (p : ReplicaInfo) :
    (followPrimary k database task runs first p).Refuses c := by
  cases runs with
  | zero => exact refuses_throw rfl
  | succ runs =>
      rw [followPrimary_succ]
      exact refuses_try (fun _ => id) hc hk hshut (htask first)

theorem quiet_cachedReplicas_bind {next : Option DatabaseReplicas → Operation α}
    (hnext : Quiet h good (next ((c.cluster k).replicas.get? database)) c) :
    Quiet h good (cachedReplicas k database >>= next) c :=
  hnext

theorem refuses_cachedReplicas_bind {next : Option DatabaseReplicas → Operation α}
    (hnext : (next ((c.cluster k).replicas.get? database)).Refuses c) :
    (cachedReplicas k database >>= next).Refuses c :=
  hnext

theorem quiet_openingReplica (hc : c.Sane) (hk : c.ClusterOn h k) :
    Quiet h (fun _ _ => True) (openingReplica k database) c := by
  refine quiet_cachedReplicas_bind ?_
  split
  · exact quiet_pure trivial
  · exact asks_seekPrimary.quiet hc hk

/-- **Work at the primary replica** is quiet if it is so with each client. -/
theorem quiet_runPrimary (hc : c.Sane) (hk : c.ClusterOn h k)
    (htask : ∀ first, IsQuiet h good (task · first)) :
    Quiet h good (runPrimary k database task) c := by
  rw [runPrimary_eq]
  refine quiet_ensureOpen.bind hc fun _ c₁ hc₁ _ => ?_
  have hk₁ := hc₁.clusterOn hk
  refine (quiet_openingReplica hc₁.sane hk₁).bind hc₁.sane fun p c₂ hc₂ _ => quiet_get_bind ?_
  exact quiet_followPrimary hc₂.sane (hc₂.clusterOn hk₁) htask _ _ _

theorem refuses_runPrimary (hc : c.Sane) (hk : c.ClusterOn h k) (hshut : c.Shut h)
    (htask : ∀ first, IsRefused h (task · first)) : (runPrimary k database task).Refuses c := by
  rw [runPrimary_eq]
  refine refuses_ensureOpen_bind ?_
  rw [openingReplica, bind_assoc]
  refine refuses_cachedReplicas_bind ?_
  -- the replica that is remembered is tried, or one is searched for
  split
  · exact refuses_get_bind (refuses_followPrimary hc hk hshut htask _ _ _)
  · exact (asks_seekPrimary.refuses hc hk hshut).bind _

theorem quiet_onReplicas (hc : c.Sane) (hk : c.ClusterOn h k)
    (htask : ∀ first, IsQuiet h good (task · first)) (first : Bool) (replicas : List ReplicaInfo) :
    Quiet h good (onReplicas k task first replicas) c := by
  induction replicas generalizing first c with
  | nil => exact quiet_throw
  | cons replica rest ih =>
      rw [onReplicas_cons]
      refine quiet_try (fun _ => isUnreachable_eq_false) hc hk (htask first) fun answer c' hc' => ?_
      exact ih hc'.sane (hc'.clusterOn hk) false

theorem refuses_onReplicas (hc : c.Sane) (hk : c.ClusterOn h k) (hshut : c.Shut h)
    (htask : ∀ first, IsRefused h (task · first)) (first : Bool) (replicas : List ReplicaInfo) :
    (onReplicas k task first replicas).Refuses c := by
  cases replicas with
  | nil => exact refuses_throw rfl
  | cons replica rest =>
      rw [onReplicas_cons]
      exact refuses_try (fun _ => isUnreachable_eq_false) hc hk hshut (htask first)

/-- **Work at any replica** is quiet if it is so with each client. -/
theorem quiet_runAny (hc : c.Sane) (hk : c.ClusterOn h k)
    (htask : ∀ first, IsQuiet h good (task · first)) : Quiet h good (runAny k database task) c := by
  rw [runAny]
  refine quiet_ensureOpen.bind hc fun _ c₁ hc₁ _ => quiet_cachedReplicas_bind ?_
  have hk₁ := hc₁.clusterOn hk
  split
  · exact quiet_onReplicas hc₁.sane hk₁ htask _ _
  · refine (asks_fetchReplicas.quiet hc₁.sane hk₁).bind hc₁.sane fun found c₂ hc₂ _ => ?_
    exact quiet_onReplicas hc₂.sane (hc₂.clusterOn hk₁) htask _ _

theorem refuses_runAny (hc : c.Sane) (hk : c.ClusterOn h k) (hshut : c.Shut h)
    (htask : ∀ first, IsRefused h (task · first)) : (runAny k database task).Refuses c := by
  rw [runAny]
  refine refuses_ensureOpen_bind (refuses_cachedReplicas_bind ?_)
  split
  · exact refuses_onReplicas hc hk hshut htask _ _
  · exact (asks_fetchReplicas.refuses hc hk hshut).bind _

end Replicas

/-- **Work at the primary replica**, or at any, needs what the work with each client needs. -/
theorem needs_runPrimary {good : Nat → α → Connections → Prop} {task : Nat → Bool → Operation α}
    (htask : ∀ i first, Needs (fun h c => c.ClientOn h i) good (task i first)) :
    Needs (fun h c => c.ClusterOn h k) good (runPrimary k database task) where
  quiet hc hk := quiet_runPrimary hc hk fun first i _ => (htask i first).quiet
  refuses hc hk hshut := refuses_runPrimary hc hk hshut fun first i _ => (htask i first).refuses

theorem needs_runAny {good : Nat → α → Connections → Prop} {task : Nat → Bool → Operation α}
    (htask : ∀ i first, Needs (fun h c => c.ClientOn h i) good (task i first)) :
    Needs (fun h c => c.ClusterOn h k) good (runAny k database task) where
  quiet hc hk := quiet_runAny hc hk fun first i _ => (htask i first).quiet
  refuses hc hk hshut := refuses_runAny hc hk hshut fun first i _ => (htask i first).refuses

/-- What can be asked of the servers of a cluster. -/
inductive Question where
  | createDatabase (name : String)
  | containsDatabase (name : String)
  | databases
  | deleteDatabase (name : String)
  | findDatabase (name : String)
  | fetchReplicas (database : String)

/-- Asks something, whatever the answer. -/
def Question.run (cluster : Nat) : Question → Operation Unit
  | .createDatabase name => Cluster.createDatabase cluster name
  | .containsDatabase name => discarding (Cluster.containsDatabase cluster name)
  | .databases => discarding (Cluster.databases cluster)
  | .deleteDatabase name => Cluster.deleteDatabase cluster name
  | .findDatabase name => discarding (Cluster.findDatabase cluster name)
  | .fetchReplicas database => discarding (Cluster.fetchReplicas cluster database)
where
  discarding {α : Type} (op : Operation α) : Operation Unit := op >>= fun _ => pure ()

theorem asks_containsDatabase : Asks k (containsDatabase k database) :=
  needs_runAnyMember fun _ => Client.asks_containsDatabase

theorem asks_findDatabase : Asks k (findDatabase k database) where
  quiet hc hk := by
    refine (asks_containsDatabase.quiet hc hk).bind hc fun found c' hc' _ => ?_
    cases found with
    | true => exact asks_fetchReplicas.quiet hc'.sane (hc'.clusterOn hk)
    | false => exact quiet_throw
  refuses hc hk hshut := (asks_containsDatabase.refuses hc hk hshut).bind _

/-- **Every question** is quiet, and is refused where the hub is shut. -/
theorem asks_question (question : Question) : Asks k (question.run k) := by
  cases question with
  | createDatabase name => exact needs_runAnyMember fun _ => Client.asks_createDatabase
  | containsDatabase name => exact asks_containsDatabase.discarding
  | databases =>
      have hdatabases : Asks k (databases k) := needs_runAnyMember fun _ => Client.asks_databases
      exact hdatabases.discarding
  | deleteDatabase name => exact needs_runPrimary fun _ _ => Client.asks_deleteDatabase
  | findDatabase name => exact asks_findDatabase.discarding
  | fetchReplicas database => exact asks_fetchReplicas.discarding

/-! ## §5  Discovery -/

section Discovery

variable {i : Nat} {ds : List Line}

/-- A member that is asked for the others is asked only while its hub is open, and nothing is waited
for besides. -/
theorem upholds_servers (hc : c.Sane) (hi : c.ClientOn h i) :
    (Client.servers i).run.Upholds h (fun _ => False) (fun ds' _ => ds' = ds)
      (fun _ ds' _ => ds' = ds) ds c := by
  refine (upholds_call (fun _ => False) hi ds).bind hc ?_ fun _ _ _ _ hf => hf.elim
  rintro (e | response) ds' c' - rfl
  · exact rfl
  · cases response <;> exact rfl

theorem quiet_discover (hc : c.Sane) (hh : h < c.hubs.length) (seeds : List String) :
    Quiet h (fun _ _ => True) (discover h seeds) c := by
  induction seeds generalizing c with
  | nil => exact quiet_pure trivial
  | cons address rest ih =>
      have hshare := Connections.evolves_shareHub hc address hh
      refine quiet_modifyGet_bind hshare fun ds => ?_
      generalize hmade : c.shareHub address h = made at *
      have hservers : (Client.servers made.1).run.Upholds h (fun _ => False)
          (fun ds' _ => ds' = ds) (fun _ ds' _ => ds' = ds) ds made.2 :=
        upholds_servers hshare.sane (hmade ▸ Connections.client_shareHub c address h)
      have hask : ((Client.servers made.1).run.onAbandon (·.releaseClient made.1)).Upholds h
          (fun _ => False) (fun ds' _ => ds' = ds) (fun _ ds' _ => ds' = ds) ds made.2 :=
        hservers.onAbandon hshare.sane fun ds' c' hc' hds =>
          ⟨Connections.evolves_releaseClient hc'.sane _, hds⟩
      rw [Operation.Upholds, run_outcome_bind]
      refine hask.bind hshare.sane ?_ fun _ _ _ _ hf => hf.elim
      rintro answer ds' c' hc' rfl
      have hrelease := Connections.evolves_releaseClient hc'.sane made.1
      refine upholds_modify_bind hrelease ?_
      cases answer with
      | ok members => exact quiet_pure trivial ds'
      | error e =>
          exact ih hrelease.sane ((hshare.trans (hc'.trans hrelease)).hub h hh).1 ds'

theorem quiet_clientsAt (hc : c.Sane) (hk : c.ClusterOn h k) (members : List String) :
    Quiet h (fun _ c' => c'.ClusterOn h k)
      (forIn members PUnit.unit fun member _ => do
        let _ ← clientAt k member
        pure (ForInStep.yield PUnit.unit)) c := by
  induction members generalizing c with
  | nil => exact quiet_pure hk
  | cons member rest ih =>
      rw [List.forIn_cons, bind_assoc]
      refine quiet_clientAt_bind hc hk fun i c' hc' _ => ?_
      exact ih hc'.sane (hc'.clusterOn hk)

/-- **Connecting to a cluster** makes a hub for it, and is about that hub. -/
theorem quiet_connect {seeds : List String} {config : FailoverConfig} {batching : TransmitterConfig}
    (hc : c.Sane) :
    Quiet c.hubs.length (fun k c' => c'.ClusterOn c.hubs.length k) (connect seeds config batching)
      c := by
  have hnew := Connections.evolves_newHub hc batching
  have hh := Connections.lt_newHub c batching
  refine quiet_modifyGet_bind hnew ?_
  rw [show (c.newHub batching).1 = c.hubs.length from rfl]
  generalize c.hubs.length = h at hh ⊢
  refine ((quiet_discover hnew.sane hh seeds).onAbandon hnew.sane fun c' hc' =>
    Connections.evolves_releaseHub hc' h).bind hnew.sane fun found c' hc' _ => ?_
  cases found with
  | none => exact quiet_modify_bind (Connections.evolves_releaseHub hc'.sane h) quiet_throw
  | some members =>
      have hfits : c'.FitsCluster { members, clients := .empty, hub := h, config } := by
        refine ⟨(hc'.hub h hh).1, ?_, ?_⟩
        · intro i hi
          cases hi
        · exact fun hclosed => Bool.noConfusion hclosed
      have hadd := Connections.evolves_addCluster hc'.sane hfits
      refine quiet_modifyGet_bind hadd ?_
      refine (quiet_clientsAt hadd.sane ?_ members).bind hadd.sane fun _ _ _ hk => quiet_pure hk
      exact Connections.clusterOn_addCluster rfl

end Discovery

end Cluster

/-! ## §6  Sessions of a cluster -/

namespace ClusterSession

variable {α : Type} {h k s : Nat} {c : Connections} {ds : List Line} {database : String}
  {sessionType : SessionType} {transactionType : TransactionType} {options : Options}

/-- **Opening a session at a replica** needs the servers of the cluster. -/
theorem needs_openAtReplica : Needs (fun h c => c.ClusterOn h k) (fun h s c => c.SessionOn h s)
    (openAtReplica k database sessionType options) := by
  unfold openAtReplica
  split
  · exact Cluster.needs_runAny fun _ _ => Session.needs_openAt
  · exact Cluster.needs_runPrimary fun _ _ => Session.needs_openAt

theorem needs_openAt : Needs (fun h c => c.ClusterOn h k) (fun h s c => c.ClusterSessionOn h s)
    (openAt k database sessionType options) where
  quiet {h c} hc hk := by
    refine (needs_openAtReplica.quiet hc hk).bind hc fun current c' hc' hcurrent => ?_
    have hretain := Connections.evolves_retainCluster hc'.sane k
    have hk' := hretain.clusterOn (hc'.clusterOn hk)
    have hfits : (c'.retainCluster k).FitsClusterSession
        { cluster := k, database, sessionType, options, current } :=
      ⟨hk'.1, hk'.2 ▸ hretain.sessionOn hcurrent⟩
    have hadd := Connections.evolves_addClusterSession hretain.sane hfits
    exact quiet_modifyGet (hretain.trans hadd) (Connections.clusterSessionOn_addClusterSession hk')
  refuses hc hk hshut := (needs_openAtReplica.refuses hc hk hshut).bind _

/-- The session in use is over the hub of the cluster. -/
theorem sessionOn_current (hc : c.Sane) (hs : c.ClusterSessionOn h s) :
    c.SessionOn h (c.clusterSession s).current := by
  obtain ⟨hlt, -, hhub⟩ := hs
  exact hhub ▸ (hc.clusterSession s hlt).2

section Holding

variable {op : Operation α} {out : List Line → Connections → Prop}
  {post : Except Error α → List Line → Connections → Prop} {current : Nat}

theorem upholds_holding (hop : op.Upholds h out post ds c) (hc : c.Sane) (hout : Lasting out)
    (hpost : ∀ result, Lasting (post result)) : (holding current op).Upholds h out post ds c := by
  have habandon : (onAbandon (·.releaseSession current) op).Upholds h out post ds c := by
    refine Program.Upholds.onAbandon hop hc fun ds' c' hc' hds => ?_
    have hrelease := Connections.evolves_releaseSession hc'.sane current
    exact ⟨hrelease, hout _ _ _ hrelease hds⟩
  refine upholds_outcome_bind habandon hc ?_ ?_
  · intro result ds' c' hc' hresult
    have hrelease := Connections.evolves_releaseSession hc'.sane current
    exact upholds_modify_bind hrelease (upholds_ofOutcome (hpost result _ _ _ hrelease hresult))
  · exact fun e c' _ _ he => refuses_modify_bind (refuses_ofOutcome he)

theorem quiet_holding (hop : Quiet h (fun _ _ => True) op c) (hc : c.Sane) :
    Quiet h (fun _ _ => True) (holding current op) c := fun ds => by
  refine upholds_holding (hop ds) hc (fun _ _ _ _ hds => hds) ?_
  exact fun _ _ _ _ _ hds => ⟨hds.1, fun _ _ => trivial⟩

theorem refuses_holding (hop : op.Refuses c) : (holding current op).Refuses c := by
  refine (hop.onAbandon _).outcome_bind fun e c' _ he => ?_
  exact refuses_modify_bind (refuses_ofOutcome he)

end Holding

/-- **Closing a session** of a cluster is quiet. -/
theorem quiet_close (hc : c.Sane) (hs : c.ClusterSessionOn h s) :
    Quiet h (fun _ _ => True) (close s) c := by
  have htake := Connections.evolves_retainSession hc (c.clusterSession s).current
  refine quiet_modifyGet_bind htake ?_
  exact quiet_holding (Session.quiet_close htake.sane
    (htake.sessionOn (sessionOn_current hc hs))) htake.sane

theorem refuses_close (hc : c.Sane) (hs : c.ClusterSessionOn h s) (hshut : c.Shut h)
    (hopen : c.clusterSessionIsOpen s = true) : (close s).Refuses c := by
  have htake := Connections.evolves_retainSession hc (c.clusterSession s).current
  have hcurrent := sessionOn_current hc hs
  refine refuses_modifyGet_bind (refuses_holding ?_)
  refine Session.refuses_close htake.sane (htake.sessionOn hcurrent) (htake.shut hshut) ?_
  show (((c.sessions.modify _ _).getD _ default).isOpen) = true
  rw [Transmitter.getD_modify, if_pos ⟨rfl, hcurrent.1⟩]
  exact hopen

/-- A session that moves does so to a session over the hub of its cluster. -/
theorem quiet_reopen {stale : Nat} (hc : c.Sane) (hs : c.ClusterSessionOn h s)
    (hstale : c.SessionOn h stale) :
    Quiet h (fun fresh c' => c'.SessionOn h fresh) (reopen s stale) c := by
  have hlook : ∀ c', c.Evolves c' → c'.ClusterOn h (c'.clusterSession s).cluster :=
    fun c' hc' => (hc'.clusterSessionOn hs).2
  refine (Session.quiet_close hc hstale).outcome_bind hc ?_ ?_
  · intro result c₁ hc₁ _
    refine quiet_get_bind ?_
    refine (needs_openAtReplica.quiet hc₁.sane (hlook c₁ hc₁)).bind hc₁.sane ?_
    intro fresh c₂ hc₂ hf
    have hs₂ := (hc₁.trans hc₂).clusterSessionOn hs
    have hmove : c₂.Evolves (moveTo s fresh c₂) :=
      Connections.evolves_moveTo hc₂.sane (hs₂.2.2.symm ▸ hf)
    exact quiet_modify_bind hmove (quiet_pure (hmove.sessionOn hf))
  · intro e c₁ hc₁ hshut _
    refine refuses_get_bind ?_
    exact (needs_openAtReplica.refuses hc₁.sane (hlook c₁ hc₁) hshut).bind _

/-- **Opening a transaction** over a session of a cluster. Of a try that failed no dispatcher is
left open, whether another one is made or not. -/
theorem upholds_transaction (hc : c.Sane) (hs : c.ClusterSessionOn h s) (hds : AllClosed ds c) :
    (transaction s transactionType options).Upholds h AllClosed (Transaction.Opened h) ds c := by
  have htake := Connections.evolves_retainSession hc (c.clusterSession s).current
  have hstale := htake.sessionOn (sessionOn_current hc hs)
  refine upholds_modifyGet_bind htake ?_
  refine upholds_holding ?_ htake.sane lasting_allClosed Transaction.lasting_opened
  have hfirst : (Transaction.openOn (c.clusterSession s).current transactionType options).Upholds h
      AllClosed (Transaction.Opened h) ds (c.retainSession (c.clusterSession s).current) :=
    Transaction.upholds_openOn htake.sane hstale (lasting_allClosed _ _ _ htake hds)
  refine upholds_outcome_bind hfirst htake.sane ?_ ?_
  · rintro (e | t) ds₁ c₁ hc₁ hopened
    · dsimp only
      split
      · have hs₁ := (htake.trans hc₁).clusterSessionOn hs
        have hreopen := quiet_reopen hc₁.sane hs₁ (hc₁.sessionOn hstale)
        refine upholds_bind (hreopen.upholds hc₁.sane lasting_allClosed hopened) hc₁.sane ?_ ?_
        · exact fun e' ds₂ c₂ _ hall => hall.1
        · rintro fresh ds₂ c₂ hc₂ ⟨hall, hfresh⟩
          refine upholds_holding ?_ hc₂.sane lasting_allClosed Transaction.lasting_opened
          exact Transaction.upholds_openOn hc₂.sane (hfresh fresh rfl) hall
      · exact hopened
    · exact hopened
  · intro e c₁ _ _ he
    dsimp only
    rw [he, if_neg Bool.false_ne_true]
    exact refuses_throw he

theorem refuses_transaction (hc : c.Sane) (hs : c.ClusterSessionOn h s) (hshut : c.Shut h) :
    (transaction s transactionType options).Refuses c := by
  have htake := Connections.evolves_retainSession hc (c.clusterSession s).current
  have hstale := htake.sessionOn (sessionOn_current hc hs)
  refine refuses_modifyGet_bind (refuses_holding ?_)
  refine (Transaction.refuses_openOn hstale (htake.shut hshut)).outcome_bind fun e c₁ _ he => ?_
  dsimp only
  rw [he, if_neg Bool.false_ne_true]
  exact refuses_throw he

end ClusterSession

end GraphDriver
