import GraphDriver.Cluster.Failover
import GraphDriver.Proofs.Client.Runs

/-!
# Discovery

How a cluster learns where the primary replica of a database is. It asks its members one after the
other until one can be reached, and remembers what that member told. While nobody claims to be
primary it asks again, after a pause, as often as it may. What it remembers at any time is what it
was told last: a failure changes nothing about it.

* §1 values of dictionaries
* §2 primary replicas
* §3 a cluster that is left alone
* §4 connecting
* §5 one member after the other
* §6 fetching replicas
* §7 searching for the primary replica
-/

namespace GraphDriver

/-! ## §1  Values of dictionaries -/

namespace Dict

variable {α : Type}

theorem find?_insertEntry (key k : String) (value : α) (l : List (String × α)) :
    (insertEntry key value l).find? (·.1 = k) =
      if key = k then some (key, value) else l.find? (·.1 = k) := by
  induction l with
  | nil => by_cases hkey : key = k <;> simp [insertEntry, hkey]
  | cons entry rest ih =>
      unfold insertEntry
      split
      · by_cases hkey : key = k <;> simp [hkey]
      · split
        · rename_i heq
          by_cases hkey : key = k
          · simp [hkey]
          · simp [hkey, ← heq]
        · rename_i hne
          rw [List.find?_cons, ih, List.find?_cons]
          by_cases hkey : key = k
          · have hother : ¬ entry.1 = k := fun h => hne (hkey.trans h.symm)
            simp [hkey, hother]
          · simp [hkey]

/-- What was inserted is found under its key; what other keys have stays. -/
theorem get?_insert (d : Dict α) (key k : String) (value : α) :
    (d.insert key value).get? k = if key = k then some value else d.get? k := by
  show ((insertEntry key value d.entries).find? (·.1 = k)).map (·.2) = _
  rw [find?_insertEntry]
  split <;> rfl

end Dict

/-! ## §2  Primary replicas -/

namespace DatabaseReplicas

/-- A replica is flagged primary, and none that is flagged has a higher term. -/
structure IsLedBy (d : DatabaseReplicas) (r : ReplicaInfo) : Prop where
  reported : r ∈ d.replicas
  flagged : r.isPrimary = true
  latest : ∀ other ∈ d.replicas, other.isPrimary = true → other.term ≤ r.term

/-- The later of some replicas is one of them, and of no lower term than any. -/
theorem foldl_laterTerm {l : List ReplicaInfo} {best : Option ReplicaInfo} {r : ReplicaInfo}
    (h : l.foldl laterTerm best = some r) :
    (r ∈ l ∨ best = some r) ∧ ∀ other, other ∈ l ∨ best = some other → other.term ≤ r.term := by
  induction l generalizing best with
  | nil =>
      refine ⟨.inr h, ?_⟩
      rintro other (hmem | hbest)
      · cases hmem
      · cases hbest.symm.trans h
        exact Int64.le_refl _
  | cons x rest ih =>
      obtain ⟨hfrom, hlatest⟩ := ih h
      cases best with
      | none =>
          refine ⟨.inl ?_, ?_⟩
          · rcases hfrom with hmem | heq
            · exact List.mem_cons_of_mem x hmem
            · cases heq
              exact List.mem_cons_self
          · rintro other (hmem | hbest)
            · rcases List.mem_cons.mp hmem with rfl | hmem
              · exact hlatest _ (.inr rfl)
              · exact hlatest _ (.inl hmem)
            · cases hbest
      | some b =>
          simp only [laterTerm] at hfrom hlatest
          by_cases hlater : x.term < b.term
          · rw [if_pos hlater] at hfrom hlatest
            have hb : b.term ≤ r.term := hlatest b (.inr rfl)
            refine ⟨hfrom.imp_left (List.mem_cons_of_mem x), ?_⟩
            rintro other (hmem | hbest)
            · rcases List.mem_cons.mp hmem with rfl | hmem
              · exact Int64.le_trans (Int64.le_of_lt hlater) hb
              · exact hlatest _ (.inl hmem)
            · cases hbest
              exact hb
          · rw [if_neg hlater] at hfrom hlatest
            have hx : x.term ≤ r.term := hlatest x (.inr rfl)
            refine ⟨.inl ?_, ?_⟩
            · rcases hfrom with hmem | heq
              · exact List.mem_cons_of_mem x hmem
              · cases heq
                exact List.mem_cons_self
            · rintro other (hmem | hbest)
              · rcases List.mem_cons.mp hmem with rfl | hmem
                · exact hx
                · exact hlatest _ (.inl hmem)
              · cases hbest
                exact Int64.le_trans (Int64.not_lt.mp hlater) hx

theorem isLedBy_of_primary {d : DatabaseReplicas} {r : ReplicaInfo} (h : d.primary = some r) :
    d.IsLedBy r := by
  obtain ⟨hfrom, hlatest⟩ := foldl_laterTerm h
  obtain ⟨hmem, hflag⟩ : r ∈ d.replicas ∧ r.isPrimary = true := by
    rcases hfrom with hmem | hnone
    · exact List.mem_filter.mp hmem
    · cases hnone
  refine ⟨hmem, hflag, ?_⟩
  intro other hother hclaims
  exact hlatest other (.inl (List.mem_filter.mpr ⟨hother, hclaims⟩))

end DatabaseReplicas

namespace Cluster

open Operation (Runs call expect outcome ofOutcome pause taken)

/-! ## §3  A cluster that is left alone -/

/-- A client is there, for an address, and may be used. -/
structure Serves (c : Connections) (address : String) (client : Nat) : Prop where
  there : client < c.clients.length
  address_eq : (c.client client).address = address
  isOpen : c.clientIsOpen client = true

/-- A cluster is there, its hub is open, and so is each of its clients, which is for the address
under which the cluster has it. -/
structure IsKept (k : Nat) (c : Connections) : Prop where
  there : k < c.clusters.length
  hub : (c.hub (c.cluster k).hub).transmitter.isOpen = true
  registered : ∀ address client, (c.cluster k).clients.get? address = some client →
    Serves c address client

/-- Others may change what they like, but they leave a cluster alone: they may hold it or let go of
it, and they close neither its hub nor a client of it. -/
structure Undisturbed (k : Nat) (c c' : Connections) : Prop where
  cluster : ∃ holders, c'.cluster k = { c.cluster k with holders }
  there : k < c.clusters.length → k < c'.clusters.length
  hub : (c.hub (c.cluster k).hub).transmitter.isOpen = true →
    (c'.hub (c.cluster k).hub).transmitter.isOpen = true
  clients : ∀ address client, (c.cluster k).clients.get? address = some client →
    Serves c address client → Serves c' address client

theorem Undisturbed.refl (k : Nat) (c : Connections) : Undisturbed k c c :=
  ⟨⟨(c.cluster k).holders, rfl⟩, id, id, fun _ _ _ => id⟩

variable {k : Nat} {members : List String} {config : FailoverConfig} {database : String}
  {known : Option DatabaseReplicas} {c c' : Connections} {log : List Event}
  {others : Connections → Connections → Prop}

theorem IsKept.of_undisturbed (hkept : IsKept k c) (hquiet : Undisturbed k c c') : IsKept k c' := by
  obtain ⟨holders, hcluster⟩ := hquiet.cluster
  refine ⟨hquiet.there hkept.there, ?_, ?_⟩
  · rw [hcluster]
    exact hquiet.hub hkept.hub
  · intro address client hclient
    rw [hcluster] at hclient
    exact hquiet.clients address client hclient (hkept.registered address client hclient)

theorem cluster_modifyCluster (hk : k < c.clusters.length) (f : Cluster → Cluster) :
    (c.modifyCluster k f).cluster k = f (c.cluster k) := by
  simp [Connections.cluster, Connections.modifyCluster, List.getD_eq_getElem?_getD, hk]

/-- A cluster stays kept if its hub and its clients stay. -/
theorem IsKept.modifyCluster (hkept : IsKept k c) {f : Cluster → Cluster}
    (hhub : ∀ x, (f x).hub = x.hub) (hclients : ∀ x, (f x).clients = x.clients) :
    IsKept k (c.modifyCluster k f) := by
  refine ⟨Nat.lt_of_lt_of_eq hkept.there (List.length_modify ..).symm, ?_, ?_⟩
  · rw [cluster_modifyCluster hkept.there, hhub]
    exact hkept.hub
  · intro address client hclient
    rw [cluster_modifyCluster hkept.there, hclients] at hclient
    obtain ⟨hthere, haddress, hopen⟩ := hkept.registered address client hclient
    exact ⟨hthere, haddress, hopen⟩

theorem hub_retainHub {h h' : Nat} : (c.retainHub h).hub h' = c.hub h' := by
  show ((c.hubs.modify h fun x => { x with holders := x.holders + 1 }).getD h' default).hub = _
  rw [List.getD_eq_getElem?_getD, List.getElem?_modify, Connections.hub,
    List.getD_eq_getElem?_getD]
  split <;> cases c.hubs[h']? <;> rfl

/-- A new client over the hub of a cluster can be used. -/
theorem serves_shareHub (address : String) {h : Nat}
    (hhub : (c.hub h).transmitter.isOpen = true) :
    Serves (c.shareHub address h).2 address c.clients.length := by
  have hclient : (c.shareHub address h).2.client c.clients.length =
      { address, hub := h, ownsHub := false } := by
    show (c.clients ++ [_]).getD c.clients.length default = _
    rw [List.getD_eq_getElem?_getD, List.getElem?_concat_length]
    rfl
  refine ⟨?_, ?_, ?_⟩
  · show c.clients.length < (c.clients ++ [_]).length
    simp
  · rw [hclient]
  · rw [Connections.clientIsOpen, hclient]
    show ((c.retainHub h).hub h).transmitter.isOpen = true
    rwa [hub_retainHub]

/-- The clients that were there can be used as before. -/
theorem Serves.shareHub {address other : String} {h client : Nat}
    (hserves : Serves c other client) :
    Serves (c.shareHub address h).2 other client := by
  obtain ⟨hthere, haddress, hopen⟩ := hserves
  have hclient : (c.shareHub address h).2.client client = c.client client := by
    show (c.clients ++ [_]).getD client default = _
    rw [List.getD_eq_getElem?_getD, List.getElem?_append_left hthere, ← List.getD_eq_getElem?_getD]
    rfl
  refine ⟨?_, by rwa [hclient], ?_⟩
  · show client < (c.clients ++ [_]).length
    rw [List.length_append]
    exact Nat.lt_add_right _ hthere
  · rw [Connections.clientIsOpen, hclient]
    show ((c.client client).isOpen && ((c.retainHub h).hub _).transmitter.isOpen) = true
    rwa [hub_retainHub]

/-- The state in which a cluster has a new client for an address. -/
def withClient (k : Nat) (address : String) (c : Connections) : Connections :=
  (c.shareHub address (c.cluster k).hub).2.modifyCluster k fun x =>
    { x with clients := x.clients.insert address c.clients.length }

theorem cluster_withClient (hk : k < c.clusters.length) (address : String) :
    (withClient k address c).cluster k =
      { c.cluster k with clients := (c.cluster k).clients.insert address c.clients.length } :=
  cluster_modifyCluster (c := (c.shareHub address (c.cluster k).hub).2) hk _

theorem hub_withClient {address : String} {h : Nat} : (withClient k address c).hub h = c.hub h :=
  hub_retainHub

/-- A cluster with a client for one more address stays kept. -/
theorem IsKept.withClient (hkept : IsKept k c) (address : String) :
    IsKept k (withClient k address c) := by
  refine ⟨Nat.lt_of_lt_of_eq hkept.there (List.length_modify ..).symm, ?_, ?_⟩
  · rw [cluster_withClient hkept.there, hub_withClient]
    exact hkept.hub
  · intro other client hclient
    rw [cluster_withClient hkept.there, Dict.get?_insert] at hclient
    have hserves : Serves (c.shareHub address (c.cluster k).hub).2 other client := by
      split at hclient
      · rename_i heq
        cases hclient
        exact heq ▸ serves_shareHub address hkept.hub
      · exact (hkept.registered other client hclient).shareHub
    exact ⟨hserves.there, hserves.address_eq, hserves.isOpen⟩

/-- A client for an address is there already, or it is made. -/
theorem runs_clientAt {address : String} {result : Except Error Nat} :
    Runs others (clientAt k address) c log result c' ↔
      log = [] ∧
        match (c.cluster k).clients.get? address with
        | some client => result = .ok client ∧ c' = c
        | none => result = .ok c.clients.length ∧ c' = withClient k address c := by
  rw [clientAt, Operation.runs_modifyGet]
  refine and_congr_right fun _ => ?_
  dsimp only
  cases (c.cluster k).clients.get? address <;> rfl

/-- An open cluster that is kept: who its members are, how it is configured, and what it remembers
of a database. -/
structure Stands (k : Nat) (members : List String) (config : FailoverConfig) (database : String)
    (known : Option DatabaseReplicas) (c : Connections) : Prop extends IsKept k c where
  isOpen : (c.cluster k).isOpen = true
  members_eq : (c.cluster k).members = members
  config_eq : (c.cluster k).config = config
  known_eq : (c.cluster k).replicas.get? database = known

/-- Nothing that leaves the cluster alone makes it fall. -/
theorem Stands.of_undisturbed (hstands : Stands k members config database known c)
    (hquiet : Undisturbed k c c') : Stands k members config database known c' := by
  obtain ⟨holders, hcluster⟩ := hquiet.cluster
  refine ⟨hstands.toIsKept.of_undisturbed hquiet, ?_, ?_, ?_, ?_⟩ <;> rw [hcluster]
  · exact hstands.isOpen
  · exact hstands.members_eq
  · exact hstands.config_eq
  · exact hstands.known_eq

/-- What is remembered of a database after an answer: a failure changes nothing. -/
def remember (known : Option DatabaseReplicas) :
    Except Error DatabaseReplicas → Option DatabaseReplicas
  | .ok found => some found
  | .error _ => known

/-- The state after an answer about a database. -/
def keep (k : Nat) (database : String) :
    Except Error DatabaseReplicas → Connections → Connections
  | .ok found, c =>
    c.modifyCluster k fun x => { x with replicas := x.replicas.insert database found }
  | .error _, c => c

/-- An answer leaves the cluster standing. -/
theorem Stands.kept (hstands : Stands k members config database known c)
    (answer : Except Error DatabaseReplicas) :
    Stands k members config database (remember known answer) (keep k database answer c) := by
  cases answer with
  | error e => exact hstands
  | ok found =>
      refine ⟨hstands.modifyCluster (fun _ => rfl) (fun _ => rfl), ?_, ?_, ?_, ?_⟩ <;>
        rw [keep, cluster_modifyCluster hstands.there]
      · exact hstands.isOpen
      · exact hstands.members_eq
      · exact hstands.config_eq
      · show (Dict.insert _ database found).get? database = some found
        rw [Dict.get?_insert, if_pos rfl]

/-- A client for an address serves that address, whether it was there already or is new. -/
theorem Stands.at_client (hstands : Stands k members config database known c) {address : String}
    {client : Nat} (h : Runs others (clientAt k address) c log (.ok client) c') :
    Stands k members config database known c' ∧ Serves c' address client := by
  obtain ⟨-, h⟩ := runs_clientAt.mp h
  split at h
  · rename_i old hold
    obtain ⟨heq, rfl⟩ := h
    cases heq
    exact ⟨hstands, hstands.registered address _ hold⟩
  · obtain ⟨heq, rfl⟩ := h
    cases heq
    have hkept := hstands.withClient address
    have hcluster := cluster_withClient hstands.there address
    refine ⟨⟨hkept, ?_, ?_, ?_, ?_⟩, hkept.registered address _ ?_⟩ <;> rw [hcluster]
    · exact hstands.isOpen
    · exact hstands.members_eq
    · exact hstands.config_eq
    · exact hstands.known_eq
    · rw [Dict.get?_insert, if_pos rfl]

/-! ## §4  Connecting -/

/-- To have a client takes no waits and does not fail, and it leaves every hub as it is. -/
theorem clientAt_succeeds {address : String} {result : Except Error Nat}
    (h : Runs others (clientAt k address) c log result c') :
    log = [] ∧ (∃ client, result = .ok client) ∧ ∀ i, c'.hub i = c.hub i := by
  obtain ⟨hlog, h⟩ := runs_clientAt.mp h
  split at h
  · obtain ⟨rfl, rfl⟩ := h
    exact ⟨hlog, ⟨_, rfl⟩, fun _ => rfl⟩
  · obtain ⟨rfl, rfl⟩ := h
    exact ⟨hlog, ⟨_, rfl⟩, fun _ => hub_withClient⟩

/-- The making of clients for some addresses. -/
def clientsAt (k : Nat) (addresses : List String) : Operation PUnit :=
  forIn addresses PUnit.unit fun address _ => do
    let _ ← clientAt k address
    pure (ForInStep.yield PUnit.unit)

theorem runs_clientsAt_cons {address : String} {rest : List String} {result : Except Error PUnit}
    (h : Runs others (clientsAt k (address :: rest)) c log result c') :
    ∃ client c₁, Runs others (clientAt k address) c [] (.ok client) c₁ ∧
      Runs others (clientsAt k rest) c₁ log result c' := by
  rw [clientsAt, List.forIn_cons, bind_assoc] at h
  rcases Operation.runs_bind.mp h with ⟨e, hclient, -⟩ | ⟨client, c₁, _, _, hclient, hrest, rfl⟩
  · obtain ⟨-, ⟨client, hok⟩, -⟩ := clientAt_succeeds hclient
    cases hok
  · obtain ⟨rfl, -⟩ := clientAt_succeeds hclient
    rw [pure_bind] at hrest
    exact ⟨client, c₁, hclient, hrest⟩

theorem hub_clientsAt {addresses : List String} {result : Except Error PUnit}
    (h : Runs others (clientsAt k addresses) c log result c') (i : Nat) : c'.hub i = c.hub i := by
  induction addresses generalizing c with
  | nil =>
      obtain ⟨-, -, rfl⟩ := Operation.runs_pure.mp h
      rfl
  | cons address rest ih =>
      obtain ⟨client, c₁, hclient, hrest⟩ := runs_clientsAt_cons h
      exact (ih hrest).trans ((clientAt_succeeds hclient).2.2 i)

theorem Stands.at_clients (hstands : Stands k members config database known c)
    {addresses : List String} {result : Except Error PUnit}
    (h : Runs others (clientsAt k addresses) c log result c') :
    Stands k members config database known c' := by
  induction addresses generalizing c with
  | nil =>
      obtain ⟨-, -, rfl⟩ := Operation.runs_pure.mp h
      exact hstands
  | cons address rest ih =>
      obtain ⟨client, c₁, hclient, hrest⟩ := runs_clientsAt_cons h
      exact ih (hstands.at_client hclient).1 hrest

/-- A cluster that was connected to stands, if its hub is open still, and remembers nothing yet. -/
theorem stands_connect {seeds : List String} {batching : TransmitterConfig}
    (h : Runs others (connect seeds config batching) c log (.ok k) c')
    (hhub : (c'.hub c.hubs.length).transmitter.isOpen = true) (database : String) :
    ∃ members, Stands k members config database none c' := by
  rw [connect, Operation.runs_modifyGet_bind] at h
  rcases Operation.runs_bind.mp h with ⟨e, -, he⟩ | ⟨found, c₁, _, _, -, hfound, -⟩
  · cases he
  cases found with
  | none =>
      dsimp only at hfound
      rw [Operation.runs_modify_bind, Operation.runs_throw] at hfound
      cases hfound.2.1
  | some members =>
      dsimp only at hfound
      rw [Operation.runs_modifyGet_bind] at hfound
      rcases Operation.runs_bind.mp hfound with ⟨e, -, he⟩ | ⟨_, c₂, _, _, hclients, hend, -⟩
      · cases he
      obtain ⟨-, hk, rfl⟩ := Operation.runs_pure.mp hend
      cases hk
      rw [hub_clientsAt hclients] at hhub
      refine ⟨members, Stands.at_clients ⟨⟨?_, ?_, ?_⟩, ?_, ?_, ?_, ?_⟩ hclients⟩
      · simp
      · simpa [Connections.cluster, Connections.newHub] using hhub
      all_goals simp [Connections.cluster, Dict.get?, Dict.empty]

/-! ## §5  One member after the other -/

/-- A cluster that is closed goes no further. -/
theorem runs_ensureOpen_bind {α : Type} {next : Unit → Operation α} {result : Except Error α} :
    Runs others (ensureOpen k >>= next) c log result c' ↔
      if (c.cluster k).isOpen then Runs others (next ()) c log result c'
      else log = [] ∧ result = .error .clientClosed ∧ c' = c := by
  rw [ensureOpen, bind_assoc, Operation.runs_get_bind]
  by_cases hopen : (c.cluster k).isOpen
  · simp [hopen]
  · simp [hopen]

/-- Whether an answer is that nobody was there to give one. -/
def isUnreachable {α : Type} : Except Error α → Bool
  | .error (.unreachable _) => true
  | _ => false

theorem isUnreachable_iff {α : Type} {answer : Except Error α} :
    isUnreachable answer = true ↔ ∃ address, answer = .error (.unreachable address) := by
  rcases answer with (e | a)
  · cases e <;> simp [isUnreachable]
  · simp [isUnreachable]

section Members

variable {α β : Type} {task : Nat → Operation α} {member : String} {rest : List String}
  {result : Except Error α}

/-- A try at an address, whatever comes of it. -/
theorem runs_try {address : String} {next : Except Error α → Operation β}
    {result : Except Error β} :
    Runs others (clientAt k address >>= fun client => outcome (task client) >>= next) c log
        result c' ↔
      ∃ client c₁ front answer c₂ later, Runs others (clientAt k address) c [] (.ok client) c₁ ∧
        Runs others (task client) c₁ front answer c₂ ∧
        Runs others (next answer) c₂ later result c' ∧ log = front ++ later := by
  rw [clientAt, Operation.runs_modifyGet_bind, Operation.runs_bind]
  simp only [Operation.runs_outcome, Operation.runs_modifyGet, true_and]
  constructor
  · rintro (⟨e, ⟨_, -, h⟩, -⟩ | ⟨_, c₂, front, later, ⟨_, h, heq⟩, hnext, rfl⟩)
    · cases h
    · cases heq
      exact ⟨_, _, front, _, c₂, later, ⟨rfl, rfl⟩, h, hnext, rfl⟩
  · rintro ⟨_, _, front, answer, c₂, later, ⟨heq, rfl⟩, h, hnext, rfl⟩
    cases heq
    exact .inr ⟨answer, c₂, front, later, ⟨answer, h, rfl⟩, hnext, rfl⟩

theorem try_congr {address : String} {next next' : Except Error α → Operation β}
    (h : ∀ answer, next answer = next' answer) :
    (clientAt k address >>= fun client => outcome (task client) >>= next) =
      clientAt k address >>= fun client => outcome (task client) >>= next' := by
  rw [funext h]

theorem onMembers_cons :
    onMembers k task (member :: rest) =
      clientAt k member >>= fun client => outcome (task client) >>= fun answer =>
        if isUnreachable answer then onMembers k task rest else ofOutcome answer := by
  rw [onMembers]
  refine try_congr fun answer => ?_
  rcases answer with (e | a)
  · cases e <;> rfl
  · rfl

/-- A member that is there settles the task; one that is not leaves it to the next. -/
theorem runs_onMembers_cons :
    Runs others (onMembers k task (member :: rest)) c log result c' ↔
      ∃ client c₁ front answer c₂ later, Runs others (clientAt k member) c [] (.ok client) c₁ ∧
        Runs others (task client) c₁ front answer c₂ ∧
        (if isUnreachable answer then Runs others (onMembers k task rest) c₂ later result c'
          else later = [] ∧ result = answer ∧ c' = c₂) ∧ log = front ++ later := by
  rw [onMembers_cons, runs_try]
  refine exists_congr fun client => exists_congr fun c₁ => exists_congr fun front =>
    exists_congr fun answer => exists_congr fun c₂ => exists_congr fun later => ?_
  split <;> simp only [Operation.runs_ofOutcome]

end Members

/-! ## §6  Fetching replicas -/

/-- What is told of a database by a reply. -/
def told (database : String) : Except Error UnaryResponse → Except Error DatabaseReplicas
  | .ok (.replicas replicas) => .ok ⟨database, replicas⟩
  | .ok other => .error (.protocol (.unexpected "replicas" (describe other)))
  | .error e => .error e

/-- The wait for what a member tells of a database. -/
def asks (member database : String) (reply : Except Error UnaryResponse) : Event :=
  ⟨.call member (.databaseReplicas database), reply⟩

/-- Members are asked one after the other, as long as nobody is there; the first one that is there
settles the answer. -/
inductive Asked (database : String) :
    List String → List Event → Except Error DatabaseReplicas → Prop
  | nobody : Asked database [] [] (.error .clusterUnavailable)
  | unreachable {member : String} {rest : List String} {reply : Except Error UnaryResponse}
      {log : List Event} {answer : Except Error DatabaseReplicas}
      (hreply : isUnreachable reply = true) (h : Asked database rest log answer) :
      Asked database (member :: rest) (asks member database reply :: log) answer
  | settled {member : String} {rest : List String} {reply : Except Error UnaryResponse}
      (hreply : isUnreachable reply = false) :
      Asked database (member :: rest) [asks member database reply] (told database reply)

/-- Asks one member for the replicas of a database. -/
def askReplicas (k : Nat) (database : String) (client : Nat) : Operation DatabaseReplicas := do
  let replicas ←
    expect "replicas" (fun | .replicas replicas => some replicas | _ => none)
      (← call client (.databaseReplicas database))
  let found : DatabaseReplicas := ⟨database, replicas⟩
  modify (keep k database (.ok found))
  return found

theorem fetchReplicas_eq : fetchReplicas k database = runAnyMember k (askReplicas k database) := rfl

theorem told_eq {reply : Except Error UnaryResponse} :
    told database reply =
      (reply.bind (taken "replicas" fun | .replicas replicas => some replicas | _ => none)).map
        (DatabaseReplicas.mk database) := by
  rcases reply with (e | response)
  · rfl
  · cases response <;> rfl

/-- One member answers, and the answer is remembered. -/
theorem runs_askReplicas {client : Nat} (hopen : c.clientIsOpen client = true)
    {answer : Except Error DatabaseReplicas}
    (h : Runs others (askReplicas k database client) c log answer c') :
    ∃ reply c₁, others c c₁ ∧ log = [asks (c.client client).address database reply] ∧
      answer = told database reply ∧ c' = keep k database answer c₁ := by
  have hkeep (found : DatabaseReplicas) {c : Connections} {log : List Event} :
      Runs others (do modify (keep k database (.ok found)); return found) c log answer c' ↔
        log = [] ∧ answer = .ok found ∧ c' = keep k database (.ok found) c := by
    rw [Operation.runs_modify_bind, Operation.runs_pure]
  rw [askReplicas, ← bind_assoc, Operation.runs_bind] at h
  simp only [Operation.runs_call_expect, hkeep, if_pos hopen] at h
  rcases h with ⟨e, ⟨hmoved, reply, rfl, he⟩, rfl⟩ |
    ⟨replicas, c₁, _, _, ⟨hmoved, reply, rfl, he⟩, ⟨rfl, rfl, rfl⟩, rfl⟩
  · exact ⟨reply, c', hmoved, rfl, by rw [told_eq, ← he]; rfl, rfl⟩
  · exact ⟨reply, c₁, hmoved, rfl, by rw [told_eq, ← he]; rfl, rfl⟩

theorem isUnreachable_told {reply : Except Error UnaryResponse} :
    isUnreachable (told database reply) = isUnreachable reply := by
  rcases reply with (e | response)
  · cases e <;> rfl
  · cases response <;> rfl

/-- A fetch asks the members one after the other, and what it comes to is remembered. -/
theorem Stands.fetched (hstands : Stands k members config database known c)
    {answer : Except Error DatabaseReplicas}
    (h : Runs (Undisturbed k) (fetchReplicas k database) c log answer c') :
    Asked database members log answer ∧
      Stands k members config database (remember known answer) c' := by
  rw [fetchReplicas_eq, runAnyMember, runs_ensureOpen_bind, if_pos hstands.isOpen,
    Operation.runs_get_bind, hstands.members_eq] at h
  -- the members that are left to ask are any, while the cluster has all of them
  suffices hfrom : ∀ rest c log, Stands k members config database known c →
      Runs (Undisturbed k) (onMembers k (askReplicas k database) rest) c log answer c' →
      Asked database rest log answer ∧
        Stands k members config database (remember known answer) c' from
    hfrom members c log hstands h
  intro rest
  induction rest with
  | nil =>
      intro c log hstands h
      obtain ⟨rfl, rfl, rfl⟩ := Operation.runs_throw.mp h
      exact ⟨.nobody, hstands⟩
  | cons member rest ih =>
      intro c log hstands h
      obtain ⟨client, c₁, front, given, c₂, later, hclient, hask, hgo, rfl⟩ :=
        runs_onMembers_cons.mp h
      obtain ⟨hthere, hserves⟩ := hstands.at_client hclient
      obtain ⟨reply, c₃, hquiet, rfl, rfl, rfl⟩ := runs_askReplicas hserves.isOpen hask
      have hkept := (hthere.of_undisturbed hquiet).kept (told database reply)
      rw [isUnreachable_told] at hgo
      rw [hserves.address_eq]
      cases hreply : isUnreachable reply with
      | true =>
          rw [if_pos hreply] at hgo
          obtain ⟨address, rfl⟩ := isUnreachable_iff.mp hreply
          obtain ⟨hasked, hafter⟩ := ih c₃ later hkept hgo
          exact ⟨.unreachable hreply hasked, hafter⟩
      | false =>
          rw [hreply] at hgo
          obtain ⟨rfl, rfl, rfl⟩ := hgo
          exact ⟨.settled hreply, hkept⟩

/-! ## §7  Searching for the primary replica -/

/-- A fetch that is over: what was waited for, and what it came to. -/
structure Fetch where
  log : List Event
  answer : Except Error DatabaseReplicas

/-- What a fetch settles for a search. A failure ends it, a primary replica is what was searched
for, and replicas of which none claims to be primary settle nothing. -/
def Fetch.settles (f : Fetch) : Option (Except Error ReplicaInfo) :=
  match f.answer with
  | .ok found => found.primary.map .ok
  | .error e => some (.error e)

/-- The waits of a search: those of its fetches, and a pause before each but the first. -/
def searchLog (wait : Nat) : (first : Bool) → List Fetch → List Event
  | _, [] => []
  | first, f :: rest =>
    (if first then [] else [⟨.pause wait, ()⟩]) ++ f.log ++ searchLog wait false rest

/-- What is remembered of a database after some fetches: the last answer that was no failure. -/
def remembered (known : Option DatabaseReplicas) (fetches : List Fetch) : Option DatabaseReplicas :=
  fetches.foldl (fun known f => remember known f.answer) known

/-- A search for the primary replica of a database: what it fetched and what it found. It goes on
until a fetch settles it, or it has made all fetches it may. -/
structure IsSearch (database : String) (members : List String) (limit : Nat)
    (fetches : List Fetch) (found : Except Error ReplicaInfo) : Prop where
  asked : ∀ f ∈ fetches, Asked database members f.log f.answer
  bounded : fetches.length ≤ limit
  fruitless : ∀ f ∈ fetches.dropLast, f.settles = none
  patient : (∀ f ∈ fetches, f.settles = none) → fetches.length = limit
  found_eq : found = (fetches.findSome? Fetch.settles).getD (.error .clusterUnavailable)

namespace IsSearch

variable {limit : Nat} {f : Fetch} {fetches : List Fetch} {found : Except Error ReplicaInfo}

theorem spent : IsSearch database members 0 [] (.error .clusterUnavailable) where
  asked := by simp
  bounded := Nat.le_refl 0
  fruitless := by simp
  patient _ := rfl
  found_eq := rfl

theorem last (hasked : Asked database members f.log f.answer) (hsettles : f.settles = some found) :
    IsSearch database members (limit + 1) [f] found where
  asked := by simpa using hasked
  bounded := by simp
  fruitless := by simp
  patient h := by simp [hsettles] at h
  found_eq := by simp [hsettles]

theorem more (hasked : Asked database members f.log f.answer) (hsettles : f.settles = none)
    (h : IsSearch database members limit fetches found) :
    IsSearch database members (limit + 1) (f :: fetches) found where
  asked := List.forall_mem_cons.mpr ⟨hasked, h.asked⟩
  bounded := Nat.succ_le_succ h.bounded
  fruitless := by
    intro g hg
    cases fetches with
    | nil => cases hg
    | cons g' rest =>
        rcases List.mem_cons.mp hg with rfl | hg
        · exact hsettles
        · exact h.fruitless g hg
  patient hall := by
    rw [List.length_cons, h.patient (List.forall_mem_cons.mp hall).2]
  found_eq := by rw [List.findSome?_cons, hsettles]; exact h.found_eq

/-- What a search finds is the primary replica of what is remembered after it. -/
theorem primary_remembered {p : ReplicaInfo} (h : IsSearch database members limit fetches (.ok p)) :
    ∃ d, remembered known fetches = some d ∧ d.primary = some p := by
  have hfound : fetches.findSome? Fetch.settles = some (.ok p) := by
    have heq := h.found_eq
    cases hsome : fetches.findSome? Fetch.settles with
    | none => simp [hsome] at heq
    | some found => simpa [hsome] using heq.symm
  obtain ⟨earlier, f, later, rfl, hsettles, -⟩ := List.findSome?_eq_some_iff.mp hfound
  have hlast : later = [] := by
    cases later with
    | nil => rfl
    | cons g later =>
        have hmem : f ∈ (earlier ++ f :: g :: later).dropLast := by
          rw [List.dropLast_append_of_ne_nil (List.cons_ne_nil f _)]
          simp
        simp [h.fruitless f hmem] at hsettles
  subst hlast
  unfold Fetch.settles at hsettles
  cases hanswer : f.answer with
  | error e => simp [hanswer] at hsettles
  | ok d =>
      refine ⟨d, ?_, by simpa [hanswer] using hsettles⟩
      simp [remembered, hanswer, remember]

end IsSearch

/-- The pause before a fetch, unless it is the first. -/
def pauseBefore (k : Nat) (first : Bool) : Operation Unit := do
  unless first do pause ((← get).cluster k).config.waitForPrimarySelection.millis

theorem seekPrimaryWithin_succ {fetches : Nat} {first : Bool} :
    seekPrimaryWithin k database (fetches + 1) first =
      pauseBefore k first >>= fun _ => Cluster.fetchReplicas k database >>= fun found =>
        match found.primary with
        | some primary => return primary
        | none => seekPrimaryWithin k database fetches false := by
  rw [seekPrimaryWithin]
  cases first <;> rfl

theorem Stands.paused (hstands : Stands k members config database known c) {first : Bool}
    {result : Except Error Unit}
    (h : Runs (Undisturbed k) (pauseBefore k first) c log result c') :
    result = .ok () ∧
      log = (if first then [] else [⟨.pause config.waitForPrimarySelection.millis, ()⟩]) ∧
      Stands k members config database known c' := by
  cases first with
  | true =>
      obtain ⟨rfl, rfl, rfl⟩ := Operation.runs_pure.mp h
      exact ⟨rfl, rfl, hstands⟩
  | false =>
      obtain ⟨hquiet, rfl, rfl⟩ := Operation.runs_pause.mp (Operation.runs_get_bind.mp h)
      rw [hstands.config_eq]
      exact ⟨rfl, rfl, hstands.of_undisturbed hquiet⟩

/-- A search makes fetches, and what they tell is remembered. -/
theorem Stands.searched_within (hstands : Stands k members config database known c) {fetches : Nat}
    {first : Bool} {found : Except Error ReplicaInfo}
    (h : Runs (Undisturbed k) (seekPrimaryWithin k database fetches first) c log found c') :
    ∃ made, IsSearch database members fetches made found ∧
      log = searchLog config.waitForPrimarySelection.millis first made ∧
      Stands k members config database (remembered known made) c' := by
  induction fetches generalizing known c log first with
  | zero =>
      obtain ⟨rfl, rfl, rfl⟩ := Operation.runs_throw.mp h
      exact ⟨[], .spent, rfl, hstands⟩
  | succ fetches ih =>
      rw [seekPrimaryWithin_succ, Operation.runs_bind] at h
      rcases h with ⟨e, hpause, -⟩ | ⟨_, c₁, start, _, hpause, h, rfl⟩
      · cases (hstands.paused hpause).1
      obtain ⟨-, rfl, hready⟩ := hstands.paused hpause
      rcases Operation.runs_bind.mp h with
        ⟨e, hfetch, rfl⟩ | ⟨d, c₂, front, later, hfetch, hgo, rfl⟩
      · obtain ⟨hasked, hafter⟩ := hready.fetched hfetch
        exact ⟨[⟨_, .error e⟩], .last hasked rfl, by simp [searchLog], hafter⟩
      · obtain ⟨hasked, hafter⟩ := hready.fetched hfetch
        cases hprimary : d.primary with
        | some p =>
            rw [hprimary] at hgo
            obtain ⟨rfl, rfl, rfl⟩ := Operation.runs_pure.mp hgo
            have hsettles : Fetch.settles ⟨front, .ok d⟩ = some (.ok p) := by
              simp [Fetch.settles, hprimary]
            exact ⟨[⟨front, .ok d⟩], .last hasked hsettles, by simp [searchLog], hafter⟩
        | none =>
            rw [hprimary] at hgo
            obtain ⟨made, hsearch, rfl, hend⟩ := ih hafter hgo
            have hsettles : Fetch.settles ⟨front, .ok d⟩ = none := by
              simp [Fetch.settles, hprimary]
            exact ⟨⟨front, .ok d⟩ :: made, .more hasked hsettles hsearch, by simp [searchLog], hend⟩

/-- What a search comes to. -/
theorem Stands.searched (hstands : Stands k members config database known c)
    {found : Except Error ReplicaInfo}
    (h : Runs (Undisturbed k) (seekPrimary k database) c log found c') :
    ∃ made, IsSearch database members config.fetchReplicasMaxRetries.toNat made found ∧
      log = searchLog config.waitForPrimarySelection.millis true made ∧
      Stands k members config database (remembered known made) c' := by
  rw [seekPrimary, Operation.runs_get_bind, hstands.config_eq] at h
  exact hstands.searched_within h

end Cluster

end GraphDriver
