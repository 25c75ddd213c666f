import GraphDriver.Client.Session
import GraphDriver.Cluster.Session
import GraphDriver.Proofs.Stream.Evolution

/-!
# How connections evolve

What stays true of all connections whatever anybody does with them. A client stays over its hub, a
session over its client, a session of a cluster with its cluster, and the sessions at replicas that
it uses are over the hub of the cluster; what was closed together with its hub finds that hub shut.

* §1 who is over which hub
* §2 sane connections
* §3 later states
* §4 one thing is changed or added
* §5 holding and letting go
* §6 making and closing
-/

namespace GraphDriver

namespace Dict

variable {α : Type} {d : Dict α} {key : String} {value a : α}

theorem mem_insertEntry_iff {l : List (String × α)} {e : String × α}
    (h : e ∈ insertEntry key value l) : e = (key, value) ∨ e ∈ l := by
  induction l with
  | nil => exact .inl (List.mem_singleton.mp h)
  | cons first rest ih =>
      obtain ⟨k, v⟩ := first
      unfold insertEntry at h
      split at h
      · exact List.mem_cons.mp h
      · split at h
        · exact (List.mem_cons.mp h).imp_right (List.mem_cons_of_mem _)
        · rcases List.mem_cons.mp h with rfl | h
          · exact .inr List.mem_cons_self
          · exact (ih h).imp_right (List.mem_cons_of_mem _)

theorem mem_values_insert (h : a ∈ (d.insert key value).values) : a = value ∨ a ∈ d.values := by
  obtain ⟨e, he, rfl⟩ := List.mem_map.mp h
  rcases mem_insertEntry_iff he with rfl | he
  · exact .inl rfl
  · exact .inr (List.mem_map_of_mem he)

theorem mem_values_of_get? (h : d.get? key = some a) : a ∈ d.values := by
  obtain ⟨e, he, rfl⟩ := Option.map_eq_some_iff.mp h
  exact List.mem_map_of_mem (List.mem_of_find?_eq_some he)

end Dict

namespace Connections

/-! ## §1  Who is over which hub -/

/-- The transmitter of a hub is closed. -/
def Shut (c : Connections) (h : Nat) : Prop := (c.hub h).transmitter.isOpen = false

def ClientOn (c : Connections) (h i : Nat) : Prop := i < c.clients.length ∧ (c.client i).hub = h

def SessionOn (c : Connections) (h s : Nat) : Prop :=
  s < c.sessions.length ∧ c.ClientOn h (c.session s).client

def ClusterOn (c : Connections) (h k : Nat) : Prop := k < c.clusters.length ∧ (c.cluster k).hub = h

def ClusterSessionOn (c : Connections) (h s : Nat) : Prop :=
  s < c.clusterSessions.length ∧ c.ClusterOn h (c.clusterSession s).cluster

/-- The stream of a transaction was opened. -/
def TransactionOn (c : Connections) (h : Nat) (t : Transaction) : Prop :=
  t.hub = h ∧ h < c.hubs.length ∧ t.stream < (c.hub h).streams.length

/-! ## §2  Sane connections -/

/-- A client is over a hub, and its own is shut when the client is closed. -/
def FitsClient (c : Connections) (x : Client) : Prop :=
  x.hub < c.hubs.length ∧ (x.isOpen = false → x.ownsHub = true → c.Shut x.hub)

def FitsSession (c : Connections) (x : Session) : Prop := x.client < c.clients.length

/-- The clients of a cluster are over its hub, which is shut when the cluster is closed. -/
def FitsCluster (c : Connections) (x : Cluster) : Prop :=
  x.hub < c.hubs.length ∧ (∀ i ∈ x.clients.values, c.ClientOn x.hub i) ∧
    (x.isOpen = false → c.Shut x.hub)

/-- The session at a replica is over the hub of the cluster. -/
def FitsClusterSession (c : Connections) (x : ClusterSession) : Prop :=
  x.cluster < c.clusters.length ∧ c.SessionOn (c.cluster x.cluster).hub x.current

/-- What is named is there, and over the hub that it should be over. -/
structure Sane (c : Connections) : Prop where
  hub : ∀ h < c.hubs.length, (c.hub h).Sane
  client : ∀ i < c.clients.length, c.FitsClient (c.client i)
  session : ∀ s < c.sessions.length, c.FitsSession (c.session s)
  cluster : ∀ k < c.clusters.length, c.FitsCluster (c.cluster k)
  clusterSession : ∀ s < c.clusterSessions.length, c.FitsClusterSession (c.clusterSession s)

/-! ## §3  Later states -/

/-- What stays where it is from one state to a later one. -/
structure Extends (c c' : Connections) : Prop where
  hub : ∀ h < c.hubs.length, h < c'.hubs.length ∧ (c.hub h).Evolves (c'.hub h)
  client : ∀ i < c.clients.length, i < c'.clients.length ∧ (c'.client i).hub = (c.client i).hub
  session : ∀ s < c.sessions.length,
    s < c'.sessions.length ∧ (c'.session s).client = (c.session s).client
  cluster : ∀ k < c.clusters.length, k < c'.clusters.length ∧
    (c'.cluster k).hub = (c.cluster k).hub ∧
    ((c.cluster k).isOpen = false → (c'.cluster k).isOpen = false)
  clusterSession : ∀ s < c.clusterSessions.length, s < c'.clusterSessions.length ∧
    (c'.clusterSession s).cluster = (c.clusterSession s).cluster

/-- A later state of all connections. -/
structure Evolves (c c' : Connections) : Prop extends Extends c c' where
  sane : c'.Sane

variable {c c' c'' : Connections} {h i k s : Nat} {t : Transaction}

theorem Sane.sessionOn (hc : c.Sane) (hs : s < c.sessions.length) :
    c.SessionOn (c.client (c.session s).client).hub s :=
  ⟨hs, hc.session s hs, rfl⟩

theorem Sane.clusterSessionOn (hc : c.Sane) (hs : s < c.clusterSessions.length) :
    c.ClusterSessionOn (c.cluster (c.clusterSession s).cluster).hub s :=
  ⟨hs, (hc.clusterSession s hs).1, rfl⟩

theorem lt_of_shut (hshut : c.Shut h) : h < c.hubs.length := by
  by_contra hh
  rw [Shut, hub, List.getD_eq_default _ _ (Nat.not_lt.mp hh)] at hshut
  exact absurd hshut (by decide)

theorem Extends.shut (h₁ : c.Extends c') (hshut : c.Shut h) : c'.Shut h :=
  ((h₁.hub h (lt_of_shut hshut)).2.transmitter.shut hshut).1

theorem Extends.clientOn (h₁ : c.Extends c') (hi : c.ClientOn h i) : c'.ClientOn h i := by
  obtain ⟨hlt, hhub⟩ := h₁.client i hi.1
  exact ⟨hlt, hhub.trans hi.2⟩

theorem Extends.sessionOn (h₁ : c.Extends c') (hs : c.SessionOn h s) : c'.SessionOn h s := by
  obtain ⟨hlt, hclient⟩ := h₁.session s hs.1
  exact ⟨hlt, hclient ▸ h₁.clientOn hs.2⟩

theorem Extends.clusterOn (h₁ : c.Extends c') (hk : c.ClusterOn h k) : c'.ClusterOn h k := by
  obtain ⟨hlt, hhub, -⟩ := h₁.cluster k hk.1
  exact ⟨hlt, hhub.trans hk.2⟩

theorem Extends.clusterSessionOn (h₁ : c.Extends c') (hs : c.ClusterSessionOn h s) :
    c'.ClusterSessionOn h s := by
  obtain ⟨hlt, hcluster⟩ := h₁.clusterSession s hs.1
  exact ⟨hlt, hcluster ▸ h₁.clusterOn hs.2⟩

theorem Extends.transactionOn (h₁ : c.Extends c') (ht : c.TransactionOn h t) :
    c'.TransactionOn h t := by
  obtain ⟨hhub, hlt, hstream⟩ := ht
  obtain ⟨hlt', hevolves⟩ := h₁.hub h hlt
  exact ⟨hhub, hlt', Nat.lt_of_lt_of_le hstream hevolves.length_le⟩

theorem Extends.fitsClient (h₁ : c.Extends c') {x : Client} (hx : c.FitsClient x) :
    c'.FitsClient x :=
  ⟨(h₁.hub _ hx.1).1, fun hclosed howns => h₁.shut (hx.2 hclosed howns)⟩

theorem Extends.fitsSession (h₁ : c.Extends c') {x : Session} (hx : c.FitsSession x) :
    c'.FitsSession x :=
  (h₁.client _ hx).1

theorem Extends.fitsCluster (h₁ : c.Extends c') {x : Cluster} (hx : c.FitsCluster x) :
    c'.FitsCluster x := by
  obtain ⟨hlt, hclients, hclosed⟩ := hx
  exact ⟨(h₁.hub _ hlt).1, fun i hi => h₁.clientOn (hclients i hi), fun h => h₁.shut (hclosed h)⟩

theorem Extends.fitsClusterSession (h₁ : c.Extends c') {x : ClusterSession}
    (hx : c.FitsClusterSession x) : c'.FitsClusterSession x := by
  obtain ⟨hlt, hcurrent⟩ := hx
  obtain ⟨hlt', hhub, -⟩ := h₁.cluster _ hlt
  exact ⟨hlt', hhub ▸ h₁.sessionOn hcurrent⟩

theorem Extends.refl (hc : c.Sane) : c.Extends c where
  hub h hh := ⟨hh, .refl (hc.hub h hh)⟩
  client _ hi := ⟨hi, rfl⟩
  session _ hs := ⟨hs, rfl⟩
  cluster _ hk := ⟨hk, rfl, id⟩
  clusterSession _ hs := ⟨hs, rfl⟩

theorem Extends.trans (h₁ : c.Extends c') (h₂ : c'.Extends c'') : c.Extends c'' where
  hub h hh := by
    obtain ⟨hlt, hevolves⟩ := h₁.hub h hh
    obtain ⟨hlt', hevolves'⟩ := h₂.hub h hlt
    exact ⟨hlt', hevolves.trans hevolves'⟩
  client i hi := h₂.clientOn (h₁.clientOn ⟨hi, rfl⟩)
  session s hs := by
    obtain ⟨hlt, hsame⟩ := h₁.session s hs
    obtain ⟨hlt', hsame'⟩ := h₂.session s hlt
    exact ⟨hlt', hsame'.trans hsame⟩
  cluster k hk := by
    obtain ⟨hlt, hsame, hclosed⟩ := h₁.cluster k hk
    obtain ⟨hlt', hsame', hclosed'⟩ := h₂.cluster k hlt
    exact ⟨hlt', hsame'.trans hsame, fun h => hclosed' (hclosed h)⟩
  clusterSession s hs := by
    obtain ⟨hlt, hsame⟩ := h₁.clusterSession s hs
    obtain ⟨hlt', hsame'⟩ := h₂.clusterSession s hlt
    exact ⟨hlt', hsame'.trans hsame⟩

theorem Evolves.refl (hc : c.Sane) : c.Evolves c := ⟨.refl hc, hc⟩

theorem Evolves.trans (h₁ : c.Evolves c') (h₂ : c'.Evolves c'') : c.Evolves c'' :=
  ⟨h₁.toExtends.trans h₂.toExtends, h₂.sane⟩

/-- A later state is sane if all that is new in it fits. -/
theorem Sane.evolves (hc : c.Sane) (hextends : c.Extends c')
    (hhub : ∀ h < c'.hubs.length, h < c.hubs.length ∨ (c'.hub h).Sane)
    (hclient : ∀ i < c'.clients.length,
      (i < c.clients.length ∧ c'.client i = c.client i) ∨ c'.FitsClient (c'.client i))
    (hsession : ∀ s < c'.sessions.length,
      (s < c.sessions.length ∧ c'.session s = c.session s) ∨ c'.FitsSession (c'.session s))
    (hcluster : ∀ k < c'.clusters.length,
      (k < c.clusters.length ∧ c'.cluster k = c.cluster k) ∨ c'.FitsCluster (c'.cluster k))
    (hclusterSession : ∀ s < c'.clusterSessions.length,
      (s < c.clusterSessions.length ∧ c'.clusterSession s = c.clusterSession s) ∨
        c'.FitsClusterSession (c'.clusterSession s)) :
    c.Evolves c' := by
  refine ⟨hextends, ?_, ?_, ?_, ?_, ?_⟩
  · intro h hh
    rcases hhub h hh with hold | hnew
    · exact (hextends.hub h hold).2.sane
    · exact hnew
  · intro i hi
    rcases hclient i hi with ⟨hold, heq⟩ | hnew
    · exact heq ▸ hextends.fitsClient (hc.client i hold)
    · exact hnew
  · intro s hs
    rcases hsession s hs with ⟨hold, heq⟩ | hnew
    · exact heq ▸ hextends.fitsSession (hc.session s hold)
    · exact hnew
  · intro k hk
    rcases hcluster k hk with ⟨hold, heq⟩ | hnew
    · exact heq ▸ hextends.fitsCluster (hc.cluster k hold)
    · exact hnew
  · intro s hs
    rcases hclusterSession s hs with ⟨hold, heq⟩ | hnew
    · exact heq ▸ hextends.fitsClusterSession (hc.clusterSession s hold)
    · exact hnew

/-! ## §4  One thing is changed or added -/

end Connections

/-- A list becomes another: whatever is in it goes on in its place as `goesOn` says, and what is not
the same as before fits. -/
structure Renews {α : Type} (goesOn : α → α → Prop) (fits : α → Prop) (a : α) (l l' : List α) :
    Prop where
  kept : ∀ i < l.length, i < l'.length ∧ goesOn (l.getD i a) (l'.getD i a)
  fresh : ∀ i < l'.length, (i < l.length ∧ l'.getD i a = l.getD i a) ∨ fits (l'.getD i a)

section Renewing

variable {α : Type} {goesOn : α → α → Prop} {fits : α → Prop} {a x : α} {l : List α}

theorem renews_modify (hrefl : ∀ x, goesOn x x) {i : Nat} {f : α → α}
    (hf : i < l.length → goesOn (l.getD i a) (f (l.getD i a)) ∧ fits (f (l.getD i a))) :
    Renews goesOn fits a l (l.modify i f) := by
  have hself : ∀ j < l.length, (l.modify i f).getD j a = l.getD j a ∨
      j = i ∧ (l.modify i f).getD j a = f (l.getD i a) := by
    intro j hj
    rw [Transmitter.getD_modify]
    split
    · rename_i hji
      exact .inr ⟨hji.1, by rw [hji.1]⟩
    · exact .inl rfl
  constructor
  · intro j hj
    refine ⟨by rwa [List.length_modify], ?_⟩
    rcases hself j hj with heq | ⟨rfl, heq⟩
    · rw [heq]
      exact hrefl _
    · rw [heq]
      exact (hf hj).1
  · intro j hj
    rw [List.length_modify] at hj
    rcases hself j hj with heq | ⟨rfl, heq⟩
    · exact .inl ⟨hj, heq⟩
    · rw [heq]
      exact .inr (hf hj).2

theorem renews_concat (hrefl : ∀ x, goesOn x x) (hx : fits x) :
    Renews goesOn fits a l (l ++ [x]) := by
  have hlength : (l ++ [x]).length = l.length + 1 := List.length_append
  constructor
  · intro j hj
    refine ⟨by omega, ?_⟩
    rw [Transmitter.getD_append_one, if_neg (Nat.ne_of_lt hj)]
    exact hrefl _
  · intro j hj
    rw [Transmitter.getD_append_one]
    split
    · exact .inr hx
    · exact .inl ⟨by omega, rfl⟩

theorem length_lt_concat (l : List α) (x : α) : l.length < (l ++ [x]).length := by
  rw [List.length_append]
  exact Nat.lt_succ_self _

theorem getD_concat_length (l : List α) (x a : α) : (l ++ [x]).getD l.length a = x := by
  rw [Transmitter.getD_append_one, if_pos rfl]

end Renewing

namespace Connections

variable {c c' : Connections} {h i k s : Nat}

/-- The clock, or the farewells that are due: nothing else is changed. -/
theorem Sane.evolves_same (hc : c.Sane) (hhubs : c'.hubs = c.hubs)
    (hclients : c'.clients = c.clients)
    (hsessions : c'.sessions = c.sessions) (hclusters : c'.clusters = c.clusters)
    (hclusterSessions : c'.clusterSessions = c.clusterSessions) : c.Evolves c' := by
  obtain ⟨now, wallClock, hubs, clients, sessions, clusters, clusterSessions, farewells⟩ := c'
  subst hhubs hclients hsessions hclusters hclusterSessions
  refine hc.evolves ⟨?_, ?_, ?_, ?_, ?_⟩ (fun _ hh => .inl hh) (fun _ hi => .inl ⟨hi, rfl⟩)
    (fun _ hs => .inl ⟨hs, rfl⟩) (fun _ hk => .inl ⟨hk, rfl⟩) (fun _ hs => .inl ⟨hs, rfl⟩)
  · exact (Extends.refl hc).hub
  · exact (Extends.refl hc).client
  · exact (Extends.refl hc).session
  · exact (Extends.refl hc).cluster
  · exact (Extends.refl hc).clusterSession

theorem Sane.evolves_hubs (hc : c.Sane) {hubs : List SharedHub}
    (hkept : ∀ h < c.hubs.length,
      h < hubs.length ∧ (c.hub h).Evolves (hubs.getD h default).hub)
    (hfresh : ∀ h < hubs.length, h < c.hubs.length ∨ (hubs.getD h default).hub.Sane) :
    c.Evolves { c with hubs } :=
  hc.evolves { Extends.refl hc with hub := hkept } hfresh (fun _ hi => .inl ⟨hi, rfl⟩)
    (fun _ hs => .inl ⟨hs, rfl⟩) (fun _ hk => .inl ⟨hk, rfl⟩) (fun _ hs => .inl ⟨hs, rfl⟩)

theorem Sane.evolves_clients (hc : c.Sane) {clients : List Client}
    (hrenews : Renews (fun x y => y.hub = x.hub) c.FitsClient default c.clients clients) :
    c.Evolves { c with clients } :=
  hc.evolves { Extends.refl hc with client := hrenews.kept } (fun _ hh => .inl hh) hrenews.fresh
    (fun _ hs => .inl ⟨hs, rfl⟩) (fun _ hk => .inl ⟨hk, rfl⟩) (fun _ hs => .inl ⟨hs, rfl⟩)

theorem Sane.evolves_sessions (hc : c.Sane) {sessions : List Session}
    (hrenews : Renews (fun x y => y.client = x.client) c.FitsSession default c.sessions sessions) :
    c.Evolves { c with sessions } :=
  hc.evolves { Extends.refl hc with session := hrenews.kept } (fun _ hh => .inl hh)
    (fun _ hi => .inl ⟨hi, rfl⟩) hrenews.fresh (fun _ hk => .inl ⟨hk, rfl⟩)
    (fun _ hs => .inl ⟨hs, rfl⟩)

theorem Sane.evolves_clusters (hc : c.Sane) {clusters : List Cluster}
    (hrenews : Renews
      (fun x y => y.hub = x.hub ∧ (x.isOpen = false → y.isOpen = false)) c.FitsCluster default
      c.clusters clusters) :
    c.Evolves { c with clusters } :=
  hc.evolves { Extends.refl hc with cluster := hrenews.kept } (fun _ hh => .inl hh)
    (fun _ hi => .inl ⟨hi, rfl⟩) (fun _ hs => .inl ⟨hs, rfl⟩) hrenews.fresh
    (fun _ hs => .inl ⟨hs, rfl⟩)

theorem Sane.evolves_clusterSessions (hc : c.Sane) {clusterSessions : List ClusterSession}
    (hrenews : Renews (fun x y => y.cluster = x.cluster) c.FitsClusterSession default
      c.clusterSessions clusterSessions) :
    c.Evolves { c with clusterSessions } :=
  hc.evolves { Extends.refl hc with clusterSession := hrenews.kept } (fun _ hh => .inl hh)
    (fun _ hi => .inl ⟨hi, rfl⟩) (fun _ hs => .inl ⟨hs, rfl⟩) (fun _ hk => .inl ⟨hk, rfl⟩)
    hrenews.fresh

/-! ### One of them -/

theorem hub_modifyHub (hh : h < c.hubs.length) (f : Hub → Hub) :
    (c.modifyHub h f).hub h = f (c.hub h) := by
  rw [hub, modifyHub, Transmitter.getD_modify, if_pos ⟨rfl, hh⟩]
  rfl

theorem evolves_changeHub (hc : c.Sane) (h : Nat) {g : SharedHub → SharedHub}
    (hg : h < c.hubs.length → (c.hub h).Evolves (g (c.hubs.getD h default)).hub) :
    c.Evolves { c with hubs := c.hubs.modify h g } := by
  have hevolves : ∀ j < c.hubs.length,
      (c.hub j).Evolves ((c.hubs.modify h g).getD j default).hub := by
    intro j hj
    rw [Transmitter.getD_modify]
    split
    · rename_i hjh
      obtain ⟨rfl, hlt⟩ := hjh
      exact hg hlt
    · exact .refl (hc.hub j hj)
  refine hc.evolves_hubs (fun j hj => ?_) (fun j hj => .inl ?_)
  · exact ⟨by rwa [List.length_modify], hevolves j hj⟩
  · rwa [List.length_modify] at hj

theorem evolves_modifyHub (hc : c.Sane) (h : Nat) {f : Hub → Hub}
    (hf : h < c.hubs.length → (c.hub h).Evolves (f (c.hub h))) : c.Evolves (c.modifyHub h f) :=
  evolves_changeHub hc h hf

theorem evolves_onHub {α : Type} (hc : c.Sane) (h : Nat) {f : Hub → α × Hub}
    (hf : h < c.hubs.length → (c.hub h).Evolves (f (c.hub h)).2) : c.Evolves (c.onHub h f).2 :=
  evolves_modifyHub (f := fun _ => (f (c.hub h)).2) hc h hf

/-- Whoever holds a hub, it is the same hub. -/
theorem evolves_holders (hc : c.Sane) (h : Nat) {g : SharedHub → SharedHub}
    (hg : ∀ x, (g x).hub = x.hub) : c.Evolves { c with hubs := c.hubs.modify h g } := by
  refine evolves_changeHub hc h fun hh => ?_
  rw [hg]
  exact .refl (hc.hub h hh)

theorem evolves_addHub (hc : c.Sane) {x : SharedHub} (hx : x.hub.Sane) :
    c.Evolves { c with hubs := c.hubs ++ [x] } := by
  have hold : ∀ j < c.hubs.length, (c.hubs ++ [x]).getD j default = c.hubs.getD j default :=
    fun j hj => by rw [Transmitter.getD_append_one, if_neg (Nat.ne_of_lt hj)]
  refine hc.evolves_hubs (fun j hj => ?_) (fun j hj => ?_)
  · refine ⟨by rw [List.length_append]; omega, ?_⟩
    rw [hold j hj]
    exact .refl (hc.hub j hj)
  · rw [Transmitter.getD_append_one]
    split
    · exact .inr hx
    · rw [List.length_append, List.length_singleton] at hj
      exact .inl (by omega)

theorem evolves_modifyClient (hc : c.Sane) (i : Nat) {f : Client → Client}
    (hf : i < c.clients.length →
      (f (c.client i)).hub = (c.client i).hub ∧ c.FitsClient (f (c.client i))) :
    c.Evolves (c.modifyClient i f) := by
  refine hc.evolves_clients ?_
  apply renews_modify
  · exact fun _ => rfl
  · exact hf

theorem evolves_addClient (hc : c.Sane) {x : Client} (hx : c.FitsClient x) :
    c.Evolves { c with clients := c.clients ++ [x] } :=
  hc.evolves_clients (renews_concat (fun _ => rfl) hx)

/-- What is added is the last one. -/
theorem clientOn_addClient {x : Client} (hx : x.hub = h) :
    { c with clients := c.clients ++ [x] }.ClientOn h c.clients.length :=
  ⟨length_lt_concat _ x, (congrArg Client.hub (getD_concat_length c.clients x default)).trans hx⟩

theorem evolves_modifySession (hc : c.Sane) (s : Nat) {f : Session → Session}
    (hf : ∀ x, (f x).client = x.client) : c.Evolves (c.modifySession s f) := by
  have hfits : s < c.sessions.length → c.FitsSession (f (c.session s)) := by
    intro hs
    rw [FitsSession, hf]
    exact hc.session s hs
  refine hc.evolves_sessions ?_
  apply renews_modify
  · exact fun _ => rfl
  · exact fun hs => ⟨hf _, hfits hs⟩

theorem evolves_addSession (hc : c.Sane) {x : Session} (hx : c.FitsSession x) :
    c.Evolves { c with sessions := c.sessions ++ [x] } :=
  hc.evolves_sessions (renews_concat (fun _ => rfl) hx)

theorem sessionOn_addSession {x : Session} (hx : c.ClientOn h x.client) :
    { c with sessions := c.sessions ++ [x] }.SessionOn h c.sessions.length := by
  refine ⟨length_lt_concat _ x, ?_⟩
  show c.ClientOn h ((c.sessions ++ [x]).getD c.sessions.length default).client
  rwa [getD_concat_length]

theorem evolves_modifyCluster (hc : c.Sane) (k : Nat) {f : Cluster → Cluster}
    (hf : k < c.clusters.length → (f (c.cluster k)).hub = (c.cluster k).hub ∧
      ((c.cluster k).isOpen = false → (f (c.cluster k)).isOpen = false) ∧
      c.FitsCluster (f (c.cluster k))) :
    c.Evolves (c.modifyCluster k f) := by
  refine hc.evolves_clusters (renews_modify (fun _ => ⟨rfl, id⟩) fun hk => ?_)
  obtain ⟨hhub, hclosed, hfits⟩ := hf hk
  exact ⟨⟨hhub, hclosed⟩, hfits⟩

theorem evolves_addCluster (hc : c.Sane) {x : Cluster} (hx : c.FitsCluster x) :
    c.Evolves { c with clusters := c.clusters ++ [x] } :=
  hc.evolves_clusters (renews_concat (fun _ => ⟨rfl, id⟩) hx)

theorem clusterOn_addCluster {x : Cluster} (hx : x.hub = h) :
    { c with clusters := c.clusters ++ [x] }.ClusterOn h c.clusters.length :=
  ⟨length_lt_concat _ x, (congrArg Cluster.hub (getD_concat_length c.clusters x default)).trans hx⟩

theorem evolves_modifyClusterSession (hc : c.Sane) (s : Nat) {f : ClusterSession → ClusterSession}
    (hf : s < c.clusterSessions.length → (f (c.clusterSession s)).cluster =
      (c.clusterSession s).cluster ∧ c.FitsClusterSession (f (c.clusterSession s))) :
    c.Evolves (c.modifyClusterSession s f) := by
  refine hc.evolves_clusterSessions ?_
  apply renews_modify
  · exact fun _ => rfl
  · exact hf

theorem evolves_addClusterSession (hc : c.Sane) {x : ClusterSession}
    (hx : c.FitsClusterSession x) :
    c.Evolves { c with clusterSessions := c.clusterSessions ++ [x] } :=
  hc.evolves_clusterSessions (renews_concat (fun _ => rfl) hx)

theorem clusterSessionOn_addClusterSession {x : ClusterSession} (hx : c.ClusterOn h x.cluster) :
    { c with clusterSessions := c.clusterSessions ++ [x] }.ClusterSessionOn h
      c.clusterSessions.length := by
  refine ⟨length_lt_concat _ x, ?_⟩
  show c.ClusterOn h ((c.clusterSessions ++ [x]).getD c.clusterSessions.length default).cluster
  rwa [getD_concat_length]

theorem evolves_foldl {α : Type} {f : Connections → α → Connections}
    (hf : ∀ (c : Connections) a, c.Sane → c.Evolves (f c a)) (l : List α) (hc : c.Sane) :
    c.Evolves (l.foldl f c) := by
  induction l generalizing c with
  | nil => exact .refl hc
  | cons a l ih => exact (hf c a hc).trans (ih (hf c a hc).sane)

/-! ## §5  Holding and letting go -/

theorem evolves_retainHub (hc : c.Sane) (h : Nat) : c.Evolves (c.retainHub h) :=
  evolves_holders hc h fun _ => rfl

theorem evolves_retainClient (hc : c.Sane) (i : Nat) : c.Evolves (c.retainClient i) :=
  evolves_modifyClient hc i fun hi => ⟨rfl, hc.client i hi⟩

theorem evolves_retainSession (hc : c.Sane) (s : Nat) : c.Evolves (c.retainSession s) :=
  evolves_modifySession hc s fun _ => rfl

theorem evolves_retainCluster (hc : c.Sane) (k : Nat) : c.Evolves (c.retainCluster k) :=
  evolves_modifyCluster hc k fun hk => ⟨rfl, id, hc.cluster k hk⟩

theorem evolves_closeHub (hc : c.Sane) (h : Nat) : c.Evolves (c.modifyHub h Hub.close) :=
  evolves_modifyHub hc h fun hh => Hub.evolves_close (hc.hub h hh)

theorem evolves_releaseHub (hc : c.Sane) (h : Nat) : c.Evolves (c.releaseHub h) := by
  have hless := evolves_holders hc h (g := fun x => { x with holders := x.holders - 1 })
    fun _ => rfl
  unfold releaseHub
  dsimp only
  split
  · exact hless.trans (evolves_closeHub hless.sane h)
  · exact hless

theorem evolves_releaseClient (hc : c.Sane) (i : Nat) : c.Evolves (c.releaseClient i) := by
  have hless := evolves_modifyClient hc i (f := fun x => { x with holders := x.holders - 1 })
    fun hi => ⟨rfl, hc.client i hi⟩
  unfold releaseClient
  dsimp only
  split
  · exact hless.trans (evolves_releaseHub hless.sane _)
  · exact hless

theorem evolves_markClosed (hc : c.Sane) (s : Nat) : c.Evolves (c.markClosed s).2 := by
  unfold markClosed
  split
  · exact evolves_modifySession hc s fun _ => rfl
  · exact .refl hc

theorem evolves_releaseSession (hc : c.Sane) (s : Nat) : c.Evolves (c.releaseSession s) := by
  have hless := evolves_modifySession hc s (f := fun x => { x with holders := x.holders - 1 })
    fun _ => rfl
  have hmarked := hless.trans (evolves_markClosed hless.sane s)
  unfold releaseSession
  dsimp only
  split
  · split
    · rename_i c₁ heq
      rw [heq] at hmarked
      exact hmarked.trans (hmarked.sane.evolves_same rfl rfl rfl rfl rfl)
    · rename_i c₁ heq
      rw [heq] at hmarked
      exact hmarked.trans (evolves_releaseClient hmarked.sane _)
  · exact hless

theorem evolves_releaseCluster (hc : c.Sane) (k : Nat) : c.Evolves (c.releaseCluster k) := by
  have hless := evolves_modifyCluster hc k (f := fun x => { x with holders := x.holders - 1 })
    fun hk => ⟨rfl, id, hc.cluster k hk⟩
  unfold releaseCluster
  dsimp only
  split
  · have hclients := hless.trans
      (evolves_foldl (fun c i hc => evolves_releaseClient hc i)
        ((c.modifyCluster k fun x => { x with holders := x.holders - 1 }).cluster k).clients.values
        hless.sane)
    exact hclients.trans (evolves_releaseHub hclients.sane _)
  · exact hless

theorem evolves_dropClusterSession (hc : c.Sane) (s : Nat) :
    c.Evolves (c.dropClusterSession s) := by
  have hrelease := evolves_releaseSession hc (c.clusterSession s).current
  exact hrelease.trans (evolves_releaseCluster hrelease.sane _)

/-- The session of a cluster moves to a session at another replica, over the hub of the cluster. -/
theorem evolves_moveTo (hc : c.Sane) {session fresh : Nat}
    (hfresh : c.SessionOn (c.cluster (c.clusterSession session).cluster).hub fresh) :
    c.Evolves (ClusterSession.moveTo session fresh c) := by
  have hretain := evolves_retainSession hc fresh
  have hmove : (c.retainSession fresh).Evolves
      ((c.retainSession fresh).modifyClusterSession session fun x => { x with current := fresh }) :=
    evolves_modifyClusterSession hretain.sane session fun hs =>
      ⟨rfl, (hc.clusterSession session hs).1, hretain.sessionOn hfresh⟩
  have hmoved := hretain.trans hmove
  exact hmoved.trans (evolves_releaseSession hmoved.sane _)

theorem evolves_takeFarewells (hc : c.Sane) : c.Evolves c.takeFarewells.2 :=
  hc.evolves_same rfl rfl rfl rfl rfl

/-! ## §6  Making and closing -/

theorem evolves_newHub (hc : c.Sane) (config : TransmitterConfig) :
    c.Evolves (c.newHub config).2 :=
  evolves_addHub hc (Hub.sane_new config)

theorem lt_newHub (c : Connections) (config : TransmitterConfig) :
    c.hubs.length < (c.newHub config).2.hubs.length :=
  length_lt_concat ..

theorem client_shareHub (c : Connections) (address : String) (h : Nat) :
    (c.shareHub address h).2.ClientOn h (c.shareHub address h).1 :=
  clientOn_addClient rfl

theorem evolves_shareHub (hc : c.Sane) (address : String) (hh : h < c.hubs.length) :
    c.Evolves (c.shareHub address h).2 := by
  have hretain := evolves_retainHub hc h
  refine hretain.trans (evolves_addClient hretain.sane ⟨(hretain.hub h hh).1, ?_⟩)
  exact fun hclosed => Bool.noConfusion hclosed

theorem evolves_newClient (hc : c.Sane) (address : String) (config : TransmitterConfig) :
    c.Evolves (c.newClient address config).2 := by
  have hhub := evolves_newHub hc config
  refine hhub.trans (evolves_addClient hhub.sane ⟨lt_newHub c config, ?_⟩)
  exact fun hclosed => Bool.noConfusion hclosed

/-- A hub that is closed is shut. -/
theorem shut_closeHub (hc : c.Sane) (hh : h < c.hubs.length) :
    (c.modifyHub h Hub.close).Shut h := by
  rw [Shut, hub_modifyHub hh]
  exact Hub.isOpen_close (hc.hub h hh)

/-- The hub is closed before the client is said to be: the order does not matter, and so no client
is closed while its own hub is not. -/
theorem evolves_closeClient (hc : c.Sane) (i : Nat) : c.Evolves (c.closeClient i) := by
  unfold closeClient
  dsimp only
  split
  · split
    · have hhub := evolves_closeHub hc (c.client i).hub
      show c.Evolves ((c.modifyHub (c.client i).hub Hub.close).modifyClient i
        fun x => { x with isOpen := false })
      refine hhub.trans (evolves_modifyClient hhub.sane i fun hi => ⟨rfl, ?_, ?_⟩)
      · exact (hhub.sane.client i hi).1
      · exact fun _ _ => shut_closeHub hc (hc.client i hi).1
    · rename_i howns
      exact evolves_modifyClient hc i fun hi => ⟨rfl, (hc.client i hi).1, fun _ h => absurd h howns⟩
  · exact .refl hc

theorem clusters_closeClient (c : Connections) (i : Nat) :
    (c.closeClient i).clusters = c.clusters := by
  unfold closeClient
  dsimp only
  split
  · split <;> rfl
  · rfl

theorem clusters_foldl_closeClient (l : List Nat) (c : Connections) :
    (l.foldl closeClient c).clusters = c.clusters := by
  induction l generalizing c with
  | nil => rfl
  | cons i l ih => exact (ih _).trans (clusters_closeClient c i)

theorem closeClient_modifyCluster (c : Connections) (k : Nat) (f : Cluster → Cluster) (i : Nat) :
    (c.modifyCluster k f).closeClient i = (c.closeClient i).modifyCluster k f := by
  show (if (c.client i).isOpen then _ else _) =
    modifyCluster (if (c.client i).isOpen then _ else _) k f
  split
  · show (if (c.client i).ownsHub then _ else _) =
      modifyCluster (if (c.client i).ownsHub then _ else _) k f
    split <;> rfl
  · rfl

theorem foldl_closeClient_modifyCluster (l : List Nat) (c : Connections) (k : Nat)
    (f : Cluster → Cluster) :
    l.foldl closeClient (c.modifyCluster k f) = (l.foldl closeClient c).modifyCluster k f := by
  induction l generalizing c with
  | nil => rfl
  | cons i l ih => rw [List.foldl_cons, closeClient_modifyCluster, ih, List.foldl_cons]

/-- The clients and the hub are closed before the cluster is said to be. -/
theorem closeCluster_of_open (hopen : (c.cluster k).isOpen = true) :
    c.closeCluster k = (((c.cluster k).clients.values.foldl closeClient c).modifyHub
      (c.cluster k).hub Hub.close).modifyCluster k fun x => { x with isOpen := false } := by
  unfold closeCluster
  dsimp only
  rw [if_pos hopen, foldl_closeClient_modifyCluster]
  rfl

theorem evolves_closeCluster (hc : c.Sane) (k : Nat) : c.Evolves (c.closeCluster k) := by
  cases hopen : (c.cluster k).isOpen with
  | false =>
      rw [closeCluster, if_neg (by simp [hopen])]
      exact .refl hc
  | true =>
      have hclients : c.Evolves ((c.cluster k).clients.values.foldl closeClient c) :=
        evolves_foldl (fun c i hc => evolves_closeClient hc i) _ hc
      have hhub := hclients.trans (evolves_closeHub hclients.sane (c.cluster k).hub)
      rw [closeCluster_of_open hopen]
      refine hhub.trans (evolves_modifyCluster hhub.sane k fun hk => ?_)
      have hk' : k < c.clusters.length := clusters_foldl_closeClient _ c ▸ hk
      obtain ⟨hlt, hon, -⟩ := hhub.sane.cluster k hk
      refine ⟨rfl, fun _ => rfl, hlt, hon, fun _ => ?_⟩
      rw [(hhub.cluster k hk').2.1]
      exact shut_closeHub hclients.sane (hclients.hub _ (hc.cluster k hk').1).1

theorem evolves_closeTransaction (hc : c.Sane) (t : Transaction) :
    c.Evolves (c.closeTransaction t) :=
  evolves_modifyHub hc t.hub fun hh => Hub.evolves_closeStream (hc.hub t.hub hh) t.stream none

/-- A client that owns its hub shuts it. -/
theorem shut_closeClient (hc : c.Sane) (hi : i < c.clients.length)
    (howns : (c.client i).ownsHub = true) : (c.closeClient i).Shut (c.client i).hub := by
  cases hopen : (c.client i).isOpen with
  | false =>
      rw [closeClient, if_neg (by simp [hopen])]
      exact (hc.client i hi).2 hopen howns
  | true =>
      have hshut := shut_closeHub hc (hc.client i hi).1
      simp only [closeClient, hopen, howns, if_true]
      exact hshut

/-- A cluster shuts its hub. -/
theorem shut_closeCluster (hc : c.Sane) (hk : k < c.clusters.length) :
    (c.closeCluster k).Shut (c.cluster k).hub ∧ ((c.closeCluster k).cluster k).isOpen = false := by
  have hafter := evolves_closeCluster hc k
  have hclosed : ((c.closeCluster k).cluster k).isOpen = false := by
    cases hopen : (c.cluster k).isOpen with
    | false =>
        rw [closeCluster, if_neg (by simp [hopen])]
        exact hopen
    | true =>
        rw [closeCluster_of_open hopen, cluster, modifyCluster, Transmitter.getD_modify, if_pos]
        refine ⟨rfl, ?_⟩
        show k < ((c.cluster k).clients.values.foldl closeClient c).clusters.length
        rwa [clusters_foldl_closeClient]
  obtain ⟨hlt, hhub, -⟩ := hafter.cluster k hk
  exact ⟨hhub ▸ (hafter.sane.cluster k hlt).2.2 hclosed, hclosed⟩

theorem closed_closeTransaction {t : Transaction} (ht : c.TransactionOn h t) :
    (((c.closeTransaction t).hub h).stream t.stream).isOpen = false := by
  obtain ⟨rfl, hlt, hstream⟩ := ht
  rw [closeTransaction, hub_modifyHub hlt]
  exact Hub.closed_closeStream hstream none

end Connections

end GraphDriver
