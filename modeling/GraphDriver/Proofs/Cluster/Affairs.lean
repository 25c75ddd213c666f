import GraphDriver.Proofs.Cluster.Upkeep

/-!
# All affairs of an application

Everything that an application can do with its servers, any number of things at the same time. What
may have to wait is an undertaking: each is begun with things that are there, goes on whenever what
it waits for has come, and can be given up meanwhile. What is done at once is a deed; so is whatever
the servers send, since it reaches a stream between two turns. In every state that can be reached
each undertaking stands as it should: whoever has given it up, or got its outcome, knows what became
of the dispatchers that it has connected.

* §1 undertakings
* §2 what undertakings uphold
* §3 deeds
* §4 histories
* §5 every call stands as it should
-/

namespace GraphDriver

open Operation

/-! ## §1  Undertakings -/

/-- What an application can do that may have to wait. -/
inductive Undertaking where
  | askServer (client : Nat) (question : Client.Question)
  | openSession (client : Nat) (database : String) (sessionType : SessionType) (options : Options)
  | openTransaction (session : Nat) (transactionType : TransactionType) (options : Options)
  | closeSession (session : Nat)
  | pulse (session : Nat)
  | sayFarewell (farewell : Farewell)
  | ask (t : Transaction) (question : Transaction.Question)
  | commit (t : Transaction)
  /-- A transaction that is dropped is closed. -/
  | closeTransaction (t : Transaction)
  | connect (seeds : List String) (config : FailoverConfig) (batching : TransmitterConfig)
  | askCluster (cluster : Nat) (question : Cluster.Question)
  | workAtPrimary (cluster : Nat) (database : String)
  | workAtAny (cluster : Nat) (database : String)
  | openClusterSession (cluster : Nat) (database : String) (sessionType : SessionType)
    (options : Options)
  | openClusterTransaction (session : Nat) (transactionType : TransactionType) (options : Options)
  | closeClusterSession (session : Nat)

namespace Undertaking

/-- What an undertaking comes to: an error, a transaction, or nothing that has to be closed. -/
abbrev Outcome := Except Error (Option Transaction)

section Programs

variable {α : Type}

def toNothing (op : Operation α) : Program Outcome :=
  (op >>= fun _ => pure none : Operation (Option Transaction)).run

def toTransaction (op : Operation Transaction) : Program Outcome :=
  (op >>= fun t => pure (some t) : Operation (Option Transaction)).run

end Programs

/-- Work of the application with a client. -/
def work (client : Nat) (first : Bool) : Operation String :=
  ExceptT.mk (Program.perform (.work client first))

/-- What an undertaking does. -/
def program : Undertaking → Program Outcome
  | .askServer i question => toNothing (question.run i)
  | .openSession i database sessionType options =>
    toNothing (Session.openAt i database sessionType options)
  | .openTransaction s transactionType options =>
    toTransaction (Transaction.openOn s transactionType options)
  | .closeSession s => toNothing (Session.close s)
  | .pulse s => (Session.pulse s).bind fun _ => .done (.ok none)
  | .sayFarewell farewell => (Session.sayFarewell farewell).bind fun _ => .done (.ok none)
  | .ask t question => toNothing (question.run t)
  | .commit t => toNothing (Transaction.commit t)
  | .closeTransaction t => toNothing (modify (·.closeTransaction t) : Operation Unit)
  | .connect seeds config batching => toNothing (Cluster.connect seeds config batching)
  | .askCluster k question => toNothing (question.run k)
  | .workAtPrimary k database => toNothing (Cluster.runPrimary k database work)
  | .workAtAny k database => toNothing (Cluster.runAny k database work)
  | .openClusterSession k database sessionType options =>
    toNothing (ClusterSession.openAt k database sessionType options)
  | .openClusterTransaction s transactionType options =>
    toTransaction (ClusterSession.transaction s transactionType options)
  | .closeClusterSession s => toNothing (ClusterSession.close s)

/-- The hub that an undertaking is about. Connecting to a cluster is about the hub that it makes. -/
def hub (c : Connections) : Undertaking → Nat
  | .askServer i _ | .openSession i .. => (c.client i).hub
  | .openTransaction s .. | .closeSession s | .pulse s => (c.client (c.session s).client).hub
  | .sayFarewell farewell => (c.client farewell.client).hub
  | .ask t _ | .commit t | .closeTransaction t => t.hub
  | .connect .. => c.hubs.length
  | .askCluster k _ | .workAtPrimary k _ | .workAtAny k _ | .openClusterSession k .. =>
    (c.cluster k).hub
  | .openClusterTransaction s .. | .closeClusterSession s =>
    (c.cluster (c.clusterSession s).cluster).hub

/-- What an undertaking is begun with is there. -/
def IsKnown (c : Connections) : Undertaking → Prop
  | .askServer i _ | .openSession i .. => i < c.clients.length
  | .openTransaction s .. | .closeSession s | .pulse s => s < c.sessions.length
  | .sayFarewell farewell => farewell.client < c.clients.length
  | .ask t _ | .commit t | .closeTransaction t =>
    t.hub < c.hubs.length ∧ t.stream < (c.hub t.hub).streams.length
  | .connect .. => True
  | .askCluster k _ | .workAtPrimary k _ | .workAtAny k _ | .openClusterSession k .. =>
    k < c.clusters.length
  | .openClusterTransaction s .. | .closeClusterSession s => s < c.clusterSessions.length

instance (c : Connections) : (u : Undertaking) → Decidable (u.IsKnown c)
  | .askServer i _ | .openSession i .. => inferInstanceAs (Decidable (i < c.clients.length))
  | .openTransaction s .. | .closeSession s | .pulse s =>
    inferInstanceAs (Decidable (s < c.sessions.length))
  | .sayFarewell farewell => inferInstanceAs (Decidable (farewell.client < c.clients.length))
  | .ask t _ | .commit t | .closeTransaction t =>
    inferInstanceAs (Decidable (t.hub < c.hubs.length ∧ t.stream < (c.hub t.hub).streams.length))
  | .connect .. => inferInstanceAs (Decidable True)
  | .askCluster k _ | .workAtPrimary k _ | .workAtAny k _ | .openClusterSession k .. =>
    inferInstanceAs (Decidable (k < c.clusters.length))
  | .openClusterTransaction s .. | .closeClusterSession s =>
    inferInstanceAs (Decidable (s < c.clusterSessions.length))

/-- Whether an undertaking asks a server for something, as things stand, and tells whether it got
it. Nobody is told how a pulse or a farewell went. What the application does itself at a replica
asks nobody; a cluster that is closed does not begin with it. -/
def AsksFor (c : Connections) : Undertaking → Prop
  | .askServer .. | .openSession .. | .openTransaction .. | .ask .. | .commit _ | .askCluster ..
  | .openClusterSession .. | .openClusterTransaction .. => True
  | .closeSession s => (c.session s).isOpen = true
  | .closeClusterSession s => c.clusterSessionIsOpen s = true
  | .workAtPrimary k _ | .workAtAny k _ => (c.cluster k).isOpen = false
  | .pulse _ | .sayFarewell _ | .closeTransaction _ | .connect .. => False

/-! ## §2  What undertakings uphold -/

/-- The transaction that was to end has ended, if one was to. -/
def HasEnded (c : Connections) : Undertaking → Prop
  | .commit t | .closeTransaction t => c.TransactionOn t.hub t ∧ c.Finished t
  | _ => True

/-- What was connected is closed, unless the outcome is a transaction that keeps it. -/
def Keeps (h : Nat) : Outcome → List Line → Connections → Prop
  | .ok (some t) => fun lines c => t.hub = h ∧ Kept h t.stream lines c
  | .ok none | .error _ => AllClosed

/-- How an undertaking leaves the connections where it is given up. -/
def Leaves (u : Undertaking) (lines : List Line) (c : Connections) : Prop :=
  AllClosed lines c ∧ u.HasEnded c

/-- How an undertaking leaves the connections where it comes to something. -/
def ComesTo (u : Undertaking) (h : Nat) (outcome : Outcome) (lines : List Line) (c : Connections) :
    Prop :=
  Keeps h outcome lines c ∧ u.HasEnded c

section Upholding

variable {α : Type} {c c' : Connections} {u : Undertaking} {h s : Nat} {t : Transaction}
  {good : α → Connections → Prop}

theorem HasEnded.later (hended : u.HasEnded c) (hevolves : c.Evolves c') : u.HasEnded c' := by
  cases u with
  | commit t => exact ⟨hevolves.transactionOn hended.1, hevolves.finished hended.1 hended.2⟩
  | closeTransaction t =>
      exact ⟨hevolves.transactionOn hended.1, hevolves.finished hended.1 hended.2⟩
  | _ => trivial

theorem lasting_leaves : Lasting u.Leaves :=
  fun ds c c' hevolves hleaves =>
    ⟨lasting_allClosed ds c c' hevolves hleaves.1, hleaves.2.later hevolves⟩

theorem lasting_comesTo (outcome : Outcome) : Lasting (u.ComesTo h outcome) := by
  rintro ds c c' hevolves ⟨hkeeps, hended⟩
  refine ⟨?_, hended.later hevolves⟩
  rcases outcome with e | _ | t
  · exact lasting_allClosed ds c c' hevolves hkeeps
  · exact lasting_allClosed ds c c' hevolves hkeeps
  · exact ⟨hkeeps.1, lasting_kept ds c c' hevolves hkeeps.2⟩

theorem allClosed_nil : AllClosed [] c := fun _ hline => absurd hline List.not_mem_nil

/-- What is quiet connects nothing. -/
theorem upholds_toNothing {op : Operation α} (hop : Quiet h good op c) (hc : c.Sane)
    (hended : ∀ c', u.HasEnded c') :
    (toNothing op).Upholds h Failed u.Leaves (u.ComesTo h) [] c := by
  have hnone : op.Upholds h u.Leaves (fun _ lines _ => lines = []) [] c := by
    refine (hop []).mono hc ?_ (fun _ _ _ _ hpost => hpost.1) fun _ hf => hf
    exact fun lines c' _ hlines => ⟨hlines ▸ allClosed_nil, hended c'⟩
  refine upholds_bind hnone hc ?_ ?_
  · rintro e _ c' - rfl
    exact ⟨allClosed_nil, hended c'⟩
  · rintro a _ c' - rfl
    exact ⟨allClosed_nil, hended c'⟩

theorem upholds_toTransaction {op : Operation Transaction}
    (hop : op.Upholds h AllClosed (Transaction.Opened h) [] c) (hc : c.Sane)
    (hended : ∀ c', u.HasEnded c') :
    (toTransaction op).Upholds h Failed u.Leaves (u.ComesTo h) [] c := by
  have hopened : op.Upholds h u.Leaves (Transaction.Opened h) [] c := by
    refine Program.Upholds.mono hop hc ?_ (fun _ _ _ _ hpost => hpost) fun _ hf => hf
    exact fun lines c' _ hall => ⟨hall, hended c'⟩
  refine upholds_bind hopened hc ?_ ?_
  · exact fun e lines c' _ hall => ⟨hall, hended c'⟩
  · exact fun t lines c' _ hkept => ⟨hkept, hended c'⟩

/-- What is done for nobody in particular connects nothing either. -/
theorem upholds_silently {p : Program Unit}
    (hp : p.Upholds h (fun _ => False) (fun lines _ => lines = []) (fun _ lines _ => lines = []) []
      c) (hc : c.Sane) (hended : ∀ c', u.HasEnded c') :
    (p.bind fun _ => .done (.ok none)).Upholds h Failed u.Leaves (u.ComesTo h) [] c := by
  have hleft : p.Upholds h (fun _ => False) u.Leaves (fun _ lines _ => lines = []) [] c := by
    refine hp.mono hc ?_ (fun _ _ _ _ hpost => hpost) fun _ hf => hf
    exact fun lines c' _ hlines => ⟨hlines ▸ allClosed_nil, hended c'⟩
  refine hleft.bind hc ?_ fun _ _ _ _ hf => hf.elim
  rintro _ _ c' - rfl
  exact ⟨allClosed_nil, hended c'⟩

theorem upholds_commit (hc : c.Sane) (ht : c.TransactionOn t.hub t) :
    (toNothing (Transaction.commit t)).Upholds t.hub Failed (commit t).Leaves
      ((commit t).ComesTo t.hub) [] c := by
  have hended : ∀ lines c', c.Evolves c' → lines = [] ∧ c'.Finished t →
      AllClosed lines c' ∧ (commit t).HasEnded c' := by
    rintro _ c' hc' ⟨rfl, hfinished⟩
    exact ⟨allClosed_nil, hc'.transactionOn ht, hfinished⟩
  have hcommit : (Transaction.commit t).Upholds t.hub (commit t).Leaves
      (fun _ => (commit t).Leaves) [] c :=
    Program.Upholds.mono (Transaction.upholds_commit hc ht) hc hended (fun _ => hended)
      fun _ hf => hf
  refine upholds_bind hcommit hc ?_ ?_
  · exact fun e lines c' _ hleaves => hleaves
  · exact fun u lines c' _ hleaves => hleaves

theorem upholds_closeTransaction (hc : c.Sane) (ht : c.TransactionOn t.hub t) :
    (closeTransaction t).program.Upholds t.hub Failed (closeTransaction t).Leaves
      ((closeTransaction t).ComesTo t.hub) [] c := by
  have hclose := Connections.evolves_closeTransaction hc t
  exact ⟨hclose, allClosed_nil, hclose.transactionOn ht, Connections.closed_closeTransaction ht⟩

/-- **Every undertaking** that is begun with what is there upholds what it should. -/
theorem upholds_program (hc : c.Sane) (hknown : u.IsKnown c) :
    u.program.Upholds (u.hub c) Failed u.Leaves (u.ComesTo (u.hub c)) [] c := by
  have htrue : ∀ _ : Connections, True := fun _ => trivial
  cases u with
  | askServer i question =>
      exact upholds_toNothing ((Client.asks_question question).quiet hc ⟨hknown, rfl⟩) hc htrue
  | openSession i database sessionType options =>
      exact upholds_toNothing (Session.quiet_openAt hc ⟨hknown, rfl⟩) hc htrue
  | openTransaction s transactionType options =>
      exact upholds_toTransaction
        (Transaction.upholds_openOn hc (hc.sessionOn hknown) allClosed_nil) hc htrue
  | closeSession s =>
      exact upholds_toNothing (Session.quiet_close hc (hc.sessionOn hknown)) hc htrue
  | pulse s => exact upholds_silently (Session.upholds_pulse hc (hc.sessionOn hknown)) hc htrue
  | sayFarewell farewell =>
      exact upholds_silently (Session.upholds_sayFarewell hc ⟨hknown, rfl⟩) hc htrue
  | ask t question =>
      exact upholds_toNothing ((Transaction.asks_question question).quiet hc ⟨rfl, hknown⟩) hc htrue
  | commit t => exact upholds_commit hc ⟨rfl, hknown⟩
  | closeTransaction t => exact upholds_closeTransaction hc ⟨rfl, hknown⟩
  | connect seeds config batching => exact upholds_toNothing (Cluster.quiet_connect hc) hc htrue
  | askCluster k question =>
      exact upholds_toNothing ((Cluster.asks_question question).quiet hc ⟨hknown, rfl⟩) hc htrue
  | workAtPrimary k database =>
      exact upholds_toNothing
        (Cluster.quiet_runPrimary hc ⟨hknown, rfl⟩ fun _ _ _ _ _ => quiet_work) hc htrue
  | workAtAny k database =>
      exact upholds_toNothing
        (Cluster.quiet_runAny hc ⟨hknown, rfl⟩ fun _ _ _ _ _ => quiet_work) hc htrue
  | openClusterSession k database sessionType options =>
      exact upholds_toNothing (ClusterSession.needs_openAt.quiet hc ⟨hknown, rfl⟩) hc htrue
  | openClusterTransaction s transactionType options =>
      exact upholds_toTransaction
        (ClusterSession.upholds_transaction hc (hc.clusterSessionOn hknown) allClosed_nil) hc htrue
  | closeClusterSession s =>
      exact upholds_toNothing (ClusterSession.quiet_close hc (hc.clusterSessionOn hknown)) hc htrue

/-- Where the hub is shut, an undertaking that asks for something is over at once with an error. -/
theorem refuses_program (hc : c.Sane) (hknown : u.IsKnown c) (hshut : c.Shut (u.hub c))
    (hasks : u.AsksFor c) : u.program.Ends Failed c := by
  cases u with
  | askServer i question =>
      exact ((Client.asks_question question).refuses hc ⟨hknown, rfl⟩ hshut).bind _
  | openSession i database sessionType options =>
      exact (Session.needs_openAt.refuses hc ⟨hknown, rfl⟩ hshut).bind _
  | openTransaction s transactionType options =>
      exact (Transaction.refuses_openOn (hc.sessionOn hknown) hshut).bind _
  | closeSession s => exact (Session.refuses_close hc (hc.sessionOn hknown) hshut hasks).bind _
  | pulse s => exact hasks.elim
  | sayFarewell farewell => exact hasks.elim
  | ask t question =>
      exact ((Transaction.asks_question question).refuses hc ⟨rfl, hknown⟩ hshut).bind _
  | commit t => exact (Transaction.refuses_commit ⟨rfl, hknown⟩ hshut).bind _
  | closeTransaction t => exact hasks.elim
  | connect seeds config batching => exact hasks.elim
  | askCluster k question =>
      exact ((Cluster.asks_question question).refuses hc ⟨hknown, rfl⟩ hshut).bind _
  | workAtPrimary k database =>
      have hclosed : (Cluster.runPrimary k database work).Refuses c := by
        rw [Cluster.runPrimary_eq]
        exact Cluster.refuses_of_closed hasks
      exact hclosed.bind _
  | workAtAny k database =>
      have hclosed : (Cluster.runAny k database work).Refuses c := Cluster.refuses_of_closed hasks
      exact hclosed.bind _
  | openClusterSession k database sessionType options =>
      exact (ClusterSession.needs_openAt.refuses hc ⟨hknown, rfl⟩ hshut).bind _
  | openClusterTransaction s transactionType options =>
      exact (ClusterSession.refuses_transaction hc (hc.clusterSessionOn hknown) hshut).bind _
  | closeClusterSession s =>
      exact (ClusterSession.refuses_close hc (hc.clusterSessionOn hknown) hshut hasks).bind _

end Upholding

end Undertaking

/-! ## §3  Deeds -/

/-- What is done at once, by the application or by its surroundings. -/
inductive Deed where
  | setClocks (now wallClock : Nat)
  | newHub (config : TransmitterConfig)
  | newClient (address : String) (config : TransmitterConfig)
  /-- A client is made over a hub that the application has made. -/
  | shareHub (address : String) (h : Nat)
  | retainHub (h : Nat)
  | retainClient (client : Nat)
  | retainSession (session : Nat)
  | retainCluster (cluster : Nat)
  | releaseHub (h : Nat)
  | releaseClient (client : Nat)
  | releaseSession (session : Nat)
  | releaseCluster (cluster : Nat)
  | dropClusterSession (session : Nat)
  | takeFarewells
  | closeClient (client : Nat)
  | closeCluster (cluster : Nat)
  /-- Something happens to a hub: a worker is due, a server sends or pulls, a reader reads on. -/
  | atHub (h : Nat) (op : Hub.Op)

namespace Deed

def perform : Deed → Connections → Connections
  | .setClocks now wallClock, c => { c with now, wallClock }
  | .newHub config, c => (c.newHub config).2
  | .newClient address config, c => (c.newClient address config).2
  | .shareHub address h, c => (c.shareHub address h).2
  | .retainHub h, c => c.retainHub h
  | .retainClient i, c => c.retainClient i
  | .retainSession s, c => c.retainSession s
  | .retainCluster k, c => c.retainCluster k
  | .releaseHub h, c => c.releaseHub h
  | .releaseClient i, c => c.releaseClient i
  | .releaseSession s, c => c.releaseSession s
  | .releaseCluster k, c => c.releaseCluster k
  | .dropClusterSession s, c => c.dropClusterSession s
  | .takeFarewells, c => c.takeFarewells.2
  | .closeClient i, c => c.closeClient i
  | .closeCluster k, c => c.closeCluster k
  | .atHub h op, c => c.modifyHub h (·.step op)

/-- What a deed is done with is there. -/
def IsKnown (c : Connections) : Deed → Prop
  | .shareHub _ h => h < c.hubs.length
  | _ => True

/-- **Every deed** leads to a later state. -/
theorem evolves_perform {deed : Deed} {c : Connections} (hc : c.Sane) (hknown : deed.IsKnown c) :
    c.Evolves (deed.perform c) := by
  cases deed with
  | setClocks now wallClock => exact hc.evolves_same rfl rfl rfl rfl rfl
  | newHub config => exact Connections.evolves_newHub hc config
  | newClient address config => exact Connections.evolves_newClient hc address config
  | shareHub address h => exact Connections.evolves_shareHub hc address hknown
  | retainHub h => exact Connections.evolves_retainHub hc h
  | retainClient i => exact Connections.evolves_retainClient hc i
  | retainSession s => exact Connections.evolves_retainSession hc s
  | retainCluster k => exact Connections.evolves_retainCluster hc k
  | releaseHub h => exact Connections.evolves_releaseHub hc h
  | releaseClient i => exact Connections.evolves_releaseClient hc i
  | releaseSession s => exact Connections.evolves_releaseSession hc s
  | releaseCluster k => exact Connections.evolves_releaseCluster hc k
  | dropClusterSession s => exact Connections.evolves_dropClusterSession hc s
  | takeFarewells => exact Connections.evolves_takeFarewells hc
  | closeClient i => exact Connections.evolves_closeClient hc i
  | closeCluster k => exact Connections.evolves_closeCluster hc k
  | atHub h op =>
      exact Connections.evolves_modifyHub (f := (·.step op)) hc h fun hh =>
        Hub.evolves_step (hc.hub h hh) op

end Deed

/-! ## §4  Histories -/

/-- The undertakings that were begun, and the connections that they share. -/
abbrev Affairs := Scene Undertaking Undertaking.Outcome

namespace Affairs

abbrev Turn := Scene.Turn Undertaking

/-- Before anything was done. -/
def start : Affairs := { connections := {} }

def next (x : Affairs) (turn : Turn) : Affairs := Scene.step Undertaking.program x turn

def after (turns : List Turn) : Affairs := Scene.run Undertaking.program start turns

/-- Whether a turn can be the next: what is begun, or done, is so with what is there. -/
def Admits (x : Affairs) : Turn → Prop
  | .begins u => u.IsKnown x.connections
  | .others change => ∃ deed : Deed, deed.IsKnown x.connections ∧ change = deed.perform
  | .learns .. | .leaves _ => True

/-- Turns that can come one after the other. -/
def IsHistory (turns : List Turn) : Prop :=
  Run.Each (fun before turn => (after before).Admits turn) turns

/-- The hub that an undertaking is about which begins in a turn. -/
def hubIn (x : Affairs) : Turn → List Nat
  | .begins u => [u.hub x.connections]
  | .learns .. | .leaves _ | .others _ => []

/-- The hubs that the undertakings of a history are about, in the order of the calls. -/
def hubs (turns : List Turn) : List Nat := Run.log next hubIn start turns

/-- The dispatcher that a call connects in a turn, if it is its turn. -/
def dialledIn (i : Nat) (x : Affairs) (turn : Turn) : List Line :=
  match Scene.going? Undertaking.program x turn with
  | some (j, _, p) => if j = i then (p.advance x.connections).1.dials else []
  | none => []

/-- All dispatchers that a call has connected. -/
def dialled (i : Nat) (turns : List Turn) : List Line := Run.log next (dialledIn i) start turns

section Snoc

variable {turns : List Turn} {turn : Turn}

theorem isHistory_nil : IsHistory [] := Run.each_nil

theorem IsHistory.begins (h : IsHistory turns) {u : Undertaking}
    (hknown : u.IsKnown (after turns).connections) : IsHistory (turns ++ [.begins u]) :=
  Run.Each.concat h hknown

theorem IsHistory.learns (h : IsHistory turns) (i : Nat) (reply : (e : Effect) → e.Reply) :
    IsHistory (turns ++ [.learns i reply]) :=
  Run.Each.concat h trivial

theorem IsHistory.deed (h : IsHistory turns) (deed : Deed)
    (hknown : deed.IsKnown (after turns).connections) :
    IsHistory (turns ++ [.others deed.perform]) :=
  Run.Each.concat h ⟨deed, hknown, rfl⟩

variable (turns turn)

theorem after_snoc : after (turns ++ [turn]) = (after turns).next turn := Scene.run_snoc ..

theorem hubs_snoc : hubs (turns ++ [turn]) = hubs turns ++ hubIn (after turns) turn :=
  Run.log_snoc ..

theorem dialled_snoc (i : Nat) :
    dialled i (turns ++ [turn]) = dialled i turns ++ dialledIn i (after turns) turn :=
  Run.log_snoc ..

end Snoc

/-! ## §5  Every call stands as it should -/

/-- The connections are sane, and each call stands as it should after what it has connected. -/
structure Orderly (hubs : List Nat) (lines : Nat → List Line) (x : Affairs) : Prop where
  sane : x.connections.Sane
  counted : hubs.length = x.calls.length
  /-- Who has not begun has connected nothing. -/
  fresh : ∀ i, x.calls.length ≤ i → lines i = []
  stands : ∀ i (u : Undertaking) (standing : Standing Undertaking.Outcome),
    x.calls[i]? = some (u, standing) → ∃ h, hubs[i]? = some h ∧
      standing.Upholds h Failed u.Leaves (u.ComesTo h) (lines i) x.connections

section Turns

variable {hubs : List Nat} {lines : Nat → List Line} {x : Affairs} {turn : Turn} {i : Nat}
  {u : Undertaking} {p : Program Undertaking.Outcome}

/-- One call comes to stand in another way, or begins, and the others stand as they did. -/
theorem Orderly.replace (h : Orderly hubs lines x) {c : Connections}
    {calls : List (Undertaking × Standing Undertaking.Outcome)} {more : List Nat}
    {made : Nat → List Line} (hevolves : x.connections.Evolves c)
    (hcounted : (hubs ++ more).length = calls.length) (hlonger : x.calls.length ≤ calls.length)
    (hi : i < calls.length) (hcalls : ∀ j, j ≠ i → calls[j]? = x.calls[j]?)
    (hmade : ∀ j, j ≠ i → made j = [])
    (hself : ∀ u standing, calls[i]? = some (u, standing) → ∃ h, (hubs ++ more)[i]? = some h ∧
      standing.Upholds h Failed u.Leaves (u.ComesTo h) (lines i ++ made i) c) :
    Orderly (hubs ++ more) (fun j => lines j ++ made j) { connections := c, calls } where
  sane := hevolves.sane
  counted := hcounted
  fresh j hj := by
    show lines j ++ made j = []
    rw [h.fresh j (Nat.le_trans hlonger hj), hmade j (Nat.ne_of_gt (Nat.lt_of_lt_of_le hi hj))]
    rfl
  stands j u standing hcall := by
    by_cases hj : j = i
    · subst hj
      exact hself u standing hcall
    · have hwas : x.calls[j]? = some (u, standing) := (hcalls j hj).symm.trans hcall
      obtain ⟨h', hhub, hstands⟩ := h.stands j u standing hwas
      refine ⟨h', ?_, ?_⟩
      · rw [List.getElem?_append_left (List.getElem?_eq_some_iff.mp hhub).1]
        exact hhub
      · show standing.Upholds h' Failed u.Leaves (u.ComesTo h') (lines j ++ made j) c
        rw [hmade j hj, List.append_nil]
        exact hstands.later hevolves Undertaking.lasting_leaves Undertaking.lasting_comesTo

theorem getElem?_replaced {γ : Type} {l : List γ} (hi : i ≤ l.length) (a : γ) (j : Nat) :
    (l.take i ++ a :: l.drop (i + 1))[j]? = if j = i then some a else l[j]? := by
  rcases Nat.lt_or_eq_of_le hi with hlt | rfl
  · have hset : l.set i a = l.take i ++ a :: l.drop (i + 1) := by
      rw [List.set_eq_take_append_cons_drop, if_pos hlt]
    rw [← hset, List.getElem?_set]
    simp only [hlt, if_true, eq_comm]
  · rw [List.take_length, List.drop_eq_nil_of_le (Nat.le_succ _)]
    split
    · rename_i hj
      rw [hj, List.getElem?_concat_length]
    · rename_i hj
      rcases Nat.lt_or_gt_of_ne hj with hlt | hgt
      · rw [List.getElem?_append_left hlt]
      · rw [List.getElem?_eq_none (Nat.le_of_lt hgt), List.getElem?_eq_none]
        rw [List.length_append]
        exact hgt

theorem length_replaced {γ : Type} {l : List γ} (hi : i ≤ l.length) (a : γ) :
    (l.take i ++ a :: l.drop (i + 1)).length = max l.length (i + 1) := by
  rw [List.length_append, List.length_take, List.length_cons, List.length_drop]
  omega

/-- A call that goes on upholds what it should. -/
theorem Orderly.going (h : Orderly hubs lines x) (hadmits : x.Admits turn)
    (hgoing : Scene.going? Undertaking.program x turn = some (i, u, p)) :
    i ≤ x.calls.length ∧ (hubs ++ hubIn x turn).length = max x.calls.length (i + 1) ∧
      ∃ h, (hubs ++ hubIn x turn)[i]? = some h ∧
        p.Upholds h Failed u.Leaves (u.ComesTo h) (lines i) x.connections := by
  cases turn with
  | begins u' =>
      obtain ⟨rfl, rfl, rfl⟩ := hgoing
      refine ⟨Nat.le_refl _, ?_, u.hub x.connections, ?_, ?_⟩
      · rw [List.length_append, h.counted]
        exact (Nat.max_eq_right (Nat.le_succ _)).symm
      · rw [← h.counted]
        exact List.getElem?_concat_length
      · rw [h.fresh _ (Nat.le_refl _)]
        exact Undertaking.upholds_program h.sane hadmits
  | learns j reply =>
      rw [Scene.going?] at hgoing
      split at hgoing
      · rename_i u' e abandoned next hcall
        obtain ⟨rfl, rfl, rfl⟩ := hgoing
        obtain ⟨h', hhub, -, hnext, -⟩ := h.stands i u _ hcall
        have hj := (List.getElem?_eq_some_iff.mp hcall).1
        rw [hubIn, List.append_nil]
        refine ⟨Nat.le_of_lt hj, ?_, h', hhub, hnext (reply e) x.connections (.refl h.sane)⟩
        rw [h.counted]
        exact (Nat.max_eq_left hj).symm
      · cases hgoing
  | leaves j => cases hgoing
  | others change => cases hgoing

/-- A call that goes on leaves the others as they stand. -/
theorem Orderly.goes (h : Orderly hubs lines x) (hadmits : x.Admits turn)
    (hgoing : Scene.going? Undertaking.program x turn = some (i, u, p)) :
    x.connections.Evolves (x.next turn).connections ∧
      Orderly (hubs ++ hubIn x turn) (fun j => lines j ++ dialledIn j x turn) (x.next turn) := by
  obtain ⟨hi, hcounted, h', hhub, hp⟩ := h.going hadmits hgoing
  obtain ⟨hevolves, hstands, -⟩ := hp.advance h.sane
  have hlength := length_replaced hi (u, (p.advance x.connections).1)
  rw [next, (Scene.step_of_going hgoing).1]
  refine ⟨hevolves, h.replace (i := i) hevolves (hcounted.trans hlength.symm) ?_ ?_ ?_ ?_ ?_⟩
  · rw [hlength]
    exact Nat.le_max_left _ _
  · rw [hlength]
    exact Nat.le_max_right _ _
  · intro j hj
    rw [getElem?_replaced hi, if_neg hj]
  · intro j hj
    rw [dialledIn, hgoing]
    exact if_neg (Ne.symm hj)
  · intro u' standing hcall
    rw [getElem?_replaced hi, if_pos rfl] at hcall
    obtain ⟨rfl, rfl⟩ := Prod.mk.inj (Option.some.inj hcall)
    refine ⟨h', hhub, ?_⟩
    rw [dialledIn, hgoing]
    show Standing.Upholds _ _ _ _ _ (lines i ++ if i = i then _ else _) _
    rw [if_pos rfl]
    exact hstands

/-- A call that is given up leaves the connections as it should, and the others as they stand. -/
theorem Orderly.leaves (h : Orderly hubs lines x) (i : Nat) :
    x.connections.Evolves (x.next (.leaves i)).connections ∧
      Orderly hubs lines (x.next (.leaves i)) := by
  rw [next, Scene.step_leaves]
  split
  · rename_i u e abandoned later hcall
    obtain ⟨h', hhub, habandoned, -⟩ := h.stands i u _ hcall
    obtain ⟨hevolves, hleaves⟩ := habandoned x.connections (.refl h.sane)
    have hlt := (List.getElem?_eq_some_iff.mp hcall).1
    have hlength := length_replaced (Nat.le_of_lt hlt)
      (u, (.givenUp : Standing Undertaking.Outcome))
    rw [Nat.max_eq_left hlt] at hlength
    refine ⟨hevolves, ?_⟩
    suffices hreplace : Orderly (hubs ++ []) (fun j => lines j ++ [])
        { connections := abandoned x.connections
          calls := x.calls.take i ++ (u, .givenUp) :: x.calls.drop (i + 1) } by
      simpa only [List.append_nil] using hreplace
    refine h.replace (i := i) hevolves ?_ ?_ ?_ ?_ ?_ ?_
    · rw [List.append_nil, h.counted, hlength]
    · exact Nat.le_of_eq hlength.symm
    · exact Nat.lt_of_lt_of_eq hlt hlength.symm
    · intro j hj
      rw [getElem?_replaced (Nat.le_of_lt hlt), if_neg hj]
    · exact fun _ _ => rfl
    · intro u' standing hcall'
      rw [getElem?_replaced (Nat.le_of_lt hlt), if_pos rfl] at hcall'
      obtain ⟨rfl, rfl⟩ := Prod.mk.inj (Option.some.inj hcall')
      rw [List.append_nil, List.append_nil]
      exact ⟨h', hhub, hleaves⟩
  · exact ⟨.refl h.sane, h⟩

theorem Orderly.deed (h : Orderly hubs lines x) {c : Connections}
    (hevolves : x.connections.Evolves c) :
    Orderly hubs lines { x with connections := c } where
  sane := hevolves.sane
  counted := h.counted
  fresh := h.fresh
  stands j u standing hcall := by
    obtain ⟨h', hhub, hstands⟩ := h.stands j u standing hcall
    exact ⟨h', hhub,
      hstands.later hevolves Undertaking.lasting_leaves Undertaking.lasting_comesTo⟩

/-- **One turn.** The connections evolve, and every call stands as it should. -/
theorem Orderly.next (h : Orderly hubs lines x) (hadmits : x.Admits turn) :
    x.connections.Evolves (x.next turn).connections ∧
      Orderly (hubs ++ hubIn x turn) (fun j => lines j ++ dialledIn j x turn) (x.next turn) := by
  cases hgoing : Scene.going? Undertaking.program x turn with
  | some call => exact h.goes hadmits hgoing
  | none =>
      have hnone : (fun j => lines j ++ dialledIn j x turn) = lines := by
        funext j
        rw [dialledIn, hgoing]
        exact List.append_nil _
      rw [hnone]
      cases turn with
      | begins u => cases hgoing
      | learns i reply =>
          rw [next, Scene.step_of_deaf hgoing, hubIn, List.append_nil]
          exact ⟨.refl h.sane, h⟩
      | leaves i =>
          rw [hubIn, List.append_nil]
          exact h.leaves i
      | others change =>
          obtain ⟨deed, hknown, rfl⟩ := hadmits
          have hevolves := Deed.evolves_perform h.sane hknown
          rw [hubIn, List.append_nil]
          exact ⟨hevolves, h.deed hevolves⟩

end Turns

/-! ### Runs -/

theorem sane_nothing : ({} : Connections).Sane where
  hub h hh := absurd hh (Nat.not_lt_zero h)
  client i hi := absurd hi (Nat.not_lt_zero i)
  session s hs := absurd hs (Nat.not_lt_zero s)
  cluster k hk := absurd hk (Nat.not_lt_zero k)
  clusterSession s hs := absurd hs (Nat.not_lt_zero s)

/-- **After every history** each call stands as it should. -/
theorem orderly_after {turns : List Turn} (hturns : IsHistory turns) :
    Orderly (hubs turns) (fun i => dialled i turns) (after turns) := by
  induction turns using List.reverseRecOn with
  | nil =>
      refine ⟨sane_nothing, rfl, fun _ _ => rfl, ?_⟩
      intro i u standing hcall
      cases hcall
  | append_singleton turns turn ih =>
      have hnext := ((ih hturns.front).next hturns.last).2
      simp only [after_snoc, hubs_snoc, dialled_snoc]
      exact hnext

/-- The connections evolve from each state of a history to each that comes after it. -/
theorem evolves_after {before later : List Turn} (hturns : IsHistory (before ++ later)) :
    (after before).connections.Evolves (after (before ++ later)).connections := by
  induction later using List.reverseRecOn with
  | nil =>
      rw [List.append_nil] at hturns ⊢
      exact .refl (orderly_after hturns).sane
  | append_singleton later turn ih =>
      rw [← List.append_assoc] at hturns ⊢
      rw [after_snoc]
      exact (ih hturns.front).trans ((orderly_after hturns.front).next hturns.last).1

end Affairs

end GraphDriver
