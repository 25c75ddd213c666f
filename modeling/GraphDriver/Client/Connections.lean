import GraphDriver.Cluster.Replicas
import GraphDriver.Stream.Answers

/-!
# Connections

Everything that an application holds towards its servers: clients over the hubs of their streams,
sessions, clusters and the sessions of clusters. Each is named by its place in its list. What is
shared counts its holders, and the last one who lets go ends it: a hub closes, a session says
farewell to its server. An operation changes this state between two waits and never during one.
-/

namespace GraphDriver

/-- A hub and how many hold it. -/
structure SharedHub where
  hub : Hub
  holders : Nat := 1
deriving DecidableEq, Inhabited

/-- The handle onto one server. -/
structure Client where
  address : String
  hub : Nat
  /-- Closing the client closes the hub too. -/
  ownsHub : Bool
  isOpen : Bool := true
  holders : Nat := 1
deriving DecidableEq, Inhabited

/-- A session of a database at one server. -/
structure Session where
  client : Nat
  database : String
  sessionType : SessionType
  options : Options
  id : SessionId
  networkLatencyMillis : UInt32
  isOpen : Bool := true
  holders : Nat := 1
  /-- When the session is kept alive next; a pulse that has stopped is never due. -/
  pulseDue : Option Nat
  /-- A pulse is under way. -/
  pulsing : Bool := false
deriving DecidableEq, Inhabited

/-- The handle onto the members of a cluster. -/
structure Cluster where
  members : List String
  /-- A client for each address that was ever used. -/
  clients : Dict Nat
  hub : Nat
  /-- The replicas of each database as they were last reported. -/
  replicas : Dict DatabaseReplicas := .empty
  config : FailoverConfig
  isOpen : Bool := true
  holders : Nat := 1
deriving DecidableEq, Inhabited

/-- A session that follows its database from replica to replica. -/
structure ClusterSession where
  cluster : Nat
  database : String
  sessionType : SessionType
  options : Options
  /-- The session at the replica in use. -/
  current : Nat
deriving DecidableEq, Inhabited

/-- A transaction: a stream of a hub, and what it was opened with. -/
structure Transaction where
  hub : Nat
  stream : Nat
  transactionType : TransactionType
  options : Options
deriving DecidableEq, Inhabited

/-- The message that ends a session nobody holds any more. It holds the client that sends it. -/
structure Farewell where
  client : Nat
  session : SessionId
deriving DecidableEq, Inhabited

/-- The state of all connections. -/
structure Connections where
  /-- The time by which requests are batched and sessions kept alive, in milliseconds. -/
  now : Nat := 0
  /-- The wall clock by which latency is measured, in milliseconds. -/
  wallClock : Nat := 0
  hubs : List SharedHub := []
  clients : List Client := []
  sessions : List Session := []
  clusters : List Cluster := []
  clusterSessions : List ClusterSession := []
  /-- Farewells that are to be sent. -/
  farewells : List Farewell := []
deriving DecidableEq, Inhabited

namespace Connections

/-! ## Looking up and changing -/

def hub (c : Connections) (h : Nat) : Hub := (c.hubs.getD h default).hub
def client (c : Connections) (i : Nat) : Client := c.clients.getD i default
def session (c : Connections) (s : Nat) : Session := c.sessions.getD s default
def cluster (c : Connections) (k : Nat) : Cluster := c.clusters.getD k default
def clusterSession (c : Connections) (s : Nat) : ClusterSession := c.clusterSessions.getD s default

def modifyHub (c : Connections) (h : Nat) (f : Hub → Hub) : Connections :=
  { c with hubs := c.hubs.modify h fun x => { x with hub := f x.hub } }

def modifyClient (c : Connections) (i : Nat) (f : Client → Client) : Connections :=
  { c with clients := c.clients.modify i f }

def modifySession (c : Connections) (s : Nat) (f : Session → Session) : Connections :=
  { c with sessions := c.sessions.modify s f }

def modifyCluster (c : Connections) (k : Nat) (f : Cluster → Cluster) : Connections :=
  { c with clusters := c.clusters.modify k f }

def modifyClusterSession (c : Connections) (s : Nat) (f : ClusterSession → ClusterSession) :
    Connections :=
  { c with clusterSessions := c.clusterSessions.modify s f }

/-- Runs an operation of a hub that has a result. -/
def onHub {α : Type} (h : Nat) (f : Hub → α × Hub) (c : Connections) : α × Connections :=
  let (result, hub) := f (c.hub h)
  (result, c.modifyHub h fun _ => hub)

/-- Whether a client may be used: neither it nor its transmitter was closed. -/
def clientIsOpen (c : Connections) (i : Nat) : Bool :=
  (c.client i).isOpen && (c.hub (c.client i).hub).transmitter.isOpen

/-- Whether the session that a cluster session uses is open. -/
def clusterSessionIsOpen (c : Connections) (s : Nat) : Bool :=
  (c.session (c.clusterSession s).current).isOpen

/-! ## Holding and letting go -/

def retainHub (c : Connections) (h : Nat) : Connections :=
  { c with hubs := c.hubs.modify h fun x => { x with holders := x.holders + 1 } }

def retainClient (c : Connections) (i : Nat) : Connections :=
  c.modifyClient i fun x => { x with holders := x.holders + 1 }

def retainSession (c : Connections) (s : Nat) : Connections :=
  c.modifySession s fun x => { x with holders := x.holders + 1 }

def retainCluster (c : Connections) (k : Nat) : Connections :=
  c.modifyCluster k fun x => { x with holders := x.holders + 1 }

/-- Lets go of a hub. The last holder closes it. -/
def releaseHub (c : Connections) (h : Nat) : Connections :=
  let c := { c with hubs := c.hubs.modify h fun x => { x with holders := x.holders - 1 } }
  if (c.hubs.getD h default).holders = 0 then c.modifyHub h Hub.close else c

/-- Lets go of a client. The last holder lets go of its hub. -/
def releaseClient (c : Connections) (i : Nat) : Connections :=
  let c := c.modifyClient i fun x => { x with holders := x.holders - 1 }
  if (c.client i).holders = 0 then c.releaseHub (c.client i).hub else c

/-- Marks a session closed and stops its pulse; a pulse under way lets go of the session. Tells
whether the session was open. -/
def markClosed (s : Nat) (c : Connections) : Bool × Connections :=
  if (c.session s).isOpen then
    (true, c.modifySession s fun x =>
      { x with
        isOpen := false
        pulseDue := none
        pulsing := false
        holders := if x.pulsing then x.holders - 1 else x.holders })
  else (false, c)

/-- Lets go of a session. The last holder closes it, with a farewell if it was open, and lets go of
its client. The farewell is said by a task of its own, so this is letting go where a task can be
started; where none can, the session is closed too, but no farewell is left. -/
def releaseSession (c : Connections) (s : Nat) : Connections :=
  let c := c.modifySession s fun x => { x with holders := x.holders - 1 }
  let x := c.session s
  if x.holders = 0 then
    match c.markClosed s with
    | (true, c) =>
      { c with farewells := c.farewells ++ [{ client := x.client, session := x.id }] }
    | (false, c) => c.releaseClient x.client
  else c

/-- Lets go of a cluster. The last holder lets go of its clients and its hub. -/
def releaseCluster (c : Connections) (k : Nat) : Connections :=
  let c := c.modifyCluster k fun x => { x with holders := x.holders - 1 }
  let x := c.cluster k
  if x.holders = 0 then (x.clients.values.foldl releaseClient c).releaseHub x.hub else c

/-- Ends a cluster session that nobody uses any more. -/
def dropClusterSession (c : Connections) (s : Nat) : Connections :=
  (c.releaseSession (c.clusterSession s).current).releaseCluster (c.clusterSession s).cluster

/-! ## Making clients -/

/-- A new hub with one holder. -/
def newHub (config : TransmitterConfig) (c : Connections) : Nat × Connections :=
  (c.hubs.length,
    { c with hubs := c.hubs ++ [{ hub := { transmitter := .new config } }] })

/-- A new client over a hub of which it becomes a holder. -/
def shareHub (address : String) (h : Nat) (c : Connections) : Nat × Connections :=
  (c.clients.length,
    { c.retainHub h with clients := c.clients ++ [{ address, hub := h, ownsHub := false }] })

/-- A new client over a hub of its own. -/
def newClient (address : String) (config : TransmitterConfig) (c : Connections) :
    Nat × Connections :=
  let (h, c) := c.newHub config
  (c.clients.length, { c with clients := c.clients ++ [{ address, hub := h, ownsHub := true }] })

/-! ## Closing -/

/-- Closes a client, and its hub if it owns it. -/
def closeClient (c : Connections) (i : Nat) : Connections :=
  let x := c.client i
  if x.isOpen then
    let c := c.modifyClient i fun x => { x with isOpen := false }
    if x.ownsHub then c.modifyHub x.hub Hub.close else c
  else c

/-- Closes a cluster with every client it ever used and its hub. -/
def closeCluster (c : Connections) (k : Nat) : Connections :=
  let x := c.cluster k
  if x.isOpen then
    let c := c.modifyCluster k fun x => { x with isOpen := false }
    (x.clients.values.foldl closeClient c).modifyHub x.hub Hub.close
  else c

/-- Closes the stream of a transaction. -/
def closeTransaction (c : Connections) (t : Transaction) : Connections :=
  c.modifyHub t.hub fun h => (h.closeStream t.stream none).2

/-! ## Diagnostic texts -/

def describeClient (c : Connections) (i : Nat) : String :=
  labelled "Client"
    [("address", Text.quoted (c.client i).address), ("is_open", describeFlag (c.clientIsOpen i))]

def describeSession (c : Connections) (s : Nat) : String :=
  let x := c.session s
  labelled "Session"
    [("database", Text.quoted x.database), ("session_type", describe x.sessionType),
      ("is_open", describeFlag x.isOpen)]

def describeCluster (c : Connections) (k : Nat) : String :=
  labelled "ClusterClient"
    [("members", describe (c.cluster k).members),
      ("is_open", describeFlag (c.cluster k).isOpen)]

def describeClusterSession (c : Connections) (s : Nat) : String :=
  let x := c.clusterSession s
  labelled "ClusterSession"
    [("database", Text.quoted x.database), ("session_type", describe x.sessionType),
      ("is_open", describeFlag (c.clusterSessionIsOpen s))]

def describeTransaction (c : Connections) (t : Transaction) : String :=
  labelled "Transaction"
    [("stream", (c.hub t.hub).describeStream t.stream),
      ("transaction_type", describe t.transactionType), ("options", describe t.options)]

end Connections

end GraphDriver
