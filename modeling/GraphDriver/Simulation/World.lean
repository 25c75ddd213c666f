import GraphDriver.Client.Session
import GraphDriver.Cluster.Session
import GraphDriver.Simulation.Batching
import GraphDriver.Simulation.Member

/-!
# A simulated world

Connections to scripted servers. One operation runs at a time; what goes on beside it are the
servers, the readers of the streams, the workers of the transmitters, pulses and farewells. These
are jobs, done in the order in which they come up. A job that has to wait for a time sets an alarm;
alarms of the same time go off in the order in which they were set. This module says what there is
in the world, when a job comes up and how the servers behave.
-/

namespace GraphDriver.Simulation

/-- The connection of one transaction, seen from the server. -/
structure Line where
  address : String
  hub : Nat
  dispatcher : Nat
  /-- What is done about the requests to come. -/
  script : List (List ServerAct)
  /-- What was sent and not read. -/
  inbound : List Inbound := []
  /-- The server still pulls requests. -/
  pulls : Bool := true
  /-- The server still sends. -/
  sends : Bool := true
deriving Inhabited

/-- Something that a server saw. -/
inductive Sight where
  | request (request : UnaryRequest)
  | dialled
  | batch (message : ClientMessage)
  | ended
deriving DecidableEq, Inhabited

/-- Something that goes on beside the operation. -/
inductive Job where
  /-- The server of a line pulls requests. -/
  | serve (line : Nat)
  /-- The reader of a line takes in what was sent. -/
  | read (line : Nat)
  /-- A worker flushes if it is due, and otherwise waits until it is. -/
  | flush (hub worker : Nat)
  /-- A session pulses if that is due, and otherwise waits until it is. -/
  | pulse (session : Nat)
  /-- A program goes on. If it is the pulse of a session, the next one follows. -/
  | run (program : Program Unit) (pulsing : Option Nat)

namespace Job

def isServe (line : Nat) : Job → Bool
  | .serve i => i = line
  | _ => false

def isFlush (hub worker : Nat) : Job → Bool
  | .flush h k => h = hub && k = worker
  | _ => false

def isPulse (session : Nat) : Job → Bool
  | .pulse s => s = session
  | _ => false

end Job

/-- A job that waits for a time. -/
structure Alarm where
  due : Nat
  job : Job

/-- Connections, the servers at their other ends, and what is going on. -/
structure World where
  connections : Connections := {}
  members : List Member
  /-- Nothing can be reached, and nothing is seen. -/
  isDark : Bool := false
  lines : List Line := []
  ready : List Job := []
  /-- In the order in which they were set. -/
  alarms : List Alarm := []
  /-- When the operation is given up. -/
  deadline : Nat := 0
  /-- What the servers saw, with their addresses. -/
  sights : List (String × Sight) := []
  /-- What the work of the application will give. -/
  results : List (Except Error String) := []
  /-- The addresses that the application worked with, and whether it was for the first time. -/
  runs : List (String × Bool) := []

namespace World

def now (w : World) : Nat := w.connections.now

def modify (w : World) (f : Connections → Connections) : World :=
  { w with connections := f w.connections }

def line (w : World) (i : Nat) : Line := w.lines.getD i default

def modifyLine (w : World) (i : Nat) (f : Line → Line) : World :=
  { w with lines := w.lines.modify i f }

def enqueue (w : World) (jobs : List Job) : World := { w with ready := w.ready ++ jobs }

def note (w : World) (address : String) (sight : Sight) : World :=
  { w with sights := w.sights ++ [(address, sight)] }

/-- The outgoing queue of a line. -/
def queue (w : World) (l : Line) : RequestQueue :=
  ((w.connections.hub l.hub).transmitter.dispatcher l.dispatcher).queue

def setQueue (w : World) (l : Line) (q : RequestQueue) : World :=
  w.modify (·.modifyHub l.hub fun h =>
    { h with transmitter := h.transmitter.modifyQueue l.dispatcher fun _ => q })

/-! ## Jobs come up -/

/-- Lets a job wait for a time. -/
def setAlarm (w : World) (due : Nat) (job : Job) : World :=
  { w with alarms := w.alarms ++ [⟨due, job⟩] }

/-- Whether a job will be done, now or at its time. -/
def isPlanned (w : World) (p : Job → Bool) : Bool := w.ready.any p || w.alarms.any fun a => p a.job

def awaitsPulse (w : World) (s : Nat) : Bool :=
  let x := w.connections.session s
  x.pulseDue.isSome && !x.pulsing && !w.isPlanned (Job.isPulse s)

def awaitsFlush (w : World) (h k : Nat) : Bool :=
  ((w.connections.hub h).transmitter.workers.getD k default).due.isSome &&
    !w.isPlanned (Job.isFlush h k)

def awaitsServing (w : World) (i : Nat) : Bool :=
  let l := w.line i
  let q := w.queue l
  l.pulls && (!q.batches.isEmpty || q.isClosed) && !w.ready.any (Job.isServe i)

/-- Whether what happens to two lines at once happens to the first one first: a transmitter goes
through its workers, and each worker through its dispatchers. -/
def precedes (w : World) (i j : Nat) : Bool :=
  let place (l : Line) : List Nat :=
    [l.hub, ((w.connections.hub l.hub).transmitter.dispatcher l.dispatcher).worker, l.dispatcher]
  !(place (w.line j)).lex (place (w.line i)) fun a b => a < b

/-- Queues what has come up: farewells, sessions that are to pulse from now on, workers that were
woken, lines that have something to serve. -/
def notice (w : World) : World :=
  let (farewells, connections) := w.connections.takeFarewells
  let w := { w with connections }
  let workers := (List.range w.connections.hubs.length).flatMap fun h =>
    ((List.range (w.connections.hub h).transmitter.workers.length).filter
      (w.awaitsFlush h)).map (Job.flush h)
  w.enqueue <|
    farewells.map (fun farewell => .run (Session.sayFarewell farewell) none) ++
    ((List.range w.connections.sessions.length).filter w.awaitsPulse).map .pulse ++
    workers ++
    (((List.range w.lines.length).filter w.awaitsServing).mergeSort w.precedes).map .serve

/-! ## Servers -/

/-- The answer to a call, and when it comes. -/
def call (w : World) (address : String) (request : UnaryRequest) :
    Except Error UnaryResponse × Nat × World :=
  if w.isDark then (.error (.unreachable address), 0, w)
  else
    let w := w.note address (.request request)
    match w.members.findIdx? (·.address = address) with
    | none => (.error (.unreachable address), 0, w)
    | some i =>
      let (reply, member) :=
        (w.members.getD i default).reply (w.members.map (·.address)) request
      (reply.result, reply.delay, { w with members := w.members.set i member })

/-- The latest line at an address. -/
def latestLine (w : World) (address : String) : Option Nat :=
  (List.range w.lines.length).reverse.find? fun i => (w.line i).address = address

/-- The server of a line hangs up if it neither pulls any more nor is to send any more. -/
def hangUp (w : World) (i : Nat) : World :=
  if !(w.line i).pulls && (w.line i).sends then
    (w.modifyLine i fun l => { l with inbound := l.inbound ++ [.ended], sends := false }).enqueue
      [.read i]
  else w

/-- Connects a dispatcher to a server. The server hangs up on its latest line until then, if that
one has ended. -/
def dial (w : World) (address : String) (hub dispatcher : Nat) : Except Error Unit × World :=
  if w.isDark then (.error (.unreachable address), w)
  else
    let w := w.notice.note address .dialled
    match w.members.findIdx? (·.address = address) with
    | none => (.error (.unreachable address), w)
    | some i =>
      let (script, member) := (w.members.getD i default).nextTransaction
      let w := { w with members := w.members.set i member }
      match script with
      | .refuse error => (.error error, w)
      | .serve script =>
        let w := (w.latestLine address).elim w w.hangUp
        let l : Line := { address, hub, dispatcher, script }
        let i := w.lines.length
        (.ok (), { w with lines := w.lines ++ [l] }.enqueue [.serve i, .read i])

/-- The server of a line does something about a request. -/
def act (w : World) (i : Nat) (id : RequestId) (a : ServerAct) : World :=
  let l := w.line i
  let w := match a with
    | .failOutbound error =>
      (w.setQueue l ((w.queue l).fail error)).modifyLine i fun l => { l with pulls := false }
    | _ => w
  if l.sends then
    w.modifyLine i fun l =>
      { l with
        inbound := l.inbound ++ [a.inbound id]
        sends := match a with
          | .fail _ | .finish => false
          | _ => true }
  else w

/-- The server of a line treats one request. -/
def treat (i : Nat) (w : World) (request : Request) : World :=
  match (w.line i).script with
  | [] => w
  | acts :: rest =>
    acts.foldl (fun w a => w.act i request.id a) (w.modifyLine i fun l => { l with script := rest })

/-- The server of a line pulls at most a number of batches, and sees the end if it comes next. -/
def serveBatches (i : Nat) : Nat → World → World
  | 0, w => w
  | batches + 1, w =>
    let l := w.line i
    if l.pulls then
      match (w.queue l).pull with
      | (.item batch, q) =>
        let w := (w.setQueue l q).note l.address (.batch batch)
        serveBatches i batches (batch.requests.foldl (treat i) w)
      | (.ended, _) => (w.note l.address .ended).modifyLine i fun l => { l with pulls := false }
      | (.waiting, _) => w
    else w

/-- The server of a line pulls everything that is there. At the end it hangs up, unless the line is
the latest at its address. -/
def serve (w : World) (i : Nat) : World :=
  let l := w.line i
  let w := serveBatches i ((w.queue l).batches.length + 1) w
  let w := if (w.line i).inbound.isEmpty then w else w.enqueue [.read i]
  if w.latestLine l.address = some i then w else w.hangUp i

/-- The reader of a line takes in everything that was sent. -/
def readLine (w : World) (i : Nat) : World :=
  let l := w.line i
  match (w.connections.hub l.hub).streams.findIdx? (·.dispatcher = l.dispatcher) with
  | none => w
  | some s =>
    (w.modifyLine i fun l => { l with inbound := [] }).modify
      (·.modifyHub l.hub fun h => l.inbound.foldl (fun h item => h.receive s item) h)

/-- A server sends something on its latest line. -/
def push (w : World) (address : String) (acts : List ServerAct) : World :=
  match w.latestLine address with
  | none => w
  | some i => (acts.foldl (fun w a => w.act i ⟨0⟩ a) w).enqueue [.read i]

/-! ## The application's own work -/

/-- Does the application's work with a client and notes that it ran. -/
def work (w : World) (client : Nat) (first : Bool) : Except Error String × World :=
  let (result, results) := takeTurn w.results
  (result.getD (.ok ""),
    { w with
      results
      runs := w.runs ++ [((w.connections.client client).address, first)] })

end World

end GraphDriver.Simulation
