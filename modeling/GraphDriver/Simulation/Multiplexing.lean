import GraphDriver.Stream.Answers
import GraphDriver.Simulation.Batching

/-!
# Streams on a bench

Named streams over one transmitter under virtual time, with the server side in the hands of the
experimenter. Calls are named as well. A caller that waits is served as soon as its answer arrives,
also when nobody asks for the result.
-/

namespace GraphDriver.Simulation

/-- What a caller holds: a call with one answer, or one that is answered in parts. -/
inductive Held where
  | single (call : Call)
  | parts (reader : PartReader)
  /-- All parts are gathered; with those that came so far. -/
  | gathering (reader : PartReader) (soFar : List (Except Error PartPayload))
deriving DecidableEq, Inhabited

/-- What a caller gets. -/
inductive Gotten where
  | answer (result : Except Error ResponsePayload)
  | part (result : Except Error PartPayload)
  | noMoreParts
  | parts (results : List (Except Error PartPayload))
  | stillWaiting
  | idle
  | absent
deriving DecidableEq, Inhabited

/-- A caller: what it holds, whether it waits, and what it got since. -/
structure Caller where
  held : Held
  waits : Bool := false
  got : Option Gotten := none
deriving DecidableEq, Inhabited

/-- Named streams and callers over one hub. -/
structure Multiplexer where
  now : Nat := 0
  hub : Hub
  /-- The address at which every stream opens. -/
  address : String
  streams : List (String × Nat) := []
  /-- The streams whose outgoing requests are still pulled. -/
  listening : List (String × Nat) := []
  callers : List (String × Caller) := []
  sent : List Sent := []

namespace Multiplexer

def lookup (m : Multiplexer) (name : String) : Option Nat :=
  (m.streams.find? (·.1 = name)).map (·.2)

def caller (m : Multiplexer) (name : String) : Option Caller :=
  (m.callers.find? (·.1 = name)).map (·.2)

def setCaller (m : Multiplexer) (name : String) (caller : Caller) : Multiplexer :=
  { m with callers := m.callers.filter (·.1 ≠ name) ++ [(name, caller)] }

/-- Gives up what a caller holds. -/
def giveUp (m : Multiplexer) : Held → Multiplexer
  | .single _ => m
  | .parts reader | .gathering reader _ => { m with hub := m.hub.dropParts reader }

/-- The caller of a name goes away. -/
def dropCaller (m : Multiplexer) (name : String) : Multiplexer :=
  match m.caller name with
  | none => m
  | some caller =>
    { m with callers := m.callers.filter (·.1 ≠ name) }.giveUp caller.held

/-- Gathers parts as far as they can be had. -/
def gather : Nat → Hub → (now : Nat) → PartReader → List (Except Error PartPayload) →
    Bool × List (Except Error PartPayload) × PartReader × Hub
  | 0, h, _, reader, soFar => (false, soFar, reader, h)
  | looks + 1, h, now, reader, soFar =>
    match h.nextPart now reader with
    | (.item part, reader, h) => gather looks h now reader (soFar ++ [part])
    | (.ended, reader, h) => (true, soFar, reader, h)
    | (.waiting, reader, h) => (false, soFar, reader, h)

/-- Serves a caller that waits, if its answer is there. -/
def serve (m : Multiplexer) (name : String) : Multiplexer :=
  match m.caller name with
  | some { held, waits := true, got := none } =>
    match held with
    | .single call =>
      match m.hub.read call with
      | (.item delivery, hub) =>
        { m with hub }.setCaller name
          { held, waits := true, got := some (.answer (Hub.singleAnswer call.id delivery)) }
      | (_, hub) => { m with hub }
    | .parts reader =>
      match m.hub.nextPart m.now reader with
      | (.item part, reader, hub) =>
        { m with hub }.setCaller name
          { held := .parts reader, waits := true, got := some (.part part) }
      | (.ended, reader, hub) =>
        { m with hub }.setCaller name
          { held := .parts reader, waits := true, got := some .noMoreParts }
      | (.waiting, reader, hub) =>
        { m with hub }.setCaller name { held := .parts reader, waits := true }
    | .gathering reader soFar =>
      match gather (m.hub.backlog reader.call + 3) m.hub m.now reader soFar with
      | (true, soFar, reader, hub) =>
        { m with hub }.setCaller name
          { held := .gathering reader soFar, waits := true, got := some (.parts soFar) }
      | (false, soFar, reader, hub) =>
        { m with hub }.setCaller name { held := .gathering reader soFar, waits := true }
  | _ => m

/-- Serves every caller. -/
def serveAll (m : Multiplexer) : Multiplexer :=
  (m.callers.map (·.1)).foldl serve m

/-- Lets the server side of one stream pull every batch that is there. -/
def listen (m : Multiplexer) (wire : String × Nat) : Multiplexer :=
  let queue := m.hub.queue wire.2
  let (batches, ended, queue) := pullAll (queue.batches.length + 1) queue
  let note (batch : Option ClientMessage) : Sent := ⟨m.now, wire.1, batch⟩
  { m with
    hub := m.hub.modifyQueue wire.2 fun _ => queue
    sent := m.sent ++ batches.map (fun batch => note (some batch)) ++
      (if ended then [note none] else [])
    listening := if ended then m.listening.filter (· ≠ wire) else m.listening }

/-- Lets everything happen that needs no time. -/
def settle (m : Multiplexer) : Multiplexer :=
  let m := m.serveAll
  let m := { m with hub := m.hub.runDue m.now }.serveAll
  m.listening.foldl listen m

/-- Lets milliseconds pass one by one. -/
def tick : Nat → Multiplexer → Multiplexer
  | 0, m => m
  | millis + 1, m => tick millis (settle { m with now := m.now + 1 })

/-- The server side of a stream pulls no more. -/
def silence (m : Multiplexer) (s : Nat) (f : RequestQueue → RequestQueue) : Multiplexer :=
  { m with hub := m.hub.modifyQueue s f, listening := m.listening.filter (·.2 ≠ s) }

/-- Our handle on a stream and both ends of its connection go away. -/
def dropStream (m : Multiplexer) (name : String) : Multiplexer :=
  match m.lookup name with
  | none => m
  | some s =>
    let m := m.silence s .abandon
    { m with hub := (m.hub.closeStream s none).2, streams := m.streams.filter (·.1 ≠ name) }

/-- Opens a stream of a name. The server may refuse the call; a deaf one never listens. -/
def openStream (m : Multiplexer) (name : String) (refusal : Option Error) (deaf : Bool) :
    Except Error Unit × Multiplexer :=
  match m.hub.reserve with
  | (.error error, hub) => (.error error, { m with hub })
  | (.ok dispatcher, hub) =>
    match refusal with
    | some error => (.error error, { m with hub := hub.release dispatcher })
    | none =>
      let (s, hub) := hub.attach dispatcher m.address
      let m := { m with hub }.dropStream name
      let m := { m with
        streams := m.streams ++ [(name, s)]
        listening := m.listening ++ [(name, s)] }
      (.ok (), if deaf then m.silence s .abandon else m)

/-- Sends a request with one answer. -/
def single (m : Multiplexer) (name : String) (s : Nat) (payload : RequestPayload)
    (batched : Bool) : Except Error RequestId × Multiplexer :=
  match m.hub.send m.now s payload batched with
  | (.error error, hub) => (.error error, { m with hub })
  | (.ok call, hub) =>
    (.ok call.id, ({ m with hub }.dropCaller name).setCaller name { held := .single call })

/-- Sends a request that is answered in parts. -/
def parts (m : Multiplexer) (name : String) (s : Nat) (payload : RequestPayload) :
    Except Error RequestId × Multiplexer :=
  match m.hub.send m.now s payload true with
  | (.error error, hub) => (.error error, { m with hub })
  | (.ok call, hub) =>
    (.ok call.id, ({ m with hub }.dropCaller name).setCaller name { held := .parts { call } })

/-- What a caller got, if it waits. A caller whose call is over then goes away. -/
def poll (m : Multiplexer) (name : String) : Gotten × Multiplexer :=
  match m.caller name with
  | none => (.absent, m)
  | some { waits := false, .. } => (.idle, m)
  | some { got := none, .. } => (.stillWaiting, m)
  | some { held, got := some got, .. } =>
    match held with
    | .parts _ => (got, m.setCaller name { held })
    | _ => (got, m.dropCaller name)

/-- Lets a caller wait for its answer or its next part, or for all parts, and tells at once what it
got. -/
def get (m : Multiplexer) (name : String) (all : Bool) : Gotten × Multiplexer :=
  match m.caller name with
  | none => (.absent, m)
  | some caller =>
    let held := match caller.held with
      | .parts reader => if all then .gathering reader [] else .parts reader
      | held => held
    (m.setCaller name { caller with held, waits := true }).settle.poll name

/-- The closing of a stream by its owner. -/
def close (m : Multiplexer) (s : Nat) (error : Option Error) : Bool × Multiplexer :=
  let (did, hub) := m.hub.closeStream s error
  (did, { m with hub })

def closeTransmitter (m : Multiplexer) : Multiplexer := { m with hub := m.hub.close }

/-- What a stream receives from the server side. -/
def receive (m : Multiplexer) (s : Nat) (inbound : Inbound) : Multiplexer :=
  { m with hub := m.hub.receive s inbound }

/-- The server side gives up reading requests and says why. -/
def failOutbound (m : Multiplexer) (s : Nat) (error : Error) : Multiplexer :=
  if (m.hub.queue s).abandoned then m
  else (m.silence s (·.fail error)).receive s (.outboundFailed error)

/-- Takes the log of what was sent, by time and name. -/
def takeSent (m : Multiplexer) : List Sent × Multiplexer :=
  (Sent.sorted m.sent, { m with sent := [] })

end Multiplexer

end GraphDriver.Simulation
