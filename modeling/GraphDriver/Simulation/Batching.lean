import GraphDriver.Stream.Transmitter

/-!
# Dispatchers on a bench

A transmitter under virtual time whose queues are pulled empty at once. Every dispatcher has a name;
what its receiver gets is noted with the time.
-/

namespace GraphDriver.Simulation

/-- Something that the receiver of a queue saw: a batch, or the end. -/
structure Sent where
  time : Nat
  wire : String
  batch : Option ClientMessage
deriving DecidableEq, Inhabited

/-- Sent things by time, then by name of the wire, otherwise in the order they came. -/
def Sent.sorted (sent : List Sent) : List Sent :=
  sent.mergeSort fun a b => a.time < b.time || (a.time = b.time && a.wire ≤ b.wire)

/-- Everything that can be pulled out of a queue now, and whether its end was reached. -/
def pullAll : Nat → RequestQueue → List ClientMessage × Bool × RequestQueue
  | 0, q => ([], false, q)
  | pulls + 1, q =>
    match q.pull with
    | (.item batch, q) =>
      let (batches, ended, q) := pullAll pulls q
      (batch :: batches, ended, q)
    | (.ended, q) => ([], true, q)
    | (.waiting, q) => ([], false, q)

/-- A transmitter with named dispatchers. -/
structure Bench where
  now : Nat := 0
  transmitter : Transmitter
  /-- The dispatchers by name. -/
  names : List (String × Nat) := []
  /-- The receivers that still listen. -/
  listening : List (String × Nat) := []
  /-- What the receivers saw since the log was last taken. -/
  sent : List Sent := []
  /-- The hooks that were called since then. -/
  reports : List Report := []

namespace Bench

def lookup (b : Bench) (name : String) : Option Nat := (b.names.find? (·.1 = name)).map (·.2)

/-- Runs an operation of the transmitter and notes its reports. -/
def run (b : Bench) (step : Transmitter × List Report) : Bench :=
  { b with transmitter := step.1, reports := b.reports ++ step.2 }

/-- Lets one receiver pull everything that is there. -/
def listen (b : Bench) (receiver : String × Nat) : Bench :=
  let queue := (b.transmitter.dispatcher receiver.2).queue
  let (batches, ended, queue) := pullAll (queue.batches.length + 1) queue
  let note (batch : Option ClientMessage) : Sent := ⟨b.now, receiver.1, batch⟩
  { b with
    transmitter := b.transmitter.modifyQueue receiver.2 fun _ => queue
    sent := b.sent ++ batches.map (fun batch => note (some batch)) ++
      (if ended then [note none] else [])
    listening := if ended then b.listening.filter (· ≠ receiver) else b.listening }

/-- Lets everything happen that needs no time. -/
def settle (b : Bench) : Bench :=
  let b := b.run (b.transmitter.runDue b.now)
  b.listening.foldl listen b

/-- Lets milliseconds pass one by one. -/
def tick : Nat → Bench → Bench
  | 0, b => b
  | millis + 1, b => tick millis (settle { b with now := b.now + 1 })

/-- The receiver of a dispatcher listens no more. -/
def silence (b : Bench) (d : Nat) (f : RequestQueue → RequestQueue) : Bench :=
  { b with
    transmitter := b.transmitter.modifyQueue d f
    listening := b.listening.filter (·.2 ≠ d) }

/-- Makes a dispatcher of a name. An older one of that name is closed, and its receiver listens no
more. -/
def bind (b : Bench) (name : String) : Except Error Unit × Bench :=
  match b.transmitter.bind with
  | (.error error, transmitter) => (.error error, { b with transmitter })
  | (.ok d, transmitter) =>
    let b := { b with transmitter }
    let b := match b.lookup name with
      | none => b
      | some old => b.run (b.transmitter.closeDispatcher old)
    let b := (b.listening.filter (·.1 = name)).foldl (fun b old => b.silence old.2 .abandon) b
    (.ok (), { b with
      names := b.names.filter (·.1 ≠ name) ++ [(name, d)]
      listening := b.listening ++ [(name, d)] })

def dispatch (b : Bench) (d : Nat) (request : Request) : Except Error Unit × Bench :=
  let (result, transmitter) := b.transmitter.dispatch b.now d request
  (result, { b with transmitter })

def dispatchNow (b : Bench) (d : Nat) (request : Request) : Except Error Unit × Bench :=
  let (result, step) := b.transmitter.dispatchNow d request
  (result, b.run step)

def close (b : Bench) (d : Nat) : Bench := b.run (b.transmitter.closeDispatcher d)

/-- Closes a dispatcher and forgets its name. -/
def drop (b : Bench) (name : String) (d : Nat) : Bench :=
  { b.close d with names := b.names.filter (·.1 ≠ name) }

def closeTransmitter (b : Bench) : Bench := b.run b.transmitter.close

/-- Takes the logs: what was sent, by time and name, and the hooks that were called. -/
def takeLogs (b : Bench) : List Sent × List Report × Bench :=
  (Sent.sorted b.sent, b.reports, { b with sent := [], reports := [] })

end Bench

end GraphDriver.Simulation
