import GraphDriver.Stream.RequestQueue
import GraphDriver.Schema.Encode
import GraphDriver.Schema.Describe

/-!
# Request transmitter

The transactions of a client share a few workers that send their requests in batches. Each
transaction has a dispatcher, which buffers its requests and is bound to one worker. A worker
without work is idle; the first buffered request wakes it, it flushes all its dispatchers after the
small window and again after every large window, and it goes back to idleness when it is due and no
dispatcher is left. A batch that a queue refuses is reported to the hook of its dispatcher.

Every operation here is one step, and none goes on while another does. So a request is taken before
its dispatcher is closed, or refused after that; a request that is buffered while another thread
closes its dispatcher is not described.
-/

namespace GraphDriver

/-- How requests are gathered into batches. -/
structure TransmitterConfig where
  /-- How many workers there are; none counts as one. -/
  parallelisation : UInt64 := 2
  /-- From the first request after idleness to the flush. -/
  smallWindow : Span := .ofMillis 1
  /-- From one flush to the next. -/
  largeWindow : Span := .ofMillis 3
deriving DecidableEq

instance : Inhabited TransmitterConfig := ⟨{}⟩

instance : Described TransmitterConfig where
  schema := .record "TransmitterConfig" <|
    .defaulted "parallelisation" .count (.unsigned 2) <|
    .defaulted "batch_window_small" .span (Span.ofMillis 1).toValue <|
    .defaulted "batch_window_large" .span (Span.ofMillis 3).toValue .nil
  toCarrier c := (c.parallelisation, c.smallWindow, c.largeWindow, ())
  ofCarrier := fun (parallelisation, small, large, _) => ⟨parallelisation, small, large⟩
  ofCarrier_toCarrier _ := rfl

/-- Who hears of a batch that a queue refused, and whether the dispatcher is closed for it. A hook is
called, and at most closes its own dispatcher: one that turns to the transmitter itself, to send or
to ask whether it is open, is not described. -/
structure Hook where
  label : Nat
  closes : Bool
deriving DecidableEq, Inhabited

/-- A hook that was called, with the error of the refused batch. -/
structure Report where
  label : Nat
  error : Error
deriving DecidableEq, Inhabited

/-- The outgoing side of one transaction. -/
structure Dispatcher where
  /-- The worker that it is bound to. -/
  worker : Nat
  buffer : List Request := []
  queue : RequestQueue := {}
  closed : Bool := false
  hook : Option Hook := none
deriving DecidableEq, Inhabited

/-- One of the workers. -/
structure Worker where
  /-- The dispatchers that it flushes. -/
  members : List Nat := []
  /-- When it flushes next; an idle worker is not due. -/
  due : Option Nat := none
deriving DecidableEq, Inhabited

/-- Workers and the dispatchers bound to them. A dispatcher is named by its place in the list. -/
structure Transmitter where
  smallWindow : Nat
  largeWindow : Nat
  workers : List Worker
  dispatchers : List Dispatcher := []
  isOpen : Bool := true
deriving DecidableEq, Inhabited

namespace Transmitter

def new (config : TransmitterConfig) : Transmitter where
  smallWindow := config.smallWindow.millis
  largeWindow := config.largeWindow.millis
  workers := List.replicate (max 1 config.parallelisation.toNat) {}

def dispatcher (t : Transmitter) (d : Nat) : Dispatcher := t.dispatchers.getD d default

def setDispatcher (t : Transmitter) (d : Nat) (dispatcher : Dispatcher) : Transmitter :=
  { t with dispatchers := t.dispatchers.set d dispatcher }

def modifyQueue (t : Transmitter) (d : Nat) (f : RequestQueue → RequestQueue) : Transmitter :=
  { t with dispatchers := t.dispatchers.modify d fun x => { x with queue := f x.queue } }

/-- How many dispatchers each worker has. -/
def counts (t : Transmitter) : List Nat := t.workers.map (·.members.length)

/-- Binds a new dispatcher to the next worker in turn. -/
def bind (t : Transmitter) : Except Error Nat × Transmitter :=
  if t.isOpen then
    let d := t.dispatchers.length
    let w := d % t.workers.length
    (.ok d,
      { t with
        dispatchers := t.dispatchers ++ [{ worker := w }]
        workers := t.workers.modify w fun x => { x with members := x.members ++ [d] } })
  else (.error .clientClosed, t)

/-- Takes a dispatcher from the worker that it is bound to. -/
def deregister (t : Transmitter) (d : Nat) : Transmitter :=
  { t with
    workers := t.workers.modify (t.dispatcher d).worker fun x =>
      { x with members := x.members.filter (· ≠ d) } }

/-- Puts the buffered requests of a dispatcher into its queue as one batch, if there are any. -/
def flush (t : Transmitter) (d : Nat) : Except Error Unit × Transmitter :=
  let x := t.dispatcher d
  if x.buffer.isEmpty then (.ok (), t)
  else
    let (result, queue) := x.queue.put ⟨x.buffer⟩
    (result, t.setDispatcher d { x with buffer := [], queue })

/-- Marks a dispatcher closed and ends its queue, without looking at its buffer. -/
def shut (t : Transmitter) (d : Nat) : Transmitter :=
  { t with
    dispatchers := t.dispatchers.modify d fun x =>
      { x with closed := true, queue := x.queue.close } }

/-- Calls the hook of a dispatcher with the error of a batch that was refused. A dispatcher that
its hook closes has nothing left in its buffer. -/
def refused (t : Transmitter) (d : Nat) (error : Error) : Transmitter × List Report :=
  match (t.dispatcher d).hook with
  | none => (t, [])
  | some hook =>
    (if hook.closes then (t.deregister d).shut d else t, [{ label := hook.label, error }])

/-- Closes a dispatcher: flushes what is buffered, ends the queue and leaves the worker. -/
def closeDispatcher (t : Transmitter) (d : Nat) : Transmitter × List Report :=
  let t := t.deregister d
  if (t.dispatcher d).closed then (t, [])
  else
    match t.flush d with
    | (.ok (), t) => (t.shut d, [])
    | (.error error, t) =>
      let (t, reports) := t.refused d error
      (t.shut d, reports)

/-- Whether a dispatcher takes requests. -/
def accepts (t : Transmitter) (d : Nat) : Bool := t.isOpen && !(t.dispatcher d).closed

/-- Adds a request to the buffer of a dispatcher. -/
def buffer (t : Transmitter) (d : Nat) (request : Request) : Transmitter :=
  { t with
    dispatchers := t.dispatchers.modify d fun x => { x with buffer := x.buffer ++ [request] } }

/-- Wakes an idle worker. -/
def wake (t : Transmitter) (w now : Nat) : Transmitter :=
  { t with
    workers := t.workers.modify w fun x =>
      match x.due with
      | some _ => x
      | none => { x with due := some (now + t.smallWindow) } }

/-- Buffers a request for the next batch. -/
def dispatch (t : Transmitter) (now d : Nat) (request : Request) :
    Except Error Unit × Transmitter :=
  if t.accepts d then (.ok (), (t.buffer d request).wake (t.dispatcher d).worker now)
  else (.error .clientClosed, t)

/-- Buffers a request and flushes the buffer at once. A refusal is returned and reported. -/
def dispatchNow (t : Transmitter) (d : Nat) (request : Request) :
    Except Error Unit × Transmitter × List Report :=
  if t.accepts d then
    match (t.buffer d request).flush d with
    | (.ok (), t) => (.ok (), t, [])
    | (.error error, t) => (.error error, t.refused d error)
  else (.error .clientClosed, t, [])

/-- Flushes some dispatchers, then calls the hooks of those whose batches were refused. -/
def flushAll (t : Transmitter) (members : List Nat) : Transmitter × List Report :=
  let (t, failures) := members.foldl (fun (t, failures) d =>
    match t.flush d with
    | (.ok (), t) => (t, failures)
    | (.error error, t) => (t, failures ++ [(d, error)])) (t, [])
  failures.foldl (fun (t, reports) (d, error) =>
    let (t, more) := t.refused d error
    (t, reports ++ more)) (t, [])

/-- A worker that is due flushes its dispatchers and is due again after the large window, or goes
idle if it has none. -/
def runWorker (t : Transmitter) (now w : Nat) : Transmitter × List Report :=
  match t.workers[w]? with
  | none => (t, [])
  | some worker =>
    if worker.due.any (· ≤ now) then
      if worker.members.isEmpty then
        ({ t with workers := t.workers.set w { worker with due := none } }, [])
      else
        let t := { t with
          workers := t.workers.set w { worker with due := some (now + t.largeWindow) } }
        t.flushAll worker.members
    else (t, [])

/-- Every worker that is due runs once. -/
def runDue (t : Transmitter) (now : Nat) : Transmitter × List Report :=
  (List.range t.workers.length).foldl (fun (t, reports) w =>
    let (t, more) := t.runWorker now w
    (t, reports ++ more)) (t, [])

/-- Closes every dispatcher and stops the workers. -/
def close (t : Transmitter) : Transmitter × List Report :=
  if t.isOpen then
    let members := t.workers.flatMap (·.members)
    let t := { t with isOpen := false, workers := t.workers.map fun _ => {} }
    members.foldl (fun (t, reports) d =>
      let (t, more) := t.closeDispatcher d
      (t, reports ++ more)) (t, [])
  else (t, [])

/-- Sets the hook of a dispatcher, in place of an earlier one. -/
def setHook (t : Transmitter) (d : Nat) (hook : Hook) : Transmitter :=
  { t with dispatchers := t.dispatchers.modify d fun x => { x with hook := some hook } }

/-- The diagnostic text of a transmitter. -/
def describe (t : Transmitter) : String :=
  labelled "RequestTransmitter"
    [("parallelisation", toString t.workers.length), ("is_open", describeFlag t.isOpen)]

/-- The diagnostic text of a dispatcher. -/
def describeDispatcher (t : Transmitter) (d : Nat) : String :=
  labelled "Dispatcher"
    [("id", toString d), ("is_closed", describeFlag (t.dispatcher d).closed)]

end Transmitter

end GraphDriver
