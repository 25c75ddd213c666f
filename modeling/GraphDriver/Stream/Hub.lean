import GraphDriver.Stream.Collector
import GraphDriver.Stream.Transmitter

/-!
# Streams

A stream is the conversation of one transaction with its server: a dispatcher for what goes out, a
collector for what comes in, and the number of the next request. A hub holds the streams that share
a transmitter. A stream closes once: when the other side fails or ends, sends a message for no
request, stops taking requests, or when its owner closes it. From then on every call on it ends with
the error that closed it.

Every operation on a hub is one step, and none goes on while another does. So the requests of a
stream are buffered in the order of their numbers; two threads that send over one stream at once are
not described.
-/

namespace GraphDriver

/-- The conversation of one transaction. -/
structure Stream where
  dispatcher : Nat
  address : String
  collector : Collector := {}
  isOpen : Bool := true
  nextId : UInt32 := 1
deriving DecidableEq, Inhabited

/-- A request that was sent, and where its answer arrives. -/
structure Call where
  stream : Nat
  mailbox : Nat
  id : RequestId
deriving DecidableEq, Inhabited

/-- What the reader of a stream learns from the connection. -/
inductive Inbound where
  | message (m : ServerMessage)
  | failed (error : Error)
  | ended
  /-- The connection can no longer write. -/
  | outboundFailed (error : Error)
deriving DecidableEq, Inhabited

/-- Streams over one transmitter. A stream is named by its place in the list. -/
structure Hub where
  transmitter : Transmitter
  streams : List Stream := []
deriving DecidableEq, Inhabited

namespace Hub

def stream (h : Hub) (s : Nat) : Stream := h.streams.getD s default

def modifyStream (h : Hub) (s : Nat) (f : Stream → Stream) : Hub :=
  { h with streams := h.streams.modify s f }

/-- Closes a stream, unless it is closed: every call in flight gets the error, what is buffered
leaves, and the outgoing queue ends. Tells whether this call did it. -/
def closeStream (h : Hub) (s : Nat) (error : Option Error) : Bool × Hub :=
  let x := h.stream s
  if x.isOpen then
    let h := h.modifyStream s fun x =>
      { x with isOpen := false, collector := x.collector.close error }
    (true, { h with transmitter := (h.transmitter.closeDispatcher x.dispatcher).1 })
  else (false, h)

/-- Closes the streams whose batches were refused. -/
def heed (h : Hub) (reports : List Report) : Hub :=
  reports.foldl (fun h report => (h.closeStream report.label (some report.error)).2) h

/-- Runs an operation of the transmitter and heeds its reports. -/
def transmit (h : Hub) (step : Transmitter × List Report) : Hub :=
  { h with transmitter := step.1 }.heed step.2

/-- Takes a dispatcher for a stream that is about to open. -/
def reserve (h : Hub) : Except Error Nat × Hub :=
  let (result, transmitter) := h.transmitter.bind
  (result, { h with transmitter })

/-- Gives back the dispatcher of a stream that did not open. -/
def release (h : Hub) (dispatcher : Nat) : Hub :=
  h.transmit (h.transmitter.closeDispatcher dispatcher)

/-- Makes a stream of a dispatcher. Refused batches close it. -/
def attach (h : Hub) (dispatcher : Nat) (address : String) : Nat × Hub :=
  (h.streams.length,
    { transmitter := h.transmitter.setHook dispatcher { label := h.streams.length, closes := false }
      streams := h.streams ++ [{ dispatcher, address }] })

/-- Ends the registration of a call that nobody waits for any more. -/
def forget (h : Hub) (s : Nat) (id : RequestId) : Hub :=
  h.modifyStream s fun x => { x with collector := x.collector.remove id }

/-- Sends a request under the next number, with the next batch or at once. A call that fails leaves
no registration behind. -/
def send (h : Hub) (now s : Nat) (payload : RequestPayload) (batched : Bool) :
    Except Error Call × Hub :=
  let x := h.stream s
  if x.isOpen then
    let id : RequestId := ⟨x.nextId⟩
    let (registration, collector) := x.collector.register id
    let h := h.modifyStream s fun x => { x with nextId := x.nextId + 1, collector }
    match registration with
    | .error error => (.error error, h)
    | .ok mailbox =>
      let (result, h) :=
        if batched then
          let (result, transmitter) := h.transmitter.dispatch now x.dispatcher ⟨id, payload⟩
          (result, { h with transmitter })
        else
          let (result, step) := h.transmitter.dispatchNow x.dispatcher ⟨id, payload⟩
          (result, h.transmit step)
      match result with
      | .ok () => (.ok ⟨s, mailbox, id⟩, h)
      | .error error => (.error error, h.forget s id)
  else (.error .transactionClosed, h)

/-- Asks for the next page of a streamed answer. -/
def askMore (h : Hub) (now s : Nat) (id : RequestId) : Except Error Unit × Hub :=
  let x := h.stream s
  if x.isOpen then
    let (result, transmitter) := h.transmitter.dispatch now x.dispatcher ⟨id, .streamContinue⟩
    (result, { h with transmitter })
  else (.error .transactionClosed, h)

/-- Takes in what the connection of a stream has brought. A closed stream listens no more. -/
def receive (h : Hub) (s : Nat) (inbound : Inbound) : Hub :=
  let x := h.stream s
  if x.isOpen then
    match inbound with
    | .message m =>
      match x.collector.route m with
      | (.ok (), collector) => h.modifyStream s fun x => { x with collector }
      | (.error error, _) => (h.closeStream s (some error)).2
    | .failed error | .outboundFailed error => (h.closeStream s (some error)).2
    | .ended => (h.closeStream s none).2
  else h

/-- Reads the next delivery of a call. -/
def read (h : Hub) (call : Call) : Poll Delivery × Hub :=
  let (delivery, collector) := (h.stream call.stream).collector.read call.mailbox
  (delivery, h.modifyStream call.stream fun x => { x with collector })

/-- How many calls of a stream are in flight. -/
def pendingCalls (h : Hub) (s : Nat) : Nat := (h.stream s).collector.size

/-- The outgoing queue of a stream. -/
def queue (h : Hub) (s : Nat) : RequestQueue :=
  (h.transmitter.dispatcher (h.stream s).dispatcher).queue

def modifyQueue (h : Hub) (s : Nat) (f : RequestQueue → RequestQueue) : Hub :=
  { h with transmitter := h.transmitter.modifyQueue (h.stream s).dispatcher f }

/-- Every worker that is due flushes its dispatchers. -/
def runDue (h : Hub) (now : Nat) : Hub := h.transmit (h.transmitter.runDue now)

/-- Closes the transmitter, and with it every outgoing queue. The streams stay open for what still
comes in. -/
def close (h : Hub) : Hub := h.transmit h.transmitter.close

/-- The answer that a message gives to a request with one answer. -/
def singleAnswer (id : RequestId) : Delivery → Except Error ResponsePayload
  | .error error => .error error
  | .ok (.response response) =>
    match response.result with
    | .ok payload => .ok payload
    | .error error => .error (.ofServerError error)
  | .ok (.responsePart _) => .error (.protocol (.partForSingle id))

/-- The diagnostic text of a stream. -/
def describeStream (h : Hub) (s : Nat) : String :=
  labelled "BidiStream"
    [("address", Text.quoted (h.stream s).address), ("is_open", describeFlag (h.stream s).isOpen)]

end Hub

end GraphDriver
