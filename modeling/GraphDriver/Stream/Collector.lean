import GraphDriver.Stream.RequestQueue
import GraphDriver.Message.Reply

/-!
# Response collector

Which call of a transaction gets which server message. A call registers its request number and gets
a mailbox; a message goes to the mailbox that is registered under its number, and a terminal message
ends the registration. Numbers are handed out in increasing order, so the highest one tells a late
message of a finished call, which is dropped, from a message that answers no request at all.
-/

namespace GraphDriver

/-- What a mailbox receives: a message, or the error that closed the transaction. -/
abbrev Delivery := Except Error ServerMessage

/-- The receiving side of one call. -/
structure Mailbox where
  id : RequestId
  /-- What was delivered and not read. -/
  waiting : List Delivery := []
  /-- The error that every further read gives. -/
  verdict : Option Error := none
deriving DecidableEq, Inhabited

namespace Mailbox

/-- Takes out the next delivery. An empty mailbox waits for more as long as it is fed. -/
def take (m : Mailbox) (fed : Bool) : Poll Delivery × Mailbox :=
  match m.waiting with
  | delivery :: rest => (.item delivery, { m with waiting := rest })
  | [] => (if fed then .waiting else .ended, m)

/-- What the reader is told of a delivery, or of the end of all deliveries, which counts as the
error of a closed transaction. An error is final. -/
def settle (m : Mailbox) : Option Delivery → Delivery × Mailbox
  | some (.ok message) => (.ok message, m)
  | some (.error error) => (.error error, { m with verdict := some error })
  | none => (.error .transactionClosed, { m with verdict := some .transactionClosed })

/-- Reads the next delivery, waiting for it if need be. -/
def get (m : Mailbox) (fed : Bool) : Poll Delivery × Mailbox :=
  match m.verdict with
  | some error => (.item (.error error), m)
  | none =>
    match m.take fed with
    | (.item delivery, m) =>
      let (told, m) := m.settle (some delivery)
      (.item told, m)
    | (.ended, m) =>
      let (told, m) := m.settle none
      (.item told, m)
    | (.waiting, m) => (.waiting, m)

/-- Reads the next delivery without waiting; there is none if nothing has come yet. -/
def tryGet (m : Mailbox) (fed : Bool) : Option Delivery × Mailbox :=
  match m.verdict with
  | some error => (some (.error error), m)
  | none =>
    match m.take fed with
    | (.item delivery, m) =>
      let (told, m) := m.settle (some delivery)
      (some told, m)
    | (.waiting, m) => (none, m)
    | (.ended, m) =>
      let (told, m) := m.settle none
      (some told, m)

end Mailbox

/-- Registered calls and their mailboxes. A mailbox is named by its place in the list. -/
structure Collector where
  /-- The mailbox of each call that is in flight. -/
  registered : List (RequestId × Nat) := []
  mailboxes : List Mailbox := []
  /-- The highest request number ever registered. -/
  highest : Option RequestId := none
  closed : Bool := false
deriving DecidableEq, Inhabited

namespace Collector

/-- The mailbox that is registered under a number. -/
def lookup (c : Collector) (id : RequestId) : Option Nat :=
  (c.registered.find? (·.1 = id)).map (·.2)

def isRegistered (c : Collector) (id : RequestId) : Bool := c.registered.any (·.1 = id)

/-- Whether some registration still feeds a mailbox. -/
def isFed (c : Collector) (mailbox : Nat) : Bool := c.registered.any (·.2 = mailbox)

/-- How many calls are in flight. -/
def size (c : Collector) : Nat := c.registered.length

/-- Whether a number was ever registered, going by the highest one. -/
def wasIssued (c : Collector) (id : RequestId) : Bool :=
  match c.highest with
  | some highest => id ≤ highest
  | none => false

/-- Ends the registration of a number. -/
def remove (c : Collector) (id : RequestId) : Collector :=
  { c with registered := c.registered.filter (·.1 ≠ id) }

/-- Registers a number that is about to be sent, and makes its mailbox. -/
def register (c : Collector) (id : RequestId) : Except Error Nat × Collector :=
  if c.closed then (.error .transactionClosed, c)
  else if c.isRegistered id then (.error (.protocol (.inFlight id)), c)
  else
    (.ok c.mailboxes.length,
      { c with
        registered := c.registered ++ [(id, c.mailboxes.length)]
        mailboxes := c.mailboxes ++ [{ id }]
        highest := if c.wasIssued id then c.highest else some id })

/-- Puts a delivery into a mailbox. -/
def deliver (c : Collector) (mailbox : Nat) (delivery : Delivery) : Collector :=
  { c with
    mailboxes := c.mailboxes.modify mailbox fun m => { m with waiting := m.waiting ++ [delivery] } }

/-- Brings a server message to its call. A message for a number that was never registered breaks the
protocol; a message for a call that is over is dropped. -/
def route (c : Collector) (message : ServerMessage) : Except Error Unit × Collector :=
  if c.closed then (.ok (), c)
  else
    match c.lookup message.requestId with
    | some mailbox =>
      let c := if message.isTerminal then c.remove message.requestId else c
      (.ok (), c.deliver mailbox (.ok message))
    | none =>
      if c.wasIssued message.requestId then (.ok (), c)
      else (.error (.unknownRequestId message.requestId), c)

/-- Ends every registration, and with an error delivers it to each. -/
def close (c : Collector) (error : Option Error) : Collector :=
  let c' : Collector := { c with registered := [], closed := true }
  match error with
  | none => c'
  | some error => c.registered.foldl (fun c' (_, mailbox) => c'.deliver mailbox (.error error)) c'

/-- Reads the next delivery of a mailbox, or waits for it. -/
def read (c : Collector) (mailbox : Nat) : Poll Delivery × Collector :=
  match c.mailboxes[mailbox]? with
  | none => (.ended, c)
  | some m =>
    let (delivery, m) := m.get (c.isFed mailbox)
    (delivery, { c with mailboxes := c.mailboxes.set mailbox m })

/-- Reads the next delivery of a mailbox if it can be had without waiting. -/
def tryRead (c : Collector) (mailbox : Nat) : Option Delivery × Collector :=
  match c.mailboxes[mailbox]? with
  | none => (none, c)
  | some m =>
    let (delivery, m) := m.tryGet (c.isFed mailbox)
    (delivery, { c with mailboxes := c.mailboxes.set mailbox m })

end Collector

end GraphDriver
