import GraphDriver.Error
import GraphDriver.Message.Request

/-!
# Request queues

The way of batches from a transaction to the connection. The transaction puts batches in and closes
its end once; the connection pulls them in order, sees the end after the last one, and may give up
early, telling why.
-/

namespace GraphDriver

/-- What a reader finds when it looks into a channel. -/
inductive Poll (α : Type) where
  | item (a : α)
  /-- Nothing is left and nothing can come. -/
  | ended
  /-- Nothing is there yet. -/
  | waiting
deriving DecidableEq, Inhabited

/-- What was found, if anything was. -/
def Poll.item? {α : Type} : Poll α → Option α
  | .item a => some a
  | _ => none

/-- A queue of batches between a transaction and its connection. -/
structure RequestQueue where
  /-- Batches that were put in and not pulled out. -/
  batches : List ClientMessage := []
  /-- The transaction has closed its end. -/
  ended : Bool := false
  /-- The connection has let go of its end. -/
  abandoned : Bool := false
  /-- Why the connection gave up, if it said so. -/
  failure : Option Error := none
deriving DecidableEq, Inhabited

namespace RequestQueue

/-- The error of putting a batch where nobody pulls. -/
def refusal : Error := .io "transport stopped pulling requests"

/-- Puts one batch in. -/
def put (q : RequestQueue) (batch : ClientMessage) : Except Error Unit × RequestQueue :=
  if q.ended then (.error .clientClosed, q)
  else if q.abandoned then (.error refusal, q)
  else (.ok (), { q with batches := q.batches ++ [batch] })

/-- Ends the queue after the batches that are in it. -/
def close (q : RequestQueue) : RequestQueue := { q with ended := true }

/-- Whether nothing more can be put in. -/
def isClosed (q : RequestQueue) : Bool := q.ended || q.abandoned

/-- Pulls the next batch. -/
def pull (q : RequestQueue) : Poll ClientMessage × RequestQueue :=
  match q.batches with
  | batch :: rest => (.item batch, { q with batches := rest })
  | [] => (if q.isClosed then .ended else .waiting, q)

/-- Lets go of the pulling end. Batches that were not pulled are lost. -/
def abandon (q : RequestQueue) : RequestQueue := { q with batches := [], abandoned := true }

/-- Lets go of the pulling end and tells why. -/
def fail (q : RequestQueue) (error : Error) : RequestQueue :=
  if q.abandoned then q else { q.abandon with failure := some error }

end RequestQueue

end GraphDriver
