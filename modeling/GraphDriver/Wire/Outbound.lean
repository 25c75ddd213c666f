import GraphDriver.Wire.Frame
import GraphDriver.Stream.RequestQueue

/-!
# Writing batches

The writer of a connection pulls batches from the queue of a transaction and writes each as one
frame. Frames that wait together are written together, at most `groupSize` of them between two
flushes. The socket may take any part of what it is offered; the writer offers the rest until all
is taken. When the queue has ended the writer shuts the socket down, and when anything fails it
gives the queue up with the error.
-/

namespace GraphDriver.Wire

/-- How many frames are written between two flushes at most. -/
def groupSize : Nat := 64

/-- How a socket behaves: what its writes, numbered from zero, do with the bytes they are offered,
which of its flushes, numbered likewise, fail, and whether the shutdown fails. A write never takes
more than it is offered. -/
structure Socket where
  write : (number offered : Nat) → Except Error Nat := fun _ offered => .ok offered
  /-- The error of every flush, where all end alike. -/
  flushError : Option Error := none
  flush : (number : Nat) → Option Error := fun _ => flushError
  shutdownError : Option Error := none

/-- What a writer has done to its socket. -/
structure Transcript where
  bytes : ByteArray := .empty
  /-- How many writes were started. -/
  attempts : Nat := 0
  /-- For each write that did not fail, how much it was offered and how much it took. -/
  writes : List (Nat × Nat) := []
  /-- The number of bytes written before each flush. -/
  flushes : List Nat := []
  /-- The number of bytes written before each shutdown. -/
  shutdowns : List Nat := []

/-- Whether the socket was shut down. -/
def Transcript.shutdown (t : Transcript) : Bool := !t.shutdowns.isEmpty

/-! ## Slices

A group of frames is never joined: a write is offered the slices of headers and payloads that are
still to be written, and takes bytes from the front of them. -/

/-- The headers and payloads of frames, in turn. -/
def partsOf (frames : List Frame) : List ByteArray :=
  frames.flatMap fun f => [f.header.encode.toByteArray, f.payload]

/-- What is left of parts that start at an offset, after the first `skip` bytes of all; nothing of
a part that is empty or wholly skipped. -/
def slicesAfter (skip : Nat) : (offset : Nat) → List ByteArray → List ByteArray
  | _, [] => []
  | offset, part :: rest =>
    let stop := offset + part.size
    let others := slicesAfter skip stop rest
    if skip < stop ∧ part.size ≠ 0 then part.extract (skip - offset) part.size :: others
    else others

/-- How many bytes slices hold. -/
def offered : List ByteArray → Nat
  | [] => 0
  | slice :: rest => slice.size + offered rest

/-- The first bytes of slices, from one slice into the next. -/
def gather : Nat → List ByteArray → ByteArray
  | _, [] => .empty
  | taken, slice :: rest =>
    if taken ≤ slice.size then slice.extract 0 taken
    else slice ++ gather (taken - slice.size) rest

/-! ## Writing -/

/-- How many bytes frames take. -/
def totalSize : List Frame → Nat
  | [] => 0
  | f :: rest => f.size + totalSize rest

/-- Writes parts of some total size from a position on, with as many writes as it takes. -/
def writeFrom (socket : Socket) (parts : List ByteArray) (total : Nat) : (written : Nat) →
    Transcript → Except Error Unit × Transcript
  | written, t =>
    if _ : written < total then
      let slices := slicesAfter written 0 parts
      match socket.write t.attempts (offered slices) with
      | .error error => (.error error, { t with attempts := t.attempts + 1 })
      | .ok limit =>
        let taken := min limit (offered slices)
        let t := { t with
          attempts := t.attempts + 1
          writes := t.writes ++ [(offered slices, taken)]
          bytes := t.bytes ++ gather taken slices }
        if _ : taken = 0 then (.error (.io "write_vectored returned 0"), t)
        else writeFrom socket parts total (written + taken) t
    else (.ok (), t)
termination_by written => total - written
decreasing_by
  exact Nat.sub_lt_sub_left ‹_› (Nat.lt_add_of_pos_right (Nat.pos_of_ne_zero ‹_›))

/-- Writes a group of frames and flushes the socket. -/
def writeGroup (socket : Socket) (frames : List Frame) (t : Transcript) :
    Except Error Unit × Transcript :=
  match writeFrom socket (partsOf frames) (totalSize frames) 0 t with
  | (.error error, t) => (.error error, t)
  | (.ok (), t) =>
    let number := t.flushes.length
    let t := { t with flushes := t.flushes ++ [t.bytes.size] }
    match socket.flush number with
    | some error => (.error error, t)
    | none => (.ok (), t)

/-- Pulls up to a number of batches that are there already and makes frames of them. -/
def takeGroup : Nat → RequestQueue → Except Error (List Frame) × RequestQueue
  | 0, q => (.ok [], q)
  | count + 1, q =>
    match q.pull with
    | (.item batch, q) =>
      match Frame.ofBatch batch with
      | .error error => (.error error, q)
      | .ok frame =>
        match takeGroup count q with
        | (.ok frames, q) => (.ok (frame :: frames), q)
        | (.error error, q) => (.error error, q)
    | (_, q) => (.ok [], q)

/-- How far a writer got. -/
inductive WriterState where
  /-- It waits for more batches. -/
  | waiting
  | finished
  | failed (error : Error)

/-- Runs a writer for at most a number of groups, until its queue has ended or has nothing more. -/
def writeGroups (socket : Socket) : Nat → RequestQueue → Transcript →
    WriterState × RequestQueue × Transcript
  | 0, q, t => (.waiting, q, t)
  | count + 1, q, t =>
    if q.batches.isEmpty then
      if q.isClosed then
        let t := { t with shutdowns := t.shutdowns ++ [t.bytes.size] }
        match socket.shutdownError with
        | some error => (.failed error, q, t)
        | none => (.finished, q, t)
      else (.waiting, q, t)
    else
      match takeGroup groupSize q with
      | (.error error, q) => (.failed error, q, t)
      | (.ok frames, q) =>
        match writeGroup socket frames t with
        | (.error error, t) => (.failed error, q, t)
        | (.ok (), t) => writeGroups socket count q t

/-- Runs the writer of a queue until it ends, fails or has to wait. A writer that is done lets go
of the queue, after a failure with the error. -/
def writeMessages (socket : Socket) (q : RequestQueue) : WriterState × RequestQueue × Transcript :=
  match writeGroups socket (q.batches.length + 1) q {} with
  | (.waiting, q, t) => (.waiting, q, t)
  | (.finished, q, t) => (.finished, q.abandon, t)
  | (.failed error, q, t) => (.failed error, q.fail error, t)

end GraphDriver.Wire
