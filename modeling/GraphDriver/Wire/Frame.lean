import GraphDriver.Wire.Header
import GraphDriver.Schema.Encode
import GraphDriver.Message.Request

/-!
# Frames

A header with its payload. A frame that is sent carries one encoded message; a message too long for
the reader at the other end is refused before anything is sent.
-/

namespace GraphDriver

/-- A header and the payload that follows it. -/
structure Frame where
  header : Header
  payload : ByteArray
deriving DecidableEq, Inhabited

namespace Frame

/-- How many bytes a frame takes. -/
def size (f : Frame) : Nat := Header.size + f.payload.size

/-- The bytes of a frame. The header is written as it stands, whatever the payload. -/
def encode (f : Frame) : ByteArray := f.header.encode.toByteArray ++ f.payload

/-- A frame around a payload, unless the payload is longer than the limit. -/
def ofPayload (kind : UInt16) (flags : UInt8) (requestId : UInt32) (limit : UInt32)
    (payload : ByteArray) : Except Error Frame :=
  if payload.size ≤ limit.toNat then
    .ok {
      header := {
        kind, flags, requestId
        payloadLength := UInt32.ofNat payload.size }
      payload }
  else .error (.protocol (.unsendable payload.size limit))

/-- A frame around an encoded message. -/
def ofMessage {α : Type} [Described α] (kind : UInt16) (flags : UInt8) (requestId : UInt32)
    (message : α) : Except Error Frame :=
  ofPayload kind flags requestId Header.defaultLimit (GraphDriver.encode message)

/-- The frame of a batch of requests, labelled with the number of the first one. -/
def ofBatch (message : ClientMessage) : Except Error Frame :=
  ofMessage Header.transactionKind Header.batchFlag
    ((message.requests.head?.map (·.id.value)).getD 0) message

/-- The bytes of frames, one after the other. -/
def encodeAll (frames : List Frame) : ByteArray :=
  frames.foldl (fun bytes f => bytes ++ f.encode) .empty

end Frame

end GraphDriver
