import GraphDriver.Wire.Frame

/-!
# Reassembling frames

Bytes arrive in chunks that know nothing of frames. A `FrameBuffer` keeps the bytes that do not yet
make a frame: it waits for a header, then for the payload that the header announces. A header that
breaks the protocol stays in front of the buffer, so that every later push reports it again.
-/

namespace GraphDriver

/-- Bytes that have arrived and belong to no complete frame yet. -/
structure FrameBuffer where
  pending : List UInt8 := []
  /-- The header that was read last, if its payload is still missing. -/
  awaited : Option Header := none
  limit : UInt32 := Header.defaultLimit

namespace FrameBuffer

/-- What can be had from the bytes in a buffer. -/
inductive Progress where
  | frame (f : Frame) (rest : FrameBuffer)
  | starved (rest : FrameBuffer)
  | broken (violation : Violation)

/-- Takes the payload of a header from the front of some bytes. -/
def takePayload (limit : UInt32) (header : Header) (bytes : List UInt8) : Progress :=
  let front := bytes.take header.payloadLength.toNat
  if front.length = header.payloadLength.toNat then
    .frame ⟨header, front.toByteArray⟩
      { pending := bytes.drop header.payloadLength.toNat, awaited := none, limit }
  else .starved { pending := bytes, awaited := some header, limit }

/-- Takes one frame from the front of a buffer. -/
def advance (b : FrameBuffer) : Progress :=
  match b.awaited with
  | some header => takePayload b.limit header b.pending
  | none =>
    match Header.decode? b.pending with
    | none => .starved b
    | some header =>
      match header.violation? b.limit with
      | some violation => .broken violation
      | none => takePayload b.limit header (b.pending.drop Header.size)

/-- Takes up to a number of frames. After a violation nothing is returned but the violation. -/
def takeFrames : Nat → FrameBuffer → Except Violation (List Frame) × FrameBuffer
  | 0, b => (.ok [], b)
  | count + 1, b =>
    match b.advance with
    | .broken violation => (.error violation, b)
    | .starved rest => (.ok [], rest)
    | .frame f rest =>
      match takeFrames count rest with
      | (.ok frames, rest) => (.ok (f :: frames), rest)
      | (.error violation, rest) => (.error violation, rest)

/-- Adds bytes and takes every frame that is now complete. All but the first frame take at least a
header from the pending bytes, so the bytes outnumber the frames. -/
def push (b : FrameBuffer) (data : List UInt8) : Except Violation (List Frame) × FrameBuffer :=
  let b := { b with pending := b.pending ++ data }
  b.takeFrames (b.pending.length + 1)

/-- How many bytes wait, headers that were read not counted. -/
def size (b : FrameBuffer) : Nat := b.pending.length

/-- Whether the input so far ends where a frame ends. -/
def isEmpty (b : FrameBuffer) : Bool := b.pending.isEmpty && b.awaited.isNone

end FrameBuffer

end GraphDriver
