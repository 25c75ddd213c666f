import GraphDriver.Error
import GraphDriver.Pack.Parse

/-!
# Frame headers

Every frame starts with eleven bytes, all numbers most significant byte first: two bytes for the
kind of call, one for flags, four for the request number and four for the length of the payload.
The request number in a header is only a label; the number that counts stands in the payload.
-/

namespace GraphDriver

/-- The fixed part in front of every payload. -/
structure Header where
  kind : UInt16
  flags : UInt8
  requestId : UInt32
  payloadLength : UInt32
deriving DecidableEq, Inhabited

namespace Header

/-- How many bytes a header takes. -/
def size : Nat := 11

/-- The payload limit of every reader unless another is set. -/
def defaultLimit : UInt32 := 67108864

/-! ## Kinds and flags -/

/-- One request frame answered by one reply frame. -/
def unaryKind : UInt16 := 1

/-- A transaction: batches out, server messages in. -/
def transactionKind : UInt16 := 2

/-- The frame travels from server to client. -/
def responseFlag : UInt8 := 1

/-- The payload is a server error. -/
def errorFlag : UInt8 := 2

/-- The payload is a part of a streamed answer. -/
def streamFlag : UInt8 := 4

/-- The payload is a batch of requests. -/
def batchFlag : UInt8 := 8

/-- Flags without a meaning. -/
def reservedFlags : UInt8 := 0xf0

def hasFlag (h : Header) (flag : UInt8) : Bool := h.flags &&& flag ≠ 0

def isResponse (h : Header) : Bool := h.hasFlag responseFlag

def isError (h : Header) : Bool := h.hasFlag errorFlag

def isStream (h : Header) : Bool := h.hasFlag streamFlag

def isBatch (h : Header) : Bool := h.hasFlag batchFlag

/-! ## Bytes -/

/-- The eleven bytes of a header. -/
def encode (h : Header) : List UInt8 :=
  Pack.bigEndian 2 h.kind.toNat ++ [h.flags] ++ Pack.bigEndian 4 h.requestId.toNat
    ++ Pack.bigEndian 4 h.payloadLength.toNat

/-- Reads a header from the front of some bytes, if there are enough of them. -/
def decode? : List UInt8 → Option Header
  | k1 :: k0 :: flags :: r3 :: r2 :: r1 :: r0 :: l3 :: l2 :: l1 :: l0 :: _ =>
    some {
      kind := UInt16.ofNat (Pack.ofBigEndian [k1, k0])
      flags := flags
      requestId := UInt32.ofNat (Pack.ofBigEndian [r3, r2, r1, r0])
      payloadLength := UInt32.ofNat (Pack.ofBigEndian [l3, l2, l1, l0]) }
  | _ => none

/-- What is wrong with a header, if anything, for a reader with a payload limit. The kind is looked
at first, then the length, then the flags. -/
def violation? (h : Header) (limit : UInt32) : Option Violation :=
  if h.kind ≠ unaryKind ∧ h.kind ≠ transactionKind then some (.unknownKind h.kind)
  else if limit < h.payloadLength then some (.oversized h.payloadLength limit)
  else if h.hasFlag reservedFlags then some .reservedFlags
  else none

end Header

end GraphDriver
