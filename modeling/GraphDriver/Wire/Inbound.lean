import GraphDriver.Wire.FrameBuffer
import GraphDriver.Schema.Decode
import GraphDriver.Message.Reply

/-!
# Reading server messages

The reader of a connection turns reads of a socket into server messages. It ends with the input if
that ends between two frames. The first thing that goes wrong is its last item: a failed read, a
broken frame, an input that ends inside a frame, an error frame, or a payload that cannot be read.
-/

namespace GraphDriver.Wire

/-- How many bytes one read asks for. -/
def readSize : Nat := 65536

/-- The message in a frame of a transaction. -/
def messageOfFrame (f : Frame) : Except Error ServerMessage :=
  if !f.header.isResponse then .error (.protocol (.notFromServer f.header.flags))
  else if f.header.isError then
    match decode? ServerError f.payload with
    | some error => .error (.ofServerError error)
    | none => .error (.decode "malformed server error")
  else
    match decode? ServerMessage f.payload with
    | some message => .ok message
    | none => .error (.decode "malformed server message")

/-- The items of frames in order, up to the first error; with the answer whether there was none. -/
def itemsOfFrames : List Frame → List (Except Error ServerMessage) × Bool
  | [] => ([], true)
  | f :: rest =>
    match messageOfFrame f with
    | .error error => ([.error error], false)
    | .ok message =>
      let (items, healthy) := itemsOfFrames rest
      (.ok message :: items, healthy)

/-- Everything that a reader yields over a sequence of reads: bytes or a failure each. A read of no
bytes is the end of the input, and so is the end of the sequence. -/
def readItems (b : FrameBuffer) : List (Except Error (List UInt8)) →
    List (Except Error ServerMessage)
  | [] => if b.isEmpty then [] else [.error (.protocol .truncated)]
  | .error error :: _ => [.error error]
  | .ok [] :: _ => if b.isEmpty then [] else [.error (.protocol .truncated)]
  | .ok data :: rest =>
    match b.push data with
    | (.error violation, _) => [.error (.protocol violation)]
    | (.ok frames, b) =>
      match itemsOfFrames frames with
      | (items, true) => items ++ readItems b rest
      | (items, false) => items

/-- Cuts bytes into pieces of at most a size; no bytes are one empty piece. -/
def pieces (size : Nat) : Nat → List UInt8 → List (List UInt8)
  | 0, _ => []
  | count + 1, bytes =>
    if bytes.length ≤ size then [bytes] else bytes.take size :: pieces size count (bytes.drop size)

/-- The reads that it takes to get some chunks: a chunk longer than one read takes several. -/
def readsOf (chunks : List (Except Error (List UInt8))) : List (Except Error (List UInt8)) :=
  chunks.flatMap fun
    | .error error => [.error error]
    | .ok bytes => (pieces readSize (bytes.length + 1) bytes).map .ok

/-- Everything that a reader yields over a sequence of chunks followed by the end of the input. -/
def readServerMessages (chunks : List (Except Error (List UInt8))) :
    List (Except Error ServerMessage) :=
  readItems {} (readsOf chunks)

end GraphDriver.Wire
