import GraphDriver.Message.Basic
import GraphDriver.Text.Hex

/-!
# Errors

Everything that can go wrong for a caller, as causes. One function gives the wording. An error is a
plain value, so one failure of a stream can be handed to every call that waits on it.
-/

namespace GraphDriver

/-- A breach of the protocol by the peer, or a message that the protocol cannot carry. -/
inductive Violation where
  /-- A frame of a kind that is not spoken. -/
  | unknownKind (kind : UInt16)
  /-- A frame that announces more payload than the reader accepts. -/
  | oversized (length limit : UInt32)
  /-- A frame with flags that have no meaning. -/
  | reservedFlags
  /-- A frame that travels the wrong way. -/
  | notFromServer (flags : UInt8)
  /-- The input ended inside a frame. -/
  | truncated
  /-- A payload too long for any frame. -/
  | unsendable (length : Nat) (limit : UInt32)
  /-- A request number that is taken. -/
  | inFlight (id : RequestId)
  /-- A part of a streamed answer for a request that has one answer. -/
  | partForSingle (id : RequestId)
  /-- A whole answer for a request that is answered in parts. -/
  | responseForStream (id : RequestId)
  /-- An answer of the wrong shape. -/
  | unexpected (expected received : String)
  /-- A breach that another party describes. -/
  | reported (text : String)
deriving DecidableEq, Inhabited

/-- The wording of a violation. -/
def Violation.message : Violation → String
  | .unknownKind kind => "Unknown frame kind " ++ toString kind.toNat
  | .oversized length limit =>
    "Payload size " ++ toString length.toNat ++ " exceeds maximum " ++ toString limit.toNat
  | .reservedFlags => "Reserved flag bits must be 0"
  | .notFromServer flags =>
    "Expected a server frame, got flags 0x" ++ String.ofList (Text.hexByte flags)
  | .truncated => "Connection closed in the middle of a frame"
  | .unsendable length limit =>
    "Payload of " ++ toString length ++ " bytes exceeds maximum " ++ toString limit.toNat
  | .inFlight id => "Request " ++ id.display ++ " is already in flight"
  | .partForSingle id => "Received a response part for single request " ++ id.display
  | .responseForStream id => "Received a single response for streamed request " ++ id.display
  | .unexpected expected received =>
    "Expected " ++ expected ++ " response, received " ++ received
  | .reported text => text

/-- Why an operation failed. -/
inductive Error where
  /-- The connection failed below the protocol. -/
  | io (text : String)
  /-- A message could not be written. -/
  | encode (text : String)
  /-- A payload could not be read. -/
  | decode (text : String)
  | protocol (violation : Violation)
  /-- An answer to a request that was never made. -/
  | unknownRequestId (id : RequestId)
  | clientClosed
  | sessionClosed
  | transactionClosed
  /-- No server answers at the address. -/
  | unreachable (address : String)
  /-- The server refused the request. -/
  | server (message : String)
  /-- The replica asked is not the primary one. -/
  | notPrimary
  /-- No member of the cluster could serve the request. -/
  | clusterUnavailable
  | databaseNotFound (name : String)
  /-- A concept was taken for one of another kind. -/
  | invalidConceptCast (source target : String)
deriving DecidableEq, Inhabited

namespace Error

/-- The wording of an error. -/
def message : Error → String
  | .io text => "I/O error: " ++ text
  | .encode text => "MsgPack encode error: " ++ text
  | .decode text => "MsgPack decode error: " ++ text
  | .protocol violation => "Protocol error: " ++ violation.message
  | .unknownRequestId id =>
    "Protocol error: received a response for unknown request " ++ id.display
  | .clientClosed => "The client has been closed and no further operation is allowed"
  | .sessionClosed => "The session has been closed and no further operation is allowed"
  | .transactionClosed => "The transaction has been closed and no further operation is allowed"
  | .unreachable address => "Unable to connect to TypeDB server at " ++ address
  | .server message => "Server error: " ++ message
  | .notPrimary => "The replica is not the primary replica"
  | .clusterUnavailable =>
    "Unable to connect to TypeDB Cluster: no replica could serve the request"
  | .databaseNotFound name => "The database '" ++ name ++ "' does not exist"
  | .invalidConceptCast source target =>
    "Invalid concept conversion from " ++ source ++ " to " ++ target

/-- Whether the error tells that another replica should be tried. -/
def isReplicaFailure : Error → Bool
  | .notPrimary | .unreachable _ => true
  | _ => false

/-- The error that a server's report means to the caller. -/
def ofServerError (e : ServerError) : Error :=
  match e.code with
  | .notPrimary => .notPrimary
  | .databaseNotFound => .databaseNotFound e.message
  | .sessionNotFound => .sessionClosed
  | .internal => .server e.message

end Error

end GraphDriver
