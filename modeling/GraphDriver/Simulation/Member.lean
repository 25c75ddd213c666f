import GraphDriver.Client.Connections

/-!
# Scripted servers

A member of a simulated deployment answers by script. The entries of a script are used in order and
the last one stays in use. Where there is no script the server is healthy.
-/

namespace GraphDriver.Simulation

/-- The entry of a script whose turn it is, and what is left. The last entry stays. -/
def takeTurn {α : Type} : List α → Option α × List α
  | [] => (none, [])
  | [a] => (some a, [a])
  | a :: rest => (some a, rest)

/-- A scripted answer to a call, after a number of milliseconds. -/
structure ScriptedReply where
  result : Except Error UnaryResponse
  delay : Nat := 0
deriving DecidableEq, Inhabited

/-- What a server does about a request of a transaction. An answer carries the number of the request
unless it names another. -/
inductive ServerAct where
  | respond (id : Option RequestId) (result : Except ServerError ResponsePayload)
  | sendPart (id : Option RequestId) (part : PartPayload)
  /-- The connection fails. -/
  | fail (error : Error)
  /-- The server sends no more. -/
  | finish
  /-- The server can no longer be written to. -/
  | failOutbound (error : Error)
deriving DecidableEq, Inhabited

/-- What the client learns of an act. -/
def ServerAct.inbound (id : RequestId) : ServerAct → Inbound
  | .respond other result => .message (.response ⟨other.getD id, result⟩)
  | .sendPart other part => .message (.responsePart ⟨other.getD id, part⟩)
  | .fail error => .failed error
  | .finish => .ended
  | .failOutbound error => .outboundFailed error

/-- How a server treats one transaction. -/
inductive TransactionScript where
  | refuse (error : Error)
  /-- The n-th element is for the n-th request. -/
  | serve (acts : List (List ServerAct))
deriving DecidableEq, Inhabited

/-- The transaction that is opened and then left unanswered. -/
def TransactionScript.opening : TransactionScript := .serve [[.respond none (.ok .opened)]]

/-- One server. -/
structure Member where
  address : String
  /-- The scripts for calls, by the name of the request. -/
  replies : Dict (List ScriptedReply) := .empty
  transactions : List TransactionScript := []
deriving Inhabited

/-- The answer of a healthy server, in a deployment with some addresses. -/
def healthyAnswer (addresses : List String) (address : String) : UnaryRequest → UnaryResponse
  | .serversAll => .servers (addresses.mergeSort fun a b => a ≤ b)
  | .databaseCreate _ => .databaseCreated
  | .databaseContains name => .databaseContains (name = "social")
  | .databaseDelete _ => .databaseDeleted
  | .databasesAll => .databases ["social"]
  | .databaseReplicas _ => .replicas []
  | .sessionOpen _ _ _ => .sessionOpened ⟨address.toUTF8⟩ 3600000
  | .sessionClose _ => .sessionClosed
  | .sessionPulse _ => .sessionPulse true

/-- The answer of a member to a call, and the member after it. -/
def Member.reply (addresses : List String) (m : Member) (request : UnaryRequest) :
    ScriptedReply × Member :=
  match takeTurn ((m.replies.get? request.name).getD []) with
  | (some reply, rest) => (reply, { m with replies := m.replies.insert request.name rest })
  | (none, _) => ({ result := .ok (healthyAnswer addresses m.address request) }, m)

/-- How a member treats its next transaction, and the member after it. -/
def Member.nextTransaction (m : Member) : TransactionScript × Member :=
  let (script, rest) := takeTurn m.transactions
  (script.getD .opening, { m with transactions := rest })

end GraphDriver.Simulation
