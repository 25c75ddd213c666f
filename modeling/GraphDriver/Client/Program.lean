import GraphDriver.Client.Connections

/-!
# Operations as programs

An operation is a program over the state of the connections that stops where it has to wait: for
the answer of a server, for a delivery to one of its calls, for time to pass. What happens between
two waits happens at once, so a run of many operations is an interleaving of their steps. A caller
who gives up an operation at a wait does what the wait says is to be done then.
-/

namespace GraphDriver

/-- What an operation waits for. -/
inductive Effect where
  /-- A request with one answer, to the server at an address. -/
  | call (address : String) (request : UnaryRequest)
  /-- A new connection for the stream of a dispatcher. -/
  | dial (address : String) (hub dispatcher : Nat)
  | pause (millis : Nat)
  /-- The next delivery to a call. -/
  | receive (hub : Nat) (call : Call)
  /-- Work of the application with a client; the flag tells the first run from the later ones. -/
  | work (client : Nat) (first : Bool)
deriving DecidableEq, Inhabited

/-- What an operation learns when its wait is over. -/
@[reducible] def Effect.Reply : Effect → Type
  | .call _ _ => Except Error UnaryResponse
  | .dial _ _ _ => Except Error Unit
  | .pause _ => Unit
  | .receive _ _ => Delivery
  | .work _ _ => Except Error String

/-- A program over the state of the connections. -/
inductive Program (α : Type) where
  | done (a : α)
  /-- Looks at the state. -/
  | read (next : Connections → Program α)
  /-- Replaces the state. -/
  | write (c : Connections) (next : Program α)
  /-- Waits. A program that is given up here leaves the state that `abandoned` says. -/
  | await (e : Effect) (abandoned : Connections → Connections) (next : e.Reply → Program α)

namespace Program

variable {α β : Type}

/-- Goes on with the result of a program. -/
def bind : Program α → (α → Program β) → Program β
  | .done a, k => k a
  | .read next, k => .read fun c => (next c).bind k
  | .write c next, k => .write c (next.bind k)
  | .await e abandoned next, k => .await e abandoned fun r => (next r).bind k

instance : Monad Program where
  pure := .done
  bind := Program.bind

theorem bind_eq (p : Program α) (k : α → Program β) : p >>= k = p.bind k := rfl

/-- Going on with nothing more to do changes nothing. -/
theorem bind_done (p : Program α) : p.bind .done = p := by
  induction p with
  | done a => rfl
  | read next ih => exact congrArg Program.read (funext ih)
  | write c next ih => exact congrArg (Program.write c) ih
  | await e abandoned next ih => exact congrArg (Program.await e abandoned) (funext ih)

/-- What goes on after what went on goes on after the whole. -/
theorem bind_assoc {γ : Type} (p : Program α) (k : α → Program β) (l : β → Program γ) :
    (p.bind k).bind l = p.bind fun a => (k a).bind l := by
  induction p with
  | done a => rfl
  | read next ih => exact congrArg Program.read (funext ih)
  | write c next ih => exact congrArg (Program.write c) ih
  | await e abandoned next ih => exact congrArg (Program.await e abandoned) (funext ih)

instance : LawfulMonad Program :=
  .mk' Program bind_done (fun _ _ => rfl) fun p k l => bind_assoc p k l

instance : MonadStateOf Connections Program where
  get := .read .done
  set c := .write c (.done ())
  modifyGet f := .read fun c => .write (f c).2 (.done (f c).1)

/-- Waits for an effect, with nothing to be done if it is given up. -/
def perform (e : Effect) : Program e.Reply := .await e id .done

/-- Adds something to be done wherever the program is given up. -/
def onAbandon (cleanup : Connections → Connections) : Program α → Program α
  | .done a => .done a
  | .read next => .read fun c => (next c).onAbandon cleanup
  | .write c next => .write c (next.onAbandon cleanup)
  | .await e abandoned next =>
    .await e (fun c => cleanup (abandoned c)) fun r => (next r).onAbandon cleanup

end Program

/-- A program that may fail. -/
abbrev Operation := ExceptT Error Program

namespace Operation

variable {α β : Type}

/-- Runs an operation for its outcome, which may be an error. -/
def outcome (op : Operation α) : Operation (Except Error α) := ExceptT.lift op.run

/-- Ends an operation with an outcome. -/
def ofOutcome : Except Error α → Operation α
  | .ok a => pure a
  | .error e => throw e

/-- Takes from an answer what was asked for. An answer of another shape breaks the protocol. -/
def expect [Described α] (expected : String) (pick : α → Option β) (received : α) : Operation β :=
  match pick received with
  | some b => pure b
  | none => throw (.protocol (.unexpected expected (describe received)))

/-- Adds something to be done wherever the operation is given up. -/
def onAbandon (cleanup : Connections → Connections) (op : Operation α) : Operation α :=
  ExceptT.mk (op.run.onAbandon cleanup)

def pause (millis : Nat) : Operation Unit := ExceptT.lift (Program.perform (.pause millis))

/-- Asks the server of a client. A client that is closed asks nobody. -/
def call (client : Nat) (request : UnaryRequest) : Operation UnaryResponse := do
  let c ← get
  if c.clientIsOpen client then
    ExceptT.mk (Program.perform (.call (c.client client).address request))
  else throw .clientClosed

end Operation

end GraphDriver
