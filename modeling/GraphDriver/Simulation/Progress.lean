import GraphDriver.Simulation.World

/-!
# What happens in a simulated world

Jobs are done one after the other. Time is virtual: it passes in milliseconds, and only when the
operation waits and no job is left. An operation that has not come to its end when its time is up is
given up at the wait where it stands.
-/

namespace GraphDriver.Simulation.World

/-! ## Jobs -/

/-- Runs a program that goes on beside the operation, until it is over or has to wait. After the
pulse of a session the next one is looked for before anything else is done. -/
def runBeside (pulsing : Option Nat) : Program Unit → World → World
  | .done _, w =>
    match pulsing with
    | none => w
    | some s => { w with ready := .pulse s :: w.ready }
  | .read next, w => runBeside pulsing (next w.connections) w
  | .write c next, w => runBeside pulsing next { w with connections := c }
  | .await e abandoned next, w =>
    let sleep (w : World) (millis : Nat) (program : Program Unit) : World :=
      w.setAlarm (w.now + millis) (.run program pulsing)
    match e with
    | .call address request =>
      match w.call address request with
      | (result, 0, w) => runBeside pulsing (next result) w
      | (result, delay, w) => sleep w delay (next result)
    | .dial address hub dispatcher =>
      let (result, w) := w.dial address hub dispatcher
      runBeside pulsing (next result) w
    | .pause millis => sleep w millis (next ())
    | .receive hub call =>
      match (w.connections.hub hub).read call with
      | (.item delivery, h) =>
        runBeside pulsing (next delivery) (w.modify (·.modifyHub hub fun _ => h))
      | _ => sleep w 1 (.await (.receive hub call) abandoned next)
    | .work client first =>
      let (result, w) := w.work client first
      runBeside pulsing (next result) w

/-- A worker has its turn: it flushes if it is due, and waits until it is due again. -/
def flush (w : World) (h k : Nat) : World :=
  let w := w.modify (·.modifyHub h fun x => x.transmit (x.transmitter.runWorker w.now k))
  match ((w.connections.hub h).transmitter.workers.getD k default).due with
  | some due => w.setAlarm due (.flush h k)
  | none => w

/-- A session pulses if that is due, and waits until it is otherwise. -/
def pulse (w : World) (s : Nat) : World :=
  match (w.connections.session s).pulseDue with
  | some due =>
    if due ≤ w.now then runBeside (some s) (Session.pulse s) w else w.setAlarm due (.pulse s)
  | none => w

def doJob (w : World) : Job → World
  | .serve i => w.serve i
  | .read i => w.readLine i
  | .flush h k => w.flush h k
  | .pulse s => w.pulse s
  | .run program pulsing => runBeside pulsing program w

/-- Does at most a number of jobs. -/
def doJobs : Nat → World → World
  | 0, w => w
  | jobs + 1, w =>
    match w.ready with
    | [] => w
    | job :: rest => doJobs jobs ({ w with ready := rest }.doJob job).notice

/-- How many pulses of a session are due. -/
def pulsesDue (w : World) (s : Nat) : Nat :=
  match (w.connections.session s).pulseDue with
  | some due => (w.now + Session.pulseInterval - due) / Session.pulseInterval
  | none => 0

/-- More jobs than can come up without time passing: a line is served for its batches, for those of
a worker and of a closing, and for its end, and read as often; sessions pulse and say farewell. -/
def jobsAtMost (w : World) : Nat :=
  let workers := w.connections.hubs.map (·.hub.transmitter.workers.length)
  let pulses := (List.range w.connections.sessions.length).map w.pulsesDue
  16 * (w.lines.length + w.connections.sessions.length + w.alarms.length + w.ready.length +
    workers.foldl (· + ·) 1) + 2 * pulses.foldl (· + ·) 0

/-- Does every job that can be done without time passing. -/
def settle (w : World) : World :=
  let w := w.notice
  doJobs w.jobsAtMost w

/-- Lets a millisecond pass. The alarms of that time go off. -/
def tick (w : World) : World :=
  let w := w.modify fun c => { c with now := c.now + 1 }
  let (due, later) := w.alarms.partition fun (a : Alarm) => a.due ≤ w.now
  { w with alarms := later }.enqueue (due.map fun (a : Alarm) => a.job)

/-! ## The operation -/

/-- Lets time pass for the operation, unless it is given up before. -/
def sleep : (millis : Nat) → World → Option Unit × World
  | 0, w => (some (), w)
  | millis + 1, w => if w.now < w.deadline then sleep millis w.settle.tick else (none, w)

/-- Waits for something that jobs may bring, for a number of milliseconds. Each look says what there
is, or how far it came. -/
def await {σ α : Type} (look : σ → World → (σ ⊕ α) × World) :
    (millis : Nat) → σ → World → Option α × World
  | millis, s, w =>
    match look s w with
    | (.inr a, w) => (some a, w)
    | (.inl s, w) =>
      match millis with
      | 0 => (none, w)
      | millis + 1 =>
        match look s w.settle with
        | (.inr a, w) => (some a, w)
        | (.inl s, w) => await look millis s w.tick

/-- Waits for something until the operation is given up. -/
def awaitInTime {σ α : Type} (look : σ → World → (σ ⊕ α) × World) (s : σ) (w : World) :
    Option α × World :=
  await look (w.deadline - w.now) s w

/-- Looks for a delivery to a call. -/
def lookFor (hub : Nat) (call : Call) (_ : Unit) (w : World) : (Unit ⊕ Delivery) × World :=
  match (w.connections.hub hub).read call with
  | (.item delivery, h) => (.inr delivery, w.modify (·.modifyHub hub fun _ => h))
  | _ => (.inl (), w)

/-- Waits for an effect of the operation. There is no reply if it is given up. -/
def perform : (e : Effect) → World → Option e.Reply × World
  | .call address request, w =>
    let (result, delay, w) := w.call address request
    let (slept, w) := w.sleep delay
    (slept.map fun _ => result, w)
  | .dial address hub dispatcher, w =>
    let (result, w) := w.dial address hub dispatcher
    (some result, w)
  | .pause millis, w => w.sleep millis
  | .receive hub call, w => awaitInTime (lookFor hub call) () w
  | .work client first, w =>
    let (result, w) := w.work client first
    (some result, w)

/-- Runs the operation. There is no result if it is given up. -/
def drive {α : Type} : Program α → World → Option α × World
  | .done a, w => (some a, w)
  | .read next, w => drive (next w.connections) w
  | .write c next, w => drive next { w with connections := c }.notice
  | .await e abandoned next, w =>
    match w.perform e with
    | (some reply, w) => drive (next reply) w
    | (none, w) => (none, (w.modify abandoned).notice)

/-- Looks for answers of a call, in addition to those that were gathered so far. -/
def lookForAnswers (hub : Nat) (limit : Option Nat) :
    List (Except Error Answer) × AnswerReader → World →
      ((List (Except Error Answer) × AnswerReader) ⊕ List (Except Error Answer)) × World
  | (soFar, reader), w =>
    let (answers, outcome, reader, h) :=
      (w.connections.hub hub).drainAnswers w.now (limit.map (· - soFar.length)) reader
    let w := w.modify (·.modifyHub hub fun _ => h)
    match outcome with
    | .waiting => (.inl (soFar ++ answers, reader), w)
    | _ => (.inr (soFar ++ answers), w)

/-- Gathers the answers of a call, at most `limit` of them if there is a limit, and gives up the
call. There is no result if the operation is given up. -/
def gather (hub : Nat) (limit : Option Nat) (reader : AnswerReader) (w : World) :
    Option (List (Except Error Answer)) × World :=
  let (answers, w) := awaitInTime (lookForAnswers hub limit) ([], reader) w
  (answers, (w.modify (·.modifyHub hub (·.dropParts reader.parts))).notice)

end GraphDriver.Simulation.World
