import GraphDriver.Client.Program

/-!
# Sessions

A session is opened and closed by a request each, and kept alive by a pulse in between. A pulse that
fails, or that the server answers with anything but a sign of life, closes the session without
another word. Whoever closes a session first is the one who tells the server, so the server hears of
it at most once. What the round trip of the opening took longer than the server reports is the
latency of the network, which transactions pass on.
-/

namespace GraphDriver.Session

open Operation (call expect)

/-- Milliseconds between two pulses. -/
def pulseInterval : Nat := 5000

/-- The latency of a round trip of which the server takes a part. -/
def latency (roundTrip : Nat) (serverDuration : UInt32) : UInt32 :=
  UInt32.ofNat (min roundTrip 0xffffffff - serverDuration.toNat)

/-- Opens a session. The session holds its client. -/
def openAt (client : Nat) (database : String) (sessionType : SessionType) (options : Options) :
    Operation Nat := do
  let started := (← get).wallClock
  let (id, duration) ←
    expect "session open" (fun | .sessionOpened id duration => some (id, duration) | _ => none)
      (← call client (.sessionOpen database sessionType options))
  modifyGet fun c =>
    (c.sessions.length,
      { c.retainClient client with
        sessions := c.sessions ++ [{
          client, database, sessionType, options, id
          networkLatencyMillis := latency (c.wallClock - started) duration
          pulseDue := some (c.now + pulseInterval) }] })

/-- Closes a session and tells the server. A session that is closed stays so, and no one is told. -/
def close (session : Nat) : Operation Unit := do
  if ← modifyGet (Connections.markClosed session) then
    let x := (← get).session session
    expect "session close" (fun | .sessionClosed => some () | _ => none)
      (← call x.client (.sessionClose x.id))

/-- Whether an answer to a pulse is a sign of life. -/
def isAlive : Except Error UnaryResponse → Bool
  | .ok (.sessionPulse alive) => alive
  | _ => false

/-- The pulse of a session starts. The next one is due an interval after the time at which this one
was due, so pulses that come late are made up for. -/
def startPulse (x : Session) : Session :=
  { x with pulsing := true, pulseDue := x.pulseDue.map (· + pulseInterval) }

/-- The pulse of a session ends. Without a sign of life it was the last one. -/
def endPulse (alive : Bool) (x : Session) : Session :=
  if alive then { x with pulsing := false }
  else { x with pulsing := false, isOpen := false, pulseDue := none }

/-- One pulse of a session, which it holds as long as it lasts. When the session is closed meanwhile
the pulse is over without another word. -/
def pulse (session : Nat) : Program Unit := do
  let x := (← get).session session
  if x.isOpen then
    modify fun c => (c.modifySession session startPulse).retainSession session
    let answer ← (call x.client (.sessionPulse x.id)).run
    if ((← get).session session).pulsing then
      modify (·.modifySession session (endPulse (isAlive answer)))
      modify (·.releaseSession session)

/-- Sends a farewell, whatever the server makes of it. -/
def sayFarewell (farewell : Farewell) : Program Unit := do
  let _ ← (call farewell.client (.sessionClose farewell.session)).run
  modify (·.releaseClient farewell.client)

end GraphDriver.Session

namespace GraphDriver.Connections

/-- Takes the farewells that are to be sent. -/
def takeFarewells (c : Connections) : List Farewell × Connections :=
  (c.farewells, { c with farewells := [] })

end GraphDriver.Connections
