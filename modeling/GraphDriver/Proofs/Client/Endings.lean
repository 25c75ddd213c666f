import GraphDriver.Proofs.Client.Talk
import GraphDriver.Proofs.Client.Upkeep
import GraphDriver.Proofs.Stream.Iteration
import GraphDriver.Proofs.Stream.Pending
import GraphDriver.Proofs.Stream.Teardown

/-!
# How transactions end

A transaction has its stream for itself, and whatever ends it closes the stream: an opening that is
not answered as it should be, a commit whatever the server makes of it, closing, and nobody holding
it any more. Rolling back does not. What is under way on the stream then gets the error of a closed
transaction, behind what has arrived for it.

* §1 dispatchers that are over
* §2 openings
* §3 commits
* §4 rolling back
* §5 what is under way at the end
* §6 every end
-/

namespace GraphDriver

open Operation

/-! ## §1  Dispatchers that are over -/

/-- What is upheld against all that others do is so at the end of a run. -/
theorem Program.Upholds.runs {α : Type} {h : Nat} {fails : α → Prop}
    {out : List Line → Connections → Prop} {post : α → List Line → Connections → Prop}
    {others : Connections → Connections → Prop}
    (hothers : ∀ c c', c.Sane → others c c' → c.Evolves c') {p : Program α} {ds : List Line}
    {c c' : Connections} {log : List Event} {a : α} (hrun : p.Runs others c log a c')
    (hp : p.Upholds h fails out post ds c) (hc : c.Sane) :
    c.Evolves c' ∧ post a (ds ++ log.flatMap (·.effect.dials)) c' := by
  induction hrun generalizing ds with
  | done a c =>
      rw [List.flatMap_nil, List.append_nil]
      exact ⟨.refl hc, hp⟩
  | read hrun ih => exact ih hp hc
  | write hrun ih =>
      obtain ⟨hevolves, hrest⟩ := hp
      obtain ⟨hlater, hpost⟩ := ih hrest hevolves.sane
      exact ⟨hevolves.trans hlater, hpost⟩
  | await hmoved hrun ih =>
      -- whatever others have made of the state meanwhile, it is a later one
      have hevolves := hothers _ _ hc hmoved
      obtain ⟨-, -, hnext, -⟩ := hp
      obtain ⟨hlater, hpost⟩ := ih (hnext _ _ hevolves) hevolves.sane
      rw [List.flatMap_cons, ← List.append_assoc]
      exact ⟨hevolves.trans hlater, hpost⟩

/-- What is expected of an operation is taken from its answer, if there is one. -/
theorem Operation.runs_bind_expect {α β : Type} [Described α]
    {others : Connections → Connections → Prop} {op : Operation α} {expected : String}
    {pick : α → Option β} {c c' : Connections} {log : List Event} {result : Except Error β} :
    Runs others (op >>= expect expected pick) c log result c' ↔
      ∃ answer, Runs others op c log answer c' ∧ result = answer.bind (taken expected pick) := by
  rw [runs_bind]
  constructor
  · rintro (⟨e, hop, rfl⟩ | ⟨received, _, _, _, hop, hexpect, rfl⟩)
    · exact ⟨.error e, hop, rfl⟩
    · obtain ⟨rfl, rfl, rfl⟩ := runs_expect.mp hexpect
      exact ⟨.ok received, by rwa [List.append_nil], rfl⟩
  · rintro ⟨answer, hop, rfl⟩
    cases answer with
    | error e => exact .inl ⟨e, hop, rfl⟩
    | ok received =>
        exact .inr ⟨received, c', log, [], hop, runs_expect.mpr ⟨rfl, rfl, rfl⟩,
          (List.append_nil log).symm⟩

theorem Operation.taken_eq_ok {α β : Type} [Described α] {answer : Except Error α}
    {expected : String} {pick : α → Option β} {b : β} :
    answer.bind (taken expected pick) = .ok b ↔
      ∃ received, answer = .ok received ∧ pick received = some b := by
  cases answer with
  | error e =>
      constructor
      · rintro ⟨⟩
      · rintro ⟨_, ⟨⟩, -⟩
  | ok received =>
      have htaken : taken expected pick received = .ok b ↔ pick received = some b := by
        unfold taken
        cases pick received <;> simp
      refine htaken.trans ⟨fun hpick => ⟨received, rfl, hpick⟩, ?_⟩
      rintro ⟨_, ⟨⟩, hpick⟩
      exact hpick

namespace Connections

/-- Nothing more goes out over a dispatcher: it is closed, and whoever pulls its queue gets the
batches that are left, and then the end. -/
structure IsOver (c : Connections) (line : Line) : Prop where
  closed : c.Closed line
  ended : let q := ((c.hub line.1).transmitter.dispatcher line.2).queue
    q.pull.1 = q.batches.head?.elim .ended .item

theorem Closed.isOver {c : Connections} {line : Line} (h : c.Closed line) (hc : c.Sane) :
    c.IsOver line :=
  ⟨h, ((hc.hub _ (lt_of_closed_line h)).transmitter.sound line.2).pull_of_closed h⟩

theorem Finished.isOver {c : Connections} {t : Transaction} (h : c.Finished t) (hc : c.Sane)
    (ht : c.TransactionOn t.hub t) : c.IsOver (c.lineOf t.hub t.stream) :=
  (h.closed hc ht).isOver hc

/-- The stream of a transaction that is closed is closed, and its dispatcher over. -/
theorem over_closeTransaction {c : Connections} {t : Transaction} (hc : c.Sane)
    (ht : c.TransactionOn t.hub t) :
    let c' := c.closeTransaction t
    c'.Finished t ∧ c'.IsOver (c'.lineOf t.hub t.stream) := by
  intro c'
  have hclose : c.Evolves c' := evolves_closeTransaction hc t
  have hfinished : c'.Finished t := closed_closeTransaction ht
  exact ⟨hfinished, hfinished.isOver hclose.sane (hclose.transactionOn ht)⟩

/-- Connections that are nothing but a hub. -/
theorem sane_of_hub {h : Hub} (hsane : h.Sane) :
    ({ hubs := [{ hub := h }] } : Connections).Sane where
  hub i hi := by
    obtain rfl : i = 0 := Nat.lt_one_iff.mp hi
    exact hsane
  client _ hi := absurd hi (Nat.not_lt_zero _)
  session _ hs := absurd hs (Nat.not_lt_zero _)
  cluster _ hk := absurd hk (Nat.not_lt_zero _)
  clusterSession _ hs := absurd hs (Nat.not_lt_zero _)

end Connections

namespace Hub

/-- An answer is a payload if that is what was delivered. -/
theorem singleAnswer_eq_ok {id : RequestId} {delivery : Delivery} {payload : ResponsePayload} :
    singleAnswer id delivery = .ok payload ↔
      ∃ id', delivery = .ok (.response ⟨id', .ok payload⟩) := by
  constructor
  · intro h
    match delivery, h with
    | .ok (.response ⟨id', .ok payload'⟩), h => exact ⟨id', by rw [Except.ok.inj h]⟩
  · rintro ⟨id', rfl⟩
    rfl

/-- A request whose batches are taken closes no stream. -/
theorem cause_send_of_held {h : Hub} {s : Nat} (wf : h.WellFormed)
    (hheld : (h.outlet s).queue.abandoned = false) (now : Nat) (payload : RequestPayload)
    (batched : Bool) : h.cause s (.send now s payload batched) = none := by
  have htaken (request : Request) : h.refusalAtOnce s request = none := by
    unfold refusalAtOnce
    split
    · rename_i haccepts
      have hsound := (wf.outlet s).buffered (Transmitter.closed_of_accepts haccepts) request
      have hqueue : ((h.outlet s).buffered request).queue.abandoned = false := hheld
      rw [hsound.refusal_eq, hqueue]
      rfl
    · rfl
  unfold cause
  dsimp only
  split
  · split
    · rw [htaken]
      rfl
    · rfl
  · rfl

end Hub

namespace Transaction

variable {others : Connections → Connections → Prop} {c c' : Connections} {log : List Event}
  {t : Transaction} {payload : RequestPayload}

/-- What a question waits for is a delivery to its own call. -/
theorem sent_of_ask {batched : Bool} {answer : Except Error ResponsePayload} {hub : Nat}
    {call : Call} {delivery : Delivery} {rest : List Event}
    (h : Runs others (ask t payload batched) c (⟨.receive hub call, delivery⟩ :: rest) answer c') :
    hub = t.hub ∧ (c.onHub t.hub (·.send c.now t.stream payload batched)).1 = .ok call := by
  have hask := runs_ask.mp h
  dsimp only at hask
  split at hask
  · rename_i call' hsent
    obtain ⟨delivery', -, hlog, -⟩ := hask
    cases hlog
    exact ⟨rfl, hsent⟩
  · cases hask.1

/-- A question connects nothing. -/
theorem not_dial_of_ask {batched : Bool} {answer : Except Error ResponsePayload}
    (h : Runs others (ask t payload batched) c log answer c') {address : String} {hub d : Nat}
    {reply : Except Error Unit} : ⟨.dial address hub d, reply⟩ ∉ log := by
  have hask := runs_ask.mp h
  dsimp only at hask
  intro hmem
  split at hask
  · obtain ⟨_, -, rfl, -⟩ := hask
    cases List.mem_singleton.mp hmem
  · rw [hask.1] at hmem
    cases hmem

/-- A question gets the payload that is delivered first. -/
theorem ask_eq_ok {batched : Bool} {answer : Except Error ResponsePayload}
    {wanted : ResponsePayload} (h : Runs others (ask t payload batched) c log answer c') :
    answer = .ok wanted ↔
      ∃ call id, log = [⟨.receive t.hub call, .ok (.response ⟨id, .ok wanted⟩)⟩] := by
  have hask := runs_ask.mp h
  dsimp only at hask
  split at hask
  · rename_i call hsent
    obtain ⟨delivery, -, rfl, rfl⟩ := hask
    rw [Hub.singleAnswer_eq_ok]
    constructor
    · rintro ⟨id, rfl⟩
      exact ⟨call, id, rfl⟩
    · rintro ⟨call', id, hlog⟩
      cases hlog
      exact ⟨id, rfl⟩
  · obtain ⟨rfl, rfl, -⟩ := hask
    constructor
    · rintro ⟨⟩
    · rintro ⟨_, _, ⟨⟩⟩

/-- A question that is asked on a stream that is there leads to a later state. -/
theorem evolves_ask (hothers : ∀ c c', c.Sane → others c c' → c.Evolves c') {batched : Bool}
    {answer : Except Error ResponsePayload}
    (h : Runs others (ask t payload batched) c log answer c') (hc : c.Sane)
    (ht : c.TransactionOn t.hub t) : c.Evolves c' :=
  (Program.Upholds.runs hothers h (quiet_ask hc ht []) hc).1

/-! ## §2  Openings -/

/-- How a stream is opened: no dispatcher is to be had for it, the connection is refused and the
dispatcher given back, or a stream is made of it. -/
theorem course_of_openStream {hub : Nat} {address : String} {result : Except Error Nat}
    (h : Runs others (openStream hub address) c log result c') :
    (∃ e, log = [] ∧ result = .error e) ∨
      ∃ d c₁, (c.onHub hub Hub.reserve).1 = .ok d ∧ others (c.onHub hub Hub.reserve).2 c₁ ∧
        ((∃ e, log = [⟨.dial address hub d, .error e⟩] ∧ result = .error e) ∨
          log = [⟨.dial address hub d, .ok ()⟩] ∧
            result = .ok (c₁.onHub hub (·.attach d address)).1 ∧
            c' = (c₁.onHub hub (·.attach d address)).2) := by
  rw [openStream, runs_modifyGet_bind, runs_ofOutcome_bind] at h
  split at h
  · rename_i d hreserved
    obtain ⟨dialled, c₁, _, _, hdial, hgo, rfl⟩ := runs_outcome_bind.mp h
    obtain ⟨hmoved, rfl⟩ := Program.runs_perform.mp (runs_onAbandon.mp hdial)
    refine .inr ⟨d, c₁, hreserved, hmoved, ?_⟩
    cases dialled with
    | ok u =>
        obtain ⟨rfl, rfl, rfl⟩ := runs_modifyGet.mp hgo
        exact .inr ⟨rfl, rfl, rfl⟩
    | error e =>
        obtain ⟨rfl, rfl, -⟩ := runs_throw.mp (runs_modify_bind.mp hgo)
        exact .inl ⟨e, rfl, rfl⟩
  · exact .inl ⟨_, h.1, h.2.1⟩

/-- A stream that was opened is there, over the dispatcher that was connected, and its first request
is number one. -/
theorem opened_stream (hothers : ∀ c c', c.Sane → others c c' → c.Evolves c') {hub stream d : Nat}
    {address : String} (hc : c.Sane) (hh : hub < c.hubs.length)
    (h : Runs others (openStream hub address) c [⟨.dial address hub d, .ok ()⟩] (.ok stream) c') :
    c.Evolves c' ∧ hub < c'.hubs.length ∧ stream < (c'.hub hub).streams.length ∧
      c'.lineOf hub stream = (hub, d) ∧ ((c'.hub hub).stream stream).nextId = 1 := by
  rcases course_of_openStream h with ⟨_, ⟨⟩, -⟩ | ⟨d, c₁, hreserved, hmoved, hlog⟩
  rcases hlog with ⟨_, ⟨⟩, -⟩ | ⟨⟨⟩, ⟨⟩, rfl⟩
  have hreserve : c.Evolves (c.onHub hub Hub.reserve).2 :=
    Connections.evolves_onHub hc hub fun hh => Hub.evolves_reserve (hc.hub hub hh)
  have hlater := hothers _ _ hreserve.sane hmoved
  have hh₁ : hub < c₁.hubs.length := ((hreserve.trans hlater).hub hub hh).1
  -- the dispatcher was reserved before the transport was asked, and others have acted since
  have hd : d < (c₁.hub hub).transmitter.dispatchers.length := by
    have hd₀ := (Hub.reserve_ok (hc.hub hub hh) hreserved).2
    rw [← Connections.hub_modifyHub hh fun _ => (c.hub hub).reserve.2] at hd₀
    exact Nat.lt_of_lt_of_le hd₀
      (hlater.hub hub (hreserve.hub hub hh).1).2.transmitter.length_le
  have hattach : c₁.Evolves (c₁.onHub hub (·.attach d address)).2 :=
    Connections.evolves_onHub hlater.sane hub fun hh =>
      Hub.evolves_attach (hlater.sane.hub hub hh) hd address
  have hhub : (c₁.onHub hub (·.attach d address)).2.hub hub = ((c₁.hub hub).attach d address).2 :=
    Connections.hub_modifyHub hh₁ _
  have hnew : ((c₁.hub hub).attach d address).2.stream (c₁.hub hub).streams.length =
      { dispatcher := d, address } := by
    rw [Hub.stream_attach, if_pos rfl]
  refine ⟨(hreserve.trans hlater).trans hattach, (hattach.hub hub hh₁).1, ?_, ?_, ?_⟩
  · rw [hhub]
    exact length_lt_concat (c₁.hub hub).streams _
  · rw [Connections.lineOf, hhub]
    exact congrArg (fun x : Stream => (hub, x.dispatcher)) hnew
  · rw [hhub]
    exact congrArg Stream.nextId hnew

/-- On a stream that was connected the opening is asked for. Unless it is answered as it should be,
the stream is closed. -/
theorem course_of_opening {first : RequestPayload} {result : Except Error Transaction}
    (h : Runs others
      (do
        let opened ← outcome do
          expect "transaction open" (fun | .opened => some () | _ => none)
            (← onAbandon (·.closeTransaction t) (ask t first false))
        match opened with
        | .ok () => return t
        | .error e => do
          close t
          throw e) c log result c') :
    ∃ answer c₁, Runs others (ask t first false) c log answer c₁ ∧
      (answer = .ok .opened ∧ result = .ok t ∧ c' = c₁ ∨
        answer ≠ .ok .opened ∧ (∃ e, result = .error e) ∧ c' = c₁.closeTransaction t) := by
  obtain ⟨opened, c₁, front, rest, hopened, hend, rfl⟩ := runs_outcome_bind.mp h
  obtain ⟨answer, hask, htaken⟩ := runs_bind_expect.mp hopened
  have hwanted : opened = .ok () ↔ answer = .ok .opened := by
    rw [htaken, taken_eq_ok]
    constructor
    · rintro ⟨received, rfl, hpick⟩
      cases received <;> first | rfl | cases hpick
    · rintro rfl
      exact ⟨.opened, rfl, rfl⟩
  cases opened with
  | ok u =>
      obtain ⟨rfl, rfl, rfl⟩ := runs_pure.mp hend
      rw [List.append_nil]
      exact ⟨answer, c', runs_onAbandon.mp hask, .inl ⟨hwanted.mp rfl, rfl, rfl⟩⟩
  | error e =>
      obtain ⟨rfl, rfl, rfl⟩ := runs_throw.mp (runs_modify_bind.mp hend)
      rw [List.append_nil]
      refine ⟨answer, c₁, runs_onAbandon.mp hask, .inr ⟨fun hanswer => ?_, ⟨e, rfl⟩, rfl⟩⟩
      cases hwanted.mpr hanswer

/-- How a transaction is opened: nothing is connected for it, or a stream is opened, on which the
opening is asked for. -/
theorem course_of_openOn {s : Nat} {transactionType : TransactionType} {options : Options}
    {result : Except Error Transaction}
    (h : Runs others (openOn s transactionType options) c log result c') :
    let x := c.session s
    let client := c.client x.client
    (∃ e, result = .error e) ∧
        (log = [] ∨ ∃ d e, log = [⟨.dial client.address client.hub d, .error e⟩]) ∨
      ∃ d c₁ c₂ later answer t, t.hub = client.hub ∧
        Runs others (openStream client.hub client.address) c
            [⟨.dial client.address client.hub d, .ok ()⟩] (.ok t.stream) c₁ ∧
          Runs others (ask t (.open x.id transactionType options x.networkLatencyMillis) false)
              c₁ later answer c₂ ∧
            log = ⟨.dial client.address client.hub d, .ok ()⟩ :: later ∧
            (answer = .ok .opened ∧ result = .ok t ∧ c' = c₂ ∨
              answer ≠ .ok .opened ∧ (∃ e, result = .error e) ∧ c' = c₂.closeTransaction t) := by
  intro x client
  rw [openOn, runs_get_bind] at h
  dsimp only at h
  split at h
  · split at h
    · rcases runs_bind.mp h with ⟨e, hstream, rfl⟩ | ⟨stream, c₁, front, rest, hstream, hgo, rfl⟩
      · rcases course_of_openStream hstream with ⟨e', rfl, -⟩ | ⟨d, c₁, -, -, hlog | hattached⟩
        · exact .inl ⟨⟨e, rfl⟩, .inl rfl⟩
        · obtain ⟨e', rfl, -⟩ := hlog
          exact .inl ⟨⟨e, rfl⟩, .inr ⟨d, e', rfl⟩⟩
        · cases hattached.2.1
      · rcases course_of_openStream hstream with ⟨_, -, ⟨⟩⟩ | ⟨d, _, -, -, hlog⟩
        rcases hlog with ⟨_, -, ⟨⟩⟩ | ⟨rfl, -, -⟩
        obtain ⟨answer, c₂, hask, hend⟩ := course_of_opening hgo
        exact .inr ⟨d, c₁, c₂, rest, answer, _, rfl, hstream, hask, rfl, hend⟩
    · exact .inl ⟨⟨_, (runs_throw_bind.mp h).2.1⟩, .inl (runs_throw_bind.mp h).1⟩
  · exact .inl ⟨⟨_, (runs_throw_bind.mp h).2.1⟩, .inl (runs_throw_bind.mp h).1⟩

/-- The first request on a new stream is number one. -/
theorem id_of_ask_new {batched : Bool} (hs : t.stream < (c.hub t.hub).streams.length)
    (hnew : ((c.hub t.hub).stream t.stream).nextId = 1) {call : Call}
    (hsent : (c.onHub t.hub (·.send c.now t.stream payload batched)).1 = .ok call) :
    call.id = ⟨1⟩ := by
  have hsend : (c.hub t.hub).send c.now t.stream payload batched =
      (.ok call, ((c.hub t.hub).send c.now t.stream payload batched).2) :=
    Prod.ext hsent rfl
  obtain ⟨-, -, hid, -, -⟩ := Hub.sent_of_send hs hsend
  rw [hid, hnew]

/-- **Openings** come to a transaction if and only if the transport accepts the stream and the first
thing that is delivered for its first request is the answer. -/
theorem opens_openOn (hothers : ∀ c c', c.Sane → others c c' → c.Evolves c') {s : Nat}
    {transactionType : TransactionType} {options : Options} {result : Except Error Transaction}
    (hc : c.Sane) (hs : s < c.sessions.length)
    (h : Runs others (openOn s transactionType options) c log result c') :
    let client := c.client (c.session s).client
    (∃ t, result = .ok t) ↔ ∃ d call id, call.id = ⟨1⟩ ∧
      log = [⟨.dial client.address client.hub d, .ok ()⟩,
        ⟨.receive client.hub call, .ok (.response ⟨id, .ok .opened⟩)⟩] := by
  intro client
  have hh : client.hub < c.hubs.length := (hc.client _ (hc.sessionOn hs).2.1).1
  rcases course_of_openOn h with ⟨⟨e, rfl⟩, hlog⟩ | ⟨d, c₁, c₂, later, answer, t, ht, hcourse⟩
  · -- no stream was connected, so nothing was asked
    constructor
    · rintro ⟨t, ⟨⟩⟩
    · rintro ⟨d, call, id, -, rfl⟩
      rcases hlog with hnone | ⟨_, _, hone⟩
      · cases hnone
      · cases hone
  · obtain ⟨hstream, hask, rfl, hend⟩ := hcourse
    obtain ⟨-, -, hthere, -, hnew⟩ := opened_stream hothers hc hh hstream
    have ht : t.hub = client.hub := ht
    rw [← ht] at hthere hnew ⊢
    have hwanted : answer = .ok .opened ↔
        ∃ call id, later = [⟨.receive t.hub call, .ok (.response ⟨id, .ok .opened⟩)⟩] :=
      ask_eq_ok hask
    constructor
    · rintro ⟨t', rfl⟩
      have hanswer : answer = .ok .opened := by
        rcases hend with ⟨hanswer, -⟩ | ⟨-, ⟨_, ⟨⟩⟩, -⟩
        exact hanswer
      obtain ⟨call, id, rfl⟩ := hwanted.mp hanswer
      exact ⟨d, call, id, id_of_ask_new hthere hnew (sent_of_ask hask).2, rfl⟩
    · rintro ⟨d', call, id, -, hlog⟩
      have hanswer : answer = .ok .opened := hwanted.mpr ⟨call, id, (List.cons.inj hlog).2⟩
      rcases hend with ⟨-, rfl, -⟩ | ⟨hother, -⟩
      · exact ⟨_, rfl⟩
      · exact absurd hanswer hother

/-- The stream that was opened for a transaction over a dispatcher is closed. -/
def StreamClosed (c : Connections) (hub d : Nat) : Prop :=
  ∃ t : Transaction, t.hub = hub ∧ c.TransactionOn hub t ∧ c.lineOf hub t.stream = (hub, d) ∧
    c.Finished t

theorem streamClosed_closeTransaction (hc : c.Sane) (ht : c.TransactionOn t.hub t) {d : Nat}
    (hline : c.lineOf t.hub t.stream = (t.hub, d)) :
    StreamClosed (c.closeTransaction t) t.hub d := by
  have hclose := Connections.evolves_closeTransaction hc t
  exact ⟨t, rfl, hclose.transactionOn ht, (hclose.lineOf_eq ht.2.1 ht.2.2).trans hline,
    Connections.closed_closeTransaction ht⟩

/-- After every other opening what was connected for it is over, and its stream is closed. -/
theorem closes_openOn (hothers : ∀ c c', c.Sane → others c c' → c.Evolves c') {s : Nat}
    {transactionType : TransactionType} {options : Options} {e : Error}
    (hc : c.Sane) (hs : s < c.sessions.length)
    (h : Runs others (openOn s transactionType options) c log (.error e) c') {address : String}
    {hub d : Nat} {reply : Except Error Unit} (hmem : ⟨.dial address hub d, reply⟩ ∈ log) :
    c'.IsOver (hub, d) ∧ (reply = .ok () → StreamClosed c' hub d) := by
  have hsession := hc.sessionOn hs
  have hh := (hc.client _ hsession.2.1).1
  constructor
  · have hnothing : AllClosed [] c := fun _ hline => absurd hline List.not_mem_nil
    obtain ⟨hevolves, hcomes⟩ :=
      Program.Upholds.runs hothers h (upholds_openOn hc hsession hnothing) hc
    have hclosed : AllClosed (log.flatMap (·.effect.dials)) c' := hcomes
    exact (hclosed _ (List.mem_flatMap.mpr ⟨_, hmem, List.mem_singleton.mpr rfl⟩)).isOver
      hevolves.sane
  · rintro rfl
    rcases course_of_openOn h with ⟨-, rfl | ⟨_, _, rfl⟩⟩ | ⟨d', c₁, c₂, later, _, t, ht, hcourse⟩
    · cases hmem
    · cases List.mem_singleton.mp hmem
    · obtain ⟨hstream, hask, rfl, hend⟩ := hcourse
      obtain ⟨hopening, hhub, hthere, hline, -⟩ := opened_stream hothers hc hh hstream
      rw [← ht] at hhub hthere hline
      have hasked := evolves_ask hothers hask hopening.sane ⟨rfl, hhub, hthere⟩
      rcases List.mem_cons.mp hmem with hdialled | hlater
      · cases hdialled
        rcases hend with ⟨-, ⟨⟩, -⟩ | ⟨-, -, rfl⟩
        rw [← ht]
        exact streamClosed_closeTransaction hasked.sane
          (hasked.transactionOn ⟨rfl, hhub, hthere⟩)
          ((hasked.lineOf_eq hhub hthere).trans hline)
      · exact absurd hlater (not_dial_of_ask hask)

/-! ## §3  Commits -/

/-- A commit is asked for, and whatever comes of it the stream is closed. -/
theorem runs_commit {result : Except Error Unit} :
    Runs others (commit t) c log result c' ↔
      ∃ answer c₁, Runs others (ask t .commit false) c log answer c₁ ∧
        result = answer.bind (taken "commit" fun | .committed => some () | _ => none) ∧
        c' = c₁.closeTransaction t := by
  -- the stream is closed before the answer is looked at
  have hrest {answer : Except Error ResponsePayload} {c₁ : Connections} {rest : List Event} :
      Runs others
          (do
            close t
            expect "commit" (fun | .committed => some () | _ => none) (← ofOutcome answer))
          c₁ rest result c' ↔
        rest = [] ∧ result = answer.bind (taken "commit" fun | .committed => some () | _ => none) ∧
          c' = c₁.closeTransaction t := by
    rw [close, runs_modify_bind, runs_ofOutcome_bind]
    cases answer with
    | error e => exact Iff.rfl
    | ok received => exact runs_expect
  rw [commit, runs_outcome_bind]
  constructor
  · rintro ⟨answer, c₁, front, rest, hask, hgo, rfl⟩
    obtain ⟨rfl, hresult, hclosed⟩ := hrest.mp hgo
    exact ⟨answer, c₁, by rw [List.append_nil]; exact runs_onAbandon.mp hask, hresult, hclosed⟩
  · rintro ⟨answer, c₁, hask, hresult, hclosed⟩
    exact ⟨answer, c₁, log, [], runs_onAbandon.mpr hask, hrest.mpr ⟨rfl, hresult, hclosed⟩,
      (List.append_nil log).symm⟩

/-- **Commits.** One that succeeds got its answer as the first delivery to its own call. After
every one the stream is closed, and its dispatcher over. -/
theorem ends_commit (hothers : ∀ c c', c.Sane → others c c' → c.Evolves c')
    {result : Except Error Unit} (hc : c.Sane) (ht : c.TransactionOn t.hub t)
    (h : Runs others (commit t) c log result c') :
    (result = .ok () ↔ ∃ call id,
        (c.onHub t.hub (·.send c.now t.stream .commit false)).1 = .ok call ∧
        log = [⟨.receive t.hub call, .ok (.response ⟨id, .ok .committed⟩)⟩]) ∧
      c'.Finished t ∧ c'.IsOver (c'.lineOf t.hub t.stream) := by
  obtain ⟨answer, c₁, hask, rfl, rfl⟩ := runs_commit.mp h
  have hasked := evolves_ask hothers hask hc ht
  refine ⟨?_, Connections.over_closeTransaction hasked.sane (hasked.transactionOn ht)⟩
  have hwanted : answer.bind (taken "commit" fun | .committed => some () | _ => none) = .ok () ↔
      answer = .ok .committed := by
    rw [taken_eq_ok]
    constructor
    · rintro ⟨received, rfl, hpick⟩
      cases received <;> first | rfl | cases hpick
    · rintro rfl
      exact ⟨.committed, rfl, rfl⟩
  rw [hwanted, ask_eq_ok hask]
  constructor
  · rintro ⟨call, id, rfl⟩
    exact ⟨call, id, (sent_of_ask hask).2, rfl⟩
  · rintro ⟨call, id, -, hlog⟩
    exact ⟨call, id, hlog⟩

/-! ## §4  Rolling back -/

/-- A transaction that goes on: its stream is open, in a well-formed hub. -/
structure IsLive (t : Transaction) (c : Connections) : Prop where
  hub : t.hub < c.hubs.length
  wellFormed : (c.hub t.hub).WellFormed
  stream : t.stream < (c.hub t.hub).streams.length
  isOpen : ((c.hub t.hub).stream t.stream).isOpen = true

/-- The transport still takes what is sent over the stream of a transaction. -/
def IsServed (t : Transaction) (c : Connections) : Prop :=
  ((c.hub t.hub).outlet t.stream).queue.abandoned = false

/-- A question that the transport takes leaves the stream open. -/
theorem IsLive.sent (h : IsLive t c) (hserved : IsServed t c) {batched : Bool} :
    IsLive t (c.onHub t.hub (·.send c.now t.stream payload batched)).2 := by
  obtain ⟨hh, wf, hs, hopen⟩ := h
  have hhub : (c.onHub t.hub (·.send c.now t.stream payload batched)).2.hub t.hub =
      ((c.hub t.hub).send c.now t.stream payload batched).2 :=
    Connections.hub_modifyHub hh _
  have hnone := Hub.cause_send_of_held wf hserved c.now payload batched
  refine ⟨?_, ?_, ?_, ?_⟩
  · exact Nat.lt_of_lt_of_eq hh (List.length_modify ..).symm
  · rw [hhub]
    exact wf.send hs c.now payload batched
  · rw [hhub, Hub.length_send hs]
    exact hs
  · rw [hhub, Hub.stream_send wf hs, Hub.effect, hnone, hopen]
    rfl

/-- **Rolling back** leaves a stream open that others leave so. -/
theorem keeps_rollback {result : Except Error Unit}
    (hothers : ∀ c₁, others c₁ c' → IsLive t c₁ → IsLive t c') (hlive : IsLive t c)
    (hserved : IsServed t c) (h : Runs others (rollback t) c log result c') : IsLive t c' := by
  obtain ⟨answer, hask, -⟩ := runs_bind_expect.mp h
  have hasked := runs_ask.mp hask
  dsimp only at hasked
  have hsent : IsLive t (c.onHub t.hub (·.send c.now t.stream .rollback false)).2 :=
    hlive.sent hserved
  split at hasked
  · obtain ⟨_, hmoved, -⟩ := hasked
    exact hothers _ hmoved hsent
  · obtain ⟨-, -, rfl⟩ := hasked
    exact hsent

end Transaction

/-! ## §5  What is under way at the end -/

namespace Iteration

/-- A streamed call that is under way after a run: it was begun on a stream, no message that came
for it was its last, and its owner has not come to an end. -/
structure Underway (s : Nat) (call : Call) (h : Hub) (turns : List Turn) : Prop where
  begun : ∃ config before now payload, s < ((Hub.new config).run before).streams.length ∧
    ((Hub.new config).run before).send now s payload true = (.ok call, h)
  own : IsOwn call turns
  inFlight : IsInFlight call turns
  reading : ((start h call).run turns).reader.finished = false

theorem Underway.sound {s : Nat} {call : Call} {h : Hub} {turns : List Turn}
    (hunder : Underway s call h turns) :
    call.stream = s ∧ ∃ due n error, Sound call turns ((start h call).told turns) due n error
      ((start h call).run turns) := by
  obtain ⟨config, before, now, payload, hs, hsend⟩ := hunder.begun
  obtain ⟨rfl, hf⟩ := Hub.begun_of_send hs hsend
  obtain ⟨wf, hsh⟩ := ((Hub.wellFormed_new config).run before).of_send hs hsend
  exact ⟨rfl, sound_run wf hsh hf hunder.own⟩

/-- A call that nobody has looked at is under way as long as nothing ends it. -/
theorem underway_of_quiet {s : Nat} {call : Call} {h : Hub} {turns : List Turn}
    (hbegun : ∃ config before now payload, s < ((Hub.new config).run before).streams.length ∧
      ((Hub.new config).run before).send now s payload true = (.ok call, h))
    (hquiet : ∀ turn ∈ turns, ∃ op : Hub.Op, turn = .other op ∧ (∀ other, op ≠ .read other) ∧
      ¬ op.Ends s call.id) : Underway s call h turns := by
  obtain ⟨config, before, now, payload, hs, hsend⟩ := hbegun
  obtain ⟨rfl, -⟩ := Hub.begun_of_send hs hsend
  refine ⟨⟨config, before, now, payload, hs, hsend⟩, ?_, ?_, ?_⟩
  · intro other hmem
    obtain ⟨op, ⟨⟩, hno, -⟩ := hquiet _ hmem
    exact absurd rfl (hno other)
  · intro op hmem
    obtain ⟨op', ⟨⟩, -, hgoing⟩ := hquiet _ hmem
    exact hgoing
  · refine List.foldlRecOn (motive := fun y : Iteration => y.reader.finished = false) turns step
      rfl fun y hy turn hmem => ?_
    obtain ⟨op, rfl, -⟩ := hquiet _ hmem
    exact hy

/-- On the stream of a closed transaction a reader is told the data before an offer to go on, and
then the error. -/
theorem epilogue_transactionClosed {unread : List PartPayload}
    (hgoing : ∀ part ∈ unread, part ≠ .streamState .done) :
    epilogue .transactionClosed unread =
      (unread.takeWhile (· ≠ .streamState .continue)).map .ok ++ [.error .transactionClosed] := by
  induction unread with
  | nil => rfl
  | cons payload rest ih =>
      have hrest := ih fun part hpart => hgoing part (List.mem_cons_of_mem _ hpart)
      cases payload with
      | streamState state =>
          cases state with
          | «continue» => rfl
          | done => exact absurd rfl (hgoing _ List.mem_cons_self)
      | query part => exact congrArg (.ok (.query part) :: ·) hrest
      | logic part => exact congrArg (.ok (.logic part) :: ·) hrest

end Iteration

namespace Transaction

variable {others : Connections → Connections → Prop} {c c' : Connections} {log : List Event}
  {t : Transaction}

open Iteration in
/-- What becomes of the calls on the stream of a transaction when it ends. One that nothing was
routed to reads the error of a closed transaction. One that is answered in parts is told, look by
look, the data that it has not read, up to an offer to go on, and then that error: which is all the
data that was routed to it, and the error, if and only if no data is behind an offer. -/
structure Releases (t : Transaction) (c c' : Connections) : Prop where
  single : ∀ call : Call, call.stream = t.stream →
    (call.id, call.mailbox) ∈ ((c.hub t.hub).stream t.stream).collector.registered →
    (c.hub t.hub).unread call = [] → ∀ later : List Hub.Op,
      ∃ delivery, (((c'.hub t.hub).run later).read call).1 = .item delivery ∧
        Hub.singleAnswer call.id delivery = .error .transactionClosed
  streamed : ∀ (call : Call) (h : Hub) (turns : List Turn), Underway t.stream call h turns →
    ((start h call).run turns).hub = c.hub t.hub →
      ∃ unread : List PartPayload,
        (c.hub t.hub).unread call = unread.map (fun part => .ok (call.message part)) ∧
          let y : Iteration := ⟨c'.hub t.hub, ((start h call).run turns).reader⟩
          let rest : List (Except Error PartPayload) :=
            (unread.takeWhile (· ≠ .streamState .continue)).map .ok ++ [.error .transactionClosed]
          (∀ later, IsOwn call later → y.told later = rest.take (looks later) ∧
            ∀ now, ((y.run later).look now).1 = rest[looks later]?.elim .ended .item) ∧
          ((start h call).told turns ++ rest =
              (dataIn (arrived call turns)).map .ok ++ [.error .transactionClosed] ↔
            ∀ pre post, unread = pre ++ .streamState .continue :: post →
              ∀ part ∈ post, part = .streamState .continue)

/-- What is closed with a transaction is its stream. -/
theorem hub_closeTransaction (hlive : IsLive t c) :
    (c.closeTransaction t).hub t.hub = (c.hub t.hub).step (.closeStream t.stream none) := by
  have hcan : (c.hub t.hub).can (.closeStream t.stream none) = true := by
    rw [Hub.can]
    exact decide_eq_true hlive.stream
  rw [Hub.step_of_can hcan]
  exact Connections.hub_modifyHub hlive.hub _

/-- **Closing** a transaction that goes on releases what is under way on it. -/
theorem releases_closeTransaction (hlive : IsLive t c) : Releases t c (c.closeTransaction t) := by
  have hcause : (c.hub t.hub).cause t.stream (.closeStream t.stream none) = some none :=
    if_pos rfl
  constructor
  · rintro ⟨s, k, id⟩ rfl hmem hnothing later
    obtain ⟨m, messages, hm, -, -, hread⟩ :=
      Hub.unread_of_cause hlive.wellFormed hlive.stream hcause hmem rfl later
    -- nothing waits, so the first read gives the error of the closing
    have hempty : m.waiting = [] := by
      rw [Hub.unread, List.getD_eq_getElem?_getD, hm] at hnothing
      exact hnothing
    rw [hempty] at hread
    rw [hub_closeTransaction hlive]
    exact ⟨_, hread, rfl⟩
  · intro call h turns hunder hhub
    obtain ⟨hstream, due, n, error, hsound⟩ := hunder.sound
    have hopen := hlive.isOpen
    rw [← hhub, ← hstream] at hopen hcause
    obtain ⟨hverdict, read, unread, harrived, hunread, hleft, hgoing, htold, -⟩ :=
      hsound.parts hopen hunder.inFlight
    -- the closing is one more turn of the iteration, and leaves its reader as it is
    have hclosing : ((Iteration.start h call).run turns).step
          (.other (.closeStream call.stream none)) =
        ⟨(c.closeTransaction t).hub t.hub, ((Iteration.start h call).run turns).reader⟩ := by
      rw [hub_closeTransaction hlive, ← hhub, hstream]
      rfl
    have howes := hsound.closed hverdict hcause hleft
    have hepilogue := Iteration.epilogue_transactionClosed hgoing
    rw [hunder.reading, if_neg Bool.false_ne_true, hclosing, Option.getD_none, hepilogue] at howes
    refine ⟨unread, hhub ▸ hunread, fun later hlater => ?_, ?_⟩
    · obtain ⟨htells, hends⟩ := howes.run hlater
      refine ⟨htells, fun now => ?_⟩
      rw [(hends.look now).1, List.head?_drop]
    · rw [← hepilogue, Iteration.told_epilogue_iff harrived hgoing (htold hunder.reading)]
      constructor
      · exact fun hoffers pre post hsplit => (hoffers pre post hsplit).2
      · exact fun hoffers pre post hsplit => ⟨rfl, hoffers pre post hsplit⟩

/-! ## §6  Every end -/

/-- **Every end of a transaction closes its stream.** Whatever others do meanwhile and whatever the
server answers: an opening comes to a transaction if and only if the transport accepted the stream
and the first delivery for request number one is the answer to it, and after every other opening
what was connected is over. A commit succeeds if and only if the first delivery to it is the answer
to it, and leaves the stream closed in any case. Rolling back leaves the stream open where others
do. And a commit, closing, or letting go, which closes too, releases what is under way on a stream
that was open until then. -/
theorem every_end_closes (hothers : ∀ c c', c.Sane → others c c' → c.Evolves c') (hc : c.Sane) :
    (∀ s transactionType options log result c', s < c.sessions.length →
      Runs others (openOn s transactionType options) c log result c' →
        let client := c.client (c.session s).client
        ((∃ t, result = .ok t) ↔ ∃ d call id, call.id = ⟨1⟩ ∧
          log = [⟨.dial client.address client.hub d, .ok ()⟩,
            ⟨.receive client.hub call, .ok (.response ⟨id, .ok .opened⟩)⟩]) ∧
        ∀ e, result = .error e → ∀ address hub d reply, ⟨.dial address hub d, reply⟩ ∈ log →
          c'.IsOver (hub, d) ∧ (reply = .ok () → StreamClosed c' hub d)) ∧
    ∀ t, c.TransactionOn t.hub t →
      (∀ log result c', Runs others (commit t) c log result c' →
        (result = .ok () ↔ ∃ call id,
          (c.onHub t.hub (·.send c.now t.stream .commit false)).1 = .ok call ∧
          log = [⟨.receive t.hub call, .ok (.response ⟨id, .ok .committed⟩)⟩]) ∧
        (c'.Finished t ∧ c'.IsOver (c'.lineOf t.hub t.stream)) ∧
        ∃ answer c₁, Runs others (ask t .commit false) c log answer c₁ ∧
          c' = c₁.closeTransaction t ∧ (IsLive t c₁ → Releases t c₁ c')) ∧
      (∀ log result c', IsLive t c → IsServed t c → Runs others (rollback t) c log result c' →
        (∀ c₁, others c₁ c' → IsLive t c₁ → IsLive t c') → IsLive t c') ∧
      (∀ log result c', Runs others (close t) c log result c' →
        c' = c.closeTransaction t ∧ (c'.Finished t ∧ c'.IsOver (c'.lineOf t.hub t.stream)) ∧
        (IsLive t c → Releases t c c')) := by
  refine ⟨fun s transactionType options log result c' hs hrun => ?_,
    fun t ht => ⟨fun log result c' hrun => ?_, fun log result c' hlive hserved hrun hkept => ?_,
      fun log result c' hrun => ?_⟩⟩
  · refine ⟨opens_openOn hothers hc hs hrun, ?_⟩
    rintro e rfl address hub d reply hmem
    exact closes_openOn hothers hc hs hrun hmem
  · obtain ⟨hanswer, hover⟩ := ends_commit hothers hc ht hrun
    obtain ⟨answer, c₁, hask, -, hclosed⟩ := runs_commit.mp hrun
    exact ⟨hanswer, hover, answer, c₁, hask, hclosed, fun hlive =>
      hclosed ▸ releases_closeTransaction hlive⟩
  · exact keeps_rollback hkept hlive hserved hrun
  · obtain ⟨-, -, rfl⟩ := runs_modifyGet.mp hrun
    exact ⟨rfl, Connections.over_closeTransaction hc ht, releases_closeTransaction⟩

/-- A transaction that is closed under two calls: a part of the answer to the first has come, and
nothing for the second. -/
theorem every_end_closes_closing :
    let part : PartPayload := .logic (.rules [⟨"a", "", ""⟩])
    let call : Call := ⟨0, 0, ⟨1⟩⟩
    let h := (((Hub.new {}).run [.reserve, .attach 0 "server"]).send 0 0 (.logic .getRules) true).2
    let turns : List Turn :=
      [.other (.receive 0 (.message (call.message part))), .other (.send 0 0 .rollback true)]
    let x := (Iteration.start h call).run turns
    let c : Connections := { hubs := [{ hub := x.hub }] }
    let t : Transaction := { hub := 0, stream := 0, transactionType := .write, options := {} }
    let c' := c.closeTransaction t
    Runs Eq (close t) c [] (.ok ()) c' ∧ IsLive t c ∧ c'.Finished t ∧
      (∃ delivery, ((c'.hub 0).read ⟨0, 1, ⟨2⟩⟩).1 = .item delivery ∧
        Hub.singleAnswer ⟨2⟩ delivery = .error .transactionClosed) ∧
      (⟨c'.hub 0, x.reader⟩ : Iteration).told [.look 1, .look 2, .look 3] =
        [.ok part, .error .transactionClosed] := by
  intro part call h turns x c t c'
  have hunder : Iteration.Underway t.stream call h turns := by
    refine Iteration.underway_of_quiet
      ⟨{}, [.reserve, .attach 0 "server"], 0, .logic .getRules, by decide +kernel,
        Prod.ext (by decide +kernel) rfl⟩ ?_
    simp [turns, Hub.ends_iff, call, part, Call.message, ServerMessage.isTerminal]
  obtain ⟨-, _, _, _, hsound⟩ := hunder.sound
  have hlive : IsLive t c := ⟨by decide +kernel, hsound.wellFormed, hsound.lt, by decide +kernel⟩
  have hopened : ((Hub.new {}).run [.reserve, .attach 0 "server"]).Sane :=
    Run.keeps (P := Hub.Sane) (fun _ op hsane => (Hub.evolves_step hsane op).sane)
      (Hub.sane_new {}) _
  have hsent : h.Sane := (Hub.evolves_send hopened (by decide +kernel) 0 _ true).sane
  have hsane : c.Sane := Connections.sane_of_hub
    (Hub.evolves_step (Hub.evolves_step hsent (.receive 0 (.message (call.message part)))).sane
      (.send 0 0 .rollback true)).sane
  have hrun : Runs Eq (close t) c [] (.ok ()) c' := runs_modifyGet.mpr ⟨rfl, rfl, rfl⟩
  have hothers : ∀ c c' : Connections, c.Sane → c = c' → c.Evolves c' := by
    rintro c _ hc rfl
    exact .refl hc
  obtain ⟨-, -, hclose⟩ :=
    (every_end_closes hothers hsane).2 t ⟨rfl, hlive.hub, hlive.stream⟩
  obtain ⟨-, ⟨hfinished, -⟩, hreleases⟩ := hclose _ _ _ hrun
  have hsingle :=
    (hreleases hlive).single ⟨0, 1, ⟨2⟩⟩ rfl (by decide +kernel) (by decide +kernel) []
  obtain ⟨unread, hunread, htells, -⟩ := (hreleases hlive).streamed call h turns hunder rfl
  have hone : unread.map (fun part => (.ok (call.message part) : Delivery)) =
      [.ok (call.message part)] := hunread.symm.trans (by decide +kernel)
  obtain ⟨a, rfl, ha⟩ := List.map_eq_singleton_iff.mp hone
  obtain rfl : a = part := by simpa [Call.message] using ha
  have hlooks : IsOwn call [.look 1, .look 2, .look 3] := fun other hmem => by simp at hmem
  exact ⟨hrun, hlive, hfinished, hsingle, (htells _ hlooks).1⟩

/-- An offer to go on that is unread when a transaction is closed hides the part behind it. -/
theorem offer_hides_part :
    let part (label : String) : PartPayload := .logic (.rules [⟨label, "", ""⟩])
    let call : Call := ⟨0, 0, ⟨1⟩⟩
    let h := (((Hub.new {}).run [.reserve, .attach 0 "server"]).send 0 0 (.logic .getRules) true).2
    let brings (payload : PartPayload) : Turn :=
      .other (.receive 0 (.message (call.message payload)))
    let turns : List Turn :=
      [brings (part "a"), brings (.streamState .continue), brings (part "b")]
    let x := (Iteration.start h call).run turns
    let c : Connections := { hubs := [{ hub := x.hub }] }
    let t : Transaction := { hub := 0, stream := 0, transactionType := .write, options := {} }
    let c' := c.closeTransaction t
    let later : List Turn := [.look 1, .look 2, .look 3, .look 4]
    let rest := (⟨c'.hub 0, x.reader⟩ : Iteration).told later
    Iteration.Underway t.stream call h turns ∧ IsLive t c ∧
      dataIn (arrived call turns) = [part "a", part "b"] ∧
      rest = [.ok (part "a"), .error .transactionClosed] ∧
      rest ≠ [.ok (part "a"), .ok (part "b"), .error .transactionClosed] := by
  intro part call h brings turns x c t c' later rest
  have hunder : Iteration.Underway t.stream call h turns := by
    refine Iteration.underway_of_quiet
      ⟨{}, [.reserve, .attach 0 "server"], 0, .logic .getRules, by decide +kernel,
        Prod.ext (by decide +kernel) rfl⟩ ?_
    simp [turns, brings, Hub.ends_iff, call, part, Call.message, ServerMessage.isTerminal]
  obtain ⟨-, _, _, _, hsound⟩ := hunder.sound
  exact ⟨hunder, ⟨by decide +kernel, hsound.wellFormed, hsound.lt, by decide +kernel⟩,
    by decide +kernel, by decide +kernel, by decide +kernel⟩

end Transaction

end GraphDriver
