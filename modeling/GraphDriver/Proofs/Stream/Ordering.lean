import GraphDriver.Proofs.Stream.Numbering
import GraphDriver.Proofs.Stream.Pagination

/-!
# Ordering

What leaves on the queue of a dispatcher leaves in the order in which it was accepted, and a reader
asks a server to go on at most once for each time that the server has offered to.

* §1 what leaves
* §2 what a look asks for
* §3 what is asked for was offered
* §4 what is accepted for a stream
-/

namespace GraphDriver

/-! ## §1  What leaves -/

namespace RequestQueue

theorem batches_put (q : RequestQueue) (batch : ClientMessage) :
    ∃ more, (q.put batch).2.batches = q.batches ++ more ∧ (q.abandoned = true → more = []) := by
  unfold put
  split
  · exact ⟨[], (List.append_nil _).symm, fun _ => rfl⟩
  · split
    · exact ⟨[], (List.append_nil _).symm, fun _ => rfl⟩
    · rename_i hheld
      exact ⟨[batch], rfl, fun h => absurd h hheld⟩

end RequestQueue

namespace Dispatcher

/-- A flush adds to the queue, unless nobody pulls from it. -/
theorem batches_flushed (x : Dispatcher) :
    ∃ more, x.flushed.queue.batches = x.queue.batches ++ more ∧
      (x.queue.abandoned = true → more = []) := by
  unfold flushed
  split
  · exact ⟨[], (List.append_nil _).symm, fun _ => rfl⟩
  · exact x.queue.batches_put ⟨x.buffer⟩

theorem batches_settled (x : Dispatcher) :
    x.settled.queue.batches = x.flushed.queue.batches := by
  unfold settled heard
  split
  · split <;> rfl
  · rfl

theorem batches_closing (x : Dispatcher) :
    ∃ more, x.closing.queue.batches = x.queue.batches ++ more ∧
      (x.queue.abandoned = true → more = []) := by
  unfold closing
  split
  · exact ⟨[], (List.append_nil _).symm, fun _ => rfl⟩
  · exact x.batches_flushed

end Dispatcher

namespace Transmitter

variable {t : Transmitter} {d : Nat}

/-- Nothing waits in a queue from which nobody pulls. -/
def Vacant (t : Transmitter) (d : Nat) : Prop :=
  (t.dispatcher d).queue.abandoned = true → (t.dispatcher d).queue.batches = []

/-- As long as the receiver holds on, batches are put in at one end and pulled at the other. -/
theorem queue_effect (t : Transmitter) (d : Nat) {op : Op} (hholds : op.drops d = false) :
    ∃ more, received d (t.noted op) ++ (t.effect d op).queue.batches =
        (t.dispatcher d).queue.batches ++ more ∧
      ((t.dispatcher d).queue.abandoned = true → more = []) := by
  have hquiet : ∃ more, received d [] ++ (t.dispatcher d).queue.batches =
      (t.dispatcher d).queue.batches ++ more ∧
        ((t.dispatcher d).queue.abandoned = true → more = []) :=
    ⟨[], (List.append_nil _).symm, fun _ => rfl⟩
  cases helse : op.elsewhere d with
  | true =>
      obtain ⟨heffect, -, hreceived⟩ := effect_of_elsewhere (t := t) helse
      rw [heffect, hreceived]
      exact hquiet
  | false =>
      cases op with
      | bind => exact hquiet
      | setHook e hook =>
          obtain rfl : e = d := by simpa [Op.elsewhere] using helse
          simpa [effect, noted] using hquiet
      | dispatch now e request =>
          obtain rfl : e = d := by simpa [Op.elsewhere] using helse
          have hnone : received e (t.noted (.dispatch now e request)) = [] := by
            simp only [noted]
            split <;> rfl
          rw [hnone, effect]
          split <;> exact hquiet
      | dispatchNow e request =>
          obtain rfl : e = d := by simpa [Op.elsewhere] using helse
          have hnone : received e (t.noted (.dispatchNow e request)) = [] := by
            simp only [noted]
            split <;> rfl
          rw [hnone, effect]
          split
          · rw [Dispatcher.batches_settled]
            exact ((t.dispatcher e).buffered request).batches_flushed
          · exact hquiet
      | runWorker now w =>
          rw [effect]
          split
          · rw [Dispatcher.batches_settled]
            exact (t.dispatcher d).batches_flushed
          · exact hquiet
      | closeDispatcher e =>
          obtain rfl : e = d := by simpa [Op.elsewhere] using helse
          rw [effect, if_pos rfl]
          exact (t.dispatcher e).batches_closing
      | close =>
          rw [effect]
          split
          · exact (t.dispatcher d).batches_closing
          · exact hquiet
      | pull e =>
          obtain rfl : e = d := by simpa [Op.elsewhere] using helse
          simp only [noted, received_received, effect, if_true, RequestQueue.pull_batches]
          exact ⟨[], (List.append_nil _).symm, fun _ => rfl⟩
      | abandon e =>
          obtain rfl : e = d := by simpa [Op.elsewhere] using helse
          simp [Op.drops] at hholds
      | fail e error =>
          obtain rfl : e = d := by simpa [Op.elsewhere] using helse
          simp [Op.drops] at hholds

/-- A receiver that lets go leaves nothing behind. -/
theorem queue_drops (hvacant : t.Vacant d) {op : Op} (hdrops : op.drops d = true) :
    t.noted op = [] ∧ (t.effect d op).queue.batches = [] := by
  cases op with
  | abandon e =>
      obtain rfl : d = e := by simpa [Op.drops] using hdrops
      exact ⟨rfl, by simp [effect, RequestQueue.abandon]⟩
  | fail e error =>
      obtain rfl : d = e := by simpa [Op.drops] using hdrops
      refine ⟨rfl, ?_⟩
      simp only [effect, if_true, RequestQueue.fail]
      split
      · exact hvacant ‹_›
      · rfl
  | _ => simp [Op.drops] at hdrops

theorem Vacant.step (hvacant : t.Vacant d) (wf : t.WellFormed) (hd : d < t.dispatchers.length)
    (op : Op) : (t.step op).Vacant d := by
  intro hgone
  rw [dispatcher_step wf hd] at hgone ⊢
  cases hdrops : op.drops d with
  | true => exact (queue_drops hvacant hdrops).2
  | false =>
      rw [abandoned_effect, hdrops, Bool.or_false] at hgone
      obtain ⟨more, hmore, hnone⟩ := queue_effect t d hdrops
      rw [hnone hgone, hvacant hgone] at hmore
      exact (List.append_eq_nil_iff.mp hmore).2

/-- From a queue that was let go nothing is pulled. -/
theorem Vacant.received_eq_nil (hvacant : t.Vacant d) {op : Op}
    (hgone : (t.effect d op).queue.abandoned = true) : received d (t.noted op) = [] := by
  cases hdrops : op.drops d with
  | true =>
      rw [(queue_drops hvacant hdrops).1]
      rfl
  | false =>
      rw [abandoned_effect, hdrops, Bool.or_false] at hgone
      obtain ⟨put, hput, hnone⟩ := queue_effect t d hdrops
      rw [hnone hgone, hvacant hgone] at hput
      exact (List.append_eq_nil_iff.mp hput).1

theorem Vacant.run (hvacant : t.Vacant d) (wf : t.WellFormed) (hd : d < t.dispatchers.length)
    (ops : List Op) : (t.run ops).Vacant d := by
  induction ops using List.reverseRecOn with
  | nil => exact hvacant
  | append_singleton ops op ih =>
      rw [run_snoc]
      exact ih.step (wf.run ops) (lt_length_run wf hd ops) op

/-- What is pulled was in the queue before, or was put in behind it. -/
theorem received_run (hvacant : t.Vacant d) (wf : t.WellFormed) (hd : d < t.dispatchers.length)
    (ops : List Op) :
    ∃ more, received d (t.notes ops) <+: (t.dispatcher d).queue.batches ++ more := by
  suffices h : ∃ more,
      received d (t.notes ops) ++ ((t.run ops).dispatcher d).queue.batches <+:
        (t.dispatcher d).queue.batches ++ more ∧
      (((t.run ops).dispatcher d).queue.abandoned = false →
        received d (t.notes ops) ++ ((t.run ops).dispatcher d).queue.batches =
          (t.dispatcher d).queue.batches ++ more) by
    obtain ⟨more, hprefix, -⟩ := h
    exact ⟨more, (List.prefix_append _ _).trans hprefix⟩
  induction ops using List.reverseRecOn with
  | nil =>
      refine ⟨[], ?_, fun _ => (List.append_nil _).symm⟩
      rw [List.append_nil]
      exact List.prefix_rfl
  | append_singleton ops op ih =>
      obtain ⟨more, hprefix, heq⟩ := ih
      have hlt := lt_length_run wf hd ops
      have hstill := hvacant.run wf hd ops
      rw [run_snoc, notes_snoc, received_append, dispatcher_step (wf.run ops) hlt,
        abandoned_effect, List.append_assoc]
      cases hdrops : op.drops d with
      | true =>
          obtain ⟨hnone, hempty⟩ := queue_drops hstill hdrops
          rw [hnone, hempty]
          refine ⟨more, ?_, by simp⟩
          exact ((List.prefix_append_right_inj _).mpr (List.nil_prefix)).trans hprefix
      | false =>
          obtain ⟨put, hput, hgone⟩ := queue_effect (t.run ops) d hdrops
          rw [hput, Bool.or_false]
          cases hheld : ((t.run ops).dispatcher d).queue.abandoned with
          | true =>
              rw [hgone hheld, List.append_nil]
              exact ⟨more, hprefix, by simp⟩
          | false =>
              rw [← List.append_assoc, heq hheld, List.append_assoc]
              exact ⟨more ++ put, List.prefix_rfl, fun _ => rfl⟩

/-- Requests leave in the order in which they were accepted. -/
theorem received_isPrefix (hvacant : t.Vacant d) (wf : t.WellFormed)
    (hd : d < t.dispatchers.length) (ops : List Op) :
    (received d (t.notes ops)).flatMap (·.requests) <+:
      (t.dispatcher d).outgoing ++ accepted d (t.notes ops) := by
  induction ops using List.reverseRecOn with
  | nil => exact List.nil_prefix
  | append_singleton ops op ih =>
      have hlt := lt_length_run wf hd ops
      cases hheld : ((t.run (ops ++ [op])).dispatcher d).queue.abandoned with
      | false =>
          rw [← outgoing_run wf hd _ hheld]
          exact List.prefix_append _ _
      | true =>
          -- nothing is pulled by who lets go, and nothing after that
          rw [run_snoc, dispatcher_step (wf.run ops) hlt] at hheld
          have hnone := (hvacant.run wf hd ops).received_eq_nil hheld
          rw [notes_snoc, received_append, accepted_append, hnone, List.append_nil,
            ← List.append_assoc]
          exact ih.trans (List.prefix_append _ _)

/-- A run leads from one transmitter to another, with what is noted of it. -/
def Reaches (t : Transmitter) (noted : List Note) (t' : Transmitter) : Prop :=
  ∃ ops, t.run ops = t' ∧ t.notes ops = noted

theorem accepted_map (d : Nat) (requests : List Request) :
    accepted d (requests.map (.accepted d)) = requests := by
  simp [accepted, List.filterMap_map]

theorem Reaches.refl (t : Transmitter) : t.Reaches [] t := ⟨[], rfl, rfl⟩

theorem Reaches.trans {t t' t'' : Transmitter} {xs ys : List Note} (hx : t.Reaches xs t')
    (hy : t'.Reaches ys t'') : t.Reaches (xs ++ ys) t'' := by
  obtain ⟨ops, rfl, rfl⟩ := hx
  obtain ⟨ops', rfl, rfl⟩ := hy
  exact ⟨ops ++ ops', by simp [run], Run.log_append t ops ops'⟩

end Transmitter

/-! ## §2  What a look asks for -/

/-- The offer to go on with an answer. -/
def RequestId.offer (id : RequestId) : ServerMessage := .responsePart ⟨id, .streamState .continue⟩

/-- The request to go on with an answer. -/
def RequestId.further (id : RequestId) : Request := ⟨id, .streamContinue⟩

namespace Hub

variable {h h' h'' : Hub} {call : Call} {now : Nat} {xs ys : List Request}

/-- The request to go on, if it is accepted. -/
def asks (h : Hub) (now : Nat) (call : Call) : List Request :=
  if (h.askMore now call.stream call.id).1.isOk then [call.id.further] else []

/-- What a look does, read by read: whenever it takes an offer it may ask for more. -/
inductive Reads (call : Call) (now : Nat) : Hub → List Request → Hub → Prop
  | refl (h : Hub) : Reads call now h [] h
  | read {h h' : Hub} {asked : List Request}
      (later : Reads call now (h.read call).2 asked h') : Reads call now h asked h'
  | offer {h h' : Hub} {asked : List Request} {id : RequestId}
      (found : (h.read call).1 = .item (.ok id.offer))
      (later : Reads call now ((h.read call).2.askMore now call.stream call.id).2 asked h') :
      Reads call now h ((h.read call).2.asks now call ++ asked) h'

theorem Reads.once (h : Hub) : Reads call now h [] (h.read call).2 := .read (.refl _)

theorem Reads.trans (hx : Reads call now h xs h') (hy : Reads call now h' ys h'') :
    Reads call now h (xs ++ ys) h'' := by
  induction hx with
  | refl h => exact hy
  | read later ih => exact .read (ih hy)
  | offer found later ih =>
      rw [List.append_assoc]
      exact .offer found (ih hy)

theorem nextPartWithin_reads (reads : Nat) (h : Hub) (now : Nat) (p : PartReader) :
    (∃ asked, Reads p.call now h asked (nextPartWithin reads h now p).2.2) ∧
      (nextPartWithin reads h now p).2.1.call = p.call := by
  induction reads generalizing h with
  | zero => exact ⟨⟨[], .refl h⟩, rfl⟩
  | succ reads ih =>
      cases hp : p.finished with
      | true =>
          simp only [nextPartWithin, hp, if_true]
          exact ⟨⟨[], .refl h⟩, trivial⟩
      | false =>
          rcases nextPartWithin_cases hp reads h now with
            hout | ⟨payload, hout⟩ | hout | ⟨error, hub, hout, rfl | ⟨⟨id, hfound⟩, rfl⟩⟩ |
              ⟨⟨id, hfound⟩, hout⟩
          · rw [hout]
            exact ⟨⟨[], .once h⟩, rfl⟩
          · rw [hout]
            exact ⟨⟨[], .once h⟩, rfl⟩
          · rw [hout]
            exact ⟨⟨[], .once h⟩, rfl⟩
          · rw [hout]
            exact ⟨⟨[], .once h⟩, rfl⟩
          · rw [hout]
            exact ⟨⟨_, .offer hfound (.refl _)⟩, rfl⟩
          · obtain ⟨⟨later, hlater⟩, hcall⟩ :=
              ih ((h.read p.call).2.askMore now p.call.stream p.call.id).2
            rw [hout]
            exact ⟨⟨_, .offer hfound hlater⟩, hcall⟩

theorem nextItemWithin_reads {α : Type} (extract : PartPayload → Except Error (List α))
    (looks : Nat) (h : Hub) (now : Nat) (r : ItemReader α) :
    (∃ asked, Reads r.parts.call now h asked (nextItemWithin extract looks h now r).2.2) ∧
      (nextItemWithin extract looks h now r).2.1.parts.call = r.parts.call := by
  induction looks generalizing h r with
  | zero => exact ⟨⟨[], .refl h⟩, rfl⟩
  | succ looks ih =>
      obtain ⟨⟨asked, hpart⟩, hcall⟩ :=
        nextPartWithin_reads (h.backlog r.parts.call + 2) h now r.parts
      change Reads _ _ _ _ (h.nextPart now r.parts).2.2 at hpart
      change (h.nextPart now r.parts).2.1.call = _ at hcall
      rcases nextItemWithin_cases extract looks h now r with
        ⟨item, rest, -, hout⟩ | ⟨-, ⟨-, hout⟩ | ⟨-, hout⟩ | ⟨error, -, hout⟩ |
          ⟨_, items, -, -, hout⟩⟩
      · rw [hout]
        exact ⟨⟨[], .refl h⟩, rfl⟩
      · rw [hout]
        exact ⟨⟨asked, hpart⟩, hcall⟩
      · rw [hout]
        exact ⟨⟨asked, hpart⟩, hcall⟩
      · rw [hout]
        exact ⟨⟨asked, hpart⟩, hcall⟩
      · obtain ⟨⟨later, hlater⟩, hcall'⟩ := ih (h.nextPart now r.parts).2.2
          { parts := (h.nextPart now r.parts).2.1, ready := items.map .ok }
        rw [hout]
        rw [hcall] at hlater hcall'
        exact ⟨⟨asked ++ later, hpart.trans hlater⟩, hcall'⟩

/-- A look is a sequence of reads of its call. -/
theorem nextAnswer_reads (h : Hub) (now : Nat) (a : AnswerReader) :
    (∃ asked, Reads a.parts.call now h asked (h.nextAnswer now a).2.2) ∧
      (h.nextAnswer now a).2.1.parts.call = a.parts.call :=
  nextItemWithin_reads a.kind.extract (h.backlog a.parts.call + 3) h now a.toItemReader

variable {s : Nat}

theorem step_read (hs : call.stream < h.streams.length) :
    h.step (.read call) = (h.read call).2 :=
  step_of_can (by simpa [can] using hs)

theorem step_askMore (hs : s < h.streams.length) (now : Nat) (id : RequestId) :
    h.step (.askMore now s id) = (h.askMore now s id).2 :=
  step_of_can (by simpa [can] using hs)

theorem noted_askMore (hs : call.stream < h.streams.length) (now : Nat) :
    h.noted (.askMore now call.stream call.id) =
      (h.asks now call).map (.accepted (h.stream call.stream).dispatcher) := by
  have hcan : h.can (.askMore now call.stream call.id) = true := by simpa [can] using hs
  rw [noted, if_pos hcan, noting, asks]
  split <;> rfl

/-- The request to go on stays in the buffer until the next flush. -/
theorem buffer_askMore (wf : h.WellFormed) (hs : call.stream < h.streams.length) (now : Nat) :
    ((h.askMore now call.stream call.id).2.outlet call.stream).buffer =
      (h.outlet call.stream).buffer ++ h.asks now call := by
  cases hopen : (h.stream call.stream).isOpen with
  | false => simp [asks, askMore_of_closed hopen, Except.isOk, Except.toBool]
  | true =>
      have hdispatcher := Transmitter.dispatcher_step wf.transmitter (wf.bound _ hs)
        (.dispatch now (h.stream call.stream).dispatcher call.id.further)
      let sent := h.transmitter.step (.dispatch now (h.stream call.stream).dispatcher call.id.further)
      have hasked : (h.askMore now call.stream call.id).2 = { h with transmitter := sent } := by
        simp [sent, askMore, hopen, Transmitter.step, RequestId.further]
      rw [hasked, asks, askMore]
      simp only [hopen, if_true]
      change (sent.dispatcher (h.stream call.stream).dispatcher).buffer = _
      rw [hdispatcher, Transmitter.effect]
      cases haccepts : h.transmitter.accepts (h.stream call.stream).dispatcher with
      | false =>
          simp [Transmitter.dispatch_of_not_accepts haccepts, outlet, Except.isOk, Except.toBool]
      | true =>
          simp [Transmitter.dispatch_of_accepts haccepts, outlet, Except.isOk, Except.toBool,
            Dispatcher.buffered]

/-- What a look does to the dispatcher of its stream. -/
structure Wrote (h : Hub) (s : Nat) (asked : List Request) (h' : Hub) : Prop where
  reaches : h.transmitter.Reaches (asked.map (.accepted (h.stream s).dispatcher)) h'.transmitter
  dispatcher : (h'.stream s).dispatcher = (h.stream s).dispatcher
  buffer : (h'.outlet s).buffer = (h.outlet s).buffer ++ asked

theorem Wrote.refl (h : Hub) (s : Nat) : h.Wrote s [] h :=
  ⟨.refl _, rfl, (List.append_nil _).symm⟩

theorem Wrote.trans (hx : h.Wrote s xs h') (hy : h'.Wrote s ys h'') : h.Wrote s (xs ++ ys) h'' := by
  refine ⟨?_, hy.dispatcher.trans hx.dispatcher, ?_⟩
  · rw [List.map_append]
    exact hx.reaches.trans (hx.dispatcher ▸ hy.reaches)
  · rw [hy.buffer, hx.buffer, List.append_assoc]

theorem wrote_read (hs : call.stream < h.streams.length) :
    h.Wrote call.stream [] (h.read call).2 := by
  refine ⟨.refl _, ?_, ?_⟩
  · rw [stream_read hs]
  · rw [outlet_read hs, List.append_nil]

theorem wrote_askMore (wf : h.WellFormed) (hs : call.stream < h.streams.length) (now : Nat) :
    h.Wrote call.stream (h.asks now call) (h.askMore now call.stream call.id).2 := by
  rw [← step_askMore hs]
  refine ⟨?_, dispatcher_step wf hs _, ?_⟩
  · rw [← noted_askMore hs]
    exact exists_run h _
  · rw [step_askMore hs]
    exact buffer_askMore wf hs now

theorem Reads.wrote (hreads : Reads call now h xs h') (wf : h.WellFormed)
    (hs : call.stream < h.streams.length) : h.Wrote call.stream xs h' := by
  induction hreads with
  | refl h => exact .refl h _
  | read later ih =>
      rw [← step_read hs] at ih
      have hlater := ih (wf.step _) (Nat.lt_of_lt_of_le hs (length_step_le _ _))
      rw [step_read hs] at hlater
      exact (wrote_read hs).trans hlater
  | @offer h h' asked id found later ih =>
      have wf₁ : (h.read call).2.WellFormed := step_read hs ▸ wf.step _
      have hs₁ : call.stream < (h.read call).2.streams.length :=
        step_read hs ▸ Nat.lt_of_lt_of_le hs (length_step_le h (.read call))
      rw [← step_askMore hs₁] at ih
      have hlater := ih (wf₁.step _) (Nat.lt_of_lt_of_le hs₁ (length_step_le _ _))
      rw [step_askMore hs₁] at hlater
      have hasked := (wrote_read hs).trans (wrote_askMore wf₁ hs₁ now)
      rw [List.nil_append] at hasked
      exact hasked.trans hlater

end Hub

/-! ## §3  What is asked for was offered -/

/-- Whether a message offers to go on with an answer. -/
def ServerMessage.isOffer : ServerMessage → Bool
  | .responsePart ⟨_, .streamState .continue⟩ => true
  | _ => false

theorem ServerMessage.eq_offer {m : ServerMessage} (h : m.isOffer = true) :
    m = m.requestId.offer := by
  cases m with
  | response response => simp [isOffer] at h
  | responsePart part =>
      obtain ⟨id, payload⟩ := part
      cases payload with
      | streamState state =>
          cases state with
          | «continue» => rfl
          | done => simp [isOffer] at h
      | query part => simp [isOffer] at h
      | logic part => simp [isOffer] at h

/-- How many offers there are among messages. -/
def offers (messages : List ServerMessage) : Nat := messages.countP (·.isOffer)

namespace Hub

variable {h : Hub} {s : Nat} {call : Call} {id : RequestId}

/-- The messages that an operation routes to the calls of a stream. -/
def routing (h : Hub) (s : Nat) : Op → List ServerMessage
  | .receive s' (.message m) => if s' = s ∧ (h.stream s).isOpen then [m] else []
  | _ => []

/-- A call is owed an offer only if one was routed under its number. -/
theorem offers_adds (hopen : (h.stream s).isOpen = true) (op : Op) :
    offers (h.adds s id op).messages ≤ (h.routing s op).count id.offer := by
  cases hcause : h.cause s op with
  | some error => simp [adds_of_cause hcause, offers]
  | none =>
      rw [adds_of_no_cause hcause]
      cases op with
      | receive s' inbound =>
          cases inbound with
          | message m =>
              simp only [brought, routing, hopen, and_true]
              split
              · simp only [Collector.owed]
                split
                · rename_i hid
                  have hone : offers [m] ≤ [m].count id.offer := by
                    cases hoffer : m.isOffer with
                    | false => simp [offers, hoffer]
                    | true =>
                        have hm := ServerMessage.eq_offer hoffer
                        rw [hid] at hm
                        simp [← hm, offers, hoffer]
                  split <;> simpa using hone
                · simp [offers]
              · simp [offers]
          | _ => simp [brought, offers]
      | forget s' id' =>
          simp only [brought]
          split
          · simp only [Collector.owed]
            split <;> simp [offers]
          · simp [offers]
      | _ => simp [brought, offers]

/-- A call that was asked to go on at most as often as its reader took an offer, and that was owed at
most as many offers as were routed. -/
def Counted (h : Hub) (call : Call) (asked routed : Nat) : Prop :=
  ∃ due n, Collector.Follows (h.stream call.stream).collector call.mailbox call.id due n ∧
    asked ≤ offers (due.messages.take n) ∧ offers due.messages ≤ routed

theorem Counted.le {asked routed : Nat} (hc : h.Counted call asked routed) : asked ≤ routed := by
  obtain ⟨due, n, -, hasked, hrouted⟩ := hc
  have htake : offers (due.messages.take n) ≤ offers due.messages :=
    (List.take_sublist n due.messages).countP_le
  omega

theorem Counted.step {asked routed : Nat} (hc : h.Counted call asked routed) (wf : h.WellFormed)
    (hs : call.stream < h.streams.length) (op : Op) :
    (h.step op).Counted call asked
      (routed + (h.routing call.stream op).count call.id.offer) := by
  obtain ⟨due, n, hf, hasked, hrouted⟩ := hc
  refine ⟨_, _, follows_step wf hs hf op, ?_, ?_⟩
  · refine Nat.le_trans hasked (List.Sublist.countP_le ?_)
    cases hv : due.verdict with
    | some error =>
        rw [Due.andThen_of_verdict (by simp [hv])]
        exact (List.take_prefix_take_left (Nat.le_add_right n _)).sublist
    | none =>
        rw [Due.andThen_of_open hv]
        refine List.Sublist.trans ?_
          (List.take_prefix_take_left (Nat.le_add_right n _)).sublist
        rw [List.take_append]
        exact List.sublist_append_left _ _
  · cases hv : due.verdict with
    | some error =>
        rw [Due.andThen_of_verdict (by simp [hv])]
        exact Nat.le_add_right_of_le hrouted
    | none =>
        have hopen : (h.stream call.stream).isOpen = true := by
          by_contra hclosed
          exact verdict_of_closed (wf.sound _ hs) (by simpa using hclosed) hf hv
        have hadds : offers (h.adds call.stream call.id op).messages ≤
            (h.routing call.stream op).count call.id.offer := offers_adds hopen op
        rw [Due.andThen_of_open hv]
        simp only [offers, List.countP_append] at hrouted hadds ⊢
        omega

/-- Who has taken an offer may ask to go on once more. -/
theorem Counted.offer {asked routed : Nat} (hc : h.Counted call asked routed)
    (hs : call.stream < h.streams.length) (hfound : (h.read call).1 = .item (.ok id.offer)) :
    (h.read call).2.Counted call (asked + 1) routed := by
  obtain ⟨due, n, hf, hasked, hrouted⟩ := hc
  obtain ⟨hnext, hrest⟩ := hf.read_eq
  rw [show ((h.stream call.stream).collector.read call.mailbox).1 = .item (.ok id.offer) from
    hfound] at hnext hrest
  have hmessage : due.messages[n]? = some id.offer := by
    unfold Due.nth at hnext
    split at hnext
    · rename_i message hmessage
      obtain rfl : id.offer = message := by simpa using hnext
      exact hmessage
    · split at hnext <;> simp at hnext
  refine ⟨due, n + 1, ?_, ?_, hrouted⟩
  · rw [stream_read hs]
    exact hrest
  · have hone : offers [id.offer] = 1 := rfl
    rw [List.take_add_one, hmessage, offers, List.countP_append]
    exact Nat.add_le_add hasked (Nat.le_of_eq hone.symm)

end Hub

/-! ## §4  What is accepted for a stream -/

/-- Whether an operation sends something on a stream. -/
def Hub.Op.speaks (s : Nat) : Hub.Op → Bool
  | .send _ s' _ _ | .askMore _ s' _ => s' = s
  | _ => false

@[simp] theorem Transmitter.accepted_nil (d : Nat) : accepted d [] = [] := rfl

/-- What is accepted to leave at once is refused neither by the transmitter nor by the queue. -/
theorem Transmitter.accepted_at_once {t : Transmitter} {d : Nat} {request : Request}
    (hd : d < t.dispatchers.length) (hok : (t.dispatchNow d request).1 = .ok ()) :
    t.accepts d = true ∧ ((t.dispatcher d).buffered request).refusal = none := by
  cases haccepts : t.accepts d with
  | false => simp [dispatchNow_of_not_accepts haccepts] at hok
  | true =>
      rw [dispatchNow_fst hd haccepts] at hok
      cases hrefusal : ((t.dispatcher d).buffered request).refusal with
      | some error => simp [hrefusal] at hok
      | none => exact ⟨rfl, rfl⟩

namespace Hub

variable {h h' : Hub} {s d now : Nat} {call : Call} {payload : RequestPayload}

/-- For a dispatcher something is accepted only on its stream. -/
theorem accepted_eq_nil {op : Op} (hapart : ∀ s < h.streams.length, op.speaks s = true →
      (h.stream s).dispatcher ≠ d) :
    Transmitter.accepted d (h.noted op) = [] := by
  unfold noted
  split
  · rename_i hcan
    cases op with
    | send now s payload batched =>
        have hne := hapart s (by simpa [can] using hcan) (by simp [Op.speaks])
        simp only [noting]
        split
        · rw [Transmitter.accepted_accepted, if_neg hne]
        · rfl
    | askMore now s id =>
        have hne := hapart s (by simpa [can] using hcan) (by simp [Op.speaks])
        simp only [noting]
        split
        · rw [Transmitter.accepted_accepted, if_neg hne]
        · rfl
    | pull e => exact Transmitter.accepted_received ..
    | _ => rfl
  · rfl

theorem dispatcher_ne (wf : h.WellFormed) {s' : Nat} (hs : s < h.streams.length)
    (hs' : s' < h.streams.length) (hne : s' ≠ s) :
    (h.stream s').dispatcher ≠ (h.stream s).dispatcher := by
  intro heq
  have hhook := wf.hooked s' hs'
  rw [heq, wf.hooked s hs] at hhook
  exact hne (congrArg Hook.label (Option.some.inj hhook)).symm

/-- Nothing is accepted for a stream on which nothing is sent. -/
theorem accepted_of_silent (wf : h.WellFormed) (hs : s < h.streams.length) {op : Op}
    (hsilent : op.speaks s = false) :
    Transmitter.accepted (h.stream s).dispatcher (h.noted op) = [] := by
  refine accepted_eq_nil fun s' hs' hspeaks => dispatcher_ne wf hs hs' ?_
  rintro rfl
  rw [hsilent] at hspeaks
  exact Bool.false_ne_true hspeaks

/-- For a dispatcher that no stream has, nothing was ever accepted. -/
theorem accepted_of_free (wf : h.WellFormed) (ops : List Op)
    (hfree : ∀ s < (h.run ops).streams.length, ((h.run ops).stream s).dispatcher ≠ d) :
    Transmitter.accepted d (h.notes ops) = [] := by
  induction ops using List.reverseRecOn with
  | nil => rfl
  | append_singleton ops op ih =>
      have wf' := wf.run ops
      rw [run_snoc] at hfree
      have hbefore : ∀ s < (h.run ops).streams.length, ((h.run ops).stream s).dispatcher ≠ d := by
        intro s hs
        rw [← dispatcher_step wf' hs op]
        exact hfree s (Nat.lt_of_lt_of_le hs (length_step_le _ op))
      rw [notes_snoc, Transmitter.accepted_append, ih hbefore, List.nil_append]
      exact accepted_eq_nil fun s hs _ => hbefore s hs

/-- No number is assigned on a stream on which nothing is sent. -/
theorem assigns_of_silent {op : Op} (hsilent : op.speaks s = false) : assigns s h op = [] := by
  refine if_neg fun htakes => ?_
  obtain ⟨-, hnumbers⟩ := Bool.and_eq_true_iff.mp htakes
  cases op with
  | send now s' payload batched =>
      have hne : s' ≠ s := by simpa [Op.speaks] using hsilent
      simp [numbers, hne] at hnumbers
  | _ => simp [numbers] at hnumbers

/-- A request that is accepted and leaves at once goes into a queue that is pulled from. -/
theorem sent_at_once (wf : h.WellFormed) (hs : s < h.streams.length)
    (hsend : h.send now s payload false = (.ok call, h')) :
    (h.outlet s).queue.abandoned = false ∧
      h'.outlet s = ((h.outlet s).buffered ⟨call.id, payload⟩).settled := by
  obtain ⟨-, -, hid, -, hposted⟩ := sent_of_send hs hsend
  rw [← hid] at hposted
  let d := (h.stream s).dispatcher
  let request : Request := ⟨call.id, payload⟩
  have hd : d < h.transmitter.dispatchers.length := wf.bound s hs
  have hpost : (h.registered s).post now s request false =
      ((h.transmitter.dispatchNow d request).1,
        (h.registered s).transmit (h.transmitter.dispatchNow d request).2) := by
    rw [post, dispatcher_registered h s hs]
    rfl
  obtain ⟨hok, rfl⟩ := Prod.mk.inj (hpost.symm.trans hposted)
  obtain ⟨haccepts, hrefusal⟩ := Transmitter.accepted_at_once hd hok
  constructor
  · have hsound := (wf.outlet s).buffered (Transmitter.closed_of_accepts haccepts) request
    have hrefused := hsound.refusal_eq
    rw [show ((h.outlet s).buffered request).refusal = none from hrefusal] at hrefused
    by_contra hgone
    simp [Dispatcher.buffered, hgone] at hrefused
  · have hreports : (h.transmitter.dispatchNow d request).2.2 = [] := by
      rw [Transmitter.dispatchNow_snd_snd hd haccepts, Dispatcher.reports, hrefusal]
    have hdispatcher := Transmitter.dispatcher_dispatchNow hd haccepts request
    rw [if_pos rfl] at hdispatcher
    rw [transmit, hreports, outlet]
    change Transmitter.dispatcher _ ((h.registered s).stream s).dispatcher = _
    rw [dispatcher_registered h s hs]
    exact hdispatcher

end Hub

end GraphDriver
