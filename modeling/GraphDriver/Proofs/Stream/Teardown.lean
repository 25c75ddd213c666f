import GraphDriver.Proofs.Stream.Effects

/-!
# Teardown

How a stream ends. Whatever closes it, it closes once: every call in flight reads what had arrived
for it and then the error of the closing, the requests that were accepted leave and the outgoing
queue ends, and from then on nothing is taken in or sent.

* §1 the closed stream
* §2 the closing
-/

namespace GraphDriver

namespace Hub

variable {h : Hub} {s : Nat}

/-! ## §1  The closed stream -/

theorem stays_closed (wf : h.WellFormed) (hs : s < h.streams.length)
    (hclosed : (h.stream s).isOpen = false) (ops : List Op) :
    ((h.run ops).stream s).isOpen = false := by
  induction ops using List.reverseRecOn with
  | nil => exact hclosed
  | append_singleton ops op ih =>
      rw [run_snoc, isOpen_step (wf.run ops) (lt_length_run hs ops), ih, Bool.false_and]

theorem askMore_of_closed (hclosed : (h.stream s).isOpen = false) (now : Nat) (id : RequestId) :
    h.askMore now s id = (.error .transactionClosed, h) := by
  simp [askMore, hclosed]

theorem pendingCalls_of_closed (wf : h.WellFormed) (hs : s < h.streams.length)
    (hclosed : (h.stream s).isOpen = false) : h.pendingCalls s = 0 := by
  have hsound := wf.sound s hs
  rw [pendingCalls, Collector.size,
    hsound.collector.silent (by simpa [hclosed] using hsound.alive)]
  rfl

/-- The dispatcher of a closed stream is closed, and no worker flushes it. -/
theorem outlet_of_closed (wf : h.WellFormed) (hs : s < h.streams.length)
    (hclosed : (h.stream s).isOpen = false) :
    (h.outlet s).closed = true ∧ ∀ w, (h.stream s).dispatcher ∉ h.transmitter.members w := by
  have hdead := wf.ended s hs hclosed
  refine ⟨hdead, fun w hmem => ?_⟩
  rw [((wf.transmitter.mem_members w _).mp hmem).2.2] at hdead
  simp at hdead

/-! ## §2  The closing -/

/-- A request that is sent at once closes its stream if it is refused with its batch, and then it
fails with that error. -/
theorem send_of_cause (wf : h.WellFormed) (hs : s < h.streams.length)
    (hopen : (h.stream s).isOpen = true) {now : Nat} {payload : RequestPayload} {batched : Bool}
    {c : Option Error} (hcause : h.cause s (.send now s payload batched) = some c) :
    ∃ refusal, h.refusalAtOnce s ⟨⟨(h.stream s).nextId⟩, payload⟩ = some refusal ∧
      c = some refusal ∧ (h.send now s payload batched).1 = .error refusal := by
  simp only [cause] at hcause
  split at hcause
  · rename_i hnow
    obtain ⟨-, rfl⟩ := hnow
    split at hcause
    · rename_i j hregister
      obtain ⟨refusal, hrefusal, rfl⟩ := Option.map_eq_some_iff.mp hcause
      refine ⟨refusal, hrefusal, rfl, ?_⟩
      have hs' : s < (h.registered s).streams.length := by simpa using hs
      rw [← refusalAtOnce_registered hs, refusalAtOnce] at hrefusal
      split at hrefusal
      · rename_i haccepts
        have hfst := Transmitter.dispatchNow_fst ((wf.registered s).bound s hs') haccepts
          ⟨⟨(h.stream s).nextId⟩, payload⟩
        rw [show ((h.registered s).transmitter.dispatcher
          ((h.registered s).stream s).dispatcher) = (h.registered s).outlet s from rfl,
          hrefusal] at hfst
        have hposted : ((h.registered s).post now s
            ⟨⟨(h.stream s).nextId⟩, payload⟩ false).1 = .error refusal := hfst
        rw [send_of_registered hs hopen hregister, hposted]
      · simp at hrefusal
    · simp at hcause
  · simp at hcause

/-- An operation that closes a stream gets no request into a dispatcher. -/
theorem noted_of_cause (wf : h.WellFormed) (hs : s < h.streams.length)
    (hopen : (h.stream s).isOpen = true) {op : Op} {error : Option Error}
    (hcause : h.cause s op = some error) : h.noted op = [] := by
  unfold noted
  split
  · -- of the operations that are noted, only a request sent at once can close the stream
    cases op with
    | send now s₀ payload batched =>
        obtain rfl : s₀ = s := by
          by_contra hne
          simp [cause, hne] at hcause
        obtain ⟨refusal, -, -, hfailed⟩ := send_of_cause wf hs hopen hcause
        simp only [noting]
        rw [hfailed]
    | askMore now s₀ id => simp [cause] at hcause
    | pull d => simp [cause] at hcause
    | _ => rfl
  · rfl

/-- The last batch of a stream may be refused as well: the stream that its hook names is closed by
then, and hears nothing. -/
theorem heed_closeStream (wf : h.WellFormed) (hs : s < h.streams.length)
    (error : Option Error) :
    (h.closeStream s error).2.heed (h.transmitter.closeDispatcher (h.stream s).dispatcher).2 =
      (h.closeStream s error).2 := by
  have hclosed : ((h.closeStream s error).2.stream s).isOpen = false := by
    rw [stream_closeStream hs, if_pos rfl]
    exact Stream.isOpen_closed ..
  have hlabel : ∀ report ∈ (h.transmitter.closeDispatcher (h.stream s).dispatcher).2,
      report.label = s := by
    intro report hmem
    rw [Transmitter.closeDispatcher_snd] at hmem
    split at hmem
    · exact absurd hmem List.not_mem_nil
    · obtain ⟨refusal, hook, -, hhook, rfl⟩ := Dispatcher.mem_reports.mp hmem
      rw [wf.hooked s hs] at hhook
      obtain rfl := Option.some.inj hhook
      rfl
  generalize (h.transmitter.closeDispatcher (h.stream s).dispatcher).2 = reports at hlabel
  induction reports with
  | nil => rfl
  | cons report reports ih =>
      rw [heed_cons, hlabel report List.mem_cons_self, closeStream_of_closed hclosed]
      exact ih fun r hr => hlabel r (List.mem_cons_of_mem _ hr)

/-- After an operation that closed a stream, a call that was in flight reads what had arrived for it
and then the error of the closing. -/
theorem unread_of_cause (wf : h.WellFormed) (hs : s < h.streams.length) {op : Op}
    {error : Option Error} (hcause : h.cause s op = some error) {id : RequestId} {k : Nat}
    (hmem : (id, k) ∈ (h.stream s).collector.registered) (hgiven : h.given s k op = [])
    (later : List Op) :
    ∃ (m : Mailbox) (messages : List ServerMessage),
      (h.stream s).collector.mailboxes[k]? = some m ∧ m.waiting = messages.map .ok ∧
        let got := handed s k (h.step op) later
        let next (n : Nat) : Delivery := m.waiting.getD n (.error (error.getD .transactionClosed))
        (∀ i (hi : i < got.length), got[i] = next i) ∧
          (((h.step op).run later).read ⟨s, k, id⟩).1 = .item (next got.length) := by
  obtain ⟨m, messages, hm, hwaiting, hf⟩ := (wf.sound s hs).collector.follows hmem
  refine ⟨m, messages, hm, hwaiting, ?_⟩
  intro got next
  have hclosing := follows_step wf hs hf op
  rw [adds_of_cause hcause, hgiven, Due.andThen_of_open rfl, List.append_nil] at hclosing
  have hnth : ∀ n, Due.nth ⟨messages, some (error.getD .transactionClosed)⟩ n = .item (next n) := by
    intro n
    show _ = Poll.item (m.waiting.getD n _)
    rw [hwaiting, Due.nth, List.getD_eq_getElem?_getD, List.getElem?_map]
    cases messages[n]? <;> rfl
  obtain ⟨hfollows, hread⟩ := follows_run (wf.step op)
    (Nat.lt_of_lt_of_le hs (length_step_le h op)) hclosing later
  rw [Due.andThen_of_verdict (by simp)] at hfollows hread
  refine ⟨fun i hi => ?_, ?_⟩
  · have hi' := hread i hi
    rw [List.length_nil, Nat.add_zero, Nat.zero_add, hnth] at hi'
    exact (Poll.item.inj hi').symm
  · have hnext := hfollows.read_eq.1
    rw [List.length_nil, Nat.add_zero, Nat.zero_add, hnth] at hnext
    exact hnext

/-- **One failure reaches everyone, once.** In any run over a new transmitter, for any stream that is
open in it, and whatever closes the stream: the closing is done once, even if the last batch is
refused in it; from then on the stream is closed, no call of it is in flight, its dispatcher is
closed and belongs to no worker, and closing it again, receiving on it and sending on it change
nothing; its receiver, if it holds on, gets the requests that were accepted
before, and then the end; and every call that was in flight reads what had arrived for it and then,
for ever, the error of the closing. -/
theorem closes_once (config : TransmitterConfig) (before later : List Op) (op : Op) (s : Nat)
    (error : Option Error) (hs : s < ((new config).run before).streams.length)
    (hopen : (((new config).run before).stream s).isOpen = true)
    (hcause : ((new config).run before).cause s op = some error) :
    let h := (new config).run before
    let h' := (h.step op).run later
    let d := (h.stream s).dispatcher
    let q := (h'.transmitter.dispatcher d).queue
    (∀ error', op = .closeStream s error' → (h.closeStream s error').1 = true ∧
      (h.closeStream s error').2.heed (h.transmitter.closeDispatcher d).2 =
        (h.closeStream s error').2) ∧
      (h'.stream s).isOpen = false ∧ h'.pendingCalls s = 0 ∧
      (h'.transmitter.dispatcher d).closed = true ∧ (∀ w, d ∉ h'.transmitter.members w) ∧
      (∀ error', h'.closeStream s error' = (false, h')) ∧
      (∀ inbound, h'.receive s inbound = h') ∧
      (∀ now payload batched,
        h'.send now s payload batched = (.error .transactionClosed, h')) ∧
      (∀ now id, h'.askMore now s id = (.error .transactionClosed, h')) ∧
      (q.abandoned = false →
        let got := Transmitter.received d ((new config).notes (before ++ op :: later))
        (got ++ q.batches).flatMap (·.requests) =
            Transmitter.accepted d ((new config).notes before) ∧
          (h'.transmitter.dispatcher d).buffer = [] ∧
          q.pull.1 = q.batches.head?.elim .ended .item) ∧
      ∀ id k, (id, k) ∈ (h.stream s).collector.registered →
        ∃ (m : Mailbox) (messages : List ServerMessage),
          (h.stream s).collector.mailboxes[k]? = some m ∧ m.waiting = messages.map .ok ∧
            let got := handed s k (h.step op) later
            let next (n : Nat) : Delivery :=
              m.waiting.getD n (.error (error.getD .transactionClosed))
            (∀ i (hi : i < got.length), got[i] = next i) ∧
              (h'.read ⟨s, k, id⟩).1 = .item (next got.length) := by
  intro h h' d q
  have wf : h.WellFormed := (wellFormed_new config).run before
  have wf₁ : (h.step op).WellFormed := wf.step op
  have wf' : h'.WellFormed := wf₁.run later
  have hs₁ : s < (h.step op).streams.length := Nat.lt_of_lt_of_le hs (length_step_le h op)
  have hs' : s < h'.streams.length := lt_length_run hs₁ later
  have hclosed₁ : ((h.step op).stream s).isOpen = false := by
    rw [isOpen_step wf hs, hcause]
    simp
  have hclosed : (h'.stream s).isOpen = false := stays_closed wf₁ hs₁ hclosed₁ later
  have hd : (h'.stream s).dispatcher = d :=
    (dispatcher_run wf₁ hs₁ later).trans (dispatcher_step wf hs op)
  obtain ⟨hdead, hgone⟩ := outlet_of_closed wf' hs' hclosed
  rw [outlet, hd] at hdead
  rw [hd] at hgone
  refine ⟨?_, hclosed, pendingCalls_of_closed wf' hs' hclosed, hdead, hgone, ?_, ?_, ?_, ?_, ?_, ?_⟩
  · intro error' _
    exact ⟨by rw [closeStream_of_open hopen], heed_closeStream wf hs error'⟩
  · exact closeStream_of_closed hclosed
  · exact receive_of_closed hclosed
  · exact send_of_closed hclosed
  · exact askMore_of_closed hclosed
  · -- Nothing is accepted from the closing on, so what flows out is what was accepted before.
    intro hheld got
    have hsound := wf'.transmitter.sound d
    have hbuffer := hsound.empty hdead
    refine ⟨?_, hbuffer, hsound.pull_of_closed hdead⟩
    have hrun : (new config).run (before ++ op :: later) = h' := run_append ..
    have hflow := outgoing_run (wellFormed_new config) (before ++ op :: later) d
      (by rw [hrun]; exact hheld)
    have hstart : ((new config).transmitter.dispatcher d).outgoing = [] := by
      rw [Transmitter.dispatcher_of_le (Nat.zero_le d)]
      rfl
    have hdead₁ : ((h.step op).transmitter.dispatcher d).closed = true := by
      have hended := wf₁.ended s hs₁ hclosed₁
      rwa [dispatcher_step wf hs] at hended
    have hnotes : Transmitter.accepted d ((new config).notes (before ++ op :: later)) =
        Transmitter.accepted d ((new config).notes before) := by
      have hcons : h.notes (op :: later) = h.noted op ++ (h.step op).notes later := rfl
      rw [notes_append, Transmitter.accepted_append,
        show ((new config).run before).notes (op :: later) = _ from hcons,
        noted_of_cause wf hs hopen hcause, List.nil_append,
        (accepted_of_closed wf₁ hdead₁ later).1, List.append_nil]
    rw [hrun, hstart, List.nil_append, hnotes, Dispatcher.outgoing, hbuffer, List.append_nil,
      ← List.flatMap_append] at hflow
    exact hflow
  · intro id k hmem
    refine unread_of_cause wf hs hcause hmem ?_ later
    cases op with
    | read call => simp [cause] at hcause
    | _ => rfl

/-- A connection that fails under two calls: the first had a part of its answer, and both get the
error. -/
theorem closes_once_failed :
    let config : TransmitterConfig := {}
    let part : ServerMessage := .responsePart ⟨⟨1⟩, .logic (.rules [])⟩
    let before : List Op :=
      [.reserve, .attach 0 "server", .send 0 0 .commit true, .receive 0 (.message part),
        .send 0 0 .rollback true]
    let op : Op := .receive 0 (.failed .clientClosed)
    let later : List Op := [.read ⟨0, 0, ⟨1⟩⟩, .pull 0, .closeStream 0 none]
    let h := (new config).run before
    let h' := (h.step op).run later
    (h.stream 0).isOpen = true ∧ h.cause 0 op = some (some .clientClosed) ∧
      h'.pendingCalls 0 = 0 ∧
      (h'.read ⟨0, 0, ⟨1⟩⟩).1 = .item (.error .clientClosed) ∧
      (h'.read ⟨0, 1, ⟨2⟩⟩).1 = .item (.error .clientClosed) ∧
      (Transmitter.received 0 ((new config).notes (before ++ op :: later))) =
        [⟨[⟨⟨1⟩, .commit⟩, ⟨⟨2⟩, .rollback⟩]⟩] := by
  intro config part before op later h h'
  obtain ⟨-, -, hpending, -, -, -, -, -, -, -, -⟩ :=
    closes_once config before later op 0 (some .clientClosed) (by decide +kernel)
      (by decide +kernel) (by decide +kernel)
  exact ⟨by decide +kernel, by decide +kernel, hpending, by decide +kernel, by decide +kernel,
    by decide +kernel⟩

end Hub

end GraphDriver
