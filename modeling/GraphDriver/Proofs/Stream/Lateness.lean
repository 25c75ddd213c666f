import GraphDriver.Proofs.Stream.Numbering

/-!
# Lateness

What still comes for a call that is over. A call is over when its terminal message has come or
nobody waits for it any more; from then on its number is registered nowhere, and it is not given
again before all numbers have been. No record is kept of such a number: it is told from one that no
request was given by the highest number alone. So whatever comes under it is dropped, and nothing
that can be seen of the transmitter and its streams depends on it.

* §1 numbers that are registered nowhere
* §2 calls that are over
* §3 runs with late messages
-/

namespace GraphDriver

/-! ## §1  Numbers that are registered nowhere -/

namespace Collector

variable {c : Collector} {id : RequestId}

theorem isRegistered_eq_false_of_subset {c' : Collector}
    (hsubset : ∀ e ∈ c'.registered, e ∈ c.registered) (hfree : c.isRegistered id = false) :
    c'.isRegistered id = false := by
  rw [isRegistered_eq_false_iff] at hfree ⊢
  exact fun e he => hfree e (hsubset e he)

/-- A number becomes registered by its own registration only. -/
theorem free_step (hfree : c.isRegistered id = false) {op : Op} (hother : op ≠ .register id) :
    (c.step op).isRegistered id = false := by
  cases hplain : op.plain with
  | true => exact isRegistered_eq_false_of_subset (c.step_of_plain hplain).2 hfree
  | false =>
      cases op with
      | register other =>
          rw [Collector.step, register]
          split
          · exact hfree
          · split
            · exact hfree
            · rw [isRegistered_eq_false_iff] at hfree ⊢
              intro e he
              rcases List.mem_append.mp he with he | he
              · exact hfree e he
              · rw [List.mem_singleton.mp he]
                rintro rfl
                exact hother rfl
      | _ => simp [Op.plain] at hplain

theorem free_run (hfree : c.isRegistered id = false) {ops : List Op}
    (hother : ∀ op ∈ ops, op ≠ .register id) : (c.run ops).isRegistered id = false := by
  induction ops generalizing c with
  | nil => exact hfree
  | cons op ops ih =>
      apply ih (free_step hfree (hother op List.mem_cons_self))
      exact fun op' hop' => hother op' (List.mem_cons_of_mem _ hop')

theorem free_remove (c : Collector) (id : RequestId) : (c.remove id).isRegistered id = false := by
  rw [isRegistered_eq_false_iff]
  intro e he
  exact (mem_registered_remove.mp he).2

theorem WellFormed.free_of_closed (wf : c.WellFormed) (hclosed : c.closed = true)
    (id : RequestId) : c.isRegistered id = false := by
  rw [isRegistered_eq_false_iff, wf.silent hclosed]
  exact fun _ he => absurd he List.not_mem_nil

/-- A terminal message ends the registration of its number, if there is one. -/
theorem WellFormed.free_route (wf : c.WellFormed) {m : ServerMessage}
    (hterminal : m.isTerminal = true) : (c.route m).2.isRegistered m.requestId = false := by
  unfold Collector.route
  cases hclosed : c.closed with
  | true => exact wf.free_of_closed hclosed _
  | false =>
      cases hlookup : c.lookup m.requestId with
      | some k =>
          rw [hterminal]
          exact free_remove c m.requestId
      | none =>
          have hfree := lookup_eq_none_iff.mp hlookup
          cases c.wasIssued m.requestId <;> exact hfree

/-- A message under a number that was given and is registered nowhere changes nothing. -/
theorem route_of_free {m : ServerMessage} (hfree : c.isRegistered m.requestId = false)
    (hissued : c.wasIssued m.requestId = true) : c.route m = (.ok (), c) := by
  unfold route
  rw [lookup_eq_none_iff.mpr hfree, hissued]
  split <;> rfl

end Collector

namespace Hub

variable {config : TransmitterConfig} {h : Hub} {s n : Nat} {id : RequestId} {xs ys : List Op}

/-! ## §2  Calls that are over -/

/-- The ends of a call: its terminal message comes, or nobody waits for it any more. -/
inductive Op.Ends (s : Nat) (id : RequestId) : Op → Prop
  | answered (m : ServerMessage) (hid : m.requestId = id) (hterminal : m.isTerminal = true) :
      Ends s id (.receive s (.message m))
  | dropped : Ends s id (.forget s id)

/-- A run gave a number to a request of a stream, and then the call came to its end. -/
def Over (s : Nat) (id : RequestId) (h : Hub) (ops : List Op) : Prop :=
  ∃ before op after, ops = before ++ op :: after ∧ id ∈ assigned s h before ∧ op.Ends s id

theorem over_snoc {op : Op} :
    Over s id h (xs ++ [op]) ↔ Over s id h xs ∨ id ∈ assigned s h xs ∧ op.Ends s id := by
  constructor
  · rintro ⟨before, end₀, after, hops, hid, hend⟩
    induction after using List.reverseRecOn with
    | nil =>
        obtain ⟨rfl, hop⟩ := List.append_inj' hops rfl
        obtain rfl : op = end₀ := by simpa using hop
        exact .inr ⟨hid, hend⟩
    | append_singleton after last _ =>
        rw [← List.cons_append, ← List.append_assoc] at hops
        obtain ⟨rfl, -⟩ := List.append_inj' hops rfl
        exact .inl ⟨before, end₀, after, rfl, hid, hend⟩
  · rintro (⟨before, end₀, after, rfl, hid, hend⟩ | ⟨hid, hend⟩)
    · exact ⟨before, end₀, after ++ [op], by simp, hid, hend⟩
    · exact ⟨xs, op, [], rfl, hid, hend⟩

/-- Of all numbers an operation registers at most the next one. -/
theorem register_mem_touches {op : Op} (hmem : Collector.Op.register id ∈ h.touches s op) :
    h.numbers s op = true ∧ id = ⟨(h.stream s).nextId⟩ := by
  cases hnumbers : h.numbers s op with
  | false =>
      have hplain := plain_touches hnumbers _ hmem
      simp [Collector.Op.plain] at hplain
  | true =>
      refine ⟨rfl, ?_⟩
      cases op with
      | send now s₀ payload batched =>
          rw [touches, if_pos (by simpa [numbers] using hnumbers)] at hmem
          rcases List.mem_cons.mp hmem with hfirst | hmem
          · exact Collector.Op.register.inj hfirst
          · rcases List.mem_append.mp hmem with hmem | hmem
            · have hplain := plain_closings _ _ hmem
              simp [Collector.Op.plain] at hplain
            · split at hmem <;> simp at hmem
      | _ => simp [numbers] at hnumbers

/-- A number that is registered nowhere stays so, unless it is the next one. -/
theorem free_step (wf : h.WellFormed) (hs : s < h.streams.length)
    (hfree : (h.stream s).collector.isRegistered id = false) (op : Op)
    (hpast : id ≠ ⟨(h.stream s).nextId⟩) :
    ((h.step op).stream s).collector.isRegistered id = false := by
  rw [stream_step wf hs]
  apply Collector.free_run hfree
  rintro _ hop' rfl
  exact hpast (register_mem_touches hop').2

/-- The end of a call leaves its number registered nowhere. -/
theorem Op.Ends.free {op : Op} (hend : op.Ends s id) (wf : h.WellFormed)
    (hs : s < h.streams.length) :
    ((h.step op).stream s).collector.isRegistered id = false := by
  have hsound := wf.sound s hs
  rw [stream_step wf hs]
  cases hend with
  | dropped =>
      show ((h.stream s).collector.run _).isRegistered id = false
      rw [touches, if_pos rfl]
      exact Collector.free_remove _ id
  | answered m hid hterminal =>
      subst hid
      show ((h.stream s).collector.run _).isRegistered m.requestId = false
      cases hopen : (h.stream s).isOpen with
      | false =>
          have hclosed : (h.stream s).collector.closed = true := by
            simpa [hopen] using hsound.alive
          rw [touches, if_neg (by simp [hopen]), closings, if_neg (by simp [hopen])]
          exact hsound.collector.free_of_closed hclosed _
      | true =>
          rw [touches]
          cases hcause : h.cause s (.receive s (.message m)) with
          | none =>
              rw [if_pos ⟨rfl, hopen, rfl⟩]
              exact hsound.collector.free_route hterminal
          | some error =>
              rw [if_neg (by simp), closings, if_pos hopen, hcause]
              show ((h.stream s).collector.close error).isRegistered m.requestId = false
              simp [Collector.isRegistered]

/-- **A call that is over.** As long as the numbers do not start again, the number of a call that is
over was given to a request, and is registered nowhere. -/
theorem Over.free (hover : Over s id (new config) xs)
    (hfew : (assigned s (new config) xs).length < 2 ^ 32 - 1) :
    let h := (new config).run xs
    s < h.streams.length ∧ id ∈ assigned s (new config) xs ∧
      (h.stream s).collector.isRegistered id = false := by
  induction xs using List.reverseRecOn with
  | nil =>
      obtain ⟨before, op, after, hops, -⟩ := hover
      simp at hops
  | append_singleton xs op ih =>
      rw [assigned_snoc, List.length_append] at hfew
      have wf : ((new config).run xs).WellFormed := (wellFormed_new config).run xs
      obtain ⟨hids, hnone, hnumbered⟩ := numbered_run config xs s (by omega)
      dsimp only
      rw [run_snoc, assigned_snoc]
      rcases over_snoc.mp hover with hover | ⟨hid, hend⟩
      · obtain ⟨hs, hid, hfree⟩ := ih hover (by omega)
        refine ⟨Nat.lt_of_lt_of_le hs (length_step_le _ op), List.mem_append_left _ hid, ?_⟩
        apply free_step wf hs hfree
        -- the next number is above all that were given
        rintro rfl
        rw [hids, (hnumbered hs).next, RequestId.mem_firsts (by omega),
          RequestId.toNat_after (by omega)] at hid
        omega
      · have hs : s < ((new config).run xs).streams.length := by
          by_contra hnot
          rw [hnone hnot] at hid
          exact absurd hid List.not_mem_nil
        exact ⟨Nat.lt_of_lt_of_le hs (length_step_le _ op), List.mem_append_left _ hid,
          hend.free wf hs⟩

/-! ## §3  Runs with late messages -/

/-- A change that leaves the stream as it is, is none to the hub. -/
theorem modifyStream_of_fixed {f : Stream → Stream} (hfixed : f (h.stream s) = h.stream s) :
    h.modifyStream s f = h := by
  have hstreams : h.streams.modify s f = h.streams := by
    apply List.ext_getElem?
    intro i
    rw [List.getElem?_modify]
    cases hi : h.streams[i]? with
    | none => rfl
    | some x =>
        by_cases hsi : s = i
        · subst hsi
          have hx : h.stream s = x := by simp [stream, hi]
          rw [hx] at hfixed
          simp [hfixed]
        · simp [hsi]
  rw [modifyStream, hstreams]

/-- A message for a call that is over changes nothing. -/
theorem step_of_over {m : ServerMessage} (hover : Over s m.requestId (new config) xs)
    (hfew : (assigned s (new config) xs).length < 2 ^ 32 - 1) :
    ((new config).run xs).step (.receive s (.message m)) = (new config).run xs := by
  obtain ⟨hs, hid, hfree⟩ := hover.free hfew
  obtain ⟨hids, -, hnumbered⟩ := numbered_run config xs s (by omega)
  rw [hids, RequestId.mem_firsts (by omega)] at hid
  have hissued : (((new config).run xs).stream s).collector.wasIssued m.requestId = true := by
    rw [(hnumbered hs).counts.wasIssued (by omega)]
    omega
  have hroute := Collector.route_of_free hfree hissued
  rw [step_of_can (by simpa [can] using hs)]
  show ((new config).run xs).receive s (.message m) = _
  cases hopen : (((new config).run xs).stream s).isOpen with
  | false => exact receive_of_closed hopen _
  | true =>
      rw [receive_of_open hopen, cause, if_pos rfl, hroute]
      apply modifyStream_of_fixed
      rw [hroute]

/-- The second run is the first with messages inserted on one stream, each under the number of a
call that is over by then. -/
inductive Padded (s : Nat) (h : Hub) : List Op → List Op → Prop
  | nil : Padded s h [] []
  | both (op : Op) {xs ys : List Op} (hpadded : Padded s h xs ys) :
      Padded s h (xs ++ [op]) (ys ++ [op])
  | late (m : ServerMessage) {xs ys : List Op} (hpadded : Padded s h xs ys)
      (hover : Over s m.requestId h xs) : Padded s h xs (ys ++ [.receive s (.message m)])

/-- Inserted messages change neither the state nor what is seen of the other operations. -/
theorem Padded.run_eq (hpadded : Padded s (new config) xs ys)
    (hfew : (assigned s (new config) xs).length < 2 ^ 32 - 1) :
    (new config).run ys = (new config).run xs ∧
      ∀ (β : Type) (shown : Hub → Op → List β), (∀ h m, shown h (.receive s (.message m)) = []) →
        Run.log step shown (new config) ys = Run.log step shown (new config) xs := by
  induction hpadded with
  | nil => exact ⟨rfl, fun _ _ _ => rfl⟩
  | both op hpadded ih =>
      rw [assigned_snoc, List.length_append] at hfew
      obtain ⟨hrun, hlog⟩ := ih (by omega)
      constructor
      · rw [run_snoc, run_snoc, hrun]
      · intro β shown hshown
        rw [Run.log_snoc, Run.log_snoc, hlog β shown hshown]
        exact congrArg (fun h => _ ++ shown h op) hrun
  | late m hpadded hover ih =>
      obtain ⟨hrun, hlog⟩ := ih hfew
      constructor
      · rw [run_snoc, hrun, step_of_over hover hfew]
      · intro β shown hshown
        rw [Run.log_snoc, hshown, List.append_nil, hlog β shown hshown]

/-- **Late messages are inert.** In any run over a new transmitter that gives fewer than `2^32 - 1`
numbers to the requests of a stream: messages that are inserted on the stream, any number of them,
of any kind and at any points, each under the number of a call whose terminal message has come or
which was given up by then, change nothing. The transmitter and every stream come out the same, open
or closed, with the same calls in flight; every mailbox, that of the finished call too, hands out
the same deliveries; the same requests are accepted and the same batches pulled; and so it is with
all else that is seen of the other operations. -/
theorem late_is_inert (config : TransmitterConfig) (s : Nat) (xs ys : List Op)
    (hpadded : Padded s (new config) xs ys)
    (hfew : (assigned s (new config) xs).length < 2 ^ 32 - 1) :
    let h := new config
    h.run ys = h.run xs ∧
      (∀ s', ((h.run ys).stream s').isOpen = ((h.run xs).stream s').isOpen ∧
        (h.run ys).pendingCalls s' = (h.run xs).pendingCalls s') ∧
      (∀ s' k, handed s' k h ys = handed s' k h xs) ∧ h.notes ys = h.notes xs ∧
      ∀ (β : Type) (shown : Hub → Op → List β), (∀ h m, shown h (.receive s (.message m)) = []) →
        Run.log step shown h ys = Run.log step shown h xs := by
  intro h
  obtain ⟨hrun, hlog⟩ := hpadded.run_eq hfew
  refine ⟨hrun, ?_, ?_, ?_, hlog⟩
  · intro s'
    rw [show h.run ys = h.run xs from hrun]
    exact ⟨rfl, rfl⟩
  · intro s' k
    exact hlog Delivery (given s' k) fun _ _ => rfl
  · apply hlog Transmitter.Note noted
    intro h' m
    exact ite_self _

/-- A call that is answered, and a streamed one that is given up after its first part: a second
answer to the first, and then a part, a `continue` and a `done` for the second, are inserted before
and after a third call, which gets its answer. -/
theorem late_is_inert_twice :
    let config : TransmitterConfig := {}
    let answer (n : UInt32) : ServerMessage := .response ⟨⟨n⟩, .ok .committed⟩
    let part (payload : PartPayload) : ServerMessage := .responsePart ⟨⟨2⟩, payload⟩
    let receive (m : ServerMessage) : Op := .receive 0 (.message m)
    let xs : List Op :=
      [.reserve, .attach 0 "server", .send 0 0 .commit true, .send 0 0 .rollback true,
        receive (answer 1), receive (part (.logic (.rules []))), .forget 0 ⟨2⟩,
        .send 0 0 .rollback true, receive (answer 3), .read ⟨0, 0, ⟨1⟩⟩, .read ⟨0, 2, ⟨3⟩⟩]
    let ys : List Op :=
      [.reserve, .attach 0 "server", .send 0 0 .commit true, .send 0 0 .rollback true,
        receive (answer 1), receive (answer 1), receive (part (.logic (.rules []))), .forget 0 ⟨2⟩,
        receive (part (.logic (.rules []))), .send 0 0 .rollback true,
        receive (part (.streamState .continue)), receive (answer 3), .read ⟨0, 0, ⟨1⟩⟩,
        receive (part (.streamState .done)), .read ⟨0, 2, ⟨3⟩⟩]
    Padded 0 (new config) xs ys ∧ (new config).run ys = (new config).run xs ∧
      handed 0 0 (new config) ys = [.ok (answer 1)] ∧
      handed 0 2 (new config) ys = [.ok (answer 3)] := by
  intro config answer part receive xs ys
  have hanswered : ∀ after, Over 0 ⟨1⟩ (new config) (xs.take 5 ++ after) := fun after =>
    ⟨xs.take 4, receive (answer 1), after, rfl, by decide +kernel, .answered _ rfl rfl⟩
  have hdropped : ∀ after, Over 0 ⟨2⟩ (new config) (xs.take 7 ++ after) := fun after =>
    ⟨xs.take 6, .forget 0 ⟨2⟩, after, rfl, by decide +kernel, .dropped⟩
  have hpadded : Padded 0 (new config) xs ys := by
    have h₅ : Padded 0 (new config) (xs.take 5) (ys.take 5) :=
      .both _ (.both _ (.both _ (.both _ (.both _ .nil))))
    have h₇ : Padded 0 (new config) (xs.take 7) (ys.take 8) :=
      .both _ (.both _ (.late (answer 1) h₅ (hanswered [])))
    have h₈ : Padded 0 (new config) (xs.take 8) (ys.take 10) :=
      .both _ (.late (part (.logic (.rules []))) h₇ (hdropped []))
    have h₁₀ : Padded 0 (new config) (xs.take 10) (ys.take 13) :=
      .both _ (.both _ (.late (part (.streamState .continue)) h₈ (hdropped [_])))
    exact .both _ (.late (part (.streamState .done)) h₁₀ (hdropped [_, _, _]))
  have hfew : (assigned 0 (new config) xs).length < 2 ^ 32 - 1 := by decide +kernel
  obtain ⟨hrun, -, hhanded, -⟩ := late_is_inert config 0 xs ys hpadded hfew
  refine ⟨hpadded, hrun, (hhanded 0 0).trans ?_, (hhanded 0 2).trans ?_⟩ <;> decide +kernel

end Hub

end GraphDriver
