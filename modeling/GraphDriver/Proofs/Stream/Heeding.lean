import GraphDriver.Proofs.Stream.Lateness
import GraphDriver.Proofs.Stream.Refusals
import GraphDriver.Proofs.Stream.Teardown

/-!
# Heeding

How a hub heeds the refusals of its transmitter. The hook of a dispatcher names the stream that the
dispatcher belongs to, and the stream is closed with the error; so every call in flight ends with an
error, whoever flushed its request.

* §1 what a hub does to its transmitter
* §2 streams whose batches are refused
* §3 calls in flight
-/

namespace GraphDriver

/-! ## §1  What a hub does to its transmitter -/

namespace Hub

variable {h : Hub} {s : Nat} {op : Op} {top : Transmitter.Op} {tops pre post : List Transmitter.Op}
  {reports : List Report} {a : Attempt} {error : Error}

/-- The closings that heeding reports leads to. -/
def heeding (h : Hub) : List Report → List Transmitter.Op
  | [] => []
  | report :: reports =>
    let x := h.stream report.label
    (if x.isOpen then [.closeDispatcher x.dispatcher] else []) ++
      (h.closeStream report.label (some report.error)).2.heeding reports

/-- Operations of the transmitter, and the closings that heeding their reports leads to. -/
def heeded (h : Hub) (tops : List Transmitter.Op) : List Transmitter.Op :=
  tops ++ { h with transmitter := h.transmitter.run tops }.heeding (h.transmitter.reports tops)

/-- The operations of the transmitter that an operation of the hub is made of. -/
def driving (h : Hub) : Op → List Transmitter.Op
  | .reserve => [.bind]
  | .release d => h.heeded [.closeDispatcher d]
  | .attach d _ => [.setHook d { label := h.streams.length, closes := false }]
  | .send now s payload batched =>
    let x := h.stream s
    if x.isOpen ∧ (x.collector.register ⟨x.nextId⟩).1.isOk then
      let request : Request := ⟨⟨x.nextId⟩, payload⟩
      if batched then [.dispatch now x.dispatcher request]
      else (h.registered s).heeded [.dispatchNow x.dispatcher request]
    else []
  | .askMore now s id =>
    let x := h.stream s
    if x.isOpen then [.dispatch now x.dispatcher ⟨id, .streamContinue⟩] else []
  | .receive s inbound =>
    let x := h.stream s
    if x.isOpen ∧ (h.cause s (.receive s inbound)).isSome then [.closeDispatcher x.dispatcher]
    else []
  | .closeStream s _ =>
    let x := h.stream s
    if x.isOpen then [.closeDispatcher x.dispatcher] else []
  | .runDue now => h.heeded ((List.range h.transmitter.workers.length).map (.runWorker now))
  | .close => h.heeded [.close]
  | .pull d => [.pull d]
  | .abandon d => [.abandon d]
  | .fail d error => [.fail d error]
  | .read _ | .forget _ _ => []

def drives (h : Hub) (op : Op) : List Transmitter.Op := if h.can op then h.driving op else []

theorem transmitter_heed (h : Hub) (reports : List Report) :
    (h.heed reports).transmitter = h.transmitter.run (h.heeding reports) := by
  induction reports generalizing h with
  | nil => rfl
  | cons report reports ih =>
      have hclosed := transmitter_closeStream h report.label (some report.error)
      rw [heed_cons, ih, hclosed, heeding]
      split <;> rfl

theorem transmitter_transmit (h : Hub) (tops : List Transmitter.Op) :
    (h.transmit (h.transmitter.run tops, h.transmitter.reports tops)).transmitter =
      h.transmitter.run (h.heeded tops) := by
  rw [transmit, transmitter_heed, heeded]
  exact List.foldl_append.symm

theorem transmitter_post (h : Hub) (now s : Nat) (request : Request) (batched : Bool) :
    (h.post now s request batched).2.transmitter = h.transmitter.run
      (if batched then [.dispatch now (h.stream s).dispatcher request]
      else h.heeded [.dispatchNow (h.stream s).dispatcher request]) := by
  cases batched with
  | true => rfl
  | false =>
      rw [if_neg (by decide), ← transmitter_transmit, Transmitter.reports, Run.log, Run.log,
        List.append_nil]
      rfl

/-- **What a hub does to its transmitter** is done by operations of the transmitter. -/
theorem transmitter_step (h : Hub) (op : Op) :
    (h.step op).transmitter = h.transmitter.run (h.drives op) := by
  cases hcan : h.can op with
  | false =>
      rw [step_of_not_can hcan, drives, if_neg (by simp [hcan])]
      rfl
  | true =>
      rw [step_of_can hcan, drives, if_pos hcan]
      cases op with
      | reserve => rfl
      | release d =>
          rw [driving, ← transmitter_transmit, Transmitter.reports, Run.log, Run.log,
            List.append_nil]
          rfl
      | attach d address => rfl
      | send now s payload batched =>
          have hs : s < h.streams.length := by simpa [can] using hcan
          rw [driving, perform]
          dsimp only
          cases hopen : (h.stream s).isOpen with
          | false =>
              rw [send_of_closed hopen, if_neg (by simp)]
              rfl
          | true =>
              cases hregister : ((h.stream s).collector.register ⟨(h.stream s).nextId⟩).1 with
              | error error =>
                  rw [send_of_unregistered hopen hregister, if_neg]
                  · rfl
                  · simp [Except.isOk, Except.toBool]
              | ok k =>
                  have hposted := transmitter_post (h.registered s) now s
                    ⟨⟨(h.stream s).nextId⟩, payload⟩ batched
                  rw [dispatcher_registered h s hs] at hposted
                  rw [send_of_registered hs hopen hregister,
                    if_pos ⟨rfl, by simp [Except.isOk, Except.toBool]⟩]
                  split <;> exact hposted
      | askMore now s id =>
          rw [driving, perform, askMore]
          split <;> rfl
      | read call => rfl
      | forget s id => rfl
      | receive s inbound =>
          rw [driving, perform]
          cases hopen : (h.stream s).isOpen with
          | false =>
              rw [receive_of_closed hopen, if_neg (by simp)]
              rfl
          | true =>
              rw [receive_of_open hopen]
              cases hcause : h.cause s (.receive s inbound) with
              | none =>
                  rw [if_neg (by simp)]
                  cases inbound <;> rfl
              | some error =>
                  rw [if_pos ⟨rfl, rfl⟩]
                  dsimp only
                  rw [transmitter_closeStream, if_pos hopen]
                  rfl
      | closeStream s error =>
          rw [driving, perform, transmitter_closeStream]
          split <;> rfl
      | runDue now =>
          rw [driving, ← transmitter_transmit, perform, runDue, Transmitter.runDue_eq_run]
      | close =>
          rw [driving, ← transmitter_transmit, Transmitter.reports, Run.log, Run.log,
            List.append_nil]
          rfl
      | pull d => rfl
      | abandon d => rfl
      | fail d error => rfl

/-! ## §2  Streams whose batches are refused -/

theorem dispatcher_closeStream (h : Hub) (s₀ : Nat) (error : Option Error) (s : Nat) :
    ((h.closeStream s₀ error).2.stream s).dispatcher = (h.stream s).dispatcher := by
  by_cases hs : s < h.streams.length
  · rw [stream_closeStream hs]
    split
    · exact Stream.dispatcher_closed _ _
    · rfl
  · have hle := Nat.not_lt.mp hs
    rw [stream, stream, List.getD_eq_default _ _ hle, List.getD_eq_default]
    rwa [length_closeStream]

theorem of_mem_heeding (hmem : top ∈ h.heeding reports) :
    ∃ report ∈ reports, top = .closeDispatcher (h.stream report.label).dispatcher := by
  induction reports generalizing h with
  | nil => exact absurd hmem List.not_mem_nil
  | cons report reports ih =>
      rw [heeding, List.mem_append] at hmem
      rcases hmem with hmem | hmem
      · split at hmem
        · exact ⟨report, List.mem_cons_self, List.mem_singleton.mp hmem⟩
        · exact absurd hmem List.not_mem_nil
      · obtain ⟨report', hreport, rfl⟩ := ih hmem
        rw [dispatcher_closeStream]
        exact ⟨report', List.mem_cons_of_mem _ hreport, rfl⟩

/-- A stream whose batch is refused is named by the reports that are heeded. -/
theorem mem_labels_of_refused (wf : h.WellFormed) (hs : s < h.streams.length)
    (hcalm : ∀ top ∈ tops, top.calm = true) (hsplit : h.heeded tops = pre ++ top :: post)
    (ha : a ∈ (h.transmitter.run pre).attempts top) (hrefused : a.answer = .error error)
    (hown : (h.stream s).dispatcher = a.dispatcher) :
    s ∈ (h.transmitter.reports tops).map (·.label) := by
  have hhook := wf.hooked s hs
  rw [hown] at hhook
  have hcases : (∃ rest, tops = pre ++ top :: rest) ∨
      top ∈ { h with transmitter := h.transmitter.run tops }.heeding
        (h.transmitter.reports tops) := by
    rcases List.append_eq_append_iff.mp hsplit with ⟨between, -, hmore⟩ | ⟨rest, htops, hmore⟩
    · exact .inr (hmore ▸ List.mem_append_right _ List.mem_cons_self)
    · cases rest with
      | nil =>
          rw [List.nil_append] at hmore
          exact .inr (hmore ▸ List.mem_cons_self)
      | cons first rest =>
          obtain ⟨rfl, -⟩ := List.cons.inj hmore
          exact .inl ⟨rest, htops⟩
  rcases hcases with ⟨rest, rfl⟩ | hclosing
  · have hfront : ∀ op' ∈ pre, op'.calm = true := fun op' hop' =>
      hcalm op' (List.mem_append_left _ hop')
    have hheard : (⟨s, error⟩ : Report) ∈ h.transmitter.reports (pre ++ top :: rest) :=
      Transmitter.mem_reports_of_refused wf.transmitter hfront ha hrefused hhook
    exact List.mem_map.mpr ⟨_, hheard, rfl⟩
  · -- the stream is closed for a report, and that is one for itself
    obtain ⟨report, hreport, rfl⟩ := of_mem_heeding hclosing
    obtain ⟨-, d, hook, hd, hlabel⟩ := Transmitter.of_mem_reports wf.transmitter hcalm hreport
    have hflushing := (Transmitter.mem_attempts.mp ha).1
    rw [Transmitter.flushing] at hflushing
    split at hflushing
    · have hsame : a.dispatcher = (h.stream report.label).dispatcher :=
        List.mem_singleton.mp hflushing
      obtain ⟨hlt, -⟩ := wf.owned d hook hd
      have hnamed := wf.hooked report.label (hlabel ▸ hlt)
      rw [← hsame, hhook] at hnamed
      have hown : s = report.label := congrArg Hook.label (Option.some.inj hnamed)
      exact List.mem_map.mpr ⟨report, hreport, hown.symm⟩
    · exact absurd hflushing List.not_mem_nil

/-- Reports that name a stream close it. -/
theorem isOpen_transmit (wf : h.WellFormed) (hs : s < h.streams.length)
    (hcalm : ∀ top ∈ tops, top.calm = true)
    (hmem : s ∈ (h.transmitter.reports tops).map (·.label)) :
    ((h.transmit (h.transmitter.run tops, h.transmitter.reports tops)).stream s).isOpen =
      false := by
  have herror : ∀ report ∈ h.transmitter.reports tops, report.error = RequestQueue.refusal :=
    fun report hreport => (Transmitter.of_mem_reports wf.transmitter hcalm hreport).1
  have hheed := stream_heed (h := { h with transmitter := h.transmitter.run tops }) herror hs
  rw [if_pos hmem] at hheed
  rw [transmit, hheed]
  exact Stream.isOpen_closed _ _

/-- A stream whose batch is refused is closed in the end. -/
theorem closed_of_refused (wf : h.WellFormed) (hs : s < h.streams.length)
    (hsplit : h.drives op = pre ++ top :: post) (ha : a ∈ (h.transmitter.run pre).attempts top)
    (hrefused : a.answer = .error error) (hown : (h.stream s).dispatcher = a.dispatcher) :
    ((h.step op).stream s).isOpen = false := by
  have hflushing := (Transmitter.mem_attempts.mp ha).1
  cases hcan : h.can op with
  | false =>
      rw [drives, if_neg (by simp [hcan])] at hsplit
      simp at hsplit
  | true =>
      rw [drives, if_pos hcan] at hsplit
      rw [step_of_can hcan]
      -- an operation that is one of the transmitter: it flushes nothing, or closes the stream
      have hone : ∀ {top' : Transmitter.Op}, [top'] = pre ++ top :: post →
          a.dispatcher ∈ h.transmitter.flushing top' := by
        intro top' hone
        obtain ⟨rfl, hrest⟩ : pre = [] ∧ [top'] = top :: post := by
          cases pre with
          | nil => exact ⟨rfl, hone⟩
          | cons first pre => simp at hone
        obtain ⟨rfl, -⟩ := List.cons.inj hrest
        exact hflushing
      have hclosing : ∀ {s₀ : Nat}, s₀ < h.streams.length →
          [.closeDispatcher (h.stream s₀).dispatcher] = pre ++ top :: post → s = s₀ := by
        intro s₀ hs₀ hsplit
        have hmem := hone hsplit
        rw [Transmitter.flushing] at hmem
        split at hmem
        · have hhook := wf.hooked s hs
          rw [hown, List.mem_singleton.mp hmem, wf.hooked s₀ hs₀] at hhook
          exact (congrArg Hook.label (Option.some.inj hhook)).symm
        · exact absurd hmem List.not_mem_nil
      cases op with
      | reserve => exact absurd (hone hsplit) List.not_mem_nil
      | attach d address => exact absurd (hone hsplit) List.not_mem_nil
      | pull d => exact absurd (hone hsplit) List.not_mem_nil
      | abandon d => exact absurd (hone hsplit) List.not_mem_nil
      | fail d error => exact absurd (hone hsplit) List.not_mem_nil
      | read call => simp [driving] at hsplit
      | forget s₀ id => simp [driving] at hsplit
      | askMore now s₀ id =>
          rw [driving] at hsplit
          split at hsplit
          · exact absurd (hone hsplit) List.not_mem_nil
          · simp at hsplit
      | closeStream s₀ c =>
          have hs₀ : s₀ < h.streams.length := by simpa [can] using hcan
          rw [driving] at hsplit
          split at hsplit
          · obtain rfl := hclosing hs₀ hsplit
            rw [perform, stream_closeStream hs, if_pos rfl]
            exact Stream.isOpen_closed _ _
          · simp at hsplit
      | receive s₀ inbound =>
          have hs₀ : s₀ < h.streams.length := by simpa [can] using hcan
          rw [driving] at hsplit
          split at hsplit
          · rename_i hopen
            obtain rfl := hclosing hs₀ hsplit
            obtain ⟨c, hc⟩ := Option.isSome_iff_exists.mp hopen.2
            rw [← step_of_can hcan, isOpen_step wf hs, hc]
            simp
          · simp at hsplit
      | release d =>
          have hcalm : ∀ top ∈ [Transmitter.Op.closeDispatcher d], top.calm = true := by
            simp [Transmitter.Op.calm]
          have hclosed := isOpen_transmit wf hs hcalm
            (mem_labels_of_refused wf hs hcalm hsplit ha hrefused hown)
          rwa [Transmitter.reports, Run.log, Run.log, List.append_nil] at hclosed
      | close =>
          have hcalm : ∀ top ∈ [Transmitter.Op.close], top.calm = true := by
            simp [Transmitter.Op.calm]
          have hclosed := isOpen_transmit wf hs hcalm
            (mem_labels_of_refused wf hs hcalm hsplit ha hrefused hown)
          rwa [Transmitter.reports, Run.log, Run.log, List.append_nil] at hclosed
      | runDue now =>
          have hcalm : ∀ top ∈ (List.range h.transmitter.workers.length).map
              (Transmitter.Op.runWorker now), top.calm = true := by
            simp [Transmitter.Op.calm]
          have hclosed := isOpen_transmit wf hs hcalm
            (mem_labels_of_refused wf hs hcalm hsplit ha hrefused hown)
          rwa [← Transmitter.runDue_eq_run] at hclosed
      | send now s₀ payload batched =>
          have hs₀ : s₀ < h.streams.length := by simpa [can] using hcan
          rw [driving] at hsplit
          dsimp only at hsplit
          split at hsplit
          · rename_i hopen
            obtain ⟨hopen, hok⟩ := hopen
            cases batched with
            | true => exact absurd (hone hsplit) List.not_mem_nil
            | false =>
                rw [if_neg (by decide)] at hsplit
                let request : Request := ⟨⟨(h.stream s₀).nextId⟩, payload⟩
                have hcalm : ∀ top ∈ [Transmitter.Op.dispatchNow (h.stream s₀).dispatcher request],
                    top.calm = true := by
                  simp [Transmitter.Op.calm]
                have hs' : s < (h.registered s₀).streams.length := by simpa using hs
                have hclosed := isOpen_transmit (wf.registered s₀) hs' hcalm
                  (mem_labels_of_refused (wf.registered s₀) hs' hcalm hsplit ha hrefused
                    (by rwa [dispatcher_registered h s₀ hs]))
                rw [Transmitter.reports, Run.log, Run.log, List.append_nil] at hclosed
                have hposted : (((h.registered s₀).post now s₀ request false).2.stream s).isOpen =
                    false := by
                  rw [Hub.post, dispatcher_registered h s₀ hs₀]
                  exact hclosed
                cases hregister : ((h.stream s₀).collector.register ⟨(h.stream s₀).nextId⟩).1 with
                | error error => simp [hregister, Except.isOk, Except.toBool] at hok
                | ok k =>
                    rw [perform, send_of_registered hs₀ hopen hregister]
                    split
                    · exact hposted
                    · rw [forget, stream_modifyStream (by simpa using hs)]
                      split <;> exact hposted
          · simp at hsplit

/-- The closings of a stream that are its own, whether or not a batch is refused. -/
def Op.closesOwn (s : Nat) : Op → Bool
  | .receive s' _ | .closeStream s' _ => s' = s
  | _ => false

theorem eq_refusal_of_outlet (wf : h.WellFormed) (hrefusal : (h.outlet s).refusal = some error) :
    error = RequestQueue.refusal :=
  (wf.outlet s).eq_of_refusal hrefusal

theorem eq_refusal_of_refusalAtOnce (wf : h.WellFormed) {request : Request}
    (hrefusal : h.refusalAtOnce s request = some error) : error = RequestQueue.refusal := by
  rw [refusalAtOnce] at hrefusal
  split at hrefusal
  · rename_i haccepts
    exact ((wf.outlet s).buffered (Transmitter.closed_of_accepts haccepts) request).eq_of_refusal
      hrefusal
  · simp at hrefusal

/-- The stream that a refused batch closes was open, and it is closed with the error of the refusal,
unless the batch was the last one of a stream that was being closed. -/
theorem cause_of_refused (wf : h.WellFormed) (hs : s < h.streams.length)
    (hsplit : h.drives op = pre ++ top :: post) (ha : a ∈ (h.transmitter.run pre).attempts top)
    (hrefused : a.answer = .error error) (hown : (h.stream s).dispatcher = a.dispatcher) :
    (h.stream s).isOpen = true ∧ ((h.step op).stream s).isOpen = false ∧
      ∃ c, h.cause s op = some c ∧ (op.closesOwn s = true ∨ c = some error) := by
  have wft := wf.transmitter.run pre
  have hclosed := closed_of_refused wf hs hsplit ha hrefused hown
  have hopen : (h.stream s).isOpen = true := by
    by_contra hnot
    have hended := wf.ended s hs (by simpa using hnot)
    rw [hown] at hended
    have hflushed := (wft.open_of_flushing (Transmitter.mem_attempts.mp ha).1).2
    rw [Transmitter.closed_run wf.transmitter hended pre] at hflushed
    simp at hflushed
  refine ⟨hopen, hclosed, ?_⟩
  rw [isOpen_step wf hs, hopen, Bool.true_and] at hclosed
  obtain ⟨c, hcause⟩ : ∃ c, h.cause s op = some c := by
    cases hc : h.cause s op with
    | none => simp [hc] at hclosed
    | some c => exact ⟨c, rfl⟩
  refine ⟨c, hcause, ?_⟩
  obtain rfl := wft.error_of_refused ha hrefused
  cases op with
  | closeStream s₀ c₀ =>
      refine .inl ?_
      by_contra hne
      simp [cause, show s₀ ≠ s by simpa [Op.closesOwn] using hne] at hcause
  | receive s₀ inbound =>
      refine .inl ?_
      by_contra hne
      simp [cause, show s₀ ≠ s by simpa [Op.closesOwn] using hne] at hcause
  | send now s₀ payload batched =>
      obtain rfl : s₀ = s := by
        by_contra hne
        simp [cause, hne] at hcause
      obtain ⟨refusal, hrefusal, rfl, -⟩ := send_of_cause wf hs hopen hcause
      exact .inr (by rw [eq_refusal_of_refusalAtOnce wf hrefusal])
  | runDue now =>
      simp only [cause] at hcause
      obtain ⟨refusal, hrefusal, rfl⟩ := Option.map_eq_some_iff.mp hcause
      split at hrefusal
      · exact .inr (by rw [eq_refusal_of_outlet wf hrefusal])
      · simp at hrefusal
  | close =>
      simp only [cause] at hcause
      obtain ⟨refusal, hrefusal, rfl⟩ := Option.map_eq_some_iff.mp hcause
      exact .inr (by rw [eq_refusal_of_outlet wf hrefusal])
  | _ => simp [cause] at hcause

/-! ## §3  Calls in flight -/

variable {id : RequestId} {call : Call} {now : Nat} {payload : RequestPayload} {batched : Bool}
  {h' : Hub} {ops : List Op}

/-- A call that is begun on a stream that stays open is owed what comes from now on. -/
theorem follows_of_send (wf : h.WellFormed) (hs : s < h.streams.length)
    (hsend : h.send now s payload batched = (.ok call, h')) (hopen : (h'.stream s).isOpen = true) :
    call.stream = s ∧ Collector.Follows (h'.stream s).collector call.mailbox call.id {} 0 := by
  obtain ⟨-, hstream, hid, hregister, hposted⟩ := sent_of_send hs hsend
  have hs' : s < (h.registered s).streams.length := by simpa using hs
  have hsame : h'.stream s = (h.registered s).stream s := by
    have hpost := stream_post (wf.registered s) hs' hs' now
      ⟨⟨(h.stream s).nextId⟩, payload⟩ batched
    rw [hposted] at hpost
    dsimp only at hpost
    rw [hpost] at hopen
    split at hopen
    · rename_i hnone
      rw [hpost, hnone]
    · simp at hopen
  rw [hsame, stream_registered hs, if_pos rfl, hid]
  exact ⟨hstream, Collector.follows_register hregister⟩

theorem owed_snoc (h : Hub) (s : Nat) (id : RequestId) (ops : List Op) (op : Op) :
    h.owed s id (ops ++ [op]) = (h.owed s id ops).andThen ((h.run ops).adds s id op) :=
  Due.along_snoc ..

/-- What does not end a call brings parts at most. -/
theorem brought_of_not_ends {op : Op} (hend : ¬ op.Ends s id) :
    (brought s id op).verdict = none ∧
      ∀ m ∈ (brought s id op).messages, m.requestId = id ∧ m.isTerminal = false := by
  cases op with
  | receive s₀ inbound =>
      cases inbound with
      | message m =>
          rw [brought]
          split
          · rename_i hown
            subst hown
            rw [Collector.owed]
            split
            · rename_i hid
              have hpart : m.isTerminal = false := by
                by_contra hterminal
                exact hend (.answered m hid (by simpa using hterminal))
              rw [if_neg (by simp [hpart])]
              exact ⟨rfl, by simp [Collector.owed, hid, hpart]⟩
            · exact ⟨rfl, fun m hm => absurd hm List.not_mem_nil⟩
          · exact ⟨rfl, fun m hm => absurd hm List.not_mem_nil⟩
      | _ => exact ⟨rfl, fun m hm => absurd hm List.not_mem_nil⟩
  | forget s₀ id₀ =>
      rw [brought]
      split
      · rename_i hown
        subst hown
        rw [Collector.owed]
        split
        · rename_i hid
          subst hid
          exact absurd .dropped hend
        · exact ⟨rfl, fun m hm => absurd hm List.not_mem_nil⟩
      · exact ⟨rfl, fun m hm => absurd hm List.not_mem_nil⟩
  | _ => exact ⟨rfl, fun m hm => absurd hm List.not_mem_nil⟩

/-- As long as a stream is open and a call of it has not ended, the call is owed parts and no error
yet. -/
theorem owed_of_open (wf : h.WellFormed) (hs : s < h.streams.length)
    (hopen : ((h.run ops).stream s).isOpen = true) (hends : ∀ op ∈ ops, ¬ op.Ends s id) :
    (h.owed s id ops).verdict = none ∧
      ∀ m ∈ (h.owed s id ops).messages, m.requestId = id ∧ m.isTerminal = false := by
  induction ops using List.reverseRecOn with
  | nil => exact ⟨rfl, fun m hm => absurd hm List.not_mem_nil⟩
  | append_singleton ops op ih =>
      rw [run_snoc, isOpen_step (wf.run ops) (lt_length_run hs ops), Bool.and_eq_true,
        Option.isNone_iff_eq_none] at hopen
      obtain ⟨hverdict, hmessages⟩ := ih hopen.1 fun op hop =>
        hends op (List.mem_append_left _ hop)
      have hbrought := brought_of_not_ends (hends op (by simp))
      rw [owed_snoc, adds_of_no_cause hopen.2, Due.andThen_of_open hverdict]
      refine ⟨hbrought.1, fun m hm => ?_⟩
      rcases List.mem_append.mp hm with hm | hm
      · exact hmessages m hm
      · exact hbrought.2 m hm

theorem exists_parts {messages : List ServerMessage}
    (hmessages : ∀ m ∈ messages, m.requestId = id ∧ m.isTerminal = false) :
    ∃ parts : List PartPayload, (∀ part ∈ parts, part ≠ .streamState .done) ∧
      messages = parts.map fun part => .responsePart ⟨id, part⟩ := by
  induction messages with
  | nil => exact ⟨[], by simp, rfl⟩
  | cons m messages ih =>
      obtain ⟨parts, hparts, rfl⟩ := ih fun m hm => hmessages m (List.mem_cons_of_mem _ hm)
      obtain ⟨hid, hterminal⟩ := hmessages m List.mem_cons_self
      cases m with
      | response response => simp [ServerMessage.isTerminal] at hterminal
      | responsePart part =>
          obtain ⟨id', payload⟩ := part
          obtain rfl : id' = id := hid
          refine ⟨payload :: parts, ?_, rfl⟩
          intro part hpart
          rcases List.mem_cons.mp hpart with rfl | hpart
          · simpa [ServerMessage.isTerminal] using hterminal
          · exact hparts part hpart

/-- A call in flight when its stream is closed reads the parts that had arrived for it, and then,
for ever, the error of the closing. -/
theorem reads_of_cause (wf : h.WellFormed) (hs : s < h.streams.length)
    (hsend : h.send now s payload batched = (.ok call, h'))
    (hends : ∀ op ∈ ops, ¬ op.Ends s call.id) (hopen : ((h'.run ops).stream s).isOpen = true)
    {c : Option Error} (hcause : (h'.run ops).cause s op = some c) :
    ∃ parts : List PartPayload, (∀ part ∈ parts, part ≠ .streamState .done) ∧ ∀ later,
      let got := handed s call.mailbox ((h'.run ops).step op) later
      let next (n : Nat) : Delivery :=
        (parts.map fun part => .ok (.responsePart ⟨call.id, part⟩)).getD n
          (.error (c.getD .transactionClosed))
      (∀ i (hi : i < got.length), got[i] = next i) ∧
        ((((h'.run ops).step op).run later).read call).1 = .item (next got.length) := by
  obtain ⟨wf', hs'⟩ := wf.of_send hs hsend
  have hopen' : (h'.stream s).isOpen = true := by
    by_contra hclosed
    rw [stays_closed wf' hs' (by simpa using hclosed) ops] at hopen
    simp at hopen
  obtain ⟨rfl, hf⟩ := follows_of_send wf hs hsend hopen'
  obtain ⟨hverdict, hmessages⟩ := owed_of_open wf' hs' hopen hends
  have hfollows := (follows_run wf' hs' hf ops).1
  rw [Due.nothing_andThen] at hfollows
  obtain ⟨m, hm, hholds⟩ := hfollows.box
  have hunread := (hholds.of_open hverdict).2.2
  obtain ⟨parts, hparts, heq⟩ := exists_parts fun m hm => hmessages m (List.mem_of_mem_drop hm)
  rw [heq, List.map_map] at hunread
  refine ⟨parts, hparts, fun later => ?_⟩
  have hgiven : (h'.run ops).given call.stream call.mailbox op = [] := by
    cases op with
    | read call => simp [cause] at hcause
    | _ => rfl
  obtain ⟨m', -, hm', -, hreads⟩ := unread_of_cause (wf'.run ops) (lt_length_run hs' ops) hcause
    (hfollows.fed hverdict) hgiven later
  obtain rfl : m = m' := Option.some.inj (hm.symm.trans hm')
  rw [hunread] at hreads
  exact hreads

end Hub

/-- **No refusal is quiet.** In any run of a transmitter, with any hooks: each batch that a queue
refuses, whoever puts it there, leads to one call of the hook that its dispatcher has, with the
error of the queue, and to no other; every other dispatcher that is flushed with it is flushed all
the same, and what is not flushed stays buffered; and of the requests that the dispatcher was ever
given, in order, those that its receiver pulls, then or later, come before the batch.

So it is for the streams over a transmitter: whatever a hub does to its transmitter is done by
operations of the transmitter, and if any of them has a batch of a stream refused, then the stream
was open, and it is closed with the error of the refusal, unless it was the last batch of a stream
that was being closed anyhow; a request that is sent at once fails with that error; and a call of
the stream that was begun before and neither got its last message nor was given up gets the parts
that have come and then, for ever, the error with which the stream was closed. -/
theorem refusals_are_heard (config : TransmitterConfig) :
    (∀ (ops : List Transmitter.Op) (op : Transmitter.Op),
      let t := (Transmitter.new config).run ops
      t.reported op =
          (t.attempts op).flatMap (fun a => a.calls (t.dispatcher a.dispatcher).hook) ∧
        ((t.attempts op).map (·.dispatcher)).Nodup ∧
        (∀ a ∈ t.attempts op, a.batch.requests ≠ [] ∧
          a.answer = ((t.dispatcher a.dispatcher).queue.put a.batch).1 ∧
          ((t.step op).dispatcher a.dispatcher).queue.batches =
            (t.dispatcher a.dispatcher).queue.batches ++
              if a.answer.isOk then [a.batch] else []) ∧
        (∀ d ∈ t.flushing op, ((t.step op).dispatcher d).buffer = [] ∧
          ((t.loaded d op).buffer ≠ [] →
            ∃ a ∈ t.attempts op, a.dispatcher = d ∧ a.batch = ⟨(t.loaded d op).buffer⟩)) ∧
        (∀ d, d ∉ t.flushing op →
          (t.dispatcher d).buffer <+: ((t.step op).dispatcher d).buffer) ∧
        ∀ a ∈ t.attempts op, ∀ error, a.answer = .error error →
          ∃ before after, ops = before ++ .bind :: after ∧
            ((Transmitter.new config).run before).bind.1 = .ok a.dispatcher ∧
            let t := ((Transmitter.new config).run before).step .bind
            ∀ later, ∃ lost,
              Transmitter.accepted a.dispatcher (t.notes after) ++ op.offered a.dispatcher =
                (Transmitter.received a.dispatcher
                  (t.notes (after ++ op :: later))).flatMap (·.requests) ++
                  lost ++ a.batch.requests) ∧
    ∀ (before : List Hub.Op) (op : Hub.Op),
      let h := (Hub.new config).run before
      (h.step op).transmitter = h.transmitter.run (h.drives op) ∧
        ∀ pre top post a error s, h.drives op = pre ++ top :: post →
          a ∈ (h.transmitter.run pre).attempts top → a.answer = .error error →
          s < h.streams.length → (h.stream s).dispatcher = a.dispatcher →
          ∃ c, h.cause s op = some c ∧ (op.closesOwn s = true ∨ c = some error) ∧
            (h.stream s).isOpen = true ∧ ((h.step op).stream s).isOpen = false ∧
            (∀ now payload batched, op = .send now s payload batched →
              (h.send now s payload batched).1 = .error error) ∧
            ∀ first now payload batched rest call h₁,
              before = first ++ .send now s payload batched :: rest →
              s < ((Hub.new config).run first).streams.length →
              ((Hub.new config).run first).send now s payload batched = (.ok call, h₁) →
              (∀ op' ∈ rest, ¬ op'.Ends s call.id) →
              ∃ parts : List PartPayload, (∀ part ∈ parts, part ≠ .streamState .done) ∧
                ∀ later,
                  let got := Hub.handed s call.mailbox (h.step op) later
                  let next (n : Nat) : Delivery :=
                    (parts.map fun part => .ok (.responsePart ⟨call.id, part⟩)).getD n
                      (.error (c.getD .transactionClosed))
                  (∀ i (hi : i < got.length), got[i] = next i) ∧
                    (((h.step op).run later).read call).1 = .item (next got.length) ∧
                    ∃ error', Hub.singleAnswer call.id (next 0) = .error error' := by
  refine ⟨fun ops op => ?_, fun before op => ?_⟩
  · intro t
    have wf : t.WellFormed := (Transmitter.wellFormed_new config).run ops
    refine ⟨wf.reported_eq op, wf.nodup_attempts op, fun a ha => ?_, fun d hd => ?_,
      fun d hd => wf.buffer_of_not_flushing hd,
      fun a ha error hrefused => Transmitter.lost_of_refused config ha hrefused⟩
    · obtain ⟨hfull, hanswer⟩ := Transmitter.answer_of_attempt ha
      exact ⟨hfull, hanswer, wf.batches_of_attempt ha⟩
    · refine ⟨wf.buffer_of_flushing hd, fun hbuffer => ?_⟩
      let x := t.loaded d op
      have hattempt : x.attempt d = some ⟨d, ⟨x.buffer⟩, (x.queue.put ⟨x.buffer⟩).1⟩ :=
        Dispatcher.attempt_eq_some.mpr ⟨hbuffer, rfl⟩
      exact ⟨⟨d, ⟨x.buffer⟩, _⟩, Transmitter.mem_attempts.mpr ⟨hd, hattempt⟩, rfl, rfl⟩
  · intro h
    have wf : h.WellFormed := (Hub.wellFormed_new config).run before
    refine ⟨Hub.transmitter_step h op, ?_⟩
    intro pre top post a error s hsplit ha hrefused hs hown
    obtain ⟨hopen, hclosed, c, hcause, hc⟩ := Hub.cause_of_refused wf hs hsplit ha hrefused hown
    refine ⟨c, hcause, hc, hopen, hclosed, ?_, ?_⟩
    · rintro now payload batched rfl
      obtain ⟨refusal, -, rfl, hfailed⟩ := Hub.send_of_cause wf hs hopen hcause
      rw [hfailed]
      simpa [Hub.Op.closesOwn] using hc
    · rintro first now payload batched rest call h₁ rfl hs₀ hsend hends
      have wf₀ : ((Hub.new config).run first).WellFormed := (Hub.wellFormed_new config).run first
      have hrun : h = h₁.run rest := by
        have hcan : ((Hub.new config).run first).can (.send now s payload batched) = true := by
          simp [Hub.can, hs₀]
        have hsent : ((Hub.new config).run first).step (.send now s payload batched) = h₁ := by
          rw [Hub.step_of_can hcan, Hub.perform, hsend]
        rw [← hsent]
        exact Hub.run_append _ _ _
      rw [hrun] at hopen hcause ⊢
      obtain ⟨parts, hparts, hreads⟩ := Hub.reads_of_cause wf₀ hs₀ hsend hends hopen hcause
      refine ⟨parts, hparts, fun later => ?_⟩
      obtain ⟨hgot, hnext⟩ := hreads later
      refine ⟨hgot, hnext, ?_⟩
      cases parts with
      | nil => exact ⟨_, rfl⟩
      | cons part parts => exact ⟨_, rfl⟩

/-- Two dispatchers of one worker, the first of which has lost its receiver and is closed by its
hook: the refusal is heard once, and the batch of the second leaves. And a stream whose receiver is
gone: the flush closes it, and the call that was in the batch reads the error. -/
theorem refusals_are_heard_abandoned :
    let config : TransmitterConfig := { parallelisation := 1 }
    let request (n : UInt32) : Request := ⟨⟨n⟩, .streamContinue⟩
    let ops : List Transmitter.Op :=
      [.bind, .bind, .setHook 0 ⟨7, true⟩, .setHook 1 ⟨8, false⟩, .dispatch 0 0 (request 1),
        .dispatch 0 1 (request 2), .abandon 0]
    let t := (Transmitter.new config).run ops
    let t' := t.step (.runWorker 1 0)
    let before : List Hub.Op := [.reserve, .attach 0 "server", .send 0 0 .commit true, .abandon 0]
    let h := (Hub.new config).run before
    t.reported (.runWorker 1 0) = [⟨7, RequestQueue.refusal⟩] ∧
      (t'.dispatcher 0).closed = true ∧ (t'.dispatcher 0).queue.batches = [] ∧
      (t'.dispatcher 1).queue.batches = [⟨[request 2]⟩] ∧
      h.drives (.runDue 1) = [.runWorker 1 0, .closeDispatcher 0] ∧
      ((h.step (.runDue 1)).stream 0).isOpen = false ∧
      (∃ parts : List PartPayload, ((h.step (.runDue 1)).read ⟨0, 0, ⟨1⟩⟩).1 =
        .item ((parts.map fun part => .ok (.responsePart ⟨⟨1⟩, part⟩)).getD 0
          (.error RequestQueue.refusal))) ∧
      ((h.step (.runDue 1)).read ⟨0, 0, ⟨1⟩⟩).1 = .item (.error RequestQueue.refusal) := by
  intro config request ops t t' before h
  obtain ⟨htransmitter, hhub⟩ := refusals_are_heard config
  obtain ⟨hreported, -⟩ := htransmitter ops (.runWorker 1 0)
  obtain ⟨-, hrefused⟩ := hhub before (.runDue 1)
  have hdrives : h.drives (.runDue 1) = [.runWorker 1 0, .closeDispatcher 0] := by
    decide +kernel
  have hattempts : h.transmitter.attempts (.runWorker 1 0) =
      [⟨0, ⟨[⟨⟨1⟩, .commit⟩]⟩, .error RequestQueue.refusal⟩] := by
    decide +kernel
  obtain ⟨c, hcause, hc, -, hclosed, -, hcalls⟩ := hrefused [] (.runWorker 1 0)
    [.closeDispatcher 0] _ RequestQueue.refusal 0 hdrives
    (hattempts ▸ List.mem_singleton_self _) rfl (by decide +kernel) (by decide +kernel)
  obtain rfl : c = some RequestQueue.refusal := hc.resolve_left (by decide)
  refine ⟨hreported.trans (by decide +kernel), by decide +kernel, by decide +kernel,
    by decide +kernel, hdrives, hclosed, ?_, by decide +kernel⟩
  have hends : ∀ op' ∈ [Hub.Op.abandon 0], ¬ op'.Ends 0 ⟨1⟩ := by
    intro op' hop'
    rw [List.mem_singleton.mp hop']
    rintro ⟨⟩
  obtain ⟨parts, -, hreads⟩ := hcalls [.reserve, .attach 0 "server"] 0 .commit true [.abandon 0]
    ⟨0, 0, ⟨1⟩⟩ _ rfl (by decide +kernel) (Prod.ext (by decide +kernel) rfl) hends
  exact ⟨parts, (hreads []).2.1⟩

end GraphDriver
