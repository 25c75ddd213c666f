import GraphDriver.Proofs.Stream.Conversations

/-!
# Effects

What an operation of a hub does to one stream: it closes the stream if it has a cause to, it goes on
with the numbers of the requests, and it does a few things to the collector. What a call reads is
therefore what a collector hands out.

* §1 what closes a stream
* §2 flushes, and requests to others
* §3 one stream, step by step
* §4 what a call is owed
-/

namespace GraphDriver

/-! ## §1  What closes a stream -/

theorem Dispatcher.mem_reports {x : Dispatcher} {report : Report} :
    report ∈ x.reports ↔ ∃ error hook, x.refusal = some error ∧ x.hook = some hook ∧
      report = { label := hook.label, error } := by
  unfold Dispatcher.reports
  cases x.refusal with
  | none => simp
  | some error => cases x.hook <;> simp

namespace Hub

variable {h : Hub} {s k n : Nat} {id : RequestId} {due : Due}

/-- The dispatcher of a stream. -/
def outlet (h : Hub) (s : Nat) : Dispatcher := h.transmitter.dispatcher (h.stream s).dispatcher

theorem WellFormed.outlet (wf : h.WellFormed) (s : Nat) : (h.outlet s).Sound :=
  wf.transmitter.sound _

/-- The error of the batch that goes out with a request at once, if the queue refuses it. -/
def refusalAtOnce (h : Hub) (s : Nat) (request : Request) : Option Error :=
  if h.transmitter.accepts (h.stream s).dispatcher then ((h.outlet s).buffered request).refusal
  else none

/-- With what error an operation closes an open stream, if it does: the connection fails, ends, sends
a message for no request or can no longer write; the owner closes; or a batch is refused. -/
def cause (h : Hub) (s : Nat) : Op → Option (Option Error)
  | .receive s' inbound =>
    if s' = s then
      match inbound with
      | .message m =>
        match ((h.stream s).collector.route m).1 with
        | .ok () => none
        | .error error => some (some error)
      | .failed error | .outboundFailed error => some (some error)
      | .ended => some none
    else none
  | .closeStream s' error => if s' = s then some error else none
  | .send _ s' payload batched =>
    if s' = s ∧ batched = false then
      match ((h.stream s).collector.register ⟨(h.stream s).nextId⟩).1 with
      | .ok _ => (h.refusalAtOnce s ⟨⟨(h.stream s).nextId⟩, payload⟩).map some
      | .error _ => none
    else none
  | .runDue now =>
    (if h.transmitter.flushes now (h.stream s).dispatcher then (h.outlet s).refusal else none).map
      some
  | .close => (h.outlet s).refusal.map some
  | _ => none

/-! ## §2  Flushes, and requests to others -/

/-- Reports of several flushes close the streams whose batches were refused. -/
theorem stream_transmit (wf : h.WellFormed) {step : Transmitter × List Report} {P : Nat → Prop}
    [DecidablePred P]
    (hreports : ∀ report, report ∈ step.2 ↔ ∃ d < h.transmitter.dispatchers.length,
      P d ∧ report ∈ (h.transmitter.dispatcher d).reports)
    (hs : s < h.streams.length) :
    (h.transmit step).stream s =
      match if P (h.stream s).dispatcher then (h.outlet s).refusal else none with
      | none => h.stream s
      | some error => (h.stream s).closed (some error) := by
  have herror : ∀ report ∈ step.2, report.error = RequestQueue.refusal := by
    intro report hmem
    obtain ⟨d, -, -, hr⟩ := (hreports report).mp hmem
    obtain ⟨error, hook, hrefusal, -, rfl⟩ := Dispatcher.mem_reports.mp hr
    exact (wf.transmitter.sound d).eq_of_refusal hrefusal
  -- hooks name streams and streams own dispatchers, so a report for `s` is one of its own
  have hlabel : s ∈ step.2.map (·.label) ↔
      P (h.stream s).dispatcher ∧ (h.outlet s).refusal = some RequestQueue.refusal := by
    rw [List.mem_map]
    constructor
    · rintro ⟨report, hmem, hs'⟩
      obtain ⟨d, -, hP, hr⟩ := (hreports report).mp hmem
      obtain ⟨error, hook, hrefusal, hhook, rfl⟩ := Dispatcher.mem_reports.mp hr
      obtain ⟨-, howner⟩ := wf.owned d hook hhook
      obtain rfl : hook.label = s := hs'
      rw [outlet, howner]
      exact ⟨hP, (wf.transmitter.sound d).eq_of_refusal hrefusal ▸ hrefusal⟩
    · rintro ⟨hP, hrefusal⟩
      refine ⟨{ label := s, error := RequestQueue.refusal }, (hreports _).mpr ?_, rfl⟩
      exact ⟨_, wf.bound s hs, hP,
        Dispatcher.mem_reports.mpr ⟨_, _, hrefusal, wf.hooked s hs, rfl⟩⟩
  have hheed : (h.transmit step).stream s =
      if s ∈ step.2.map (·.label) then (h.stream s).closed (some RequestQueue.refusal)
      else h.stream s := stream_heed (h := { h with transmitter := step.1 }) herror hs
  rw [hheed]
  by_cases hP : P (h.stream s).dispatcher
  · rw [if_pos hP]
    cases hrefusal : (h.outlet s).refusal with
    | none => rw [if_neg (by simp [hlabel, hrefusal])]
    | some error =>
        obtain rfl := (wf.outlet s).eq_of_refusal hrefusal
        rw [if_pos (hlabel.mpr ⟨hP, hrefusal⟩)]
  · rw [if_neg hP, if_neg (fun hmem => hP (hlabel.mp hmem).1)]

theorem stream_runDue (wf : h.WellFormed) (hs : s < h.streams.length) (now : Nat) :
    (h.runDue now).stream s =
      match if h.transmitter.flushes now (h.stream s).dispatcher then (h.outlet s).refusal else none
      with
      | none => h.stream s
      | some error => (h.stream s).closed (some error) :=
  stream_transmit wf (wf.transmitter.runDue_spec now).2.2.2 hs

theorem refusal_of_closed (wf : h.WellFormed) (hclosed : (h.outlet s).closed = true) :
    (h.outlet s).refusal = none := by
  rw [(wf.outlet s).refusal_eq, if_neg]
  exact fun hrefused => hrefused.2 ((wf.outlet s).empty hclosed)

theorem stream_close (wf : h.WellFormed) (hs : s < h.streams.length) :
    h.close.stream s =
      match (h.outlet s).refusal with
      | none => h.stream s
      | some error => (h.stream s).closed (some error) := by
  cases hopen : h.transmitter.isOpen with
  | false =>
      have hclosed := wf.transmitter.silent hopen _ (wf.bound s hs)
      rw [refusal_of_closed wf hclosed, Hub.close, Transmitter.close_of_closed hopen]
      rfl
  | true =>
      obtain ⟨-, -, -, -, -, hreports⟩ := wf.transmitter.close_spec hopen
      rw [Hub.close, stream_transmit wf hreports hs]
      cases hclosed : (h.outlet s).closed with
      | true =>
          rw [refusal_of_closed wf hclosed]
          simp
      | false =>
          have hstill : (h.transmitter.dispatcher (h.stream s).dispatcher).closed = false := hclosed
          rw [if_pos hstill]

theorem stream_post (wf : h.WellFormed) (hs : s < h.streams.length) {s₀ : Nat}
    (hs₀ : s₀ < h.streams.length) (now : Nat) (request : Request) (batched : Bool) :
    (h.post now s₀ request batched).2.stream s =
      match if s = s₀ ∧ batched = false then h.refusalAtOnce s₀ request else none with
      | none => h.stream s
      | some error => (h.stream s).closed (some error) := by
  cases batched with
  | true => simp [post, stream]
  | false =>
      have hreports : (h.transmitter.dispatchNow (h.stream s₀).dispatcher request).2.2 =
          ((h.refusalAtOnce s₀ request).map fun error => { label := s₀, error }).toList := by
        unfold refusalAtOnce
        cases haccepts : h.transmitter.accepts (h.stream s₀).dispatcher with
        | false => simp [Transmitter.dispatchNow_of_not_accepts haccepts]
        | true =>
            rw [Transmitter.dispatchNow_snd_snd (wf.bound s₀ hs₀) haccepts, if_pos rfl, outlet]
            have hhook :
                ((h.transmitter.dispatcher (h.stream s₀).dispatcher).buffered request).hook =
                  some { label := s₀, closes := false } := wf.hooked s₀ hs₀
            unfold Dispatcher.reports
            rw [hhook]
            cases ((h.transmitter.dispatcher (h.stream s₀).dispatcher).buffered request).refusal <;>
              rfl
      let sent : Hub := { h with
        transmitter := (h.transmitter.dispatchNow (h.stream s₀).dispatcher request).2.1 }
      have hposted : (h.post now s₀ request false).2 =
          sent.heed
            ((h.refusalAtOnce s₀ request).map fun error => { label := s₀, error }).toList := by
        rw [← hreports]
        rfl
      have hsent : sent.stream s = h.stream s := rfl
      rw [hposted]
      cases hrefusal : h.refusalAtOnce s₀ request with
      | none =>
          rw [ite_self]
          exact hsent
      | some error =>
          have herror : ∀ report ∈ [({ label := s₀, error } : Report)], report.error = error := by
            simp
          refine (stream_heed (h := sent) herror hs).trans ?_
          by_cases hss : s = s₀
          · subst hss
            simp [hsent]
          · simp [hsent, hss]

theorem refusalAtOnce_registered (hs : s < h.streams.length) (request : Request) :
    (h.registered s).refusalAtOnce s request = h.refusalAtOnce s request := by
  rw [refusalAtOnce, outlet, dispatcher_registered h s hs]
  rfl

theorem stream_send_ne (wf : h.WellFormed) (hs : s < h.streams.length) {s₀ : Nat}
    (hs₀ : s₀ < h.streams.length) (hne : s ≠ s₀) (now : Nat) (payload : RequestPayload)
    (batched : Bool) : (h.send now s₀ payload batched).2.stream s = h.stream s := by
  have hregistered : (h.registered s₀).stream s = h.stream s := by
    rw [stream_registered hs, if_neg hne]
  cases hopen : (h.stream s₀).isOpen with
  | false => rw [send_of_closed hopen]
  | true =>
      cases hregister : ((h.stream s₀).collector.register ⟨(h.stream s₀).nextId⟩).1 with
      | error error => rw [send_of_unregistered hopen hregister, hregistered]
      | ok j =>
          have hs' : s < (h.registered s₀).streams.length := by simpa using hs
          have hposted := stream_post (wf.registered s₀) hs'
            (by simpa using hs₀) now ⟨⟨(h.stream s₀).nextId⟩, payload⟩ batched
          rw [if_neg (fun hc => hne hc.1), hregistered] at hposted
          rw [send_of_registered hs₀ hopen hregister]
          split
          · exact hposted
          · refine (stream_modifyStream (by simpa using hs') s₀ _).trans ?_
            rw [if_neg hne, hposted]

/-! ## §3  One stream -/

theorem stream_release (wf : h.WellFormed) {d : Nat} (hfree : h.isFree d = true) (s : Nat) :
    (h.release d).stream s = h.stream s := by
  obtain ⟨-, hne⟩ := free_of_isFree hfree
  have hhook : (h.transmitter.dispatcher d).hook = none := by
    cases hh : (h.transmitter.dispatcher d).hook with
    | none => rfl
    | some hook =>
        obtain ⟨hlabel, howner⟩ := wf.owned d hook hh
        exact absurd howner (hne _ hlabel)
  -- a hook would name a stream that owns the dispatcher
  have hreports : (h.transmitter.closeDispatcher d).2 = [] := by
    rw [Transmitter.closeDispatcher_snd, Dispatcher.reports, hhook]
    split
    · rfl
    · cases (h.transmitter.dispatcher d).refusal <;> rfl
  rw [release, transmit, hreports]
  rfl

theorem receive_of_closed (hclosed : (h.stream s).isOpen = false) (inbound : Inbound) :
    h.receive s inbound = h := by
  simp [receive, hclosed]

/-- An open stream takes a message that its collector takes, and closes for anything else. -/
theorem receive_of_open (hopen : (h.stream s).isOpen = true) (inbound : Inbound) :
    h.receive s inbound =
      match h.cause s (.receive s inbound), inbound with
      | some error, _ => (h.closeStream s error).2
      | none, .message m =>
        h.modifyStream s fun x => { x with collector := ((h.stream s).collector.route m).2 }
      | none, _ => h := by
  cases inbound with
  | failed error => simp [receive, hopen, cause]
  | outboundFailed error => simp [receive, hopen, cause]
  | ended => simp [receive, hopen, cause]
  | message m =>
      rcases hroute : (h.stream s).collector.route m with ⟨error | u, collector⟩
      · simp [receive, hopen, cause, hroute]
      · simp [receive, hopen, cause, hroute]

theorem stream_receive_ne (hs : s < h.streams.length) {s₀ : Nat} (hne : s ≠ s₀)
    (inbound : Inbound) : (h.receive s₀ inbound).stream s = h.stream s := by
  unfold receive
  dsimp only
  split
  · split
    · split
      · rw [stream_modifyStream hs, if_neg hne]
      · rw [stream_closeStream hs, if_neg hne]
    · rw [stream_closeStream hs, if_neg hne]
    · rw [stream_closeStream hs, if_neg hne]
    · rw [stream_closeStream hs, if_neg hne]
  · rfl

/-- How an operation that closes an open stream closes its collector. -/
def closings (h : Hub) (s : Nat) (op : Op) : List Collector.Op :=
  if (h.stream s).isOpen then (h.cause s op).toList.map .close else []

/-- What an operation does to the collector of a stream. -/
def touches (h : Hub) (s : Nat) : Op → List Collector.Op
  | .read call => if call.stream = s then [.read call.mailbox] else []
  | .forget s' id => if s' = s then [.remove id] else []
  | .receive s' (.message m) =>
    if s' = s ∧ (h.stream s).isOpen ∧ h.cause s (.receive s' (.message m)) = none then [.route m]
    else h.closings s (.receive s' (.message m))
  | .send now s' payload batched =>
    if s' = s ∧ (h.stream s).isOpen then
      let id : RequestId := ⟨(h.stream s).nextId⟩
      let givenBack : List Collector.Op :=
        match ((h.stream s).collector.register id).1, (h.send now s payload batched).1 with
        | .ok _, .error _ => [.remove id]
        | _, _ => []
      .register id :: (h.closings s (.send now s' payload batched) ++ givenBack)
    else []
  | op => h.closings s op

/-- Whether an operation takes the next number of a stream. -/
def numbers (h : Hub) (s : Nat) : Op → Bool
  | .send _ s' _ _ => s' = s ∧ (h.stream s).isOpen
  | _ => false

/-- What becomes of a stream. -/
def effect (h : Hub) (s : Nat) (op : Op) : Stream :=
  { h.stream s with
    collector := (h.stream s).collector.run (h.touches s op)
    isOpen := (h.stream s).isOpen && (h.cause s op).isNone
    nextId := if h.numbers s op then (h.stream s).nextId + 1 else (h.stream s).nextId }

theorem effect_of_quiet {op : Op} (htouches : h.touches s op = []) (hcause : h.cause s op = none)
    (hnumbers : h.numbers s op = false) : h.effect s op = h.stream s := by
  rw [effect, htouches, hcause, hnumbers]
  simp [Collector.run]

/-- An operation that closes a stream, if it does anything to it. -/
theorem effect_of_closings {op : Op} (htouches : h.touches s op = h.closings s op)
    (hnumbers : h.numbers s op = false) :
    h.effect s op =
      match h.cause s op with
      | none => h.stream s
      | some error => (h.stream s).closed error := by
  rw [effect, htouches, hnumbers, closings]
  cases h.cause s op with
  | none => simp [Collector.run]
  | some error =>
      cases hopen : (h.stream s).isOpen with
      | false =>
          have hsame : { h.stream s with isOpen := false } = h.stream s := by rw [← hopen]
          simpa [Stream.closed, hopen, Collector.run] using hsame
      | true => simp [Stream.closed, hopen, Collector.run, Collector.step]

/-- A request on a stream takes the next number and registers it; if its batch is refused, the stream
is closed; and the registration of a request that fails is given back. -/
theorem stream_send (wf : h.WellFormed) (hs : s < h.streams.length) (now : Nat)
    (payload : RequestPayload) (batched : Bool) :
    (h.send now s payload batched).2.stream s = h.effect s (.send now s payload batched) := by
  cases hopen : (h.stream s).isOpen with
  | false =>
      rw [send_of_closed hopen]
      have hsame : { h.stream s with isOpen := false } = h.stream s := by rw [← hopen]
      simpa [effect, touches, numbers, hopen, Collector.run] using hsame.symm
  | true =>
      have hregistered := stream_registered hs s
      rw [if_pos rfl] at hregistered
      cases hregister : ((h.stream s).collector.register ⟨(h.stream s).nextId⟩).1 with
      | error error =>
          have hcause : h.cause s (.send now s payload batched) = none := by simp [cause, hregister]
          rw [send_of_unregistered hopen hregister, hregistered]
          simp [effect, touches, numbers, closings, hopen, hregister, hcause, Collector.run,
            Collector.step]
      | ok k =>
          let request : Request := ⟨⟨(h.stream s).nextId⟩, payload⟩
          have hs' : s < (h.registered s).streams.length := by simpa using hs
          have hposted := stream_post (wf.registered s) hs' hs' now request batched
          rw [refusalAtOnce_registered hs, hregistered] at hposted
          have hlt : s < ((h.registered s).post now s request batched).2.streams.length :=
            Nat.lt_of_lt_of_eq hs' (length_post ..).symm
          have hcause : h.cause s (.send now s payload batched) =
              (if s = s ∧ batched = false then h.refusalAtOnce s request else none).map some := by
            simp only [cause, hregister]
            cases batched <;> rfl
          have hsend : h.send now s payload batched =
              match ((h.registered s).post now s request batched).1 with
              | .ok () => (.ok ⟨s, k, request.id⟩, ((h.registered s).post now s request batched).2)
              | .error error => (.error error,
                  ((h.registered s).post now s request batched).2.forget s request.id) :=
            send_of_registered hs hopen hregister now payload batched
          -- The stream may close while the request is posted, whatever the request comes back with.
          generalize (if s = s ∧ batched = false then h.refusalAtOnce s request else none) = refusal
            at hposted hcause
          cases hresult : ((h.registered s).post now s request batched).1 with
          | ok u =>
              rw [hresult] at hsend
              rw [effect, touches, numbers, closings, hsend, hcause, hposted]
              cases refusal <;>
                simp [hopen, hregister, Stream.closed, Collector.run, Collector.step]
          | error error =>
              rw [hresult] at hsend
              rw [effect, touches, numbers, closings, hsend, hcause]
              simp only [forget, stream_modifyStream hlt, if_true]
              rw [hposted]
              cases refusal <;>
                simp [request, hopen, hregister, Stream.closed, Collector.run, Collector.step]

theorem stream_receive (hs : s < h.streams.length) (inbound : Inbound) :
    (h.receive s inbound).stream s = h.effect s (.receive s inbound) := by
  have hclosings : h.touches s (.receive s inbound) = h.closings s (.receive s inbound) →
      (h.stream s).isOpen = false ∨ h.cause s (.receive s inbound) ≠ none →
      (h.receive s inbound).stream s = h.effect s (.receive s inbound) := by
    intro htouches hends
    rw [effect_of_closings htouches rfl]
    cases hopen : (h.stream s).isOpen with
    | false =>
        rw [receive_of_closed hopen]
        split
        · rfl
        · rw [Stream.closed, hopen]
          rfl
    | true =>
        have hsome := hends.resolve_left (by simp [hopen])
        obtain ⟨error, hcause⟩ := Option.ne_none_iff_exists'.mp hsome
        rw [receive_of_open hopen, hcause]
        dsimp only
        rw [stream_closeStream hs, if_pos rfl]
  cases inbound with
  | message m =>
      by_cases htaken : (h.stream s).isOpen ∧ h.cause s (.receive s (.message m)) = none
      · obtain ⟨hopen, hcause⟩ := htaken
        rw [receive_of_open hopen, hcause]
        dsimp only
        rw [stream_modifyStream hs, if_pos rfl]
        simp [effect, touches, numbers, hopen, hcause, Collector.run, Collector.step]
      · refine hclosings ?_ ?_
        · rw [touches, if_neg (fun hc => htaken hc.2)]
        · cases hopen : (h.stream s).isOpen with
          | false => exact .inl rfl
          | true => exact .inr fun hcause => htaken ⟨hopen, hcause⟩
  | failed error => exact hclosings rfl (.inr (by simp [cause]))
  | ended => exact hclosings rfl (.inr (by simp [cause]))
  | outboundFailed error => exact hclosings rfl (.inr (by simp [cause]))

/-- Whether an operation is none on a stream. -/
def Op.elsewhere (s : Nat) : Op → Bool
  | .send _ s' _ _ | .forget s' _ | .receive s' _ | .closeStream s' _ => s' ≠ s
  | .read call => call.stream ≠ s
  | .runDue _ | .close => false
  | .reserve | .release _ | .attach _ _ | .askMore _ _ _ | .pull _ | .abandon _ | .fail _ _ => true

/-- What is done elsewhere leaves a stream as it was. -/
theorem stream_of_elsewhere (wf : h.WellFormed) (hs : s < h.streams.length) {op : Op}
    (helse : op.elsewhere s = true) : (h.step op).stream s = h.stream s := by
  cases hcan : h.can op with
  | false => rw [step_of_not_can hcan]
  | true =>
      rw [step_of_can hcan]
      cases op with
      | reserve => rfl
      | release d => exact stream_release wf hcan s
      | attach d address => rw [perform, stream_attach, if_neg (Nat.ne_of_lt hs)]
      | send now s₀ payload batched =>
          have hne : s₀ ≠ s := by simpa [Op.elsewhere] using helse
          exact stream_send_ne wf hs (by simpa [can] using hcan) hne.symm now payload batched
      | askMore now s₀ id =>
          rw [perform, askMore]
          dsimp only
          split <;> rfl
      | read call =>
          have hne : call.stream ≠ s := by simpa [Op.elsewhere] using helse
          rw [perform, read_eq, stream_modifyStream hs, if_neg hne.symm]
      | forget s₀ id =>
          have hne : s₀ ≠ s := by simpa [Op.elsewhere] using helse
          rw [perform, forget, stream_modifyStream hs, if_neg hne.symm]
      | receive s₀ inbound =>
          have hne : s₀ ≠ s := by simpa [Op.elsewhere] using helse
          exact stream_receive_ne hs hne.symm inbound
      | closeStream s₀ error =>
          have hne : s₀ ≠ s := by simpa [Op.elsewhere] using helse
          rw [perform, stream_closeStream hs, if_neg hne.symm]
      | pull d => rfl
      | abandon d => rfl
      | fail d error => rfl
      | runDue now => simp [Op.elsewhere] at helse
      | close => simp [Op.elsewhere] at helse

theorem effect_of_elsewhere {op : Op} (helse : op.elsewhere s = true) :
    h.effect s op = h.stream s := by
  cases op with
  | send now s₀ payload batched =>
      have hne : s₀ ≠ s := by simpa [Op.elsewhere] using helse
      exact effect_of_quiet (by simp [touches, hne]) (by simp [cause, hne]) (by simp [numbers, hne])
  | read call =>
      have hne : call.stream ≠ s := by simpa [Op.elsewhere] using helse
      exact effect_of_quiet (by simp [touches, hne]) rfl rfl
  | forget s₀ id =>
      have hne : s₀ ≠ s := by simpa [Op.elsewhere] using helse
      exact effect_of_quiet (by simp [touches, hne]) rfl rfl
  | receive s₀ inbound =>
      have hne : s₀ ≠ s := by simpa [Op.elsewhere] using helse
      have hcause : h.cause s (.receive s₀ inbound) = none := by simp [cause, hne]
      refine effect_of_quiet ?_ hcause rfl
      cases inbound <;> simp [touches, closings, hcause, hne]
  | closeStream s₀ error =>
      have hne : s₀ ≠ s := by simpa [Op.elsewhere] using helse
      have hcause : h.cause s (.closeStream s₀ error) = none := by simp [cause, hne]
      exact effect_of_quiet (by simp [touches, closings, hcause]) hcause rfl
  | runDue now => simp [Op.elsewhere] at helse
  | close => simp [Op.elsewhere] at helse
  | _ => exact effect_of_quiet (by simp [touches, closings, cause]) rfl rfl

/-- **One step.** What an operation does to a stream, all of it. -/
theorem stream_step (wf : h.WellFormed) (hs : s < h.streams.length) (op : Op) :
    (h.step op).stream s = h.effect s op := by
  have hflush : ∀ {op : Op} (refusal : Option Error), h.touches s op = h.closings s op →
      h.numbers s op = false → h.cause s op = refusal.map some →
      h.effect s op =
        match refusal with
        | none => h.stream s
        | some error => (h.stream s).closed (some error) := by
    intro op refusal htouches hnumbers hcause
    rw [effect_of_closings htouches hnumbers, hcause]
    cases refusal <;> rfl
  cases helse : op.elsewhere s with
  | true => exact (stream_of_elsewhere wf hs helse).trans (effect_of_elsewhere helse).symm
  | false =>
      cases op with
      | send now s₀ payload batched =>
          obtain rfl : s₀ = s := by simpa [Op.elsewhere] using helse
          rw [step_of_can (by simp [can, hs])]
          exact stream_send wf hs now payload batched
      | read call =>
          obtain rfl : call.stream = s := by simpa [Op.elsewhere] using helse
          rw [step_of_can (by simp [can, hs]), perform, stream_read hs]
          simp [effect, touches, cause, numbers, Collector.run, Collector.step]
      | forget s₀ id =>
          obtain rfl : s₀ = s := by simpa [Op.elsewhere] using helse
          rw [step_of_can (by simp [can, hs]), perform, forget, stream_modifyStream hs, if_pos rfl]
          simp [effect, touches, cause, numbers, Collector.run, Collector.step]
      | receive s₀ inbound =>
          obtain rfl : s₀ = s := by simpa [Op.elsewhere] using helse
          rw [step_of_can (by simp [can, hs])]
          exact stream_receive hs inbound
      | closeStream s₀ error =>
          obtain rfl : s₀ = s := by simpa [Op.elsewhere] using helse
          have hcause : h.cause s₀ (.closeStream s₀ error) = some error := if_pos rfl
          rw [step_of_can (by simp [can, hs]), perform, stream_closeStream hs, if_pos rfl,
            effect_of_closings rfl rfl, hcause]
      | runDue now => exact (stream_runDue wf hs now).trans (hflush _ rfl rfl rfl).symm
      | close => exact (stream_close wf hs).trans (hflush _ rfl rfl rfl).symm
      | _ => simp [Op.elsewhere] at helse

/-- **What closes a stream.** A stream stays open until an operation has a cause to close it. -/
theorem isOpen_step (wf : h.WellFormed) (hs : s < h.streams.length) (op : Op) :
    ((h.step op).stream s).isOpen = ((h.stream s).isOpen && (h.cause s op).isNone) := by
  rw [stream_step wf hs]
  rfl

/-- A stream keeps its dispatcher. -/
theorem dispatcher_step (wf : h.WellFormed) (hs : s < h.streams.length) (op : Op) :
    ((h.step op).stream s).dispatcher = (h.stream s).dispatcher := by
  rw [stream_step wf hs]
  rfl

theorem dispatcher_run (wf : h.WellFormed) (hs : s < h.streams.length) (ops : List Op) :
    ((h.run ops).stream s).dispatcher = (h.stream s).dispatcher := by
  induction ops using List.reverseRecOn with
  | nil => rfl
  | append_singleton ops op ih =>
      rw [run_snoc, dispatcher_step (wf.run ops) (lt_length_run hs ops), ih]

/-! ## §4  What a call is owed -/

/-- What an operation that leaves a stream open brings to a call of it. -/
def brought (s : Nat) (id : RequestId) : Op → Due
  | .receive s' (.message m) => if s' = s then Collector.owed id [.route m] else {}
  | .forget s' id' => if s' = s then Collector.owed id [.remove id'] else {}
  | _ => {}

/-- What an operation owes to a call of an open stream: the message under its number, or the error of
the closing. -/
def adds (h : Hub) (s : Nat) (id : RequestId) (op : Op) : Due :=
  match h.cause s op with
  | some error => ⟨[], some (error.getD .transactionClosed)⟩
  | none => brought s id op

theorem adds_of_cause {op : Op} {error : Option Error} (hcause : h.cause s op = some error) :
    h.adds s id op = ⟨[], some (error.getD .transactionClosed)⟩ := by
  rw [adds, hcause]

theorem adds_of_no_cause {op : Op} (hcause : h.cause s op = none) :
    h.adds s id op = brought s id op := by
  rw [adds, hcause]

/-- Of a closed stream no call is in flight. -/
theorem verdict_of_closed {x : Stream} (hsound : x.Sound) (hclosed : x.isOpen = false)
    (hf : Collector.Follows x.collector k id due n) : due.verdict ≠ none := by
  intro hv
  have hmem := hf.fed hv
  rw [hsound.collector.silent (by simpa [hclosed] using hsound.alive)] at hmem
  exact absurd hmem List.not_mem_nil

/-- What a closing owes to a call in flight. -/
theorem owed_closings {op : Op} (hopen : (h.stream s).isOpen = true)
    (hquiet : h.cause s op = none → brought s id op = {}) :
    Collector.owed id (h.closings s op) = h.adds s id op := by
  rw [closings, if_pos hopen, adds]
  cases hcause : h.cause s op with
  | none => exact (hquiet hcause).symm
  | some error => rfl

theorem handed_closings (h : Hub) (s k : Nat) (c : Collector) (op : Op) :
    Collector.handed k c (h.closings s op) = [] := by
  unfold closings
  split
  · cases h.cause s op <;> rfl
  · rfl

/-- What an operation hands out is what the collector hands out. -/
theorem handed_touches (hs : s < h.streams.length) (op : Op) :
    Collector.handed k (h.stream s).collector (h.touches s op) = h.given s k op := by
  cases op with
  | read call =>
      by_cases hss : call.stream = s
      · subst hss
        simp [touches, given, can, hs, read_eq, Collector.handed, Run.log, Collector.given]
      · simp [touches, given, hss, Collector.handed, Run.log]
  | send now s₀ payload batched =>
      rw [touches]
      split
      · have hclosings := handed_closings h s k
          ((h.stream s).collector.step (.register ⟨(h.stream s).nextId⟩))
          (.send now s₀ payload batched)
        dsimp only
        rw [Collector.handed] at hclosings ⊢
        rw [Run.log, Run.log_append, hclosings]
        split <;> rfl
      · rfl
  | receive s₀ inbound =>
      cases inbound with
      | message m =>
          rw [touches]
          split
          · rfl
          · exact handed_closings ..
      | _ => exact handed_closings ..
  | forget s₀ id =>
      rw [touches]
      split <;> rfl
  | _ => exact handed_closings ..

/-- In an open stream an operation owes to a call what the collector owes to it. -/
theorem andThen_owed_touches (wf : h.WellFormed) (hs : s < h.streams.length)
    (hf : Collector.Follows (h.stream s).collector k id due n) (op : Op) :
    due.andThen (Collector.owed id (h.touches s op)) = due.andThen (h.adds s id op) := by
  -- to a call that is over neither owes anything, so the stream is open
  by_cases hv : due.verdict = none
  · have hopen : (h.stream s).isOpen = true := by
      by_contra hclosed
      exact verdict_of_closed (wf.sound s hs) (by simpa using hclosed) hf hv
    refine congrArg due.andThen ?_
    cases op with
    | read call =>
        rw [touches]
        split <;> rfl
    | forget s₀ id' =>
        rw [touches, adds_of_no_cause rfl, brought]
        split <;> rfl
    | receive s₀ inbound =>
        cases inbound with
        | message m =>
            rw [touches]
            split
            · rename_i htaken
              rw [adds_of_no_cause htaken.2.2, brought, if_pos htaken.1]
            · rename_i hends
              refine owed_closings hopen fun hcause => ?_
              exact if_neg fun hss => hends ⟨hss, hopen, hcause⟩
        | _ => exact owed_closings hopen fun _ => rfl
    | send now s₀ payload batched =>
        rw [touches]
        split
        · -- the number is not that of a call in flight
          dsimp only
          rw [Collector.owed, Collector.owed_append, owed_closings hopen fun _ => rfl]
          split
          · rename_i j error hregister hfailed
            have hne : (⟨(h.stream s).nextId⟩ : RequestId) ≠ id := by
              rintro rfl
              exact hf.verdict_of_register hregister hv
            simp [Collector.owed, hne]
          · exact Due.andThen_nothing _
        · rename_i helse
          have hcause : h.cause s (.send now s₀ payload batched) = none :=
            if_neg fun hc => helse ⟨hc.1, hopen⟩
          rw [adds_of_no_cause hcause]
          rfl
    | _ => exact owed_closings hopen fun _ => rfl
  · rw [Due.andThen_of_verdict hv, Due.andThen_of_verdict hv]

/-- **One step.** Whatever is done to a hub, the mailbox of a call goes on to hold what the call is
owed, less what the step hands out. -/
theorem follows_step (wf : h.WellFormed) (hs : s < h.streams.length)
    (hf : Collector.Follows (h.stream s).collector k id due n) (op : Op) :
    Collector.Follows ((h.step op).stream s).collector k id (due.andThen (h.adds s id op))
      (n + (h.given s k op).length) := by
  have hrun := (hf.run (wf.sound s hs).collector (h.touches s op)).1
  rw [andThen_owed_touches wf hs hf, handed_touches hs] at hrun
  rw [stream_step wf hs]
  exact hrun

/-- What a run hands out is what is owed next. -/
theorem nth_of_mem_given (hs : s < h.streams.length)
    (hf : Collector.Follows (h.stream s).collector k id due n) {op : Op} {delivery : Delivery}
    (hd : delivery ∈ h.given s k op) :
    h.given s k op = [delivery] ∧ due.nth n = .item delivery := by
  cases op with
  | read call =>
      simp only [given] at hd ⊢
      split at hd
      · rename_i hcall
        obtain ⟨-, rfl, rfl⟩ := hcall
        obtain ⟨hfound, hone⟩ := Poll.of_mem hd
        have hnext : (h.read call).1 = due.nth n := hf.read_eq.1
        rw [if_pos ⟨by simp [can, hs], rfl, rfl⟩]
        exact ⟨hone, hnext.symm.trans hfound⟩
      · exact absurd hd List.not_mem_nil
  | _ => exact absurd hd List.not_mem_nil

/-- What a run owes to a call of a stream. -/
def owed (h : Hub) (s : Nat) (id : RequestId) (ops : List Op) : Due :=
  Due.along step (fun h op => h.adds s id op) h ops

/-- **A run.** What a run hands out of the mailbox of a call is, read by read, what the call is
owed, and the mailbox holds the rest. -/
theorem follows_run (wf : h.WellFormed) (hs : s < h.streams.length)
    (hf : Collector.Follows (h.stream s).collector k id due n) (ops : List Op) :
    Collector.Follows ((h.run ops).stream s).collector k id (due.andThen (h.owed s id ops))
        (n + (handed s k h ops).length) ∧
      ∀ i (hi : i < (handed s k h ops).length),
        (due.andThen (h.owed s id ops)).nth (n + i) = .item (handed s k h ops)[i] := by
  obtain ⟨⟨-, -, hfollows⟩, hread⟩ := Due.reads_along step (fun h op => h.adds s id op) (given s k)
    (F := fun h due n => h.WellFormed ∧ s < h.streams.length ∧
      Collector.Follows (h.stream s).collector k id due n)
    (fun h _ _ op ⟨wf, hs, hf⟩ =>
      ⟨wf.step op, Nat.lt_of_lt_of_le hs (length_step_le h op), follows_step wf hs hf op⟩)
    (fun _ _ _ _ _ ⟨_, hs, hf⟩ hd => nth_of_mem_given hs hf hd) ⟨wf, hs, hf⟩ ops
  exact ⟨hfollows, hread⟩

end Hub

end GraphDriver
