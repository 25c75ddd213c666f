import GraphDriver.Proofs.Stream.Registry
import Mathlib.Data.List.Induction

/-!
# Batching

What the receiver of a dispatcher gets. Requests are gathered in a buffer, leave it in batches, and
wait in a queue to be pulled; whoever flushes, and whenever, the batches and the buffer together are
the requests that were accepted, in the order of the calls.

* §1 the operations of a transmitter and what a run notes
* §2 what an operation does to one dispatcher
* §3 what is on its way
* §4 closed dispatchers
* §5 other dispatchers
-/

namespace GraphDriver

namespace Transmitter

/-! ## §1  Runs -/

/-- What can be done to a transmitter, by the owners of its dispatchers, by the workers, and by the
connections at the other ends of the queues. -/
inductive Op where
  | bind
  | setHook (d : Nat) (hook : Hook)
  | dispatch (now d : Nat) (request : Request)
  | dispatchNow (d : Nat) (request : Request)
  | runWorker (now w : Nat)
  | closeDispatcher (d : Nat)
  | close
  | pull (d : Nat)
  | abandon (d : Nat)
  | fail (d : Nat) (error : Error)
deriving DecidableEq

def step (t : Transmitter) : Op → Transmitter
  | .bind => t.bind.2
  | .setHook d hook => t.setHook d hook
  | .dispatch now d request => (t.dispatch now d request).2
  | .dispatchNow d request => (t.dispatchNow d request).2.1
  | .runWorker now w => (t.runWorker now w).1
  | .closeDispatcher d => (t.closeDispatcher d).1
  | .close => t.close.1
  | .pull d => t.modifyQueue d (·.pull.2)
  | .abandon d => t.modifyQueue d (·.abandon)
  | .fail d error => t.modifyQueue d (·.fail error)

def run (t : Transmitter) (ops : List Op) : Transmitter := ops.foldl step t

/-- A request that was accepted, or a batch that was pulled. -/
inductive Note where
  | accepted (d : Nat) (request : Request)
  | received (d : Nat) (batch : ClientMessage)

/-- What is noted of an operation. -/
def noted (t : Transmitter) : Op → List Note
  | .dispatch now d request =>
    if (t.dispatch now d request).1.isOk then [.accepted d request] else []
  | .dispatchNow d request =>
    if (t.dispatchNow d request).1.isOk then [.accepted d request] else []
  | .pull d => (t.dispatcher d).queue.pull.1.item?.toList.map (.received d)
  | _ => []

/-- What is noted of a run. -/
def notes (t : Transmitter) (ops : List Op) : List Note := Run.log step noted t ops

/-- The requests that a dispatcher has accepted. -/
def accepted (d : Nat) (notes : List Note) : List Request :=
  notes.filterMap fun
    | .accepted e request => if e = d then some request else none
    | .received _ _ => none

/-- The batches that the receiver of a dispatcher has pulled. -/
def received (d : Nat) (notes : List Note) : List ClientMessage :=
  notes.filterMap fun
    | .accepted _ _ => none
    | .received e batch => if e = d then some batch else none

variable {t : Transmitter} {d : Nat}

theorem run_snoc (t : Transmitter) (ops : List Op) (op : Op) :
    t.run (ops ++ [op]) = (t.run ops).step op := by
  simp [run]

theorem notes_snoc (t : Transmitter) (ops : List Op) (op : Op) :
    t.notes (ops ++ [op]) = t.notes ops ++ (t.run ops).noted op :=
  Run.log_snoc t ops op

@[simp] theorem accepted_append (d : Nat) (xs ys : List Note) :
    accepted d (xs ++ ys) = accepted d xs ++ accepted d ys :=
  List.filterMap_append

@[simp] theorem received_append (d : Nat) (xs ys : List Note) :
    received d (xs ++ ys) = received d xs ++ received d ys :=
  List.filterMap_append

theorem WellFormed.step (wf : t.WellFormed) (op : Op) : (t.step op).WellFormed := by
  cases op with
  | bind => exact wf.bind
  | setHook d hook => exact wf.setHook d hook
  | dispatch now d request => exact wf.dispatch now d request
  | dispatchNow d request => exact wf.dispatchNow d request
  | runWorker now w => exact wf.runWorker now w
  | closeDispatcher d => exact wf.closeDispatcher d
  | close => exact wf.close
  | pull d =>
      refine wf.modifyQueue d RequestQueue.ended_pull fun q batch hbatch => ?_
      rw [← q.pull_batches]
      exact List.mem_append_right _ hbatch
  | abandon d => exact wf.modifyQueue d (fun _ => rfl) (by simp [RequestQueue.abandon])
  | fail d error =>
      exact wf.modifyQueue d (fun q => q.ended_fail error)
        fun _ _ hbatch => RequestQueue.mem_batches_fail hbatch

theorem WellFormed.run (wf : t.WellFormed) (ops : List Op) : (t.run ops).WellFormed :=
  Run.keeps (fun _ op h => h.step op) wf ops

/-- Only binding adds a dispatcher, and none is ever taken from the list. -/
theorem length_step_of_ne_bind (wf : t.WellFormed) {op : Op} (hop : op ≠ .bind) :
    (t.step op).dispatchers.length = t.dispatchers.length := by
  cases op with
  | bind => exact absurd rfl hop
  | setHook d hook => simp [step, setHook]
  | dispatch now d request => exact length_of_shape (shape_dispatch ..)
  | dispatchNow d request => exact length_of_shape (shape_dispatchNow ..)
  | runWorker now w => exact length_of_shape (runWorker_shape wf now w)
  | closeDispatcher d => exact length_of_shape (shape_closeDispatcher ..)
  | close =>
      cases hopen : t.isOpen with
      | false => simp [step, close_of_closed hopen]
      | true => exact (wf.close_spec hopen).2.1
  | pull d => simp [step, modifyQueue]
  | abandon d => simp [step, modifyQueue]
  | fail d error => simp [step, modifyQueue]

theorem length_bind (wf : t.WellFormed) :
    t.bind.2.dispatchers.length = t.dispatchers.length ∨
      t.bind.2.dispatchers.length = t.dispatchers.length + 1 := by
  cases hopen : t.isOpen with
  | false => exact .inl (by rw [bind_of_closed hopen])
  | true => exact .inr (bind_of_open hopen wf.manned).2.2.1

theorem length_step (wf : t.WellFormed) (op : Op) :
    t.dispatchers.length ≤ (t.step op).dispatchers.length := by
  by_cases hop : op = .bind
  · subst hop
    rcases length_bind wf with h | h
    · exact Nat.le_of_eq h.symm
    · exact Nat.le_of_succ_le (Nat.le_of_eq h.symm)
  · exact Nat.le_of_eq (length_step_of_ne_bind wf hop).symm

/-! ## §2  One dispatcher -/

/-- What becomes of one dispatcher. -/
def effect (t : Transmitter) (d : Nat) : Op → Dispatcher
  | .bind => t.dispatcher d
  | .setHook e hook =>
    if d = e then { t.dispatcher d with hook := some hook } else t.dispatcher d
  | .dispatch _ e request =>
    if d = e ∧ t.accepts e then (t.dispatcher d).buffered request else t.dispatcher d
  | .dispatchNow e request =>
    if d = e ∧ t.accepts e then ((t.dispatcher d).buffered request).settled else t.dispatcher d
  | .runWorker now w =>
    if (t.dispatcher d).worker = w ∧ t.flushes now d then (t.dispatcher d).settled
    else t.dispatcher d
  | .closeDispatcher e => if d = e then (t.dispatcher d).closing else t.dispatcher d
  | .close => if t.isOpen then (t.dispatcher d).closing else t.dispatcher d
  | .pull e =>
    if d = e then { t.dispatcher d with queue := (t.dispatcher d).queue.pull.2 }
    else t.dispatcher d
  | .abandon e =>
    if d = e then { t.dispatcher d with queue := (t.dispatcher d).queue.abandon }
    else t.dispatcher d
  | .fail e error =>
    if d = e then { t.dispatcher d with queue := (t.dispatcher d).queue.fail error }
    else t.dispatcher d

theorem dispatcher_step (wf : t.WellFormed) (hd : d < t.dispatchers.length) (op : Op) :
    (t.step op).dispatcher d = t.effect d op := by
  have hmodify : ∀ (e : Nat) (f : Dispatcher → Dispatcher),
      dispatcher { t with dispatchers := t.dispatchers.modify e f } d =
        if d = e then f (t.dispatcher d) else t.dispatcher d := by
    intro e f
    rw [dispatcher_modify hd]
    split
    · simp [*]
    · rfl
  cases op with
  | bind =>
      cases hopen : t.isOpen with
      | false => simp [step, effect, bind_of_closed hopen]
      | true =>
          obtain ⟨-, -, -, -, hdispatcher, -⟩ := bind_of_open hopen wf.manned
          exact (hdispatcher d).trans (if_neg (Nat.ne_of_lt hd))
  | setHook e hook => exact hmodify e _
  | dispatch now e request =>
      cases h : t.accepts e with
      | false => simp [step, effect, dispatch_of_not_accepts h, h]
      | true =>
          simp only [step, effect, dispatch_of_accepts h, h, and_true, dispatcher_wake]
          exact hmodify e _
  | dispatchNow e request =>
      cases h : t.accepts e with
      | false => simp [step, effect, dispatchNow_of_not_accepts h, h]
      | true =>
          simp only [step, effect, dispatcher_dispatchNow hd h, h, and_true]
          split
          · simp [*]
          · rfl
  | runWorker now w => exact wf.dispatcher_runWorker now w hd
  | closeDispatcher e =>
      simp only [step, effect, dispatcher_closeDispatcher hd]
      split
      · simp [*]
      · rfl
  | close =>
      cases hopen : t.isOpen with
      | false => simp [step, effect, close_of_closed hopen, hopen]
      | true =>
          obtain ⟨-, -, -, -, hdispatcher, -⟩ := wf.close_spec hopen
          simp [step, effect, hopen, hdispatcher d hd]
  | pull e => exact hmodify e _
  | abandon e => exact hmodify e _
  | fail e error => exact hmodify e _

/-- Beyond the last dispatcher a new one at most appears. -/
theorem dispatcher_step_of_le (wf : t.WellFormed) (hd : t.dispatchers.length ≤ d) (op : Op) :
    ∃ w, (t.step op).dispatcher d = { worker := w } := by
  by_cases hop : op = .bind
  · subst hop
    cases hopen : t.isOpen with
    | false =>
        refine ⟨0, ?_⟩
        simp only [step, bind_of_closed hopen]
        exact dispatcher_of_le hd
    | true =>
        obtain ⟨-, -, -, -, hdispatcher, -⟩ := bind_of_open hopen wf.manned
        simp only [step, hdispatcher]
        split
        · exact ⟨_, rfl⟩
        · exact ⟨0, dispatcher_of_le hd⟩
  · exact ⟨0, dispatcher_of_le (by rwa [length_step_of_ne_bind wf hop])⟩

/-- Hooks are set and not lost. -/
theorem hook_step (wf : t.WellFormed) (op : Op) (hop : ∀ e hook, op ≠ .setHook e hook) (d : Nat) :
    ((t.step op).dispatcher d).hook = (t.dispatcher d).hook := by
  by_cases hd : d < t.dispatchers.length
  · rw [dispatcher_step wf hd]
    cases op with
    | setHook e hook => exact absurd rfl (hop e hook)
    | bind => rfl
    | dispatch now e request =>
        simp only [effect]
        split <;> rfl
    | dispatchNow e request =>
        simp only [effect]
        split <;> simp [Dispatcher.buffered]
    | runWorker now w =>
        simp only [effect]
        split <;> simp
    | closeDispatcher e =>
        simp only [effect]
        split <;> simp
    | close =>
        simp only [effect]
        split <;> simp
    | pull e =>
        simp only [effect]
        split <;> rfl
    | abandon e =>
        simp only [effect]
        split <;> rfl
    | fail e error =>
        simp only [effect]
        split <;> rfl
  · obtain ⟨w, hnew⟩ := dispatcher_step_of_le wf (Nat.not_lt.mp hd) op
    rw [hnew, dispatcher_of_le (Nat.not_lt.mp hd)]
    rfl

/-- A closed dispatcher stays closed. -/
theorem closed_step (wf : t.WellFormed) (h : (t.dispatcher d).closed = true) (op : Op) :
    ((t.step op).dispatcher d).closed = true := by
  have hd : d < t.dispatchers.length := by
    by_contra hd
    rw [dispatcher_of_le (Nat.not_lt.mp hd)] at h
    exact absurd h (by decide)
  rw [dispatcher_step wf hd]
  cases op with
  | bind => exact h
  | setHook e hook =>
      simp only [effect]
      split <;> exact h
  | dispatch now e request =>
      simp only [effect]
      split <;> exact h
  | dispatchNow e request =>
      simp only [effect]
      split
      · exact Dispatcher.closed_settled_of_closed h
      · exact h
  | runWorker now w =>
      simp only [effect]
      split
      · exact Dispatcher.closed_settled_of_closed h
      · exact h
  | closeDispatcher e =>
      simp only [effect]
      split
      · exact Dispatcher.closed_closing _
      · exact h
  | close =>
      simp only [effect]
      split
      · exact Dispatcher.closed_closing _
      · exact h
  | pull e =>
      simp only [effect]
      split <;> exact h
  | abandon e =>
      simp only [effect]
      split <;> exact h
  | fail e error =>
      simp only [effect]
      split <;> exact h

/-- Whether an operation is one on another dispatcher. -/
def Op.elsewhere (d : Nat) : Op → Bool
  | .setHook e _ | .dispatch _ e _ | .dispatchNow e _ | .closeDispatcher e | .pull e | .abandon e
  | .fail e _ => e ≠ d
  | .bind | .runWorker _ _ | .close => false

@[simp] theorem accepted_accepted (d e : Nat) (request : Request) :
    accepted d [.accepted e request] = if e = d then [request] else [] := by
  by_cases h : e = d <;> simp [accepted, h]

@[simp] theorem received_accepted (d e : Nat) (request : Request) :
    received d [.accepted e request] = [] := rfl

@[simp] theorem accepted_received (d e : Nat) (batches : List ClientMessage) :
    accepted d (batches.map (.received e)) = [] := by
  simp [accepted]

@[simp] theorem received_received (d e : Nat) (batches : List ClientMessage) :
    received d (batches.map (.received e)) = if e = d then batches else [] := by
  by_cases h : e = d
  · simp [received, List.filterMap_map, h]
  · simp [received, List.filterMap_map, h]

/-- **The others.** An operation on one dispatcher is none on any other. -/
theorem effect_of_elsewhere {op : Op} (h : op.elsewhere d = true) :
    t.effect d op = t.dispatcher d ∧ accepted d (t.noted op) = [] ∧
      received d (t.noted op) = [] := by
  cases op with
  | bind => simp [Op.elsewhere] at h
  | runWorker now w => simp [Op.elsewhere] at h
  | close => simp [Op.elsewhere] at h
  | setHook e hook =>
      have hne : e ≠ d := by simpa [Op.elsewhere] using h
      exact ⟨if_neg (Ne.symm hne), rfl, rfl⟩
  | dispatch now e request =>
      have hne : e ≠ d := by simpa [Op.elsewhere] using h
      refine ⟨if_neg (fun hd => hne hd.1.symm), ?_, ?_⟩
      · simp only [noted]
        split <;> simp [hne, accepted]
      · simp only [noted]
        split <;> simp [received]
  | dispatchNow e request =>
      have hne : e ≠ d := by simpa [Op.elsewhere] using h
      refine ⟨if_neg (fun hd => hne hd.1.symm), ?_, ?_⟩
      · simp only [noted]
        split <;> simp [hne, accepted]
      · simp only [noted]
        split <;> simp [received]
  | closeDispatcher e =>
      have hne : e ≠ d := by simpa [Op.elsewhere] using h
      exact ⟨if_neg (Ne.symm hne), rfl, rfl⟩
  | pull e =>
      have hne : e ≠ d := by simpa [Op.elsewhere] using h
      refine ⟨if_neg (Ne.symm hne), ?_, ?_⟩
      · simp only [noted, accepted_received]
      · simp only [noted, received_received, hne, if_false]
  | abandon e =>
      have hne : e ≠ d := by simpa [Op.elsewhere] using h
      exact ⟨if_neg (Ne.symm hne), rfl, rfl⟩
  | fail e error =>
      have hne : e ≠ d := by simpa [Op.elsewhere] using h
      exact ⟨if_neg (Ne.symm hne), rfl, rfl⟩

/-! ## §3  What is on its way -/

end Transmitter

namespace Dispatcher

/-- The requests that were accepted and not pulled yet, in order. -/
def outgoing (x : Dispatcher) : List Request := x.queue.batches.flatMap (·.requests) ++ x.buffer

variable {x : Dispatcher}

theorem outgoing_buffered (x : Dispatcher) (request : Request) :
    (x.buffered request).outgoing = x.outgoing ++ [request] := by
  simp [outgoing, buffered]

@[simp] theorem abandoned_flushed (x : Dispatcher) :
    x.flushed.queue.abandoned = x.queue.abandoned := by
  unfold flushed
  split
  · rfl
  · exact RequestQueue.abandoned_put _ _

@[simp] theorem abandoned_settled (x : Dispatcher) :
    x.settled.queue.abandoned = x.queue.abandoned := by
  unfold settled heard
  split
  · split <;> exact abandoned_flushed x
  · exact abandoned_flushed x

@[simp] theorem abandoned_closing (x : Dispatcher) :
    x.closing.queue.abandoned = x.queue.abandoned := by
  unfold closing
  split
  · rfl
  · exact abandoned_flushed x

/-- A queue whose other end is held takes what is flushed. -/
theorem Sound.flush_eq (h : x.Sound) (hheld : x.queue.abandoned = false) :
    x.refusal = none ∧ (x.buffer = [] ∧ x.flushed = x ∨ x.buffer ≠ [] ∧ x.flushed =
      { x with
        buffer := []
        queue := { x.queue with batches := x.queue.batches ++ [⟨x.buffer⟩] } }) := by
  by_cases hbuffer : x.buffer = []
  · refine ⟨?_, .inl ⟨hbuffer, ?_⟩⟩
    · simp [refusal, hbuffer]
    · simp [Dispatcher.flushed, hbuffer]
  · have hended : x.queue.ended = false := by
      rw [h.ended]
      by_contra hclosed
      exact hbuffer (h.empty (by simpa using hclosed))
    have hput := RequestQueue.put_of_open hended hheld ⟨x.buffer⟩
    refine ⟨?_, .inr ⟨hbuffer, ?_⟩⟩
    · simp [refusal, hbuffer, hput]
    · simp [Dispatcher.flushed, hbuffer, hput]

theorem Sound.outgoing_flushed (h : x.Sound) (hheld : x.queue.abandoned = false) :
    x.flushed.outgoing = x.outgoing := by
  obtain ⟨-, ⟨-, heq⟩ | ⟨-, heq⟩⟩ := h.flush_eq hheld
  · rw [heq]
  · rw [heq]
    simp [outgoing]

theorem Sound.settled_eq (h : x.Sound) (hheld : x.queue.abandoned = false) :
    x.settled = x.flushed := by
  rw [Dispatcher.settled, (h.flush_eq hheld).1]
  rfl

theorem Sound.outgoing_closing (h : x.Sound) (hheld : x.queue.abandoned = false) :
    x.closing.outgoing = x.outgoing := by
  unfold Dispatcher.closing
  split
  · rfl
  · exact h.outgoing_flushed hheld

end Dispatcher

namespace Transmitter

variable {t : Transmitter} {d : Nat}

/-- Whether an operation lets go of the other end of the queue of a dispatcher. -/
def Op.drops (d : Nat) : Op → Bool
  | .abandon e | .fail e _ => d = e
  | _ => false

theorem abandoned_effect (t : Transmitter) (d : Nat) (op : Op) :
    (t.effect d op).queue.abandoned = ((t.dispatcher d).queue.abandoned || op.drops d) := by
  cases op with
  | bind => simp [effect, Op.drops]
  | setHook e hook =>
      simp only [effect]
      split <;> simp [Op.drops]
  | dispatch now e request =>
      simp only [effect]
      split <;> simp [Op.drops, Dispatcher.buffered]
  | dispatchNow e request =>
      simp only [effect]
      split <;> simp [Op.drops, Dispatcher.buffered]
  | runWorker now w =>
      simp only [effect]
      split <;> simp [Op.drops]
  | closeDispatcher e =>
      simp only [effect]
      split <;> simp [Op.drops]
  | close =>
      simp only [effect]
      split <;> simp [Op.drops]
  | pull e =>
      simp only [effect]
      split <;> simp [Op.drops]
  | abandon e =>
      simp only [effect]
      split <;> simp [Op.drops, RequestQueue.abandon, *]
  | fail e error =>
      simp only [effect]
      split <;> simp [Op.drops, *]

/-- The other end of a queue is not taken up again. -/
theorem held_of_effect {op : Op} (h : (t.effect d op).queue.abandoned = false) :
    (t.dispatcher d).queue.abandoned = false := by
  rw [abandoned_effect, Bool.or_eq_false_iff] at h
  exact h.1

theorem held_of_run (wf : t.WellFormed) (ops : List Op)
    (h : ((t.run ops).dispatcher d).queue.abandoned = false) :
    (t.dispatcher d).queue.abandoned = false := by
  induction ops using List.reverseRecOn with
  | nil => exact h
  | append_singleton ops op ih =>
      refine ih ?_
      rw [run_snoc] at h
      by_cases hd : d < (t.run ops).dispatchers.length
      · rw [dispatcher_step (wf.run ops) hd] at h
        exact held_of_effect h
      · rw [dispatcher_of_le (Nat.not_lt.mp hd)]
        rfl

/-- **One step.** What is pulled and what stays on its way is what was on its way and what is
accepted. -/
theorem outgoing_effect (wf : t.WellFormed) (hd : d < t.dispatchers.length) {op : Op}
    (hheld : (t.effect d op).queue.abandoned = false) :
    (received d (t.noted op)).flatMap (·.requests) ++ (t.effect d op).outgoing =
      (t.dispatcher d).outgoing ++ accepted d (t.noted op) := by
  have hnow := held_of_effect hheld
  have hsound := wf.sound d
  have hquiet : (received d []).flatMap (·.requests) ++ (t.dispatcher d).outgoing =
      (t.dispatcher d).outgoing ++ accepted d [] := (List.append_nil _).symm
  cases helse : op.elsewhere d with
  | true =>
      obtain ⟨heffect, haccepted, hreceived⟩ := effect_of_elsewhere (t := t) helse
      rw [heffect, haccepted, hreceived]
      exact hquiet
  | false =>
      -- Dropping the receiver is excluded by `hheld`; while it is held no flush is refused, so that
      -- flushes and closings only move requests from the buffer to the queue.
      cases op with
      | bind => exact hquiet
      | setHook e hook =>
          have hsame : (t.effect d (.setHook e hook)).outgoing = (t.dispatcher d).outgoing := by
            simp only [effect]
            split <;> rfl
          rw [hsame]
          exact hquiet
      | dispatch now e request =>
          obtain rfl : e = d := by simpa [Op.elsewhere] using helse
          cases h : t.accepts e with
          | false => simpa [effect, noted, h, dispatch_of_not_accepts h, Except.isOk, Except.toBool]
              using hquiet
          | true =>
              simp [effect, noted, h, dispatch_of_accepts h, Except.isOk, Except.toBool,
                Dispatcher.outgoing_buffered]
      | dispatchNow e request =>
          obtain rfl : e = d := by simpa [Op.elsewhere] using helse
          cases h : t.accepts e with
          | false =>
              simpa [effect, noted, h, dispatchNow_of_not_accepts h, Except.isOk, Except.toBool]
                using hquiet
          | true =>
              have hbuffered := hsound.buffered (closed_of_accepts h) request
              have hresult := dispatchNow_fst hd h request
              rw [(hbuffered.flush_eq hnow).1] at hresult
              simp [effect, noted, h, hresult, Except.isOk, Except.toBool,
                hbuffered.settled_eq hnow, hbuffered.outgoing_flushed hnow,
                Dispatcher.outgoing_buffered]
      | runWorker now w =>
          have hsame : (t.effect d (.runWorker now w)).outgoing = (t.dispatcher d).outgoing := by
            simp only [effect]
            split
            · rw [hsound.settled_eq hnow, hsound.outgoing_flushed hnow]
            · rfl
          rw [hsame]
          exact hquiet
      | closeDispatcher e =>
          obtain rfl : e = d := by simpa [Op.elsewhere] using helse
          rw [effect, if_pos rfl, hsound.outgoing_closing hnow]
          exact hquiet
      | close =>
          have hsame : (t.effect d .close).outgoing = (t.dispatcher d).outgoing := by
            simp only [effect]
            split
            · exact hsound.outgoing_closing hnow
            · rfl
          rw [hsame]
          exact hquiet
      | pull e =>
          obtain rfl : e = d := by simpa [Op.elsewhere] using helse
          simp only [noted, received_received, accepted_received, effect, if_true, List.append_nil,
            Dispatcher.outgoing]
          rw [← List.append_assoc, ← List.flatMap_append, RequestQueue.pull_batches]
      | abandon e =>
          obtain rfl : e = d := by simpa [Op.elsewhere] using helse
          simp [effect, RequestQueue.abandon] at hheld
      | fail e error =>
          obtain rfl : e = d := by simpa [Op.elsewhere] using helse
          simp [effect] at hheld

theorem lt_length_run (wf : t.WellFormed) (hd : d < t.dispatchers.length) (ops : List Op) :
    d < (t.run ops).dispatchers.length := by
  induction ops using List.reverseRecOn with
  | nil => exact hd
  | append_singleton ops op ih =>
      rw [run_snoc]
      exact Nat.lt_of_lt_of_le ih (length_step (wf.run ops) op)

/-- **A run.** What was pulled and what is on its way is what was on its way before and what was
accepted since. -/
theorem outgoing_run (wf : t.WellFormed) (hd : d < t.dispatchers.length) (ops : List Op)
    (hheld : ((t.run ops).dispatcher d).queue.abandoned = false) :
    (received d (t.notes ops)).flatMap (·.requests) ++ ((t.run ops).dispatcher d).outgoing =
      (t.dispatcher d).outgoing ++ accepted d (t.notes ops) := by
  induction ops using List.reverseRecOn with
  | nil => simp [run, notes, Run.log, received, accepted]
  | append_singleton ops op ih =>
      have hlt := lt_length_run wf hd ops
      rw [run_snoc, dispatcher_step (wf.run ops) hlt] at hheld
      have hstep := outgoing_effect (wf.run ops) hlt hheld
      rw [run_snoc, dispatcher_step (wf.run ops) hlt, notes_snoc, received_append,
        accepted_append, List.flatMap_append, List.append_assoc, hstep, ← List.append_assoc,
        ih (held_of_effect hheld), List.append_assoc]

/-- A batch that was pulled is not empty. -/
theorem full_of_received (wf : t.WellFormed) {ops : List Op} {batch : ClientMessage}
    (h : batch ∈ received d (t.notes ops)) : batch.requests ≠ [] := by
  induction ops using List.reverseRecOn with
  | nil => simp [notes, Run.log, received] at h
  | append_singleton ops op ih =>
      rw [notes_snoc, received_append, List.mem_append] at h
      rcases h with h | h
      · exact ih h
      · -- only a pull is noted as received, and it takes the batch from the queue
        cases op with
        | pull e =>
            simp only [noted, received_received] at h
            split at h
            · refine ((wf.run ops).sound e).full batch ?_
              rw [← RequestQueue.pull_batches]
              exact List.mem_append_left _ h
            · simp at h
        | dispatch now e request =>
            simp only [noted] at h
            split at h <;> simp [received] at h
        | dispatchNow e request =>
            simp only [noted] at h
            split at h <;> simp [received] at h
        | bind => simp [noted, received] at h
        | setHook e hook => simp [noted, received] at h
        | runWorker now w => simp [noted, received] at h
        | closeDispatcher e => simp [noted, received] at h
        | close => simp [noted, received] at h
        | abandon e => simp [noted, received] at h
        | fail e error => simp [noted, received] at h

/-- A dispatcher whose buffer is not empty after an operation was there before. -/
theorem WellFormed.lt_of_buffer_step (wf : t.WellFormed) {op : Op}
    (hne : ((t.step op).dispatcher d).buffer ≠ []) :
    d < t.dispatchers.length := by
  by_contra hd
  obtain ⟨w, hnew⟩ := dispatcher_step_of_le wf (Nat.not_lt.mp hd) op
  rw [hnew] at hne
  exact hne rfl

/-- A buffer that an operation does not empty holds what it held, and what the operation adds. -/
theorem WellFormed.buffer_step (wf : t.WellFormed) {op : Op}
    (hne : ((t.step op).dispatcher d).buffer ≠ []) :
    ((t.step op).dispatcher d).buffer = (t.dispatcher d).buffer ++ accepted d (t.noted op) := by
  have hd := wf.lt_of_buffer_step hne
  rw [dispatcher_step wf hd] at hne ⊢
  cases helse : op.elsewhere d with
  | true =>
      obtain ⟨heffect, haccepted, -⟩ := effect_of_elsewhere (t := t) helse
      rw [heffect, haccepted, List.append_nil]
  | false =>
      cases op with
      | dispatch now e request =>
          obtain rfl : e = d := by simpa [Op.elsewhere] using helse
          cases h : t.accepts e with
          | false =>
              simp [effect, noted, h, dispatch_of_not_accepts h, accepted, Except.isOk,
                Except.toBool]
          | true =>
              simp [effect, noted, h, dispatch_of_accepts h, Except.isOk, Except.toBool,
                Dispatcher.buffered]
      | dispatchNow e request =>
          obtain rfl : e = d := by simpa [Op.elsewhere] using helse
          cases h : t.accepts e with
          | false =>
              simp [effect, noted, h, dispatchNow_of_not_accepts h, accepted, Except.isOk,
                Except.toBool]
          | true =>
              rw [effect, if_pos ⟨rfl, h⟩] at hne
              exact absurd (Dispatcher.buffer_settled _) hne
      | runWorker now w =>
          rw [effect] at hne ⊢
          split at hne
          · exact absurd (Dispatcher.buffer_settled _) hne
          · rw [if_neg ‹_›]
            exact (List.append_nil _).symm
      | closeDispatcher e =>
          rw [effect] at hne ⊢
          split at hne
          · exact absurd (wf.sound d).buffer_closing hne
          · rw [if_neg ‹_›]
            exact (List.append_nil _).symm
      | close =>
          rw [effect] at hne ⊢
          split at hne
          · exact absurd (wf.sound d).buffer_closing hne
          · rw [if_neg ‹_›]
            exact (List.append_nil _).symm
      | bind => exact (List.append_nil _).symm
      | setHook e hook =>
          rw [effect]
          split <;> exact (List.append_nil _).symm
      | pull e =>
          rw [effect, noted, accepted_received, List.append_nil]
          split <;> rfl
      | abandon e =>
          rw [effect]
          split <;> exact (List.append_nil _).symm
      | fail e error =>
          rw [effect]
          split <;> exact (List.append_nil _).symm

/-! ## §4  Closed dispatchers -/

end Transmitter

namespace Dispatcher

variable {x : Dispatcher}

/-- A closed dispatcher has nothing left to flush. -/
theorem Sound.settled_of_closed (h : x.Sound) (hclosed : x.closed = true) : x.settled = x := by
  have hbuffer := h.empty hclosed
  simp [Dispatcher.settled, Dispatcher.refusal, Dispatcher.flushed, hbuffer]

/-- What the receiver of a closed dispatcher pulls next: a batch that is left, or the end. -/
theorem Sound.pull_of_closed (h : x.Sound) (hclosed : x.closed = true) :
    x.queue.pull.1 = x.queue.batches.head?.elim .ended .item := by
  have hended : x.queue.ended = true := by rw [h.ended, hclosed]
  unfold RequestQueue.pull
  cases x.queue.batches with
  | nil => simp [RequestQueue.isClosed, hended]
  | cons batch rest => rfl

/-- A flush is refused when the buffer is not empty and the other end of the queue was let go. -/
theorem Sound.refusal_eq (h : x.Sound) :
    x.refusal = if x.queue.abandoned ∧ x.buffer ≠ [] then some RequestQueue.refusal else none := by
  cases hheld : x.queue.abandoned with
  | false => simp [(h.flush_eq hheld).1]
  | true =>
      unfold Dispatcher.refusal
      by_cases hbuffer : x.buffer = []
      · simp [hbuffer]
      · have hended : x.queue.ended = false := by
          rw [h.ended]
          by_contra hclosed
          exact hbuffer (h.empty (by simpa using hclosed))
        simp [hbuffer, RequestQueue.put_of_abandoned hended hheld]

/-- The one error of a flush. -/
theorem Sound.eq_of_refusal (h : x.Sound) {error : Error} (hrefusal : x.refusal = some error) :
    error = RequestQueue.refusal := by
  rw [h.refusal_eq] at hrefusal
  split at hrefusal
  · simpa using hrefusal.symm
  · simp at hrefusal

end Dispatcher

namespace Transmitter

variable {t u : Transmitter} {d : Nat}

/-- Whether an operation closes a dispatcher whose receiver holds on. -/
def Op.ends (d : Nat) : Op → Bool
  | .closeDispatcher e => d = e
  | .close => true
  | _ => false

theorem closed_settled (hsound : (t.dispatcher d).Sound)
    (hheld : (t.dispatcher d).queue.abandoned = false) :
    (t.dispatcher d).settled.closed = (t.dispatcher d).closed := by
  rw [hsound.settled_eq hheld, Dispatcher.closed_flushed]

theorem closed_effect (wf : t.WellFormed) (hd : d < t.dispatchers.length) {op : Op}
    (hheld : (t.effect d op).queue.abandoned = false) :
    (t.effect d op).closed = ((t.dispatcher d).closed || op.ends d) := by
  have hnow := held_of_effect hheld
  have hsound := wf.sound d
  cases op with
  | dispatchNow e request =>
      simp only [effect]
      split
      · rename_i h
        obtain ⟨rfl, haccepts⟩ := h
        have hbuffered := hsound.buffered (closed_of_accepts haccepts) request
        rw [hbuffered.settled_eq hnow, Dispatcher.closed_flushed]
        simp [Op.ends, Dispatcher.buffered]
      · simp [Op.ends]
  | runWorker now w =>
      simp only [effect]
      split
      · simp [Op.ends, closed_settled hsound hnow]
      · simp [Op.ends]
  | closeDispatcher e =>
      simp only [effect]
      split <;> simp [Op.ends, *]
  | close =>
      simp only [effect]
      split
      · simp [Op.ends]
      · rename_i hopen
        simp [Op.ends, wf.silent (by simpa using hopen) d hd]
  | bind => simp [effect, Op.ends]
  | setHook e hook =>
      simp only [effect]
      split <;> simp [Op.ends]
  | dispatch now e request =>
      simp only [effect]
      split <;> simp [Op.ends, Dispatcher.buffered]
  | pull e =>
      simp only [effect]
      split <;> simp [Op.ends]
  | abandon e =>
      simp only [effect]
      split <;> simp [Op.ends]
  | fail e error =>
      simp only [effect]
      split <;> simp [Op.ends]

theorem not_accepts_of_closed (h : (t.dispatcher d).closed = true) : t.accepts d = false := by
  simp [accepts, h]

/-- Of a closed dispatcher the batches that are left are pulled, and nothing else happens. -/
theorem batches_effect (wf : t.WellFormed) (hclosed : (t.dispatcher d).closed = true) {op : Op}
    (hheld : (t.effect d op).queue.abandoned = false) :
    received d (t.noted op) ++ (t.effect d op).queue.batches = (t.dispatcher d).queue.batches := by
  have hsound := wf.sound d
  have hdeaf := not_accepts_of_closed hclosed
  cases helse : op.elsewhere d with
  | true =>
      obtain ⟨heffect, -, hreceived⟩ := effect_of_elsewhere (t := t) helse
      rw [heffect, hreceived]
      rfl
  | false =>
      cases op with
      | bind => rfl
      | setHook e hook =>
          simp only [effect]
          split <;> rfl
      | dispatch now e request =>
          obtain rfl : e = d := by simpa [Op.elsewhere] using helse
          simp [effect, noted, hdeaf, dispatch_of_not_accepts hdeaf, received, Except.isOk,
            Except.toBool]
      | dispatchNow e request =>
          obtain rfl : e = d := by simpa [Op.elsewhere] using helse
          simp [effect, noted, hdeaf, dispatchNow_of_not_accepts hdeaf, received, Except.isOk,
            Except.toBool]
      | runWorker now w =>
          simp only [effect, hsound.settled_of_closed hclosed, ite_self]
          rfl
      | closeDispatcher e =>
          simp only [effect, Dispatcher.closing_of_closed hclosed, ite_self]
          rfl
      | close =>
          simp only [effect, Dispatcher.closing_of_closed hclosed, ite_self]
          rfl
      | pull e =>
          obtain rfl : e = d := by simpa [Op.elsewhere] using helse
          simp only [noted, received_received, effect, if_true, RequestQueue.pull_batches]
      | abandon e =>
          obtain rfl : e = d := by simpa [Op.elsewhere] using helse
          simp [effect, RequestQueue.abandon] at hheld
      | fail e error =>
          obtain rfl : e = d := by simpa [Op.elsewhere] using helse
          simp [effect] at hheld

/-- **After the closing** a receiver pulls the batches that were left, and nothing else. -/
theorem batches_run (wf : t.WellFormed) (hd : d < t.dispatchers.length)
    (hclosed : (t.dispatcher d).closed = true) (ops : List Op)
    (hheld : ((t.run ops).dispatcher d).queue.abandoned = false) :
    ((t.run ops).dispatcher d).closed = true ∧
      received d (t.notes ops) ++ ((t.run ops).dispatcher d).queue.batches =
        (t.dispatcher d).queue.batches := by
  induction ops using List.reverseRecOn with
  | nil => exact ⟨hclosed, rfl⟩
  | append_singleton ops op ih =>
      have hlt := lt_length_run wf hd ops
      rw [run_snoc, dispatcher_step (wf.run ops) hlt] at hheld
      obtain ⟨hstill, hbatches⟩ := ih (held_of_effect hheld)
      rw [run_snoc, dispatcher_step (wf.run ops) hlt]
      refine ⟨?_, ?_⟩
      · rw [closed_effect (wf.run ops) hlt hheld, hstill]
        rfl
      · rw [notes_snoc, received_append, List.append_assoc,
          batches_effect (wf.run ops) hstill hheld, hbatches]

theorem closed_run (wf : t.WellFormed) (hclosed : (t.dispatcher d).closed = true) (ops : List Op) :
    ((t.run ops).dispatcher d).closed = true :=
  (Run.keeps (P := fun u : Transmitter => u.WellFormed ∧ (u.dispatcher d).closed = true)
    (fun _ op hu => ⟨hu.1.step op, closed_step hu.1 hu.2 op⟩) ⟨wf, hclosed⟩ ops).2

/-- A closed dispatcher accepts nothing. -/
theorem accepted_of_closed (wf : t.WellFormed) (hclosed : (t.dispatcher d).closed = true)
    (ops : List Op) : accepted d (t.notes ops) = [] := by
  -- here the receiver may be gone, so that `batches_effect` does not apply
  have hnoted : ∀ (u : Transmitter) (op : Op), (u.dispatcher d).closed = true →
      accepted d (u.noted op) = [] := by
    intro u op hu
    have hdeaf := not_accepts_of_closed hu
    cases helse : op.elsewhere d with
    | true => exact (effect_of_elsewhere helse).2.1
    | false =>
        cases op with
        | dispatch now e request =>
            obtain rfl : e = d := by simpa [Op.elsewhere] using helse
            simp [noted, dispatch_of_not_accepts hdeaf, accepted, Except.isOk, Except.toBool]
        | dispatchNow e request =>
            obtain rfl : e = d := by simpa [Op.elsewhere] using helse
            simp [noted, dispatchNow_of_not_accepts hdeaf, accepted, Except.isOk, Except.toBool]
        | pull e => simp [noted]
        | _ => rfl
  induction ops using List.reverseRecOn with
  | nil => rfl
  | append_singleton ops op ih =>
      rw [notes_snoc, accepted_append, ih, hnoted _ op (closed_run wf hclosed ops)]
      rfl

/-! ## §5  Other dispatchers -/

/-- Whether an operation closes the transmitter. -/
def Op.closesAll : Op → Bool
  | .close => true
  | _ => false

theorem isOpen_step (wf : t.WellFormed) (op : Op) :
    (t.step op).isOpen = (t.isOpen && !op.closesAll) := by
  cases op with
  | bind =>
      cases hopen : t.isOpen with
      | false => simp [step, Op.closesAll, bind_of_closed hopen, hopen]
      | true => simp [step, Op.closesAll, (bind_of_open hopen wf.manned).2.1]
  | dispatch now e request =>
      simp [step, Op.closesAll, isOpen_of_shape (shape_dispatch t now e request)]
  | dispatchNow e request =>
      simp [step, Op.closesAll, isOpen_of_shape (shape_dispatchNow t e request)]
  | runWorker now w => simp [step, Op.closesAll, isOpen_of_shape (runWorker_shape wf now w)]
  | closeDispatcher e => simp [step, Op.closesAll, isOpen_of_shape (shape_closeDispatcher t e)]
  | close =>
      cases hopen : t.isOpen with
      | false => simp [step, Op.closesAll, close_of_closed hopen, hopen]
      | true => simp [step, Op.closesAll, (wf.close_spec hopen).1]
  | setHook e hook => simp [step, Op.closesAll, setHook]
  | pull e => simp [step, Op.closesAll, modifyQueue]
  | abandon e => simp [step, Op.closesAll, modifyQueue]
  | fail e error => simp [step, Op.closesAll, modifyQueue]

/-- The requests that an operation offers to a dispatcher. -/
def Op.offered (d : Nat) : Op → List Request
  | .dispatch _ e request | .dispatchNow e request => if e = d then [request] else []
  | _ => []

/-- A dispatcher whose receiver holds on accepts what it is offered as long as it is open. -/
theorem accepted_noted (wf : t.WellFormed) (hd : d < t.dispatchers.length) {op : Op}
    (hheld : (t.dispatcher d).queue.abandoned = false) :
    accepted d (t.noted op) = if t.accepts d then op.offered d else [] := by
  cases op with
  | dispatch now e request =>
      by_cases he : e = d
      · subst he
        cases h : t.accepts e with
        | false => simp [noted, dispatch_of_not_accepts h, accepted, Except.isOk, Except.toBool]
        | true => simp [noted, dispatch_of_accepts h, Op.offered, Except.isOk, Except.toBool]
      · have helse : Op.elsewhere d (.dispatch now e request) = true := by simp [Op.elsewhere, he]
        rw [(effect_of_elsewhere helse).2.1]
        simp [Op.offered, he]
  | dispatchNow e request =>
      by_cases he : e = d
      · subst he
        cases h : t.accepts e with
        | false => simp [noted, dispatchNow_of_not_accepts h, accepted, Except.isOk, Except.toBool]
        | true =>
            have hbuffered := (wf.sound e).buffered (closed_of_accepts h) request
            have hresult := dispatchNow_fst hd h request
            rw [(hbuffered.flush_eq hheld).1] at hresult
            simp [noted, hresult, Op.offered, Except.isOk, Except.toBool]
      · have helse : Op.elsewhere d (.dispatchNow e request) = true := by simp [Op.elsewhere, he]
        rw [(effect_of_elsewhere helse).2.1]
        simp [Op.offered, he]
  | pull e => simp [noted, Op.offered]
  | bind => simp [noted, Op.offered, accepted]
  | setHook e hook => simp [noted, Op.offered, accepted]
  | runWorker now w => simp [noted, Op.offered, accepted]
  | closeDispatcher e => simp [noted, Op.offered, accepted]
  | close => simp [noted, Op.offered, accepted]
  | abandon e => simp [noted, Op.offered, accepted]
  | fail e error => simp [noted, Op.offered, accepted]

/-- Two transmitters that agree on whether a dispatcher is open, and on whether its receiver holds
on. -/
structure Agrees (d : Nat) (t u : Transmitter) : Prop where
  isOpen : t.isOpen = u.isOpen
  closed : (t.dispatcher d).closed = (u.dispatcher d).closed
  abandoned : (t.dispatcher d).queue.abandoned = (u.dispatcher d).queue.abandoned

theorem Agrees.step (h : Agrees d t u) (wt : t.WellFormed) (wu : u.WellFormed)
    (ht : d < t.dispatchers.length) (hu : d < u.dispatchers.length) {op : Op}
    (hheld : (t.effect d op).queue.abandoned = false) :
    Agrees d (t.step op) (u.step op) ∧ accepted d (t.noted op) = accepted d (u.noted op) := by
  have hnow := held_of_effect hheld
  -- What the two agree on decides what happens next; buffers and queues may well differ.
  have hsame : (u.effect d op).queue.abandoned = (t.effect d op).queue.abandoned := by
    rw [abandoned_effect, abandoned_effect, h.abandoned]
  refine ⟨⟨?_, ?_, ?_⟩, ?_⟩
  · rw [isOpen_step wt, isOpen_step wu, h.isOpen]
  · rw [dispatcher_step wt ht, dispatcher_step wu hu, closed_effect wt ht hheld,
      closed_effect wu hu (hsame.trans hheld), h.closed]
  · rw [dispatcher_step wt ht, dispatcher_step wu hu, hsame]
  · rw [accepted_noted wt ht hnow, accepted_noted wu hu (h.abandoned ▸ hnow), accepts, accepts,
      h.isOpen, h.closed]

theorem Agrees.elsewhere (h : Agrees d t u) (wf : t.WellFormed) (hd : d < t.dispatchers.length)
    {op : Op} (helse : op.elsewhere d = true) :
    Agrees d (t.step op) u ∧ accepted d (t.noted op) = [] := by
  obtain ⟨heffect, haccepted, -⟩ := effect_of_elsewhere (t := t) helse
  have hcloses : op.closesAll = false := by
    cases op <;> simp [Op.elsewhere, Op.closesAll] at helse ⊢
  refine ⟨⟨?_, ?_, ?_⟩, haccepted⟩
  · rw [isOpen_step wf, hcloses, h.isOpen]
    simp
  · rw [dispatcher_step wf hd, heffect, h.closed]
  · rw [dispatcher_step wf hd, heffect, h.abandoned]

/-- **No interference.** A dispatcher accepts the same requests if the operations on the others are
left out. -/
theorem agrees_run (wf : t.WellFormed) (hd : d < t.dispatchers.length) (ops : List Op)
    (hheld : ((t.run ops).dispatcher d).queue.abandoned = false) :
    Agrees d (t.run ops) (t.run (ops.filter fun op => !op.elsewhere d)) ∧
      accepted d (t.notes ops) = accepted d (t.notes (ops.filter fun op => !op.elsewhere d)) := by
  induction ops using List.reverseRecOn with
  | nil => exact ⟨⟨rfl, rfl, rfl⟩, rfl⟩
  | append_singleton ops op ih =>
      have hlt := lt_length_run wf hd ops
      rw [run_snoc, dispatcher_step (wf.run ops) hlt] at hheld
      obtain ⟨hagrees, haccepted⟩ := ih (held_of_effect hheld)
      rw [run_snoc, notes_snoc, accepted_append, List.filter_append]
      cases helse : op.elsewhere d with
      | true =>
          obtain ⟨hstep, hnone⟩ := hagrees.elsewhere (wf.run ops) hlt helse
          simpa [helse, hnone] using ⟨hstep, haccepted⟩
      | false =>
          obtain ⟨hstep, hsame⟩ := hagrees.step (wf.run ops) (wf.run _) hlt
            (lt_length_run wf hd _) hheld
          have hkept : [op].filter (fun op => !op.elsewhere d) = [op] := by simp [helse]
          rw [hkept, run_snoc, notes_snoc, accepted_append, haccepted, hsame]
          exact ⟨hstep, rfl⟩

/-- A request that is rejected for a closed dispatcher changes nothing. -/
theorem dispatch_of_clientClosed {now e : Nat} {request : Request}
    (h : (t.dispatch now e request).1 = .error .clientClosed) :
    (t.dispatch now e request).2 = t := by
  cases hopen : t.accepts e with
  | false => rw [dispatch_of_not_accepts hopen]
  | true => simp [dispatch_of_accepts hopen] at h

theorem dispatchNow_of_clientClosed (wf : t.WellFormed) {e : Nat} {request : Request}
    (h : (t.dispatchNow e request).1 = .error .clientClosed) :
    (t.dispatchNow e request).2 = (t, []) := by
  cases hopen : t.accepts e with
  | false => rw [dispatchNow_of_not_accepts hopen]
  | true =>
      -- the one error of an open dispatcher is that of the queue
      have hsound : ((t.buffer e request).dispatcher e).Sound := (wf.buffer hopen request).sound e
      rw [dispatchNow_of_accepts hopen] at h
      split at h
      · simp at h
      · rename_i error hrefusal
        rw [hsound.eq_of_refusal hrefusal] at h
        simp [RequestQueue.refusal] at h

/-- A dispatcher is new when it is bound. -/
theorem WellFormed.of_bind (wf : t.WellFormed) (h : t.bind.1 = .ok d) :
    d < (t.step .bind).dispatchers.length ∧
      (t.step .bind).dispatcher d = { worker := t.dispatchers.length % t.workers.length } := by
  have hopen : t.isOpen = true := by
    by_contra hclosed
    rw [bind_of_closed (by simpa using hclosed)] at h
    simp at h
  obtain ⟨hfst, -, hlength, -, hdispatcher, -⟩ := bind_of_open hopen wf.manned
  obtain rfl : t.dispatchers.length = d := by
    rw [hfst] at h
    simpa using h
  refine ⟨?_, ?_⟩
  · exact Nat.lt_of_lt_of_eq (Nat.lt_succ_self _) hlength.symm
  · exact (hdispatcher _).trans (if_pos rfl)

/-- The batches that a receiver has pulled in a run, those that are queued, and the buffer. -/
def flow (t : Transmitter) (d : Nat) (ops : List Op) : List Request :=
  (received d (t.notes ops) ++ ((t.run ops).dispatcher d).queue.batches).flatMap (·.requests) ++
    ((t.run ops).dispatcher d).buffer

/-- **Batching is exact.** In any run, and for any dispatcher that was bound in it and whose
receiver holds on: the batches that were pulled, those that are queued, and the buffer are the
requests that were accepted, in order, and no batch is empty; a request that is rejected for a
closed dispatcher changes nothing; once the dispatcher or the transmitter is closed the buffer is
empty, and the receiver pulls the batches that are left and then sees the end; and the operations on
other dispatchers change neither what can be pulled now nor what is pulled in the end. -/
theorem flow_is_accepted (config : TransmitterConfig) (before after : List Op) (d : Nat)
    (hbound : ((new config).run before).bind.1 = .ok d)
    (hheld : ((run (((new config).run before).step .bind) after).dispatcher
      d).queue.abandoned = false) :
    let t := ((new config).run before).step .bind
    let t' := t.run after
    let x := t'.dispatcher d
    t.flow d after = accepted d (t.notes after) ∧
      (∀ batch ∈ received d (t.notes after) ++ x.queue.batches, batch.requests ≠ []) ∧
      (∀ e request,
        (∀ now, (t'.dispatch now e request).1 = .error .clientClosed →
          (t'.dispatch now e request).2 = t') ∧
        ((t'.dispatchNow e request).1 = .error .clientClosed →
          (t'.dispatchNow e request).2 = (t', []))) ∧
      (x.closed = true ∨ t'.isOpen = false → x.buffer = [] ∧
        ∀ later, ((t'.run later).dispatcher d).queue.abandoned = false →
          let more := received d (t'.notes later)
          let q := ((t'.run later).dispatcher d).queue
          more ++ q.batches = x.queue.batches ∧ q.pull.1 = q.batches.head?.elim .ended .item) ∧
      (∀ op, op.elsewhere d = true → (t'.step op).dispatcher d = x) ∧
      t.flow d (after.filter fun op => !op.elsewhere d) = t.flow d after := by
  intro t t' x
  have wf₀ : ((new config).run before).WellFormed := (wellFormed_new config).run before
  have wf : t.WellFormed := wf₀.step .bind
  have wf' : t'.WellFormed := wf.run after
  obtain ⟨hd, hfresh⟩ : d < t.dispatchers.length ∧ t.dispatcher d = _ := wf₀.of_bind hbound
  have hflow : ∀ ops, ((t.run ops).dispatcher d).queue.abandoned = false →
      t.flow d ops = accepted d (t.notes ops) := by
    intro ops hops
    have hrun := outgoing_run wf hd ops hops
    rw [hfresh] at hrun
    rw [flow, List.flatMap_append, List.append_assoc]
    exact hrun
  have hd' : d < t'.dispatchers.length := lt_length_run wf hd after
  refine ⟨hflow after hheld, ?_, ?_, ?_, ?_, ?_⟩
  · intro batch hbatch
    rcases List.mem_append.mp hbatch with hpulled | hqueued
    · exact full_of_received wf hpulled
    · exact (wf'.sound d).full batch hqueued
  · exact fun e request =>
      ⟨fun now => dispatch_of_clientClosed, dispatchNow_of_clientClosed wf'⟩
  · intro hclosed
    have hx : x.closed = true := by
      rcases hclosed with hx | hsilent
      · exact hx
      · exact wf'.silent hsilent d hd'
    refine ⟨(wf'.sound d).empty hx, ?_⟩
    intro later hlater
    obtain ⟨hstill, hbatches⟩ := batches_run wf' hd' hx later hlater
    exact ⟨hbatches, ((wf'.run later).sound d).pull_of_closed hstill⟩
  · intro op helse
    rw [dispatcher_step wf' hd']
    exact (effect_of_elsewhere helse).1
  · obtain ⟨hagrees, haccepted⟩ := agrees_run wf hd after hheld
    rw [hflow after hheld, hflow _ (hagrees.abandoned.symm.trans hheld), haccepted]

/-- Two dispatchers of one worker: what the second has buffered leaves with its closing, behind what
it sent at once. -/
theorem flow_is_accepted_closing :
    let config : TransmitterConfig := { parallelisation := 1 }
    let request (n : UInt32) : Request := ⟨⟨n⟩, .streamContinue⟩
    let t := ((new config).run [.bind]).step .bind
    let after : List Op :=
      [.dispatch 0 1 (request 1), .dispatch 0 0 (request 7), .dispatchNow 1 (request 2), .pull 1,
        .dispatch 1 1 (request 3), .closeDispatcher 1, .dispatch 2 1 (request 4)]
    ((new config).run [.bind]).bind.1 = .ok 1 ∧
      ((t.run after).dispatcher 1).queue.abandoned = false ∧
      ((t.run after).dispatcher 1).closed = true ∧
      t.flow 1 after = [request 1, request 2, request 3] ∧
      received 1 ((t.run after).notes [.runWorker 9 0, .pull 1, .pull 1]) =
        [⟨[request 3]⟩] := by
  intro config request t after
  obtain ⟨hflow, -⟩ :=
    flow_is_accepted config [.bind] after 1 (by decide +kernel) (by decide +kernel)
  refine ⟨by decide +kernel, by decide +kernel, by decide +kernel, ?_, by decide +kernel⟩
  exact hflow.trans (by decide +kernel)

end Transmitter

end GraphDriver
