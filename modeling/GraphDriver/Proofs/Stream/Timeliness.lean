import GraphDriver.Proofs.Stream.Evolution

/-!
# Timeliness

How long a request waits in a buffer. When a worker flushes next is set by the worker itself and by
the first request that finds it idle, never by what else is done to its dispatchers, which may come
and go while it waits. Time passes a millisecond at a time, and only when no worker is due; so every
request leaves its buffer within the longer of the two windows. Here a window is a whole number of
milliseconds, a started one counted in full, and a clock shows whole milliseconds only: timers are
no finer.

* §1 when a worker flushes next
* §2 runs under a clock
* §3 workers that are on time
* §4 what waits in a buffer, and since when
-/

namespace GraphDriver

namespace Transmitter

variable {t u : Transmitter} {d w now : Nat} {op : Transmitter.Op}

/-! ## §1  When a worker flushes next -/

def due (t : Transmitter) (w : Nat) : Option Nat := (t.worker w).due

def windows (t : Transmitter) : Nat × Nat := (t.smallWindow, t.largeWindow)

/-- The windows, and when each worker flushes next. -/
def timing (t : Transmitter) : (Nat × Nat) × List (Option Nat) :=
  (t.windows, t.workers.map (·.due))

theorem due_eq_getD (t : Transmitter) (w : Nat) :
    t.due w = (t.workers.map (·.due)).getD w none := by
  rw [due, worker, List.getD_eq_getElem?_getD, List.getD_eq_getElem?_getD, List.getElem?_map]
  cases t.workers[w]? <;> rfl

theorem due_of_timing (h : u.timing = t.timing) (w : Nat) : u.due w = t.due w := by
  have hworkers : u.workers.map (·.due) = t.workers.map (·.due) := congrArg (·.2) h
  rw [due_eq_getD, due_eq_getD, hworkers]

theorem windows_of_timing (h : u.timing = t.timing) : u.windows = t.windows := congrArg (·.1) h

theorem isDue_iff : t.isDue now w = true ↔ ∃ τ, t.due w = some τ ∧ τ ≤ now := by
  rw [isDue, ← due, Option.any_eq_true]
  simp

/-- Who the members of a worker are does not tell when it flushes. -/
theorem map_due_modify (workers : List Worker) (w : Nat) (f : List Nat → List Nat) :
    (workers.modify w fun x => { x with members := f x.members }).map (·.due) =
      workers.map (·.due) := by
  apply List.ext_getElem?
  intro i
  rw [List.getElem?_map, List.getElem?_map, List.getElem?_modify]
  cases workers[i]? with
  | none => rfl
  | some x => by_cases h : w = i <;> simp [h]

/-! ### Operations on dispatchers -/

theorem due_new (config : TransmitterConfig) (w : Nat) : (new config).due w = none := by
  simp only [due, worker, new, List.getD_eq_getElem?_getD, List.getElem?_replicate]
  split <;> rfl

theorem timing_bind (t : Transmitter) : t.bind.2.timing = t.timing := by
  unfold bind
  split
  · exact congrArg (t.windows, ·) (map_due_modify t.workers _ (· ++ [t.dispatchers.length]))
  · rfl

theorem timing_deregister (t : Transmitter) (d : Nat) : (t.deregister d).timing = t.timing :=
  congrArg (t.windows, ·) (map_due_modify t.workers _ fun ds => ds.filter (· ≠ d))

theorem timing_flush (t : Transmitter) (d : Nat) : (t.flush d).2.timing = t.timing := by
  unfold flush
  dsimp only
  split <;> rfl

theorem timing_refused (t : Transmitter) (d : Nat) (error : Error) :
    (t.refused d error).1.timing = t.timing := by
  unfold refused
  split
  · rfl
  · dsimp only
    split
    · exact timing_deregister t d
    · rfl

theorem timing_closeDispatcher (t : Transmitter) (d : Nat) :
    (t.closeDispatcher d).1.timing = t.timing := by
  have hflushed : ((t.deregister d).flush d).2.timing = t.timing :=
    (timing_flush _ d).trans (timing_deregister t d)
  cases hclosed : (t.dispatcher d).closed with
  | true =>
      rw [closeDispatcher_of_closed hclosed]
      exact timing_deregister t d
  | false =>
      rw [closeDispatcher_of_open hclosed]
      split
      · exact hflushed
      · exact (timing_refused _ d _).trans hflushed

theorem timing_dispatchNow (t : Transmitter) (d : Nat) (request : Request) :
    (t.dispatchNow d request).2.1.timing = t.timing := by
  cases h : t.accepts d with
  | false => rw [dispatchNow_of_not_accepts h]
  | true =>
      have hflushed : ((t.buffer d request).flush d).2.timing = t.timing := timing_flush _ d
      rw [dispatchNow_of_accepts h]
      split
      · exact hflushed
      · exact (timing_refused _ d _).trans hflushed

theorem timing_flushAll (t : Transmitter) (ds : List Nat) :
    (t.flushAll ds).1.timing = t.timing := by
  have hoffered : (ds.foldl offer (t, [])).1.timing = t.timing :=
    Run.keeps (P := fun s : Transmitter × List (Nat × Error) => s.1.timing = t.timing)
      (fun s d h => (timing_flush s.1 d).trans h) rfl ds
  rw [flushAll_eq]
  exact Run.keeps (P := fun s : Transmitter × List Report => s.1.timing = t.timing)
    (fun s f h => (timing_refused s.1 f.1 f.2).trans h) hoffered _

/-! ### Workers -/

theorem due_wake (hw : w < t.workers.length) (now v : Nat) :
    (t.wake w now).due v =
      if v = w then some ((t.due w).getD (now + t.smallWindow)) else t.due v := by
  unfold due worker wake
  rw [getD_modify]
  by_cases hv : v = w
  · subst hv
    rw [if_pos ⟨rfl, hw⟩, if_pos rfl]
    cases hdue : (t.workers.getD v default).due with
    | none => rfl
    | some τ => exact hdue
  · rw [if_neg (fun h => hv h.1), if_neg hv]

theorem due_runWorker (now w v : Nat) :
    (t.runWorker now w).1.due v =
      if v = w ∧ t.isDue now w = true then t.nextFlush now w else t.due v := by
  cases hdue : t.isDue now w with
  | false =>
      rw [runWorker_of_not_due hdue]
      simp
  | true =>
      have hw : w < t.workers.length := by
        by_contra hw
        simp [isDue_of_le (Nat.not_lt.mp hw)] at hdue
      rw [runWorker_of_due hdue, due_of_timing (timing_flushAll _ _)]
      by_cases hv : v = w
      · subst hv
        simp [due, worker, List.getD_eq_getElem?_getD, hw]
      · simp [due, worker, List.getD_eq_getElem?_getD, hv, Ne.symm hv]

/-- A transmitter that is closed has dismissed its workers. -/
theorem timing_close (h : t.isOpen = true) : t.close.1.timing = t.dismissed.timing := by
  rw [close_of_open h]
  exact Run.keeps (P := fun u : Transmitter => u.timing = t.dismissed.timing)
    (fun u d hu => (timing_closeDispatcher u d).trans hu) rfl _

theorem due_close (h : t.isOpen = true) (w : Nat) : t.close.1.due w = none := by
  rw [due_of_timing (timing_close h), due, worker, dismissed, List.getD_eq_getElem?_getD,
    List.getElem?_map]
  cases t.workers[w]? <;> rfl

/-- An open dispatcher is bound to a worker that there is. -/
theorem WellFormed.lt_width_of_accepts (wf : t.WellFormed) (h : t.accepts d = true) :
    (t.dispatcher d).worker < t.workers.length := by
  by_cases hd : d < t.dispatchers.length
  · have hmem := (wf.mem_members _ d).mpr ⟨hd, rfl, closed_of_accepts h⟩
    by_contra hw
    rw [members, worker_of_le (Nat.not_lt.mp hw)] at hmem
    exact absurd hmem List.not_mem_nil
  · rw [dispatcher_of_le (Nat.not_lt.mp hd)]
    exact wf.manned

/-- When a worker flushes next, after an operation. -/
def dueAfter (t : Transmitter) (w : Nat) : Op → Option Nat
  | .dispatch now d _ =>
    if t.accepts d ∧ w = (t.dispatcher d).worker then
      some ((t.due w).getD (now + t.smallWindow))
    else t.due w
  | .runWorker now v => if w = v ∧ t.isDue now v then t.nextFlush now v else t.due w
  | .close => if t.isOpen then none else t.due w
  | _ => t.due w

/-- **When a worker flushes next** changes in three ways: it is woken, it flushes, or the
transmitter is closed. -/
theorem due_step (wf : t.WellFormed) (op : Op) (w : Nat) : (t.step op).due w = t.dueAfter w op := by
  cases op with
  | bind => exact due_of_timing (timing_bind t) w
  | setHook d hook => rfl
  | dispatch now d request =>
      cases h : t.accepts d with
      | false => simp [step, dueAfter, dispatch_of_not_accepts h, h]
      | true =>
          have hw := wf.lt_width_of_accepts h
          rw [step, dispatch_of_accepts h, dueAfter]
          have hwoken := due_wake (t := t.buffer d request) hw now w
          simp only [h, true_and]
          rw [hwoken]
          by_cases hwd : w = (t.dispatcher d).worker
          · rw [if_pos hwd, if_pos hwd, hwd]
            rfl
          · rw [if_neg hwd, if_neg hwd]
            rfl
  | dispatchNow d request => exact due_of_timing (timing_dispatchNow t d request) w
  | runWorker now v => exact due_runWorker now v w
  | closeDispatcher d => exact due_of_timing (timing_closeDispatcher t d) w
  | close =>
      cases hopen : t.isOpen with
      | false => simp [step, dueAfter, close_of_closed hopen, hopen]
      | true => simp [step, dueAfter, due_close hopen, hopen]
  | pull d => rfl
  | abandon d => rfl
  | fail d error => rfl

theorem windows_step (t : Transmitter) (op : Op) : (t.step op).windows = t.windows := by
  cases op with
  | bind => exact windows_of_timing (timing_bind t)
  | dispatch now d request =>
      simp only [step, dispatch]
      split <;> rfl
  | dispatchNow d request => exact windows_of_timing (timing_dispatchNow t d request)
  | runWorker now w =>
      cases hdue : t.isDue now w with
      | false => rw [step, runWorker_of_not_due hdue]
      | true =>
          rw [step, runWorker_of_due hdue, windows_of_timing (timing_flushAll _ _)]
          rfl
  | closeDispatcher d => exact windows_of_timing (timing_closeDispatcher t d)
  | close =>
      cases hopen : t.isOpen with
      | false => rw [step, close_of_closed hopen]
      | true =>
          rw [step, windows_of_timing (timing_close hopen)]
          rfl
  | _ => rfl

/-! ## §2  Runs under a clock -/

/-- A transmitter, and what the clock shows in milliseconds. -/
structure Timed where
  now : Nat := 0
  transmitter : Transmitter

/-- What can happen: a millisecond passes, or something is done. -/
inductive Event where
  | pass
  | perform (op : Op)

/-- Whether an operation that reads the clock reads a certain time. -/
def Op.isAt (now : Nat) : Op → Bool
  | .dispatch read _ _ | .runWorker read _ => read = now
  | _ => true

namespace Timed

def start (config : TransmitterConfig) : Timed := { transmitter := new config }

/-- Time waits for every worker that is due, and an operation reads what the clock shows. -/
def can (x : Timed) : Event → Bool
  | .pass =>
    (List.range x.transmitter.workers.length).all fun w => !x.transmitter.isDue x.now w
  | .perform op => op.isAt x.now

def happen (x : Timed) : Event → Timed
  | .pass => { x with now := x.now + 1 }
  | .perform op => { x with transmitter := x.transmitter.step op }

def step (x : Timed) (event : Event) : Timed := if x.can event then x.happen event else x

def run (x : Timed) (events : List Event) : Timed := events.foldl step x

/-- The requests that a dispatcher accepts, with the time. -/
def stamped (d : Nat) (x : Timed) : Event → List (Nat × Request)
  | .pass => []
  | .perform op =>
    if op.isAt x.now then (accepted d (x.transmitter.noted op)).map (x.now, ·) else []

/-- The requests that a dispatcher accepts in a run, with their times. -/
def stamps (d : Nat) (x : Timed) (events : List Event) : List (Nat × Request) :=
  Run.log step (stamped d) x events

theorem run_snoc (x : Timed) (events : List Event) (event : Event) :
    x.run (events ++ [event]) = (x.run events).step event := by
  simp [run]

theorem stamps_snoc (d : Nat) (x : Timed) (events : List Event) (event : Event) :
    stamps d x (events ++ [event]) = stamps d x events ++ stamped d (x.run events) event :=
  Run.log_snoc x events event

theorem step_of_can {x : Timed} {event : Event} (hcan : x.can event = true) :
    x.step event = x.happen event :=
  if_pos hcan

theorem step_of_not_can {x : Timed} {event : Event} (hcan : x.can event = false) :
    x.step event = x :=
  if_neg (by simp [hcan])

theorem can_pass_iff {x : Timed} :
    x.can .pass = true ↔ ∀ w, x.transmitter.isDue x.now w = false := by
  simp only [can, List.all_eq_true, List.mem_range, Bool.not_eq_true']
  refine ⟨fun h w => ?_, fun h w _ => h w⟩
  rcases Nat.lt_or_ge w x.transmitter.workers.length with hlt | hge
  · exact h w hlt
  · exact isDue_of_le hge _

end Timed

/-! ## §3  Workers that are on time -/

/-- A worker that is woken or has flushed is due after one of the windows. -/
theorem dueAfter_eq_some {τ : Nat} (hat : op.isAt now = true) (h : t.dueAfter w op = some τ) :
    t.due w = some τ ∨ τ = now + t.smallWindow ∨ τ = now + t.largeWindow := by
  cases op with
  | dispatch read d request =>
      obtain rfl : read = now := by simpa [Op.isAt] using hat
      rw [dueAfter] at h
      split at h
      · cases hdue : t.due w with
        | none =>
            rw [hdue] at h
            exact .inr (.inl (Option.some.inj h).symm)
        | some τ' =>
            rw [hdue] at h
            exact .inl h
      · exact .inl h
  | runWorker read v =>
      obtain rfl : read = now := by simpa [Op.isAt] using hat
      rw [dueAfter] at h
      split at h
      · rw [nextFlush] at h
        split at h
        · simp at h
        · exact .inr (.inr (Option.some.inj h).symm)
      · exact .inl h
  | close =>
      rw [dueAfter] at h
      split at h
      · simp at h
      · exact .inl h
  | _ => exact .inl h

namespace Timed

variable {x : Timed} {longest : Nat}

/-- No worker has missed its flush, and none flushes later than the longer window allows. -/
structure OnTime (longest : Nat) (x : Timed) : Prop where
  wellFormed : x.transmitter.WellFormed
  small : x.transmitter.smallWindow ≤ longest
  large : x.transmitter.largeWindow ≤ longest
  due : ∀ w τ, x.transmitter.due w = some τ → x.now ≤ τ ∧ τ ≤ x.now + longest

theorem onTime_start (config : TransmitterConfig) :
    (start config).OnTime (max config.smallWindow.millis config.largeWindow.millis) where
  wellFormed := wellFormed_new config
  small := Nat.le_max_left _ _
  large := Nat.le_max_right _ _
  due w τ h := by
    rw [show (start config).transmitter = new config from rfl, due_new] at h
    simp at h

theorem OnTime.step (h : x.OnTime longest) (event : Event) : (x.step event).OnTime longest := by
  cases hcan : x.can event with
  | false => rwa [step_of_not_can hcan]
  | true =>
      rw [step_of_can hcan]
      obtain ⟨wf, hsmall, hlarge, hdue⟩ := h
      cases event with
      | pass =>
          refine ⟨wf, hsmall, hlarge, fun w τ hw => ?_⟩
          have hw : x.transmitter.due w = some τ := hw
          obtain ⟨hnow, hfar⟩ := hdue w τ hw
          -- time would have waited for a worker that is due now
          have hne : ¬ τ ≤ x.now := fun hle => by
            have hquiet := can_pass_iff.mp hcan w
            rw [isDue_iff.mpr ⟨τ, hw, hle⟩] at hquiet
            exact absurd hquiet (by decide)
          show x.now + 1 ≤ τ ∧ τ ≤ x.now + 1 + longest
          omega
      | perform op =>
          have hwindows := windows_step x.transmitter op
          refine ⟨wf.step op, ?_, ?_, fun w τ hw => ?_⟩
          · exact (congrArg (·.1) hwindows).trans_le hsmall
          · exact (congrArg (·.2) hwindows).trans_le hlarge
          · rw [happen, due_step wf] at hw
            show x.now ≤ τ ∧ τ ≤ x.now + longest
            rcases dueAfter_eq_some hcan hw with hold | rfl | rfl
            · exact hdue w τ hold
            · omega
            · omega

theorem OnTime.run (h : x.OnTime longest) (events : List Event) : (x.run events).OnTime longest :=
  Run.keeps (fun _ event h => h.step event) h events

/-! ## §4  What waits in a buffer, and since when -/

end Timed

variable (wf : t.WellFormed)
include wf

/-- A worker that is due leaves nothing in the buffers of its dispatchers. -/
theorem WellFormed.buffer_runWorker (hd : d < t.dispatchers.length)
    (hdue : t.isDue now (t.dispatcher d).worker = true) :
    ((t.runWorker now (t.dispatcher d).worker).1.dispatcher d).buffer = [] := by
  rw [wf.dispatcher_runWorker now _ hd]
  cases hclosed : (t.dispatcher d).closed with
  | true =>
      rw [if_neg (by simp [flushes, hclosed])]
      exact (wf.sound d).empty hclosed
  | false =>
      rw [if_pos ⟨rfl, by simp [flushes, hdue, hclosed]⟩]
      exact Dispatcher.buffer_settled _

/-- As long as a buffer is not emptied, its worker flushes when it would have. -/
theorem WellFormed.due_step_of_buffer (hne : ((t.step op).dispatcher d).buffer ≠ []) {τ : Nat}
    (hdue : t.due (t.dispatcher d).worker = some τ) :
    (t.step op).due (t.dispatcher d).worker = some τ := by
  have hd := wf.lt_of_buffer_step hne
  rw [due_step wf]
  cases op with
  | dispatch now e request =>
      rw [dueAfter, hdue]
      exact ite_self _
  | runWorker now v =>
      rw [dueAfter, if_neg, hdue]
      rintro ⟨rfl, hflush⟩
      exact hne (wf.buffer_runWorker hd hflush)
  | close =>
      rw [dueAfter, if_neg, hdue]
      intro hopen
      rw [dispatcher_step wf hd, effect, if_pos hopen] at hne
      exact hne (wf.sound d).buffer_closing
  | _ => exact hdue

/-- The worker of a dispatcher that has buffered a request is not idle. -/
theorem WellFormed.due_of_accepted (hne : ((t.step op).dispatcher d).buffer ≠ [])
    (haccepted : accepted d (t.noted op) ≠ []) :
    ∃ τ, (t.step op).due (t.dispatcher d).worker = some τ := by
  have hd := wf.lt_of_buffer_step hne
  cases helse : op.elsewhere d with
  | true => exact absurd (effect_of_elsewhere helse).2.1 haccepted
  | false =>
      cases op with
      | dispatch now e request =>
          obtain rfl : e = d := by simpa [Op.elsewhere] using helse
          cases h : t.accepts e with
          | false =>
              simp [noted, dispatch_of_not_accepts h, accepted, Except.isOk, Except.toBool]
                at haccepted
          | true =>
              rw [due_step wf, dueAfter, if_pos ⟨h, rfl⟩]
              exact ⟨_, rfl⟩
      | dispatchNow e request =>
          obtain rfl : e = d := by simpa [Op.elsewhere] using helse
          cases h : t.accepts e with
          | false =>
              simp [noted, dispatchNow_of_not_accepts h, accepted, Except.isOk, Except.toBool]
                at haccepted
          | true =>
              rw [dispatcher_step wf hd, effect, if_pos ⟨rfl, h⟩] at hne
              exact absurd (Dispatcher.buffer_settled _) hne
      | pull e => exact absurd (accepted_received d e _) haccepted
      | _ => exact absurd rfl haccepted

/-- A worker becomes idle when it is due and has no members, or when it is dismissed. -/
theorem WellFormed.idle_step {τ : Nat} (hdue : t.due w = some τ)
    (hidle : (t.step op).due w = none) :
    op = .close ∨ ∃ now, op = .runWorker now w ∧ τ ≤ now ∧ t.members w = [] := by
  rw [due_step wf] at hidle
  cases op with
  | dispatch now e request =>
      rw [dueAfter, hdue] at hidle
      split at hidle <;> simp at hidle
  | runWorker now v =>
      rw [dueAfter] at hidle
      split at hidle
      · rename_i hflush
        obtain ⟨rfl, hflush⟩ := hflush
        obtain ⟨τ', hτ, hle⟩ := isDue_iff.mp hflush
        obtain rfl : τ = τ' := by simpa [hdue] using hτ
        rw [nextFlush] at hidle
        split at hidle
        · exact .inr ⟨now, rfl, hle, List.isEmpty_iff.mp ‹_›⟩
        · simp at hidle
      · simp [hdue] at hidle
  | close => exact .inl rfl
  | _ => exact absurd (hdue.symm.trans hidle) (by simp)

/-- A worker that was due has flushed for now, and wakes no other. -/
theorem WellFormed.isDue_runWorker (hlarge : 1 ≤ t.largeWindow) {v : Nat}
    (hv : v = w ∨ t.isDue now v = false) : (t.step (.runWorker now w)).isDue now v = false := by
  rw [Bool.eq_false_iff, ne_eq, isDue_iff, due_step wf, dueAfter]
  rintro ⟨τ, hτ, hle⟩
  split at hτ
  · rw [nextFlush] at hτ
    split at hτ
    · simp at hτ
    · have hnext : now + t.largeWindow = τ := Option.some.inj hτ
      omega
  · rename_i hother
    have hdue : t.isDue now v = true := isDue_iff.mpr ⟨τ, hτ, hle⟩
    rcases hv with rfl | hv
    · exact hother ⟨rfl, hdue⟩
    · rw [hdue] at hv
      exact absurd hv (by decide)

omit wf

namespace Timed

variable {x : Timed} {longest : Nat} {waiting : List (Nat × Request)}

/-- The requests in a buffer, with the times at which they came, leave in time. -/
structure Waits (longest d : Nat) (x : Timed) (waiting : List (Nat × Request)) : Prop where
  buffer : waiting.map (·.2) = (x.transmitter.dispatcher d).buffer
  due : ∀ entry ∈ waiting, ∃ τ,
    x.transmitter.due (x.transmitter.dispatcher d).worker = some τ ∧ τ ≤ entry.1 + longest

theorem Waits.nil (h : (x.transmitter.dispatcher d).buffer = []) : x.Waits longest d [] :=
  ⟨h.symm, fun _ hmem => absurd hmem List.not_mem_nil⟩

theorem stamped_perform {op : Op} (hcan : x.can (.perform op) = true) :
    stamped d x (.perform op) = (accepted d (x.transmitter.noted op)).map (x.now, ·) :=
  if_pos hcan

/-- **A step.** Either everything in a buffer leaves, or what is accepted joins what waits there. -/
theorem Waits.step (h : x.Waits longest d waiting) (hx : x.OnTime longest) (event : Event) :
    ∃ gone waiting', waiting ++ stamped d x event = gone ++ waiting' ∧
      (x.step event).Waits longest d waiting' := by
  cases hcan : x.can event with
  | false =>
      have hnone : stamped d x event = [] := by
        cases event with
        | pass => rfl
        | perform op => exact if_neg (Bool.eq_false_iff.mp hcan)
      rw [step_of_not_can hcan, hnone, List.append_nil]
      exact ⟨[], waiting, rfl, h⟩
  | true =>
      have hlater := hx.step event
      rw [step_of_can hcan] at hlater ⊢
      cases event with
      | pass => exact ⟨[], waiting, List.append_nil _, h.buffer, h.due⟩
      | perform op =>
          by_cases hempty : ((x.transmitter.step op).dispatcher d).buffer = []
          · exact ⟨_, [], (List.append_nil _).symm, .nil hempty⟩
          · have wf := hx.wellFormed
            have hplace : ((x.transmitter.step op).dispatcher d).worker =
                (x.transmitter.dispatcher d).worker := by
              rw [dispatcher_step wf (wf.lt_of_buffer_step hempty), worker_effect]
            rw [stamped_perform hcan]
            refine ⟨[], waiting ++ (accepted d (x.transmitter.noted op)).map (x.now, ·), rfl, ?_,
              fun entry hentry => ?_⟩
            · show _ = ((x.transmitter.step op).dispatcher d).buffer
              rw [wf.buffer_step hempty, List.map_append, h.buffer, List.map_map]
              exact congrArg _ (List.map_id _)
            · show ∃ τ, (x.transmitter.step op).due
                ((x.transmitter.step op).dispatcher d).worker = some τ ∧ τ ≤ entry.1 + longest
              rw [hplace]
              rcases List.mem_append.mp hentry with hold | hnew
              · obtain ⟨τ, hτ, hle⟩ := h.due entry hold
                exact ⟨τ, wf.due_step_of_buffer hempty hτ, hle⟩
              · obtain ⟨request, hrequest, rfl⟩ := List.mem_map.mp hnew
                obtain ⟨τ, hτ⟩ := wf.due_of_accepted hempty (List.ne_nil_of_mem hrequest)
                exact ⟨τ, hτ, (hlater.due _ τ hτ).2⟩

/-- **A run.** A buffer holds the requests that were accepted last, and they leave in time. -/
theorem waits_run (hx : x.OnTime longest) (hempty : (x.transmitter.dispatcher d).buffer = [])
    (events : List Event) :
    ∃ gone waiting, stamps d x events = gone ++ waiting ∧
      (x.run events).Waits longest d waiting := by
  induction events using List.reverseRecOn with
  | nil => exact ⟨[], [], rfl, .nil hempty⟩
  | append_singleton events event ih =>
      obtain ⟨gone, waiting, hstamps, hwaits⟩ := ih
      obtain ⟨gone', waiting', hmore, hwaits'⟩ := hwaits.step (hx.run events) event
      refine ⟨gone ++ gone', waiting', ?_, ?_⟩
      · rw [stamps_snoc, hstamps, List.append_assoc, hmore, List.append_assoc]
      · rw [run_snoc]
        exact hwaits'

/-- Every worker that is due flushes. -/
def flushes (x : Timed) : List Event :=
  (List.range x.transmitter.workers.length).map fun w => .perform (.runWorker x.now w)

/-- Once the workers that are due have flushed, time goes on. -/
theorem OnTime.can_pass (hx : x.OnTime longest) (hlarge : 1 ≤ x.transmitter.largeWindow) :
    (x.run x.flushes).can .pass = true := by
  have hworkers : ∀ (ws : List Nat) (y : Timed), y.OnTime longest → y.now = x.now →
      1 ≤ y.transmitter.largeWindow →
      let z := y.run (ws.map fun w => .perform (.runWorker x.now w))
      z.now = x.now ∧
        ∀ w, w ∈ ws ∨ y.transmitter.isDue x.now w = false →
          z.transmitter.isDue x.now w = false := by
    intro ws
    induction ws with
    | nil => exact fun y _ hnow _ => ⟨hnow, fun w hw => hw.resolve_left List.not_mem_nil⟩
    | cons v ws ih =>
        intro y hy hnow hwide
        have hcan : y.can (.perform (.runWorker x.now v)) = true := by simp [can, Op.isAt, hnow]
        have hstep : y.step (.perform (.runWorker x.now v)) =
            { y with transmitter := y.transmitter.step (.runWorker x.now v) } := step_of_can hcan
        have hwindows := windows_step y.transmitter (.runWorker x.now v)
        obtain ⟨hend, hquiet⟩ := ih (y.step (.perform (.runWorker x.now v))) (hy.step _)
          (by rw [hstep]; exact hnow)
          (by rw [hstep]; exact hwide.trans_eq (congrArg (·.2) hwindows).symm)
        refine ⟨hend, fun w hw => hquiet w ?_⟩
        rw [hstep]
        rcases hw with hmem | hdone
        · rcases List.mem_cons.mp hmem with rfl | hmem
          · exact .inr (hy.wellFormed.isDue_runWorker hwide (.inl rfl))
          · exact .inl hmem
        · exact .inr (hy.wellFormed.isDue_runWorker hwide (.inr hdone))
  obtain ⟨hnow, hquiet⟩ := hworkers (List.range x.transmitter.workers.length) x hx rfl hlarge
  rw [flushes, can_pass_iff, hnow]
  intro w
  rcases Nat.lt_or_ge w x.transmitter.workers.length with hlt | hge
  · exact hquiet w (.inl (List.mem_range.mpr hlt))
  · exact hquiet w (.inr (isDue_of_le hge _))

/-- **Nothing waits too long.** In any run under a clock, whatever is bound, requested at any time,
sent at once or closed: every request in a buffer belongs to a dispatcher that a worker flushes; the
worker is not idle, and its next flush, which it has not missed, is due within the longer of the two
windows after the request came; a worker that is due empties the buffers of all its dispatchers; a
worker becomes idle only when it is due and has no dispatcher, unless the transmitter is closed; and
time is never held up for good, since no worker is due again at the time at which it has flushed. -/
theorem nothing_waits_too_long (config : TransmitterConfig)
    (hlarge : 1 ≤ config.largeWindow.millis) (events : List Event) :
    let longest := max config.smallWindow.millis config.largeWindow.millis
    let x := (start config).run events
    let t := x.transmitter
    (∀ d, (t.dispatcher d).buffer ≠ [] → ∃ w, d ∈ t.members w) ∧
      (∀ w d, d ∈ t.members w → ∃ gone waiting,
        stamps d (start config) events = gone ++ waiting ∧
          waiting.map (·.2) = (t.dispatcher d).buffer ∧
          ∀ entry ∈ waiting, ∃ τ, t.due w = some τ ∧ x.now ≤ τ ∧ τ ≤ entry.1 + longest) ∧
      (∀ w d, d ∈ t.members w → t.isDue x.now w = true →
        ((t.runWorker x.now w).1.dispatcher d).buffer = []) ∧
      (∀ w op, op.isAt x.now = true → t.due w ≠ none → (t.step op).due w = none →
        op = .close ∨ op = .runWorker x.now w ∧ t.due w = some x.now ∧ t.members w = []) ∧
      (x.run x.flushes).can .pass = true := by
  intro longest x t
  have hx : x.OnTime longest := (onTime_start config).run events
  have wf : t.WellFormed := hx.wellFormed
  refine ⟨fun d hne => ?_, fun w d hmem => ?_, fun w d hmem hdue => ?_,
    fun w op hat hdue hidle => ?_, ?_⟩
  · have hd : d < t.dispatchers.length := by
      by_contra hge
      rw [dispatcher_of_le (Nat.not_lt.mp hge)] at hne
      exact hne rfl
    have hopen : (t.dispatcher d).closed = false := by
      by_contra hclosed
      exact hne ((wf.sound d).empty (by simpa using hclosed))
    exact ⟨_, (wf.mem_members _ d).mpr ⟨hd, rfl, hopen⟩⟩
  · obtain ⟨-, rfl, -⟩ := (wf.mem_members w d).mp hmem
    have hempty : ((start config).transmitter.dispatcher d).buffer = [] := by
      rw [dispatcher_of_le (Nat.zero_le d)]
      rfl
    obtain ⟨gone, waiting, hstamps, hwaits⟩ := waits_run (onTime_start config) hempty events
    refine ⟨gone, waiting, hstamps, hwaits.buffer, fun entry hentry => ?_⟩
    obtain ⟨τ, hτ, hle⟩ := hwaits.due entry hentry
    exact ⟨τ, hτ, (hx.due _ τ hτ).1, hle⟩
  · obtain ⟨hd, rfl, -⟩ := (wf.mem_members w d).mp hmem
    exact wf.buffer_runWorker hd hdue
  · obtain ⟨τ, hτ⟩ := Option.ne_none_iff_exists'.mp hdue
    rcases wf.idle_step hτ hidle with rfl | ⟨now, rfl, hle, hmembers⟩
    · exact .inl rfl
    · obtain rfl : now = x.now := by simpa [Op.isAt] using hat
      have hnow := (hx.due w τ hτ).1
      exact .inr ⟨rfl, by rw [hτ, Nat.le_antisymm hle hnow], hmembers⟩
  · refine hx.can_pass ?_
    have hwindows : t.windows = (new config).windows :=
      Run.keeps (P := fun y : Timed => y.transmitter.windows = (new config).windows)
        (fun y event hy => by
          unfold step
          split
          · cases event with
            | pass => exact hy
            | perform op => exact (windows_step _ op).trans hy
          · exact hy) rfl events
    exact hlarge.trans_eq (congrArg (·.2) hwindows).symm

/-- The dispatchers of a worker all close while its window runs, and a new one is bound to it whose
request comes a millisecond before the flush: nobody wakes the worker, and the request leaves with
that flush. -/
theorem nothing_waits_too_long_handover :
    let config : TransmitterConfig := { parallelisation := 1 }
    let request (n : UInt32) : Request := ⟨⟨n⟩, .streamContinue⟩
    let events : List Event :=
      [.perform .bind, .perform (.dispatch 0 0 (request 1)), .pass, .pass,
        .perform (.runWorker 1 0), .pass, .perform (.closeDispatcher 0), .perform .bind, .pass,
        .perform (.dispatch 3 1 (request 2)), .pass]
    let x := (start config).run events
    1 ≤ config.largeWindow.millis ∧ 1 ∈ x.transmitter.members 0 ∧ x.now = 4 ∧
      (∃ gone waiting, stamps 1 (start config) events = gone ++ waiting ∧
        waiting.map (·.2) = [request 2] ∧ ∀ entry ∈ waiting, ∃ τ,
          x.transmitter.due 0 = some τ ∧ 4 ≤ τ ∧ τ ≤ entry.1 + 3) ∧
      ((x.transmitter.runWorker 4 0).1.dispatcher 1).buffer = [] ∧
      stamps 1 (start config) events = [(3, request 2)] := by
  intro config request events x
  obtain ⟨-, hwaits, hflush, -, -⟩ := nothing_waits_too_long config (by decide +kernel) events
  have hmem : 1 ∈ x.transmitter.members 0 := by decide +kernel
  have hbuffer : (x.transmitter.dispatcher 1).buffer = [request 2] := by decide +kernel
  have hnow : x.now = 4 := by decide +kernel
  have hlongest : max config.smallWindow.millis config.largeWindow.millis = 3 := by decide +kernel
  refine ⟨by decide +kernel, hmem, hnow, ?_, ?_, by decide +kernel⟩
  · have h := hwaits 0 1 hmem
    rw [show ((start config).run events).transmitter.dispatcher 1 =
      x.transmitter.dispatcher 1 from rfl, hbuffer] at h
    rw [show ((start config).run events).now = 4 from hnow, hlongest] at h
    exact h
  · have h := hflush 0 1 hmem (by decide +kernel)
    rwa [show ((start config).run events).now = 4 from hnow] at h

end Timed

end Transmitter

end GraphDriver
