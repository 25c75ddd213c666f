import Mathlib.Data.List.Infix
import GraphDriver.Proofs.Stream.Ordering

/-!
# Refusals

Batches that a queue refuses, because nobody pulls from it any more. Whoever makes the attempt, the
refusal is heard once, by the hook of the dispatcher, and holds up no other flush; and nothing of
the batch is received, then or later.

* §1 what an operation puts into the queues
* §2 what the hooks hear
* §3 what becomes of the requests
-/

namespace GraphDriver

/-! ## §1  What an operation puts into the queues -/

/-- A batch that was put into the queue of a dispatcher, and what the queue answered. -/
structure Attempt where
  dispatcher : Nat
  batch : ClientMessage
  answer : Except Error Unit
deriving DecidableEq

/-- The calls of a hook that an attempt leads to. -/
def Attempt.calls (a : Attempt) (hook : Option Hook) : List Report :=
  match a.answer with
  | .ok () => []
  | .error error => hook.toList.map fun hook => { label := hook.label, error }

namespace Dispatcher

variable {x : Dispatcher} {d : Nat} {a : Attempt}

/-- What a flush puts into the queue: all that is buffered, if there is something. -/
def attempt (x : Dispatcher) (d : Nat) : Option Attempt :=
  if x.buffer = [] then none else some ⟨d, ⟨x.buffer⟩, (x.queue.put ⟨x.buffer⟩).1⟩

theorem attempt_eq_some :
    x.attempt d = some a ↔ x.buffer ≠ [] ∧ a = ⟨d, ⟨x.buffer⟩, (x.queue.put ⟨x.buffer⟩).1⟩ := by
  unfold attempt
  split
  · simp [*]
  · simp [*, eq_comm]

/-- The hook hears of a flush what it hears of the attempt. -/
theorem reports_eq (x : Dispatcher) (d : Nat) :
    x.reports = (x.attempt d).toList.flatMap fun a => a.calls x.hook := by
  unfold reports refusal attempt
  by_cases hbuffer : x.buffer = []
  · simp [hbuffer]
  · simp only [hbuffer, List.isEmpty_iff, if_false, Option.toList_some, List.flatMap_singleton,
      Attempt.calls]
    cases (x.queue.put ⟨x.buffer⟩).1 with
    | ok u => rfl
    | error error => cases x.hook <;> rfl

/-- A queue takes a batch that it does not refuse. -/
theorem batches_of_attempt (h : x.attempt d = some a) :
    x.flushed.queue.batches =
      x.queue.batches ++ if a.answer.isOk then [a.batch] else [] := by
  obtain ⟨hbuffer, rfl⟩ := attempt_eq_some.mp h
  rw [flushed, if_neg (by simpa using hbuffer)]
  unfold RequestQueue.put
  split
  · simp [Except.isOk, Except.toBool]
  · split <;> simp [Except.isOk, Except.toBool]

theorem batches_closing_of_open (hopen : x.closed = false) :
    x.closing.queue.batches = x.flushed.queue.batches := by
  rw [closing, if_neg (by simp [hopen])]
  rfl

/-- A refusal has one reason: the other end of the queue was let go. -/
theorem Sound.abandoned_of_refused (h : x.Sound) (hattempt : x.attempt d = some a) {error : Error}
    (hrefused : a.answer = .error error) :
    x.queue.abandoned = true ∧ error = RequestQueue.refusal := by
  obtain ⟨hbuffer, rfl⟩ := attempt_eq_some.mp hattempt
  have hrefusal : x.refusal = some error := by
    rw [refusal, if_neg (by simpa using hbuffer)]
    dsimp only at hrefused
    rw [hrefused]
  refine ⟨?_, h.eq_of_refusal hrefusal⟩
  rw [h.refusal_eq] at hrefusal
  split at hrefusal
  · rename_i hlost
    exact hlost.1
  · simp at hrefusal

end Dispatcher

namespace Transmitter

variable {t : Transmitter} {d : Nat} {op : Op} {a : Attempt} {error : Error}

/-- The dispatchers whose buffers an operation flushes, in order. -/
def flushing (t : Transmitter) : Op → List Nat
  | .dispatchNow d _ => if d < t.dispatchers.length ∧ t.accepts d then [d] else []
  | .runWorker now w => if t.isDue now w then t.members w else []
  | .closeDispatcher d =>
    if d < t.dispatchers.length ∧ (t.dispatcher d).closed = false then [d] else []
  | .close => if t.isOpen then t.workers.flatMap (·.members) else []
  | _ => []

/-- A dispatcher as an operation flushes it: a request that is sent at once joins what is buffered.
-/
def loaded (t : Transmitter) (d : Nat) : Op → Dispatcher
  | .dispatchNow _ request => (t.dispatcher d).buffered request
  | _ => t.dispatcher d

/-- The batches that an operation puts into the queues. -/
def attempts (t : Transmitter) (op : Op) : List Attempt :=
  (t.flushing op).filterMap fun d => (t.loaded d op).attempt d

/-- The hooks that an operation calls. -/
def reported (t : Transmitter) : Op → List Report
  | .dispatchNow d request => (t.dispatchNow d request).2.2
  | .runWorker now w => (t.runWorker now w).2
  | .closeDispatcher d => (t.closeDispatcher d).2
  | .close => t.close.2
  | _ => []

@[simp] theorem hook_loaded (t : Transmitter) (d : Nat) (op : Op) :
    (t.loaded d op).hook = (t.dispatcher d).hook := by
  cases op <;> rfl

theorem mem_attempts :
    a ∈ t.attempts op ↔ a.dispatcher ∈ t.flushing op ∧
      (t.loaded a.dispatcher op).attempt a.dispatcher = some a := by
  rw [attempts, List.mem_filterMap]
  constructor
  · rintro ⟨d, hd, ha⟩
    obtain rfl : a.dispatcher = d := by rw [(Dispatcher.attempt_eq_some.mp ha).2]
    exact ⟨hd, ha⟩
  · rintro ⟨hd, ha⟩
    exact ⟨_, hd, ha⟩

/-- Nobody is a member twice. -/
theorem WellFormed.nodup_everyone (wf : t.WellFormed) : (t.workers.flatMap (·.members)).Nodup := by
  have hmembers : ∀ i (hi : i < t.workers.length), t.workers[i].members = t.members i := by
    intro i hi
    rw [members, worker, List.getD_eq_getElem _ _ hi]
  rw [List.nodup_flatMap]
  refine ⟨fun x hx => ?_, List.pairwise_iff_getElem.mpr fun i j hi hj hij => ?_⟩
  · obtain ⟨i, hi, rfl⟩ := List.mem_iff_getElem.mp hx
    rw [hmembers]
    exact wf.nodup i
  · -- a member of two workers would be bound to both
    simp only [Function.onFun, hmembers]
    intro d hdi hdj
    have hi' := ((wf.mem_members i d).mp hdi).2.1
    have hj' := ((wf.mem_members j d).mp hdj).2.1
    exact Nat.ne_of_lt hij (hi'.symm.trans hj')

theorem WellFormed.nodup_flushing (wf : t.WellFormed) (op : Op) : (t.flushing op).Nodup := by
  unfold flushing
  split
  · split <;> simp
  · split
    · exact wf.nodup _
    · exact List.nodup_nil
  · split <;> simp
  · split
    · exact wf.nodup_everyone
    · exact List.nodup_nil
  · exact List.nodup_nil

/-- Only open dispatchers are flushed. -/
theorem WellFormed.open_of_flushing (wf : t.WellFormed) (h : d ∈ t.flushing op) :
    d < t.dispatchers.length ∧ (t.dispatcher d).closed = false := by
  cases op with
  | dispatchNow e request =>
      simp only [flushing] at h
      split at h
      · rename_i hopen
        obtain rfl := List.mem_singleton.mp h
        exact ⟨hopen.1, closed_of_accepts hopen.2⟩
      · exact absurd h List.not_mem_nil
  | runWorker now w =>
      simp only [flushing] at h
      split at h
      · obtain ⟨hd, -, hopen⟩ := (wf.mem_members w d).mp h
        exact ⟨hd, hopen⟩
      · exact absurd h List.not_mem_nil
  | closeDispatcher e =>
      simp only [flushing] at h
      split at h
      · rename_i hopen
        obtain rfl := List.mem_singleton.mp h
        exact hopen
      · exact absurd h List.not_mem_nil
  | close =>
      simp only [flushing] at h
      split at h
      · obtain ⟨w, hw⟩ := mem_everyone.mp h
        obtain ⟨hd, -, hopen⟩ := (wf.mem_members w d).mp hw
        exact ⟨hd, hopen⟩
      · exact absurd h List.not_mem_nil
  | _ => exact absurd h List.not_mem_nil

/-- A flush settles a dispatcher, or closes it. -/
theorem WellFormed.effect_of_flushing (wf : t.WellFormed) (h : d ∈ t.flushing op) :
    t.effect d op = (t.loaded d op).settled ∨
      t.effect d op = (t.loaded d op).closing ∧ (t.loaded d op).closed = false := by
  obtain ⟨hd, hopen⟩ := wf.open_of_flushing h
  cases op with
  | dispatchNow e request =>
      simp only [flushing] at h
      split at h
      · rename_i haccepts
        obtain rfl := List.mem_singleton.mp h
        exact .inl (if_pos ⟨rfl, haccepts.2⟩)
      · exact absurd h List.not_mem_nil
  | runWorker now w =>
      simp only [flushing] at h
      split at h
      · obtain rfl := ((wf.mem_members w d).mp h).2.1
        exact .inl (if_pos ⟨rfl, by simp [flushes, *]⟩)
      · exact absurd h List.not_mem_nil
  | closeDispatcher e =>
      simp only [flushing] at h
      split at h
      · obtain rfl := List.mem_singleton.mp h
        exact .inr ⟨if_pos rfl, hopen⟩
      · exact absurd h List.not_mem_nil
  | close =>
      simp only [flushing] at h
      split at h
      · exact .inr ⟨if_pos ‹_›, hopen⟩
      · exact absurd h List.not_mem_nil
  | _ => exact absurd h List.not_mem_nil

theorem WellFormed.sound_loaded (wf : t.WellFormed) (h : d ∈ t.flushing op) :
    (t.loaded d op).Sound := by
  have hopen := (wf.open_of_flushing h).2
  cases op with
  | dispatchNow e request => exact (wf.sound d).buffered hopen request
  | _ => exact wf.sound d

/-- A dispatcher that is flushed has nothing left in its buffer. -/
theorem WellFormed.buffer_of_flushing (wf : t.WellFormed) (h : d ∈ t.flushing op) :
    ((t.step op).dispatcher d).buffer = [] := by
  rw [dispatcher_step wf (wf.open_of_flushing h).1]
  rcases wf.effect_of_flushing h with heffect | ⟨heffect, -⟩
  · rw [heffect, Dispatcher.buffer_settled]
  · rw [heffect, (wf.sound_loaded h).buffer_closing]

theorem answer_of_attempt (ha : a ∈ t.attempts op) :
    a.batch.requests ≠ [] ∧ a.answer = ((t.dispatcher a.dispatcher).queue.put a.batch).1 := by
  obtain ⟨hbuffer, hattempt⟩ := Dispatcher.attempt_eq_some.mp (mem_attempts.mp ha).2
  have hqueue : (t.loaded a.dispatcher op).queue = (t.dispatcher a.dispatcher).queue := by
    cases op <;> rfl
  rw [← hqueue, hattempt]
  exact ⟨hbuffer, rfl⟩

theorem WellFormed.nodup_attempts (wf : t.WellFormed) (op : Op) :
    ((t.attempts op).map (·.dispatcher)).Nodup := by
  rw [attempts, List.map_filterMap]
  refine (wf.nodup_flushing op).filterMap fun d e b hd he => ?_
  have hname : ∀ {x : Dispatcher} {d : Nat}, b ∈ (x.attempt d).map (·.dispatcher) → d = b := by
    intro x d hb
    obtain ⟨a, ha, rfl⟩ := Option.map_eq_some_iff.mp hb
    rw [(Dispatcher.attempt_eq_some.mp ha).2]
  exact (hname hd).trans (hname he).symm

/-- What was put into a queue is in it, unless it was refused. -/
theorem WellFormed.batches_of_attempt (wf : t.WellFormed) (ha : a ∈ t.attempts op) :
    ((t.step op).dispatcher a.dispatcher).queue.batches =
      (t.dispatcher a.dispatcher).queue.batches ++ if a.answer.isOk then [a.batch] else [] := by
  obtain ⟨hflushing, hattempt⟩ := mem_attempts.mp ha
  have hqueue : (t.loaded a.dispatcher op).queue = (t.dispatcher a.dispatcher).queue := by
    cases op <;> rfl
  rw [dispatcher_step wf (wf.open_of_flushing hflushing).1, ← hqueue,
    ← Dispatcher.batches_of_attempt hattempt]
  rcases wf.effect_of_flushing hflushing with heffect | ⟨heffect, hopen⟩
  · rw [heffect, Dispatcher.batches_settled]
  · rw [heffect, Dispatcher.batches_closing_of_open hopen]

/-- A dispatcher that is not flushed keeps what it has buffered. -/
theorem WellFormed.buffer_of_not_flushing (wf : t.WellFormed) (h : d ∉ t.flushing op) :
    (t.dispatcher d).buffer <+: ((t.step op).dispatcher d).buffer := by
  by_cases hd : d < t.dispatchers.length
  · rw [dispatcher_step wf hd]
    cases op with
    | bind => exact List.prefix_rfl
    | dispatch now e request =>
        rw [effect]
        split
        · exact List.prefix_append _ _
        · exact List.prefix_rfl
    | dispatchNow e request =>
        have hother : ¬ (d = e ∧ t.accepts e = true) := by
          rintro ⟨rfl, haccepts⟩
          exact h (by simp [flushing, hd, haccepts])
        rw [effect, if_neg hother]
    | runWorker now w =>
        have hother : ¬ ((t.dispatcher d).worker = w ∧ t.flushes now d = true) := by
          rintro ⟨rfl, hflush⟩
          rw [flushes, Bool.and_eq_true, Bool.not_eq_true'] at hflush
          refine h ?_
          rw [flushing, if_pos hflush.1]
          exact (wf.mem_members _ d).mpr ⟨hd, rfl, hflush.2⟩
        rw [effect, if_neg hother]
    | closeDispatcher e =>
        rw [effect]
        split
        · subst e
          have hclosed : (t.dispatcher d).closed = true := by
            by_contra hopen
            exact h (by simp [flushing, hd, hopen])
          rw [Dispatcher.closing_of_closed hclosed]
        · exact List.prefix_rfl
    | close =>
        rw [effect]
        split
        · rename_i hopen
          have hclosed : (t.dispatcher d).closed = true := by
            by_contra hne
            refine h ?_
            rw [flushing, if_pos hopen]
            exact mem_everyone.mpr ⟨_, (wf.mem_members _ d).mpr ⟨hd, rfl, by simpa using hne⟩⟩
          rw [Dispatcher.closing_of_closed hclosed]
        · exact List.prefix_rfl
    | _ =>
        rw [effect]
        split <;> exact List.prefix_rfl
  · rw [dispatcher_of_le (Nat.not_lt.mp hd)]
    exact List.nil_prefix

/-! ## §2  What the hooks hear -/

/-- Dispatchers that are closed one after another are each heard as if it were alone. -/
theorem log_closeDispatcher {ds : List Nat} (hds : ds.Nodup) (t : Transmitter)
    (hlt : ∀ d ∈ ds, d < t.dispatchers.length) :
    Run.log (fun t d => (t.closeDispatcher d).1) (fun t d => (t.closeDispatcher d).2) t ds =
      ds.flatMap fun d => if (t.dispatcher d).closed then [] else (t.dispatcher d).reports := by
  induction ds generalizing t with
  | nil => rfl
  | cons d ds ih =>
      rw [List.nodup_cons] at hds
      have hlength := length_of_shape (shape_closeDispatcher t d)
      have hrest := fun e he => hlt e (List.mem_cons_of_mem d he)
      rw [Run.log, closeDispatcher_snd, List.flatMap_cons,
        ih hds.2 _ (fun e he => by rw [hlength]; exact hrest e he)]
      congr 1
      refine List.flatMap_congr fun e he => ?_
      have hne : e ≠ d := fun heq => hds.1 (heq ▸ he)
      rw [dispatcher_closeDispatcher (hrest e he), if_neg hne]

theorem WellFormed.reports_close (wf : t.WellFormed) (hopen : t.isOpen = true) :
    t.close.2 = (t.workers.flatMap (·.members)).flatMap fun d => (t.dispatcher d).reports := by
  have hmember : ∀ d ∈ t.workers.flatMap (·.members),
      d < t.dispatchers.length ∧ (t.dispatcher d).closed = false := by
    intro d hd
    have hflushed : d ∈ t.flushing .close := by rwa [flushing, if_pos hopen]
    exact wf.open_of_flushing hflushed
  rw [close_of_open hopen,
    log_closeDispatcher wf.nodup_everyone t.dismissed fun d hd => (hmember d hd).1]
  refine List.flatMap_congr fun d hd => ?_
  rw [show t.dismissed.dispatcher d = t.dispatcher d from rfl, if_neg (by simp [hmember d hd])]

theorem WellFormed.reported_flushing (wf : t.WellFormed) (op : Op) :
    t.reported op = (t.flushing op).flatMap fun d => (t.loaded d op).reports := by
  cases op with
  | dispatchNow d request =>
      rw [reported, flushing]
      cases h : t.accepts d with
      | false =>
          rw [dispatchNow_of_not_accepts h]
          simp
      | true =>
          by_cases hd : d < t.dispatchers.length
          · rw [dispatchNow_snd_snd hd h, if_pos ⟨hd, rfl⟩, List.flatMap_singleton]
            rfl
          · -- there is nobody who could hear of it
            rw [dispatchNow_of_accepts h, if_neg (fun hlt => hd hlt.1)]
            split
            · rfl
            · rw [refused_snd, dispatcher_of_le]
              · rfl
              · rw [length_of_shape (shape_flush _ _), length_of_shape (shape_buffer _ _ _)]
                exact Nat.not_lt.mp hd
  | runWorker now w =>
      rw [reported, (runWorker_spec now (wf.nodup w)).2.2.2, flushing]
      cases t.isDue now w <;> rfl
  | closeDispatcher d =>
      rw [reported, closeDispatcher_snd, flushing]
      by_cases hd : d < t.dispatchers.length
      · cases hclosed : (t.dispatcher d).closed with
        | true => simp
        | false =>
            rw [if_neg (by simp), if_pos ⟨hd, rfl⟩, List.flatMap_singleton]
            rfl
      · have hnone : (t.dispatcher d).reports = [] := by
          rw [dispatcher_of_le (Nat.not_lt.mp hd)]
          rfl
        rw [hnone, ite_self, if_neg fun hlt => hd hlt.1]
        rfl
  | close =>
      rw [reported, flushing]
      cases hopen : t.isOpen with
      | false =>
          rw [close_of_closed hopen]
          simp
      | true =>
          rw [wf.reports_close hopen, if_pos rfl]
          rfl
  | _ => rfl

/-- **Every refusal is heard once**, in order, by the hook of its dispatcher, and no hook hears
anything else. -/
theorem WellFormed.reported_eq (wf : t.WellFormed) (op : Op) :
    t.reported op =
      (t.attempts op).flatMap fun a => a.calls (t.dispatcher a.dispatcher).hook := by
  rw [wf.reported_flushing, attempts, List.filterMap_eq_flatMap_toList, List.flatMap_assoc]
  refine List.flatMap_congr fun d _ => ?_
  rw [Dispatcher.reports_eq _ d, hook_loaded]
  refine List.flatMap_congr fun a ha => ?_
  obtain ⟨-, rfl⟩ := Dispatcher.attempt_eq_some.mp (Option.mem_toList.mp ha)
  rfl

/-! ## §3  What becomes of the requests -/

/-- A buffer holds what it held and what was accepted, unless it was emptied. -/
theorem WellFormed.buffer_is_suffix (wf : t.WellFormed) (d : Nat) (op : Op) :
    ((t.step op).dispatcher d).buffer <:+ (t.dispatcher d).buffer ++ accepted d (t.noted op) := by
  by_cases hnone : ((t.step op).dispatcher d).buffer = []
  · rw [hnone]
    exact List.nil_suffix
  · rw [wf.buffer_step hnone]

/-- From a queue that was let go nothing is pulled any more. -/
theorem Vacant.received_run_eq_nil (hvacant : t.Vacant d) (wf : t.WellFormed)
    (hd : d < t.dispatchers.length) (hgone : (t.dispatcher d).queue.abandoned = true)
    (ops : List Op) : received d (t.notes ops) = [] := by
  induction ops generalizing t with
  | nil => rfl
  | cons op ops ih =>
      have hstill : (t.effect d op).queue.abandoned = true := by
        rw [abandoned_effect, hgone, Bool.true_or]
      have hrest := ih (hvacant.step wf hd op) (wf.step op)
        (Nat.lt_of_lt_of_le hd (length_step wf op)) (by rwa [dispatcher_step wf hd])
      rw [show t.notes (op :: ops) = t.noted op ++ (t.step op).notes ops from rfl,
        received_append, hvacant.received_eq_nil hstill, hrest, List.append_nil]

/-- The requests that a dispatcher had and was given, in order, are those that its receiver has
pulled, those that are lost, and those that are on their way. -/
theorem divided_run (hvacant : t.Vacant d) (wf : t.WellFormed) (hd : d < t.dispatchers.length)
    (ops : List Op) :
    ∃ lost, (t.dispatcher d).outgoing ++ accepted d (t.notes ops) =
      (received d (t.notes ops)).flatMap (·.requests) ++ lost ++
        ((t.run ops).dispatcher d).outgoing := by
  induction ops using List.reverseRecOn with
  | nil => exact ⟨[], by simp [run, notes, Run.log, received, accepted]⟩
  | append_singleton ops op ih =>
      have hlt := lt_length_run wf hd ops
      have wf' := wf.run ops
      cases hgone : ((t.run (ops ++ [op])).dispatcher d).queue.abandoned with
      | false =>
          refine ⟨[], ?_⟩
          rw [List.append_nil]
          exact (outgoing_run wf hd (ops ++ [op]) hgone).symm
      | true =>
          -- the queue is empty then, and what leaves the buffer is lost
          obtain ⟨lost, haccount⟩ := ih
          obtain ⟨emptied, hbuffer⟩ := wf'.buffer_is_suffix d op
          have hempty := (hvacant.run wf hd (ops ++ [op])) hgone
          rw [run_snoc, dispatcher_step wf' hlt] at hgone
          have hnone := (hvacant.run wf hd ops).received_eq_nil hgone
          refine ⟨lost ++ ((t.run ops).dispatcher d).queue.batches.flatMap (·.requests) ++ emptied,
            ?_⟩
          rw [run_snoc] at hempty ⊢
          rw [notes_snoc, accepted_append, received_append, hnone, List.append_nil,
            ← List.append_assoc, haccount, Dispatcher.outgoing, Dispatcher.outgoing, hempty]
          simp only [List.flatMap_nil, List.nil_append, List.append_assoc, hbuffer]

theorem buffer_loaded (h : d ∈ t.flushing op) :
    (t.loaded d op).buffer = (t.dispatcher d).buffer ++ op.offered d := by
  cases op with
  | dispatchNow e request =>
      simp only [flushing] at h
      split at h
      · obtain rfl := List.mem_singleton.mp h
        rw [Op.offered, if_pos rfl]
        rfl
      · exact absurd h List.not_mem_nil
  | dispatch now e request => exact absurd h List.not_mem_nil
  | _ => exact (List.append_nil _).symm

/-- Every dispatcher was bound at some time. -/
theorem bound_of_lt (config : TransmitterConfig) (ops : List Op)
    (hd : d < ((new config).run ops).dispatchers.length) :
    ∃ before after, ops = before ++ .bind :: after ∧
      ((new config).run before).bind.1 = .ok d := by
  induction ops using List.reverseRecOn with
  | nil => exact absurd hd (Nat.not_lt_zero d)
  | append_singleton ops op ih =>
      have wf := (wellFormed_new config).run ops
      by_cases hlt : d < ((new config).run ops).dispatchers.length
      · obtain ⟨before, after, rfl, hbound⟩ := ih hlt
        exact ⟨before, after ++ [op], by simp, hbound⟩
      · rw [run_snoc] at hd
        have hop : op = .bind := by
          by_contra hne
          rw [length_step_of_ne_bind wf hne] at hd
          exact hlt hd
        subst hop
        have hopen : ((new config).run ops).isOpen = true := by
          by_contra hclosed
          rw [step, bind_of_closed (by simpa using hclosed)] at hd
          exact hlt hd
        obtain ⟨hok, -, hlength, -⟩ := bind_of_open hopen wf.manned
        rw [step, hlength] at hd
        have hnew : d = ((new config).run ops).dispatchers.length := by omega
        exact ⟨ops, [], rfl, by rw [hok, hnew]⟩

/-- **A refused batch is lost.** Of the requests that its dispatcher was given, in order, the ones
that the receiver ever pulls come first, and the batch comes last. -/
theorem lost_of_refused (config : TransmitterConfig) {ops : List Op}
    (ha : a ∈ ((new config).run ops).attempts op) (hrefused : a.answer = .error error) :
    ∃ before after, ops = before ++ .bind :: after ∧
      ((new config).run before).bind.1 = .ok a.dispatcher ∧
      let t := ((new config).run before).step .bind
      ∀ later, ∃ lost, accepted a.dispatcher (t.notes after) ++ op.offered a.dispatcher =
        (received a.dispatcher (t.notes (after ++ op :: later))).flatMap (·.requests) ++ lost ++
          a.batch.requests := by
  obtain ⟨hflushing, hattempt⟩ := mem_attempts.mp ha
  have hreached := (wellFormed_new config).run ops
  obtain ⟨before, after, rfl, hbound⟩ :=
    bound_of_lt config ops (hreached.open_of_flushing hflushing).1
  refine ⟨before, after, rfl, hbound, ?_⟩
  intro t later
  have wf₀ := (wellFormed_new config).run before
  have wf : t.WellFormed := wf₀.step .bind
  obtain ⟨hd, hfresh⟩ : a.dispatcher < t.dispatchers.length ∧ t.dispatcher a.dispatcher = _ :=
    wf₀.of_bind hbound
  have hrun : (new config).run (before ++ .bind :: after) = t.run after := by
    simp [run, t]
  rw [hrun] at hflushing hattempt hreached
  have hbatch : a.batch.requests =
      ((t.run after).dispatcher a.dispatcher).buffer ++ op.offered a.dispatcher := by
    rw [← buffer_loaded hflushing, (Dispatcher.attempt_eq_some.mp hattempt).2]
  have hlost : ((t.run after).dispatcher a.dispatcher).queue.abandoned = true := by
    have h := ((hreached.sound_loaded hflushing).abandoned_of_refused hattempt hrefused).1
    cases op <;> exact h
  have hvacant : t.Vacant a.dispatcher := by
    intro hgone
    rw [hfresh] at hgone
    exact absurd hgone Bool.false_ne_true
  have hempty := hvacant.run wf hd after
  obtain ⟨lost, haccount⟩ := divided_run hvacant wf hd after
  have hnothing := hempty.received_run_eq_nil hreached (hreached.open_of_flushing hflushing).1
    hlost (op :: later)
  have hnotes : t.notes (after ++ op :: later) =
      t.notes after ++ (t.run after).notes (op :: later) :=
    Run.log_append t after (op :: later)
  have houtgoing : ((t.run after).dispatcher a.dispatcher).outgoing =
      ((t.run after).dispatcher a.dispatcher).buffer := by
    rw [Dispatcher.outgoing, hempty hlost]
    rfl
  have hnone : (t.dispatcher a.dispatcher).outgoing = [] := by rw [hfresh]; rfl
  rw [houtgoing, hnone, List.nil_append] at haccount
  refine ⟨lost, ?_⟩
  rw [hnotes, received_append, hnothing, List.append_nil, haccount, hbatch]
  simp only [List.append_assoc]

/-- The hooks that a run calls. -/
def reports (t : Transmitter) (ops : List Op) : List Report := Run.log step reported t ops

theorem WellFormed.error_of_refused (wf : t.WellFormed) (ha : a ∈ t.attempts op)
    (hrefused : a.answer = .error error) : error = RequestQueue.refusal := by
  obtain ⟨hflushing, hattempt⟩ := mem_attempts.mp ha
  exact ((wf.sound_loaded hflushing).abandoned_of_refused hattempt hrefused).2

theorem mem_calls {report : Report} {hook : Option Hook} :
    report ∈ a.calls hook ↔ ∃ error hook', a.answer = .error error ∧ hook = some hook' ∧
      report = { label := hook'.label, error } := by
  unfold Attempt.calls
  cases a.answer with
  | ok u => simp
  | error error => simp [eq_comm]

theorem hook_run (wf : t.WellFormed) {ops : List Op} (hcalm : ∀ op ∈ ops, op.calm = true)
    (d : Nat) :
    ((t.run ops).dispatcher d).hook = (t.dispatcher d).hook :=
  (Leads.extends ⟨ops, hcalm, rfl, rfl⟩ wf).hook_eq d

/-- The hooks of a calm run are those that were there before. -/
theorem of_mem_reports (wf : t.WellFormed) {ops : List Op} (hcalm : ∀ op ∈ ops, op.calm = true)
    {report : Report} (h : report ∈ t.reports ops) :
    report.error = RequestQueue.refusal ∧
      ∃ d hook, (t.dispatcher d).hook = some hook ∧ hook.label = report.label := by
  induction ops using List.reverseRecOn with
  | nil => exact absurd h List.not_mem_nil
  | append_singleton ops op ih =>
      have hbefore : ∀ op ∈ ops, op.calm = true := fun op hop =>
        hcalm op (List.mem_append_left _ hop)
      rw [reports, Run.log_snoc, List.mem_append] at h
      rcases h with h | h
      · exact ih hbefore h
      · have h : report ∈ (t.run ops).reported op := h
        rw [(wf.run ops).reported_eq, List.mem_flatMap] at h
        obtain ⟨a, ha, hcall⟩ := h
        obtain ⟨error, hook, hrefused, hhook, rfl⟩ := mem_calls.mp hcall
        rw [hook_run wf hbefore] at hhook
        exact ⟨(wf.run ops).error_of_refused ha hrefused, _, hook, hhook, rfl⟩

/-- A batch that is refused in a calm run is heard. -/
theorem mem_reports_of_refused (wf : t.WellFormed) {pre post : List Op}
    (hcalm : ∀ op' ∈ pre, op'.calm = true) (ha : a ∈ (t.run pre).attempts op)
    (hrefused : a.answer = .error error) {hook : Hook}
    (hhook : (t.dispatcher a.dispatcher).hook = some hook) :
    { label := hook.label, error } ∈ t.reports (pre ++ op :: post) := by
  rw [reports, Run.log_append, Run.log]
  refine List.mem_append_right _ (List.mem_append_left _ ?_)
  show _ ∈ (t.run pre).reported op
  rw [(wf.run pre).reported_eq, List.mem_flatMap]
  refine ⟨a, ha, mem_calls.mpr ⟨error, hook, hrefused, ?_, rfl⟩⟩
  rw [hook_run wf hcalm, hhook]

theorem runDue_eq_run (t : Transmitter) (now : Nat) :
    let ops := (List.range t.workers.length).map (.runWorker now)
    t.runDue now = (t.run ops, t.reports ops) := by
  rw [runDue_eq]
  refine Prod.ext ?_ ?_
  · show _ = List.foldl step t ((List.range t.workers.length).map (.runWorker now))
    rw [List.foldl_map]
    rfl
  · show _ = Run.log step reported t ((List.range t.workers.length).map (.runWorker now))
    rw [Run.log_map]
    rfl

end Transmitter

end GraphDriver
