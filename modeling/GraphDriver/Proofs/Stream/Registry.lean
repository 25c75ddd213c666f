import GraphDriver.Proofs.Run
import GraphDriver.Proofs.Stream.Dispatchers

/-!
# The registry of dispatchers

Who flushes whom. A dispatcher is a member of one worker from the moment it is bound to the moment
it is closed, by its owner, by its hook or by the transmitter, and its queue ends at that moment.
Every operation of a transmitter keeps this.

* §1 sound dispatchers
* §2 well-formed transmitters
* §3 operations
* §4 due workers
-/

namespace GraphDriver

namespace RequestQueue

@[simp] theorem ended_put (q : RequestQueue) (batch : ClientMessage) :
    (q.put batch).2.ended = q.ended := by
  unfold put
  split
  · rfl
  · split <;> rfl

@[simp] theorem abandoned_put (q : RequestQueue) (batch : ClientMessage) :
    (q.put batch).2.abandoned = q.abandoned := by
  unfold put
  split
  · rfl
  · split <;> rfl

theorem mem_batches_put {q : RequestQueue} {batch other : ClientMessage}
    (h : other ∈ (q.put batch).2.batches) : other ∈ q.batches ∨ other = batch := by
  unfold put at h
  split at h
  · exact .inl h
  · split at h
    · exact .inl h
    · simpa using h

theorem put_of_open {q : RequestQueue} (hended : q.ended = false) (hpulled : q.abandoned = false)
    (batch : ClientMessage) :
    q.put batch = (.ok (), { q with batches := q.batches ++ [batch] }) := by
  simp [put, hended, hpulled]

theorem put_of_abandoned {q : RequestQueue} (hended : q.ended = false)
    (hlost : q.abandoned = true) (batch : ClientMessage) : q.put batch = (.error refusal, q) := by
  simp [put, hended, hlost]

@[simp] theorem ended_pull (q : RequestQueue) : q.pull.2.ended = q.ended := by
  unfold pull
  split <;> rfl

@[simp] theorem abandoned_pull (q : RequestQueue) : q.pull.2.abandoned = q.abandoned := by
  unfold pull
  split <;> rfl

/-- What is pulled is what was first in the queue. -/
theorem pull_batches (q : RequestQueue) :
    q.pull.1.item?.toList ++ q.pull.2.batches = q.batches := by
  unfold pull
  split
  · simp [Poll.item?, *]
  · split <;> simp [Poll.item?]

@[simp] theorem ended_fail (q : RequestQueue) (error : Error) : (q.fail error).ended = q.ended := by
  unfold fail
  split <;> rfl

@[simp] theorem abandoned_fail (q : RequestQueue) (error : Error) :
    (q.fail error).abandoned = true := by
  unfold fail
  split
  · assumption
  · rfl

theorem mem_batches_fail {q : RequestQueue} {error : Error} {batch : ClientMessage}
    (h : batch ∈ (q.fail error).batches) : batch ∈ q.batches := by
  unfold fail at h
  split at h
  · exact h
  · simp [abandon] at h

end RequestQueue

/-! ## §1  Sound dispatchers -/

namespace Dispatcher

/-- The queue of a dispatcher ends when the dispatcher is closed, a closed dispatcher has nothing
left to flush, and no batch is empty. -/
structure Sound (x : Dispatcher) : Prop where
  ended : x.queue.ended = x.closed
  empty : x.closed = true → x.buffer = []
  full : ∀ batch ∈ x.queue.batches, batch.requests ≠ []

variable {x : Dispatcher}

theorem sound_bound (w : Nat) : Sound { worker := w } :=
  ⟨rfl, fun _ => rfl, by simp⟩

theorem Sound.flushed (h : x.Sound) : x.flushed.Sound := by
  refine ⟨?_, fun _ => buffer_flushed x, ?_⟩
  · unfold Dispatcher.flushed
    split
    · exact h.ended
    · exact (RequestQueue.ended_put _ _).trans h.ended
  · intro batch hbatch
    unfold Dispatcher.flushed at hbatch
    split at hbatch
    · exact h.full batch hbatch
    · rename_i hbuffer
      rcases RequestQueue.mem_batches_put hbatch with hold | rfl
      · exact h.full batch hold
      · exact fun hnil => hbuffer (List.isEmpty_iff.mpr hnil)

theorem Sound.shut (h : x.Sound) (hbuffer : x.buffer = []) : x.shut.Sound :=
  ⟨rfl, fun _ => hbuffer, h.full⟩

theorem Sound.heard (h : x.Sound) (hbuffer : x.buffer = []) : x.heard.Sound := by
  unfold Dispatcher.heard
  split
  · exact h.shut hbuffer
  · exact h

theorem Sound.closing (h : x.Sound) : x.closing.Sound := by
  unfold Dispatcher.closing
  split
  · exact h
  · exact h.flushed.shut (buffer_flushed x)

theorem Sound.buffer_closing (h : x.Sound) : x.closing.buffer = [] := by
  unfold Dispatcher.closing
  split
  · exact h.empty ‹_›
  · exact buffer_flushed x

theorem Sound.buffered (h : x.Sound) (hopen : x.closed = false) (request : Request) :
    (x.buffered request).Sound := by
  refine ⟨h.ended, ?_, h.full⟩
  intro hclosed
  rw [show x.closed = true from hclosed] at hopen
  simp at hopen

theorem closed_of_closed_heard (h : x.closed = true) : x.heard.closed = true := by
  unfold heard
  split
  · rfl
  · exact h

theorem closing_of_closed (h : x.closed = true) : x.closing = x := by
  simp [closing, h]

@[simp] theorem closed_closing (x : Dispatcher) : x.closing.closed = true := by
  unfold closing
  split
  · assumption
  · rfl

theorem closed_settled_of_closed (h : x.closed = true) : x.settled.closed = true := by
  have hflushed : x.flushed.closed = true := (closed_flushed x).trans h
  unfold settled
  split
  · exact closed_of_closed_heard hflushed
  · exact hflushed

@[simp] theorem hook_closing (x : Dispatcher) : x.closing.hook = x.hook := by
  unfold closing
  split
  · rfl
  · exact hook_flushed x

@[simp] theorem worker_closing (x : Dispatcher) : x.closing.worker = x.worker := by
  unfold closing
  split
  · rfl
  · exact worker_flushed x

end Dispatcher

/-! ## §2  Well-formed transmitters -/

namespace Transmitter

/-- Every worker flushes the open dispatchers that are bound to it, each once, and a closed
transmitter has no open dispatcher. -/
structure WellFormed (t : Transmitter) : Prop where
  manned : 0 < t.workers.length
  nodup : ∀ w, (t.members w).Nodup
  mem_members : ∀ w d, d ∈ t.members w ↔
    d < t.dispatchers.length ∧ (t.dispatcher d).worker = w ∧ (t.dispatcher d).closed = false
  sound : ∀ d, (t.dispatcher d).Sound
  silent : t.isOpen = false → ∀ d < t.dispatchers.length, (t.dispatcher d).closed = true

variable {t t' : Transmitter} {d w : Nat}

theorem wellFormed_new (config : TransmitterConfig) : (new config).WellFormed := by
  have hmembers : ∀ w, (new config).members w = [] := by
    intro w
    simp [members, worker, new, List.getD_eq_getElem?_getD, List.getElem?_replicate]
    split <;> rfl
  have hdispatcher : ∀ d, (new config).dispatcher d = { worker := 0 } := fun d =>
    dispatcher_of_le (Nat.zero_le d)
  refine ⟨?_, ?_, ?_, ?_, ?_⟩
  · rw [show (new config).workers.length = max 1 config.parallelisation.toNat from
      List.length_replicate]
    exact Nat.lt_of_lt_of_le Nat.one_pos (Nat.le_max_left _ _)
  · intro w
    rw [hmembers]
    exact List.nodup_nil
  · intro w d
    rw [hmembers]
    simp [new]
  · intro d
    rw [hdispatcher]
    exact Dispatcher.sound_bound 0
  · intro hclosed
    simp [new] at hclosed

/-- Dispatchers may change if they stay where they are and the closed ones leave. -/
theorem WellFormed.update (wf : t.WellFormed) (hshape : t'.shape = t.shape)
    (hplace : ∀ e < t.dispatchers.length, (t'.dispatcher e).worker = (t.dispatcher e).worker)
    (hsound : ∀ e < t.dispatchers.length, (t'.dispatcher e).Sound)
    (hclosed : ∀ e < t.dispatchers.length,
      (t.dispatcher e).closed = true → (t'.dispatcher e).closed = true)
    (hmembers : ∀ w, t'.members w = (t.members w).filter fun e => !(t'.dispatcher e).closed) :
    t'.WellFormed := by
  have hlength := length_of_shape hshape
  refine ⟨?_, ?_, ?_, ?_, ?_⟩
  · rw [width_of_shape hshape]
    exact wf.manned
  · intro w
    rw [hmembers]
    exact (wf.nodup w).filter _
  · intro w e
    rw [hmembers, List.mem_filter, wf.mem_members, hlength]
    constructor
    · rintro ⟨⟨he, hw, -⟩, hopen⟩
      exact ⟨he, (hplace e he).trans hw, by simpa using hopen⟩
    · rintro ⟨he, hw, hopen⟩
      refine ⟨⟨he, (hplace e he).symm.trans hw, ?_⟩, by simpa using hopen⟩
      by_contra hc
      rw [hclosed e he (by simpa using hc)] at hopen
      simp at hopen
  · intro e
    by_cases he : e < t.dispatchers.length
    · exact hsound e he
    · rw [dispatcher_of_le (by rw [hlength]; exact Nat.not_lt.mp he)]
      exact Dispatcher.sound_bound 0
  · intro hopen e he
    rw [isOpen_of_shape hshape] at hopen
    rw [hlength] at he
    exact hclosed e he (wf.silent hopen e he)

/-- One dispatcher changes where it is, and leaves its worker if it is closed. -/
theorem WellFormed.updateOne (wf : t.WellFormed) (hshape : t'.shape = t.shape) {x : Dispatcher}
    (hdispatcher : ∀ e < t.dispatchers.length,
      t'.dispatcher e = if e = d then x else t.dispatcher e)
    (hsound : x.Sound) (hplace : x.worker = (t.dispatcher d).worker)
    (hclosed : (t.dispatcher d).closed = true → x.closed = true)
    (hmembers : ∀ w, t'.members w = (t.members w).filter fun e => !(t'.dispatcher e).closed) :
    t'.WellFormed := by
  refine wf.update hshape ?_ ?_ ?_ hmembers
  · intro e he
    rw [hdispatcher e he]
    split
    · simp [*]
    · rfl
  · intro e he
    rw [hdispatcher e he]
    split
    · exact hsound
    · exact wf.sound e
  · intro e he h
    rw [hdispatcher e he]
    split
    · rename_i hed
      exact hclosed (hed ▸ h)
    · exact h

/-- One dispatcher changes and stays as open as it was. -/
theorem WellFormed.keepOne (wf : t.WellFormed) (hshape : t'.shape = t.shape) {x : Dispatcher}
    (hdispatcher : ∀ e < t.dispatchers.length,
      t'.dispatcher e = if e = d then x else t.dispatcher e)
    (hmembers : ∀ w, t'.members w = t.members w) (hsound : x.Sound)
    (hplace : x.worker = (t.dispatcher d).worker)
    (hclosed : x.closed = (t.dispatcher d).closed) : t'.WellFormed := by
  refine wf.updateOne hshape hdispatcher hsound hplace hclosed.trans fun w => ?_
  rw [hmembers, List.filter_eq_self.mpr]
  intro e he
  obtain ⟨hlt, -, hopen⟩ := (wf.mem_members w e).mp he
  rw [hdispatcher e hlt]
  split
  · rename_i hed
    rw [hclosed, ← hed, hopen]
    rfl
  · rw [hopen]
    rfl

theorem members_deregister (t : Transmitter) (d w : Nat) :
    (t.deregister d).members w =
      if w = (t.dispatcher d).worker then (t.members w).filter (· ≠ d) else t.members w := by
  rw [members, worker_deregister]
  split <;> rfl

/-- One dispatcher closes and leaves its worker. -/
theorem WellFormed.closeOne (wf : t.WellFormed) (hshape : t'.shape = t.shape) {x : Dispatcher}
    (hdispatcher : ∀ e < t.dispatchers.length,
      t'.dispatcher e = if e = d then x else t.dispatcher e)
    (hmembers : ∀ w, t'.members w = (t.deregister d).members w) (hsound : x.Sound)
    (hplace : x.worker = (t.dispatcher d).worker) (hclosed : x.closed = true) :
    t'.WellFormed := by
  refine wf.updateOne hshape hdispatcher hsound hplace (fun _ => hclosed) fun w => ?_
  have hfilter : ((t.members w).filter fun e => !(t'.dispatcher e).closed) =
      (t.members w).filter (· ≠ d) := by
    refine List.filter_congr fun e he => ?_
    obtain ⟨hlt, -, hopen⟩ := (wf.mem_members w e).mp he
    rw [hdispatcher e hlt]
    split
    · simp [*]
    · simp [*]
  rw [hmembers, members_deregister, hfilter]
  split
  · rfl
  · -- a worker that it was not bound to has nothing to filter out
    rename_i hw
    refine (List.filter_eq_self.mpr ?_).symm
    intro e he
    have hne : e ≠ d := by
      rintro rfl
      exact hw ((wf.mem_members w e).mp he).2.1.symm
    simpa using hne

/-- Nothing changes but the times of the workers. -/
theorem WellFormed.same (wf : t.WellFormed) (hshape : t'.shape = t.shape)
    (hdispatcher : ∀ e, t'.dispatcher e = t.dispatcher e)
    (hmembers : ∀ w, t'.members w = t.members w) : t'.WellFormed := by
  refine wf.keepOne (d := 0) hshape (fun e _ => ?_) hmembers (wf.sound 0) rfl rfl
  rw [hdispatcher]
  split
  · simp [*]
  · rfl

/-! ## §3  Operations -/

theorem WellFormed.flush (wf : t.WellFormed) (d : Nat) : (t.flush d).2.WellFormed :=
  wf.keepOne (shape_flush t d) (fun e _ => dispatcher_flush t d e)
    (fun w => congrArg Worker.members (worker_flush t d w)) (wf.sound d).flushed
    (Dispatcher.worker_flushed _) (Dispatcher.closed_flushed _)

/-- A refusal is heard once the buffer is empty. -/
theorem WellFormed.refused (wf : t.WellFormed) (hbuffer : (t.dispatcher d).buffer = [])
    (error : Error) : (t.refused d error).1.WellFormed := by
  have hdispatcher := fun e (he : e < t.dispatchers.length) => dispatcher_refused he d error
  have hmembers : ∀ w, (t.refused d error).1.members w =
      if (t.dispatcher d).closesOnRefusal then (t.deregister d).members w else t.members w := by
    intro w
    rw [members, worker_refused]
    split <;> rfl
  have hsound := (wf.sound d).heard hbuffer
  cases hc : (t.dispatcher d).closesOnRefusal with
  | true =>
      refine wf.closeOne (shape_refused t d error) hdispatcher (fun w => ?_) hsound
        (Dispatcher.worker_heard _) ?_
      · rw [hmembers, if_pos hc]
      · simp [Dispatcher.heard, hc, Dispatcher.shut]
  | false =>
      refine wf.keepOne (shape_refused t d error) hdispatcher (fun w => ?_) hsound
        (Dispatcher.worker_heard _) ?_
      · rw [hmembers, if_neg (by simp [hc])]
      · simp [Dispatcher.heard, hc]

theorem WellFormed.closeDispatcher (wf : t.WellFormed) (d : Nat) :
    (t.closeDispatcher d).1.WellFormed :=
  wf.closeOne (shape_closeDispatcher t d) (fun _ he => dispatcher_closeDispatcher he d)
    (fun w => congrArg Worker.members (worker_closeDispatcher t d w)) (wf.sound d).closing
    (Dispatcher.worker_closing _) (Dispatcher.closed_closing _)

theorem WellFormed.modify (wf : t.WellFormed) (d : Nat) {f : Dispatcher → Dispatcher}
    (hsound : (f (t.dispatcher d)).Sound)
    (hplace : (f (t.dispatcher d)).worker = (t.dispatcher d).worker)
    (hclosed : (f (t.dispatcher d)).closed = (t.dispatcher d).closed) :
    WellFormed { t with dispatchers := t.dispatchers.modify d f } :=
  wf.keepOne (by simp [shape]) (fun _ he => dispatcher_modify he d f) (fun _ => rfl) hsound hplace
    hclosed

theorem closed_of_accepts (h : t.accepts d = true) : (t.dispatcher d).closed = false := by
  simp only [accepts, Bool.and_eq_true, Bool.not_eq_true'] at h
  exact h.2

theorem WellFormed.buffer (wf : t.WellFormed) (h : t.accepts d = true) (request : Request) :
    (t.buffer d request).WellFormed :=
  wf.modify d ((wf.sound d).buffered (closed_of_accepts h) request) rfl rfl

theorem WellFormed.dispatch (wf : t.WellFormed) (now d : Nat) (request : Request) :
    (t.dispatch now d request).2.WellFormed := by
  cases h : t.accepts d with
  | false => rwa [dispatch_of_not_accepts h]
  | true =>
      rw [dispatch_of_accepts h]
      exact (wf.buffer h request).same (shape_wake _ _ _) (dispatcher_wake _ _ _)
        (members_wake _ _ _)

theorem WellFormed.dispatchNow (wf : t.WellFormed) (d : Nat) (request : Request) :
    (t.dispatchNow d request).2.1.WellFormed := by
  cases h : t.accepts d with
  | false => rwa [dispatchNow_of_not_accepts h]
  | true =>
      have hflush := (wf.buffer h request).flush d
      rw [dispatchNow_of_accepts h]
      split
      · exact hflush
      · refine hflush.refused ?_ _
        rw [dispatcher_flush, if_pos rfl]
        exact Dispatcher.buffer_flushed _

theorem WellFormed.setHook (wf : t.WellFormed) (d : Nat) (hook : Hook) :
    (t.setHook d hook).WellFormed :=
  wf.modify d ⟨(wf.sound d).ended, (wf.sound d).empty, (wf.sound d).full⟩ rfl rfl

/-- The other end of a queue can neither end it nor put anything in. -/
theorem WellFormed.modifyQueue (wf : t.WellFormed) (d : Nat) {f : RequestQueue → RequestQueue}
    (hended : ∀ q, (f q).ended = q.ended)
    (hbatches : ∀ q, ∀ batch ∈ (f q).batches, batch ∈ q.batches) :
    (t.modifyQueue d f).WellFormed := by
  have hsound := wf.sound d
  refine wf.modify d ⟨?_, hsound.empty, ?_⟩ rfl rfl
  · exact (hended _).trans hsound.ended
  · exact fun batch hbatch => hsound.full batch (hbatches _ batch hbatch)

theorem WellFormed.flushAll (wf : t.WellFormed) {ds : List Nat} (hds : ds.Nodup) :
    (t.flushAll ds).1.WellFormed := by
  have hoffered : (ds.foldl offer (t, [])).1.WellFormed :=
    Run.keeps (fun (s : Transmitter × List (Nat × Error)) d (h : s.1.WellFormed) => h.flush d)
      wf ds
  have htold : ∀ (fs : List (Nat × Error)) (s : Transmitter × List Report), s.1.WellFormed →
      (∀ f ∈ fs, (s.1.dispatcher f.1).buffer = []) → (fs.foldl tell s).1.WellFormed := by
    intro fs
    induction fs with
    | nil => exact fun _ h _ => h
    | cons f fs ih =>
        intro s h hbuffer
        refine ih (tell s f) (h.refused (hbuffer f List.mem_cons_self) f.2) ?_
        intro g hg
        exact (refused_congr Dispatcher.buffer_heard s.1 f.1 f.2 g.1).trans
          (hbuffer g (List.mem_cons_of_mem _ hg))
  rw [flushAll_eq]
  refine htold _ _ hoffered ?_
  intro f hf
  have hmem : f.1 ∈ ds := ((mem_failures hds).mp (List.mem_map_of_mem hf)).1
  show ((ds.foldl offer (t, [])).1.dispatcher f.1).buffer = []
  rw [(foldl_offer ds (t, [])).2.2, if_pos hmem]
  exact Dispatcher.buffer_flushed _

theorem WellFormed.runWorker (wf : t.WellFormed) (now w : Nat) :
    (t.runWorker now w).1.WellFormed := by
  cases hdue : t.isDue now w with
  | false => rwa [runWorker_of_not_due hdue]
  | true =>
      have hset : WellFormed
          { t with workers := t.workers.set w { t.worker w with due := t.nextFlush now w } } := by
        refine wf.same (by simp [shape]) (fun _ => rfl) (fun v => ?_)
        by_cases hv : v = w
        · subst hv
          by_cases hlt : v < t.workers.length
          · simp [members, worker, List.getD_eq_getElem?_getD, hlt]
          · simp [members, worker, List.getD_eq_getElem?_getD, hlt]
        · simp [members, worker, List.getD_eq_getElem?_getD, Ne.symm hv]
      rw [runWorker_of_due hdue]
      exact hset.flushAll (wf.nodup w)

theorem WellFormed.bind (wf : t.WellFormed) : t.bind.2.WellFormed := by
  cases hopen : t.isOpen with
  | false => rwa [bind_of_closed hopen]
  | true =>
      obtain ⟨-, hisOpen, hlength, hwidth, hdispatcher, hmembers⟩ := bind_of_open hopen wf.manned
      have hfresh : ∀ w, t.dispatchers.length ∉ t.members w := by
        intro w hmem
        exact Nat.lt_irrefl _ ((wf.mem_members w _).mp hmem).1
      refine ⟨?_, ?_, ?_, ?_, ?_⟩
      · rw [hwidth]
        exact wf.manned
      · intro w
        rw [hmembers]
        split
        · rw [List.nodup_append]
          refine ⟨wf.nodup w, by simp, ?_⟩
          rintro a ha b hb rfl
          exact hfresh w (List.mem_singleton.mp hb ▸ ha)
        · exact wf.nodup w
      · intro w e
        rw [hmembers, hdispatcher, hlength]
        by_cases he : e = t.dispatchers.length
        · subst he
          simp only [if_true, Nat.lt_succ_self, true_and, and_true]
          split
          · simp [*]
          · rename_i hw
            simp [hfresh w, Ne.symm hw]
        · rw [if_neg he, Nat.lt_succ_iff_lt_or_eq, or_iff_left he, ← wf.mem_members]
          split
          · simp [he]
          · rfl
      · intro e
        rw [hdispatcher]
        split
        · exact Dispatcher.sound_bound _
        · exact wf.sound e
      · intro hclosed
        rw [hisOpen] at hclosed
        simp at hclosed

/-- Closing several dispatchers after the workers were dismissed. -/
theorem foldl_closeDispatcher (ds : List Nat) (t : Transmitter)
    (hds : ∀ d ∈ ds, d < t.dispatchers.length) :
    let t' := ds.foldl (fun t d => (t.closeDispatcher d).1) t
    t'.shape = t.shape ∧
      (∀ e < t.dispatchers.length, t'.dispatcher e =
        if e ∈ ds then (t.dispatcher e).closing else t.dispatcher e) ∧
      (∀ w, t.members w = [] → t'.members w = []) ∧
      ∀ report, report ∈ Run.log (fun t d => (t.closeDispatcher d).1)
          (fun t d => (t.closeDispatcher d).2) t ds ↔
        ∃ d ∈ ds, (t.dispatcher d).closed = false ∧ report ∈ (t.dispatcher d).reports := by
  induction ds generalizing t with
  | nil => exact ⟨rfl, fun _ _ => by simp, fun _ h => h, fun _ => by simp [Run.log]⟩
  | cons d ds ih =>
      have hlength := length_of_shape (shape_closeDispatcher t d)
      have hstep := fun e (he : e < t.dispatchers.length) => dispatcher_closeDispatcher he d
      obtain ⟨hshape, hdispatcher, hmembers, hreports⟩ := ih (t.closeDispatcher d).1
        (fun e he => by rw [hlength]; exact hds e (List.mem_cons_of_mem _ he))
      refine ⟨hshape.trans (shape_closeDispatcher t d), ?_, ?_, ?_⟩
      · intro e he
        rw [List.foldl_cons, hdispatcher e (by rwa [hlength]), hstep e he]
        by_cases hed : e = d
        · -- one that is named twice is closed the second time
          subst hed
          simp [Dispatcher.closing_of_closed (Dispatcher.closed_closing _)]
        · simp [hed]
      · intro w hw
        refine hmembers w ?_
        rw [members, worker_closeDispatcher, ← members, members_deregister, hw]
        split <;> rfl
      · intro report
        rw [Run.log, List.mem_append, hreports, closeDispatcher_snd]
        have hrest : (∃ e ∈ ds, ((t.closeDispatcher d).1.dispatcher e).closed = false ∧
              report ∈ ((t.closeDispatcher d).1.dispatcher e).reports) ↔
            ∃ e ∈ ds, e ≠ d ∧ (t.dispatcher e).closed = false ∧
              report ∈ (t.dispatcher e).reports := by
          refine exists_congr fun e => and_congr_right fun he => ?_
          rw [hstep e (hds e (List.mem_cons_of_mem _ he))]
          by_cases hed : e = d
          · simp [hed]
          · simp [hed]
        rw [hrest]
        constructor
        · rintro (hhead | ⟨e, he, -, hopen, hmem⟩)
          · split at hhead
            · simp at hhead
            · rename_i hopen
              exact ⟨d, List.mem_cons_self, by simpa using hopen, hhead⟩
          · exact ⟨e, List.mem_cons_of_mem _ he, hopen, hmem⟩
        · rintro ⟨e, he, hopen, hmem⟩
          by_cases hed : e = d
          · subst hed
            exact .inl (by simpa [hopen] using hmem)
          · rcases List.mem_cons.mp he with rfl | he
            · exact absurd rfl hed
            · exact .inr ⟨e, he, hed, hopen, hmem⟩

theorem mem_everyone : d ∈ t.workers.flatMap (·.members) ↔ ∃ w, d ∈ t.members w := by
  rw [List.mem_flatMap]
  constructor
  · rintro ⟨x, hx, hd⟩
    obtain ⟨w, hw, rfl⟩ := List.mem_iff_getElem.mp hx
    refine ⟨w, ?_⟩
    simpa [members, worker, List.getD_eq_getElem?_getD, hw] using hd
  · rintro ⟨w, hd⟩
    have hw : w < t.workers.length := by
      by_contra hw
      rw [members, worker_of_le (Nat.not_lt.mp hw)] at hd
      exact absurd hd (List.not_mem_nil)
    refine ⟨t.worker w, ?_, hd⟩
    rw [worker, List.getD_eq_getElem _ _ hw]
    exact List.getElem_mem hw

/-- The transmitter once its workers were dismissed, before their dispatchers are closed. -/
def dismissed (t : Transmitter) : Transmitter :=
  { t with isOpen := false, workers := t.workers.map fun _ => {} }

theorem close_of_open (h : t.isOpen = true) :
    t.close =
      ((t.workers.flatMap (·.members)).foldl (fun t d => (t.closeDispatcher d).1) t.dismissed,
        Run.log (fun t d => (t.closeDispatcher d).1) (fun t d => (t.closeDispatcher d).2)
          t.dismissed (t.workers.flatMap (·.members))) := by
  unfold close
  rw [if_pos h]
  exact Run.foldl_eq_log (fun t d => t.closeDispatcher d) t.dismissed [] _

theorem close_of_closed (h : t.isOpen = false) : t.close = (t, []) := by
  simp [close, h]

theorem members_dismissed (t : Transmitter) (w : Nat) : t.dismissed.members w = [] := by
  simp only [members, worker, dismissed, List.getD_eq_getElem?_getD, List.getElem?_map]
  cases t.workers[w]? <;> rfl

/-- **Closing the transmitter.** Every dispatcher is closed as if it were alone, no worker has a
member left, and the refusals of the last batches are heard. -/
theorem WellFormed.close_spec (wf : t.WellFormed) (hopen : t.isOpen = true) :
    t.close.1.isOpen = false ∧ t.close.1.dispatchers.length = t.dispatchers.length ∧
      t.close.1.workers.length = t.workers.length ∧ (∀ w, t.close.1.members w = []) ∧
      (∀ e < t.dispatchers.length, t.close.1.dispatcher e = (t.dispatcher e).closing) ∧
      ∀ report, report ∈ t.close.2 ↔ ∃ d < t.dispatchers.length,
        (t.dispatcher d).closed = false ∧ report ∈ (t.dispatcher d).reports := by
  have hmem : ∀ d, d ∈ t.workers.flatMap (·.members) ↔
      d < t.dispatchers.length ∧ (t.dispatcher d).closed = false := by
    intro d
    rw [mem_everyone]
    constructor
    · rintro ⟨w, hw⟩
      obtain ⟨hlt, -, hc⟩ := (wf.mem_members w d).mp hw
      exact ⟨hlt, hc⟩
    · rintro ⟨hlt, hc⟩
      exact ⟨_, (wf.mem_members _ d).mpr ⟨hlt, rfl, hc⟩⟩
  obtain ⟨hshape, hdispatcher, hmembers, hreports⟩ :=
    foldl_closeDispatcher (t.workers.flatMap (·.members)) t.dismissed
      (fun d hd => ((hmem d).mp hd).1)
  rw [close_of_open hopen]
  refine ⟨isOpen_of_shape hshape, length_of_shape (t := t.dismissed) hshape, ?_, ?_, ?_, ?_⟩
  · rw [width_of_shape hshape]
    exact List.length_map _
  · exact fun w => hmembers w (members_dismissed t w)
  · intro e he
    rw [hdispatcher e he]
    by_cases hc : (t.dispatcher e).closed = true
    · rw [if_neg (by simp [hmem, hc])]
      exact (Dispatcher.closing_of_closed hc).symm
    · rw [if_pos ((hmem e).mpr ⟨he, by simpa using hc⟩)]
      rfl
  · intro report
    rw [hreports]
    constructor
    · rintro ⟨d, hd, hc, hr⟩
      exact ⟨d, ((hmem d).mp hd).1, hc, hr⟩
    · rintro ⟨d, hd, hc, hr⟩
      exact ⟨d, (hmem d).mpr ⟨hd, hc⟩, hc, hr⟩

theorem WellFormed.close (wf : t.WellFormed) : t.close.1.WellFormed := by
  cases hopen : t.isOpen with
  | false => rwa [close_of_closed hopen]
  | true =>
      obtain ⟨-, hlength, hwidth, hmembers, hdispatcher, -⟩ := wf.close_spec hopen
      have hclosed : ∀ e < t.dispatchers.length, (t.close.1.dispatcher e).closed = true := by
        intro e he
        rw [hdispatcher e he]
        exact Dispatcher.closed_closing _
      refine ⟨?_, ?_, ?_, ?_, ?_⟩
      · rw [hwidth]
        exact wf.manned
      · intro w
        rw [hmembers]
        exact List.nodup_nil
      · intro w e
        rw [hmembers, hlength]
        constructor
        · intro hmem
          exact absurd hmem List.not_mem_nil
        · rintro ⟨he, -, hc⟩
          rw [hclosed e he] at hc
          simp at hc
      · intro e
        by_cases he : e < t.dispatchers.length
        · rw [hdispatcher e he]
          exact (wf.sound e).closing
        · rw [dispatcher_of_le (by rw [hlength]; exact Nat.not_lt.mp he)]
          exact Dispatcher.sound_bound 0
      · intro _ e he
        rw [hlength] at he
        exact hclosed e he

/-! ## §4  Due workers -/

/-- Whether the worker of a dispatcher flushes it now. -/
def flushes (t : Transmitter) (now d : Nat) : Bool :=
  t.isDue now (t.dispatcher d).worker && !(t.dispatcher d).closed

/-- What a worker does to the dispatchers of all. -/
theorem WellFormed.dispatcher_runWorker (wf : t.WellFormed) (now w : Nat) {e : Nat}
    (he : e < t.dispatchers.length) :
    (t.runWorker now w).1.dispatcher e =
      if (t.dispatcher e).worker = w ∧ t.flushes now e then (t.dispatcher e).settled
      else t.dispatcher e := by
  obtain ⟨-, -, hdispatcher, -⟩ := runWorker_spec now (wf.nodup w)
  rw [hdispatcher e he]
  have hiff : (t.isDue now w = true ∧ e ∈ t.members w) ↔
      ((t.dispatcher e).worker = w ∧ t.flushes now e = true) := by
    rw [wf.mem_members, flushes, Bool.and_eq_true, Bool.not_eq_true']
    constructor
    · rintro ⟨hdue, -, rfl, hopen⟩
      exact ⟨rfl, hdue, hopen⟩
    · rintro ⟨rfl, hdue, hopen⟩
      exact ⟨hdue, he, rfl, hopen⟩
  simp only [hiff]

theorem WellFormed.mem_runWorker (wf : t.WellFormed) (now w : Nat) (report : Report) :
    report ∈ (t.runWorker now w).2 ↔ ∃ d < t.dispatchers.length,
      (t.dispatcher d).worker = w ∧ t.flushes now d ∧ report ∈ (t.dispatcher d).reports := by
  obtain ⟨-, -, -, hreports⟩ := runWorker_spec now (wf.nodup w)
  rw [hreports]
  constructor
  · intro hmem
    split at hmem
    · obtain ⟨d, hd, hr⟩ := List.mem_flatMap.mp hmem
      obtain ⟨hlt, rfl, hopen⟩ := (wf.mem_members w d).mp hd
      exact ⟨d, hlt, rfl, by simp [flushes, *], hr⟩
    · simp at hmem
  · rintro ⟨d, hlt, rfl, hflush, hr⟩
    rw [flushes, Bool.and_eq_true, Bool.not_eq_true'] at hflush
    rw [if_pos hflush.1]
    exact List.mem_flatMap.mpr ⟨d, (wf.mem_members _ d).mpr ⟨hlt, rfl, hflush.2⟩, hr⟩

theorem runWorker_shape (wf : t.WellFormed) (now w : Nat) :
    (t.runWorker now w).1.shape = t.shape :=
  (runWorker_spec now (wf.nodup w)).1

/-- A dispatcher stays with its worker. -/
theorem WellFormed.place_runWorker (wf : t.WellFormed) (now w : Nat) {e : Nat}
    (he : e < t.dispatchers.length) :
    ((t.runWorker now w).1.dispatcher e).worker = (t.dispatcher e).worker := by
  rw [wf.dispatcher_runWorker now w he]
  split <;> simp

/-- A worker leaves the dispatchers of the others to them. -/
theorem WellFormed.flushes_runWorker (wf : t.WellFormed) (now w : Nat) {e : Nat}
    (he : e < t.dispatchers.length) (hw : (t.dispatcher e).worker ≠ w) :
    (t.runWorker now w).1.dispatcher e = t.dispatcher e ∧
      (t.runWorker now w).1.flushes now e = t.flushes now e := by
  have hdispatcher : (t.runWorker now w).1.dispatcher e = t.dispatcher e := by
    rw [wf.dispatcher_runWorker now w he, if_neg (fun h => hw h.1)]
  have hworker : (t.runWorker now w).1.worker (t.dispatcher e).worker =
      t.worker (t.dispatcher e).worker :=
    (runWorker_spec now (wf.nodup w)).2.1 _ hw fun d hd => ((wf.mem_members w d).mp hd).2.1
  refine ⟨hdispatcher, ?_⟩
  rw [flushes, flushes, hdispatcher, isDue, isDue, hworker]

theorem foldl_runWorker (now : Nat) {ws : List Nat} (hws : ws.Nodup) (wf : t.WellFormed) :
    let t' := ws.foldl (fun t w => (t.runWorker now w).1) t
    t'.WellFormed ∧ t'.shape = t.shape ∧
      (∀ e < t.dispatchers.length, t'.dispatcher e =
        if (t.dispatcher e).worker ∈ ws ∧ t.flushes now e then (t.dispatcher e).settled
        else t.dispatcher e) ∧
      ∀ report, report ∈ Run.log (fun t w => (t.runWorker now w).1)
          (fun t w => (t.runWorker now w).2) t ws ↔
        ∃ d < t.dispatchers.length, (t.dispatcher d).worker ∈ ws ∧ t.flushes now d ∧
          report ∈ (t.dispatcher d).reports := by
  induction ws generalizing t with
  | nil => exact ⟨wf, rfl, fun _ _ => by simp, fun _ => by simp [Run.log]⟩
  | cons w ws ih =>
      rw [List.nodup_cons] at hws
      have hshape := runWorker_shape wf now w
      have hlength := length_of_shape hshape
      obtain ⟨hwf, hrest, hdispatcher, hreports⟩ := ih hws.2 (wf.runWorker now w)
      refine ⟨hwf, hrest.trans hshape, ?_, ?_⟩
      · intro e he
        rw [List.foldl_cons, hdispatcher e (by rwa [hlength])]
        by_cases hw : (t.dispatcher e).worker = w
        · -- no later worker comes to it again
          have hplace := (wf.place_runWorker now w he).trans hw
          rw [if_neg (by rw [hplace]; exact fun h => hws.1 h.1), wf.dispatcher_runWorker now w he]
          simp [hw]
        · obtain ⟨hsame, hflush⟩ := wf.flushes_runWorker now w he hw
          rw [hsame, hflush]
          simp [hw]
      · intro report
        rw [Run.log, List.mem_append, hreports, wf.mem_runWorker, hlength]
        have htail : ∀ d < t.dispatchers.length,
            (((t.runWorker now w).1.dispatcher d).worker ∈ ws ∧
              (t.runWorker now w).1.flushes now d = true ∧
              report ∈ ((t.runWorker now w).1.dispatcher d).reports) ↔
            ((t.dispatcher d).worker ∈ ws ∧ t.flushes now d = true ∧
              report ∈ (t.dispatcher d).reports) := by
          intro d hd
          by_cases hw : (t.dispatcher d).worker = w
          · simp [wf.place_runWorker now w hd, hw, hws.1]
          · obtain ⟨hsame, hflush⟩ := wf.flushes_runWorker now w hd hw
            rw [hsame, hflush]
        constructor
        · rintro (⟨d, hd, hw, hflush, hr⟩ | ⟨d, hd, h⟩)
          · exact ⟨d, hd, hw ▸ List.mem_cons_self, hflush, hr⟩
          · obtain ⟨hmem, hflush, hr⟩ := (htail d hd).mp h
            exact ⟨d, hd, List.mem_cons_of_mem _ hmem, hflush, hr⟩
        · rintro ⟨d, hd, hmem, hflush, hr⟩
          rcases List.mem_cons.mp hmem with hw | hmem
          · exact .inl ⟨d, hd, hw, hflush, hr⟩
          · exact .inr ⟨d, hd, (htail d hd).mpr ⟨hmem, hflush, hr⟩⟩

theorem runDue_eq (t : Transmitter) (now : Nat) :
    t.runDue now =
      ((List.range t.workers.length).foldl (fun t w => (t.runWorker now w).1) t,
        Run.log (fun t w => (t.runWorker now w).1) (fun t w => (t.runWorker now w).2) t
          (List.range t.workers.length)) := by
  exact Run.foldl_eq_log (fun t w => t.runWorker now w) t [] _

theorem lt_width_of_flushes {now : Nat} (h : t.flushes now d = true) :
    (t.dispatcher d).worker < t.workers.length := by
  by_contra hw
  rw [flushes, isDue_of_le (Nat.not_lt.mp hw)] at h
  simp at h

/-- **All due workers.** Each open dispatcher of a worker that is due is flushed as if it were
alone, and the refusals are heard. -/
theorem WellFormed.runDue_spec (wf : t.WellFormed) (now : Nat) :
    (t.runDue now).1.WellFormed ∧ (t.runDue now).1.shape = t.shape ∧
      (∀ e < t.dispatchers.length, (t.runDue now).1.dispatcher e =
        if t.flushes now e then (t.dispatcher e).settled else t.dispatcher e) ∧
      ∀ report, report ∈ (t.runDue now).2 ↔ ∃ d < t.dispatchers.length,
        t.flushes now d ∧ report ∈ (t.dispatcher d).reports := by
  have hmem : ∀ d, t.flushes now d = true →
      (t.dispatcher d).worker ∈ List.range t.workers.length :=
    fun d h => List.mem_range.mpr (lt_width_of_flushes h)
  obtain ⟨hwf, hshape, hdispatcher, hreports⟩ := foldl_runWorker now List.nodup_range wf
  rw [runDue_eq]
  refine ⟨hwf, hshape, ?_, ?_⟩
  · intro e he
    rw [hdispatcher e he]
    by_cases hflush : t.flushes now e = true
    · rw [if_pos ⟨hmem e hflush, hflush⟩, if_pos hflush]
    · rw [if_neg (fun h => hflush h.2), if_neg hflush]
  · intro report
    rw [hreports]
    refine exists_congr fun d => and_congr_right fun _ => ?_
    exact ⟨fun h => h.2, fun h => ⟨hmem d h.1, h⟩⟩

end Transmitter

end GraphDriver
