import GraphDriver.Proofs.Stream.Conversations
import Mathlib.Data.List.Infix

/-!
# How hubs evolve

What stays true of a hub whatever becomes of it. Dispatchers are bound to the workers in turn, and a
stream keeps its dispatcher. What is closed stays closed: from the queue of a closed dispatcher
batches are taken at most, and a transmitter that is closed has no new dispatcher. None of this asks
who does what, so it holds of any number of streams that share a transmitter, at any time.

* §1 transmitters
* §2 hubs
* §3 operations
* §4 hubs that are shut
-/

namespace GraphDriver

/-! ## §1  Transmitters -/

namespace RequestQueue

theorem batches_pull (q : RequestQueue) : q.pull.2.batches <:+ q.batches := by
  rw [← q.pull_batches]
  exact List.suffix_append _ _

theorem batches_fail (q : RequestQueue) (error : Error) :
    (q.fail error).batches <:+ q.batches := by
  unfold fail
  split
  · exact List.suffix_rfl
  · exact List.nil_suffix

end RequestQueue

namespace Transmitter

/-- The dispatchers were bound to the workers in turn. -/
def InTurn (t : Transmitter) : Prop :=
  ∀ d < t.dispatchers.length, (t.dispatcher d).worker = d % t.workers.length

/-- A later state of a transmitter. -/
structure Evolves (t t' : Transmitter) : Prop where
  wellFormed : t'.WellFormed
  length_le : t.dispatchers.length ≤ t'.dispatchers.length
  inTurn : t.InTurn → t'.InTurn
  closed : ∀ d, (t.dispatcher d).closed = true → (t'.dispatcher d).closed = true
  /-- To the queue of a closed dispatcher nothing is added. -/
  left : ∀ d, (t.dispatcher d).closed = true →
    (t'.dispatcher d).queue.batches <:+ (t.dispatcher d).queue.batches
  shut : t.isOpen = false →
    t'.isOpen = false ∧ t'.dispatchers.length = t.dispatchers.length

variable {t t' t'' : Transmitter} {d : Nat}

theorem Evolves.refl (wf : t.WellFormed) : t.Evolves t where
  wellFormed := wf
  length_le := Nat.le_refl _
  inTurn := id
  closed _ h := h
  left _ _ := List.suffix_rfl
  shut h := ⟨h, rfl⟩

theorem Evolves.trans (h : t.Evolves t') (h' : t'.Evolves t'') : t.Evolves t'' where
  wellFormed := h'.wellFormed
  length_le := Nat.le_trans h.length_le h'.length_le
  inTurn hturn := h'.inTurn (h.inTurn hturn)
  closed d hd := h'.closed d (h.closed d hd)
  left d hd := (h'.left d (h.closed d hd)).trans (h.left d hd)
  shut hopen := by
    obtain ⟨hshut, hlength⟩ := h.shut hopen
    obtain ⟨hshut', hlength'⟩ := h'.shut hshut
    exact ⟨hshut', hlength'.trans hlength⟩

theorem lt_of_closed (h : (t.dispatcher d).closed = true) : d < t.dispatchers.length := by
  by_contra hd
  rw [dispatcher_of_le (Nat.not_lt.mp hd)] at h
  exact absurd h (by decide)

theorem inTurn_new (config : TransmitterConfig) : (new config).InTurn :=
  fun _ hd => absurd hd (Nat.not_lt_zero _)

theorem worker_effect (t : Transmitter) (d : Nat) (op : Op) :
    (t.effect d op).worker = (t.dispatcher d).worker := by
  have hsettled : ∀ request, ((t.dispatcher d).buffered request).settled.worker =
      (t.dispatcher d).worker := fun request => Dispatcher.worker_settled _
  cases op with
  | bind => rfl
  | dispatchNow e request =>
      rw [effect]
      split
      · exact hsettled request
      · rfl
  | runWorker now w =>
      rw [effect]
      split
      · exact Dispatcher.worker_settled _
      · rfl
  | closeDispatcher e =>
      rw [effect]
      split
      · exact Dispatcher.worker_closing _
      · rfl
  | close =>
      rw [effect]
      split
      · exact Dispatcher.worker_closing _
      · rfl
  | setHook e hook => rw [effect]; split <;> rfl
  | dispatch now e request => rw [effect]; split <;> rfl
  | pull e => rw [effect]; split <;> rfl
  | abandon e => rw [effect]; split <;> rfl
  | fail e error => rw [effect]; split <;> rfl

/-- Whatever is done, nothing is added to the queue of a closed dispatcher. -/
theorem batches_effect_suffix (wf : t.WellFormed) (hclosed : (t.dispatcher d).closed = true)
    (op : Op) : (t.effect d op).queue.batches <:+ (t.dispatcher d).queue.batches := by
  have hrefused : ∀ e, ¬(d = e ∧ t.accepts e = true) := by
    rintro e ⟨rfl, haccepts⟩
    rw [not_accepts_of_closed hclosed] at haccepts
    exact absurd haccepts (by decide)
  have hsettled := (wf.sound d).settled_of_closed hclosed
  have hclosing := Dispatcher.closing_of_closed hclosed
  cases op with
  | bind => exact List.suffix_rfl
  | setHook e hook =>
      rw [effect]
      split <;> exact List.suffix_rfl
  | dispatch now e request => rw [effect, if_neg (hrefused e)]
  | dispatchNow e request => rw [effect, if_neg (hrefused e)]
  | runWorker now w => rw [effect, hsettled, ite_self]
  | closeDispatcher e => rw [effect, hclosing, ite_self]
  | close => rw [effect, hclosing, ite_self]
  | pull e =>
      rw [effect]
      split
      · exact RequestQueue.batches_pull _
      · exact List.suffix_rfl
  | abandon e =>
      rw [effect]
      split
      · exact List.nil_suffix
      · exact List.suffix_rfl
  | fail e error =>
      rw [effect]
      split
      · exact RequestQueue.batches_fail _ _
      · exact List.suffix_rfl

theorem width_step (wf : t.WellFormed) (op : Op) :
    (t.step op).workers.length = t.workers.length := by
  cases op with
  | bind =>
      cases hopen : t.isOpen with
      | false => simp [step, bind_of_closed hopen]
      | true => exact (bind_of_open hopen wf.manned).2.2.2.1
  | dispatch now e request => exact width_of_shape (shape_dispatch ..)
  | dispatchNow e request => exact width_of_shape (shape_dispatchNow ..)
  | runWorker now w => exact width_of_shape (runWorker_shape wf now w)
  | closeDispatcher e => exact width_of_shape (shape_closeDispatcher ..)
  | close =>
      cases hopen : t.isOpen with
      | false => simp [step, close_of_closed hopen]
      | true => exact (wf.close_spec hopen).2.2.1
  | setHook e hook => rfl
  | pull e => rfl
  | abandon e => rfl
  | fail e error => rfl

/-- A dispatcher stays with its worker, and a new one is bound to the next. -/
theorem InTurn.step (h : t.InTurn) (wf : t.WellFormed) (op : Op) : (t.step op).InTurn := by
  intro d hd
  rw [width_step wf op]
  by_cases hold : d < t.dispatchers.length
  · rw [dispatcher_step wf hold, worker_effect]
    exact h d hold
  · -- only a binding makes a dispatcher, and it is the last one
    have hbind : op = .bind := by
      by_contra hop
      rw [length_step_of_ne_bind wf hop] at hd
      exact hold hd
    subst hbind
    cases hopen : t.isOpen with
    | false =>
        rw [Transmitter.step, bind_of_closed hopen] at hd
        exact absurd hd hold
    | true =>
        obtain ⟨-, -, hlength, -, hdispatcher, -⟩ := bind_of_open hopen wf.manned
        have hlast : d = t.dispatchers.length := by
          rw [Transmitter.step, hlength] at hd
          omega
        rw [Transmitter.step, hdispatcher, if_pos hlast, hlast]

theorem length_step_of_shut (wf : t.WellFormed) (hshut : t.isOpen = false) (op : Op) :
    (t.step op).dispatchers.length = t.dispatchers.length := by
  by_cases hop : op = .bind
  · rw [hop, step, bind_of_closed hshut]
  · exact length_step_of_ne_bind wf hop

theorem evolves_step (wf : t.WellFormed) (op : Op) : t.Evolves (t.step op) where
  wellFormed := wf.step op
  length_le := length_step wf op
  inTurn h := h.step wf op
  closed _ hd := closed_step wf hd op
  left d hd := by
    rw [dispatcher_step wf (lt_of_closed hd)]
    exact batches_effect_suffix wf hd op
  shut hshut := by
    refine ⟨?_, length_step_of_shut wf hshut op⟩
    rw [isOpen_step wf, hshut, Bool.false_and]

/-- **A run** leads to a later state. -/
theorem evolves_run (wf : t.WellFormed) (ops : List Op) : t.Evolves (t.run ops) := by
  induction ops using List.reverseRecOn with
  | nil => exact .refl wf
  | append_singleton ops op ih =>
      rw [run_snoc]
      exact ih.trans (evolves_step ih.wellFormed op)

theorem Leads.evolves {noted : List Note} (h : Leads t noted t') (wf : t.WellFormed) :
    t.Evolves t' := by
  obtain ⟨ops, -, rfl, -⟩ := h
  exact evolves_run wf ops

end Transmitter

/-! ## §2  Hubs -/

namespace Hub

/-- The dispatchers of the streams are there, and closed with their streams. -/
structure Sane (h : Hub) : Prop where
  transmitter : h.transmitter.WellFormed
  inTurn : h.transmitter.InTurn
  bound : ∀ s < h.streams.length, (h.stream s).dispatcher < h.transmitter.dispatchers.length
  ended : ∀ s < h.streams.length, (h.stream s).isOpen = false →
    (h.transmitter.dispatcher (h.stream s).dispatcher).closed = true

/-- A later state of a hub. -/
structure Evolves (h h' : Hub) : Prop where
  sane : h'.Sane
  transmitter : h.transmitter.Evolves h'.transmitter
  length_le : h.streams.length ≤ h'.streams.length
  dispatcher : ∀ s < h.streams.length, (h'.stream s).dispatcher = (h.stream s).dispatcher
  closed : ∀ s < h.streams.length, (h.stream s).isOpen = false → (h'.stream s).isOpen = false

variable {h h' h'' : Hub} {s d : Nat}

theorem sane_new (config : TransmitterConfig) : (new config).Sane where
  transmitter := Transmitter.wellFormed_new config
  inTurn := Transmitter.inTurn_new config
  bound _ hs := absurd hs (Nat.not_lt_zero _)
  ended _ hs := absurd hs (Nat.not_lt_zero _)

theorem Evolves.refl (hsane : h.Sane) : h.Evolves h where
  sane := hsane
  transmitter := .refl hsane.transmitter
  length_le := Nat.le_refl _
  dispatcher _ _ := rfl
  closed _ _ hclosed := hclosed

theorem Evolves.trans (h₁ : h.Evolves h') (h₂ : h'.Evolves h'') : h.Evolves h'' where
  sane := h₂.sane
  transmitter := h₁.transmitter.trans h₂.transmitter
  length_le := Nat.le_trans h₁.length_le h₂.length_le
  dispatcher s hs :=
    (h₂.dispatcher s (Nat.lt_of_lt_of_le hs h₁.length_le)).trans (h₁.dispatcher s hs)
  closed s hs hclosed := h₂.closed s (Nat.lt_of_lt_of_le hs h₁.length_le) (h₁.closed s hs hclosed)

/-- The transmitter goes on, and the streams keep their dispatchers; one that closes does so with
its dispatcher. -/
theorem Sane.evolves (hsane : h.Sane) (htransmitter : h.transmitter.Evolves h'.transmitter)
    (hlength : h'.streams.length = h.streams.length)
    (hstream : ∀ s < h.streams.length, (h'.stream s).dispatcher = (h.stream s).dispatcher ∧
      ((h'.stream s).isOpen = (h.stream s).isOpen ∨ (h'.stream s).isOpen = false ∧
        (h'.transmitter.dispatcher (h.stream s).dispatcher).closed = true)) :
    h.Evolves h' := by
  have hdispatcher := fun s hs => (hstream s hs).1
  refine ⟨⟨htransmitter.wellFormed, htransmitter.inTurn hsane.inTurn, ?_, ?_⟩, htransmitter,
    Nat.le_of_eq hlength.symm, hdispatcher, ?_⟩
  · intro s hs
    rw [hlength] at hs
    rw [hdispatcher s hs]
    exact Nat.lt_of_lt_of_le (hsane.bound s hs) htransmitter.length_le
  · intro s hs hclosed
    rw [hlength] at hs
    rw [hdispatcher s hs]
    rcases (hstream s hs).2 with hsame | ⟨-, hended⟩
    · exact htransmitter.closed _ (hsane.ended s hs (hsame.symm.trans hclosed))
    · exact hended
  · intro s hs hclosed
    rcases (hstream s hs).2 with hsame | ⟨hshut, -⟩
    · exact hsame.trans hclosed
    · exact hshut

theorem evolves_below (hsane : h.Sane) {t : Transmitter} (ht : h.transmitter.Evolves t) :
    h.Evolves { h with transmitter := t } :=
  hsane.evolves ht rfl fun _ _ => ⟨rfl, .inl rfl⟩

theorem evolves_modifyStream (hsane : h.Sane) (s₀ : Nat) {f : Stream → Stream}
    (hf : ∀ x, (f x).dispatcher = x.dispatcher ∧ (f x).isOpen = x.isOpen) :
    h.Evolves (h.modifyStream s₀ f) := by
  refine hsane.evolves (.refl hsane.transmitter) (length_modifyStream ..) fun s hs => ?_
  rw [stream_modifyStream hs]
  split
  · exact ⟨(hf _).1, .inl (hf _).2⟩
  · exact ⟨rfl, .inl rfl⟩

theorem evolves_closeStream (hsane : h.Sane) (s₀ : Nat) (error : Option Error) :
    h.Evolves (h.closeStream s₀ error).2 := by
  have htransmitter := (leads_closeStream h s₀ error).evolves hsane.transmitter
  refine hsane.evolves htransmitter (length_closeStream ..) fun s hs => ?_
  rw [stream_closeStream hs]
  split
  · rename_i hss
    subst hss
    refine ⟨Stream.dispatcher_closed _ _, .inr ⟨Stream.isOpen_closed _ _, ?_⟩⟩
    rw [transmitter_closeStream]
    split
    · rw [Transmitter.dispatcher_closeDispatcher (hsane.bound s hs), if_pos rfl]
      exact Dispatcher.closed_closing _
    · exact hsane.ended s hs (by simpa using ‹¬ (h.stream s).isOpen = true›)
  · exact ⟨rfl, .inl rfl⟩

theorem evolves_heed (hsane : h.Sane) (reports : List Report) : h.Evolves (h.heed reports) := by
  induction reports generalizing h with
  | nil => exact .refl hsane
  | cons report reports ih =>
      have hclose := evolves_closeStream hsane report.label (some report.error)
      exact hclose.trans (ih hclose.sane)

theorem evolves_transmit (hsane : h.Sane) {step : Transmitter × List Report}
    (ht : h.transmitter.Evolves step.1) : h.Evolves (h.transmit step) := by
  have hbelow := evolves_below hsane ht
  exact hbelow.trans (evolves_heed hbelow.sane step.2)

/-- A stream that is made of a dispatcher is open, so nothing is said of the dispatcher yet. -/
theorem evolves_attach (hsane : h.Sane) (hd : d < h.transmitter.dispatchers.length)
    (address : String) : h.Evolves (h.attach d address).2 := by
  have ht : h.transmitter.Evolves (h.attach d address).2.transmitter :=
    Transmitter.evolves_step hsane.transmitter (.setHook d _)
  have hlength : (h.attach d address).2.streams.length = h.streams.length + 1 := by
    simp [attach]
  have hold : ∀ s < h.streams.length, (h.attach d address).2.stream s = h.stream s := by
    intro s hs
    rw [stream_attach, if_neg (Nat.ne_of_lt hs)]
  have hlast : (h.attach d address).2.stream h.streams.length = { dispatcher := d, address } := by
    rw [stream_attach, if_pos rfl]
  have hcases : ∀ s < h.streams.length + 1, s = h.streams.length ∨ s < h.streams.length := by
    intro s hs
    omega
  refine ⟨⟨ht.wellFormed, ht.inTurn hsane.inTurn, ?_, ?_⟩, ht, by omega, ?_, ?_⟩
  · intro s hs
    rw [hlength] at hs
    rcases hcases s hs with rfl | hs
    · rw [hlast]
      exact Nat.lt_of_lt_of_le hd ht.length_le
    · rw [hold s hs]
      exact Nat.lt_of_lt_of_le (hsane.bound s hs) ht.length_le
  · intro s hs hclosed
    rw [hlength] at hs
    rcases hcases s hs with rfl | hs
    · rw [hlast] at hclosed
      exact Bool.noConfusion hclosed
    · rw [hold s hs] at hclosed ⊢
      exact ht.closed _ (hsane.ended s hs hclosed)
  · exact fun s hs => congrArg Stream.dispatcher (hold s hs)
  · exact fun s hs hclosed => (congrArg Stream.isOpen (hold s hs)).trans hclosed

/-! ## §3  Operations -/

theorem evolves_reserve (hsane : h.Sane) : h.Evolves h.reserve.2 :=
  evolves_below hsane (Transmitter.evolves_step hsane.transmitter .bind)

theorem evolves_release (hsane : h.Sane) (d : Nat) : h.Evolves (h.release d) :=
  evolves_transmit hsane (Transmitter.evolves_step hsane.transmitter (.closeDispatcher d))

theorem evolves_close (hsane : h.Sane) : h.Evolves h.close :=
  evolves_transmit hsane (Transmitter.evolves_step hsane.transmitter .close)

theorem evolves_forget (hsane : h.Sane) (s : Nat) (id : RequestId) : h.Evolves (h.forget s id) :=
  evolves_modifyStream hsane s fun _ => ⟨rfl, rfl⟩

theorem evolves_post (hsane : h.Sane) (now s : Nat) (request : Request) (batched : Bool) :
    h.Evolves (h.post now s request batched).2 := by
  unfold post
  split
  · exact evolves_below hsane (Transmitter.evolves_step hsane.transmitter (.dispatch now _ request))
  · exact evolves_transmit hsane ((leads_dispatchNow ..).evolves hsane.transmitter)

theorem evolves_send (hsane : h.Sane) (hs : s < h.streams.length) (now : Nat)
    (payload : RequestPayload) (batched : Bool) : h.Evolves (h.send now s payload batched).2 := by
  cases hopen : (h.stream s).isOpen with
  | false =>
      rw [send_of_closed hopen]
      exact .refl hsane
  | true =>
      have hregistered : h.Evolves (h.registered s) :=
        evolves_modifyStream hsane s fun _ => ⟨rfl, rfl⟩
      cases hregister : ((h.stream s).collector.register ⟨(h.stream s).nextId⟩).1 with
      | error error =>
          rw [send_of_unregistered hopen hregister]
          exact hregistered
      | ok k =>
          have hposted := hregistered.trans
            (evolves_post hregistered.sane now s ⟨⟨(h.stream s).nextId⟩, payload⟩ batched)
          rw [send_of_registered hs hopen hregister]
          split
          · exact hposted
          · exact hposted.trans (evolves_forget hposted.sane s _)

theorem evolves_askMore (hsane : h.Sane) (now s : Nat) (id : RequestId) :
    h.Evolves (h.askMore now s id).2 := by
  unfold askMore
  dsimp only
  split
  · exact evolves_below hsane (Transmitter.evolves_step hsane.transmitter (.dispatch now _ _))
  · exact .refl hsane

theorem evolves_receive (hsane : h.Sane) (s : Nat) (inbound : Inbound) :
    h.Evolves (h.receive s inbound) := by
  unfold receive
  dsimp only
  split
  · split
    · split
      · exact evolves_modifyStream hsane s fun _ => ⟨rfl, rfl⟩
      · exact evolves_closeStream hsane s _
    · exact evolves_closeStream hsane s _
    · exact evolves_closeStream hsane s _
    · exact evolves_closeStream hsane s _
  · exact .refl hsane

/-- Whatever is done to a hub, it evolves. -/
theorem evolves_step (hsane : h.Sane) (op : Op) : h.Evolves (h.step op) := by
  have ht := Transmitter.evolves_step hsane.transmitter
  cases hcan : h.can op with
  | false =>
      rw [step_of_not_can hcan]
      exact .refl hsane
  | true =>
      rw [step_of_can hcan]
      cases op with
      | reserve => exact evolves_reserve hsane
      | release d => exact evolves_release hsane d
      | attach d address => exact evolves_attach hsane (free_of_isFree hcan).1 address
      | send now s payload batched =>
          exact evolves_send hsane (by simpa [can] using hcan) now payload batched
      | askMore now s id => exact evolves_askMore hsane now s id
      | read call => exact evolves_modifyStream hsane call.stream fun _ => ⟨rfl, rfl⟩
      | forget s id => exact evolves_forget hsane s id
      | receive s inbound => exact evolves_receive hsane s inbound
      | closeStream s error => exact evolves_closeStream hsane s error
      | runDue now =>
          exact evolves_transmit hsane ((Transmitter.leads_runDue ..).evolves hsane.transmitter)
      | close => exact evolves_close hsane
      | pull d => exact evolves_below hsane (ht (.pull d))
      | abandon d => exact evolves_below hsane (ht (.abandon d))
      | fail d error => exact evolves_below hsane (ht (.fail d error))

/-! ## §4  Hubs that are shut -/

theorem closed_closeStream (hs : s < h.streams.length) (error : Option Error) :
    ((h.closeStream s error).2.stream s).isOpen = false := by
  rw [stream_closeStream hs, if_pos rfl]
  exact Stream.isOpen_closed _ _

theorem closed_release (hsane : h.Sane) (hd : d < h.transmitter.dispatchers.length) :
    ((h.release d).transmitter.dispatcher d).closed = true := by
  have hclosed : ((h.transmitter.closeDispatcher d).1.dispatcher d).closed = true := by
    rw [Transmitter.dispatcher_closeDispatcher hd, if_pos rfl]
    exact Dispatcher.closed_closing _
  have hbelow := evolves_below hsane
    (Transmitter.evolves_step hsane.transmitter (.closeDispatcher d))
  exact (evolves_heed hbelow.sane _).transmitter.closed d hclosed

theorem isOpen_close (hsane : h.Sane) : h.close.transmitter.isOpen = false := by
  have hclosed : h.transmitter.close.1.isOpen = false := by
    rw [show h.transmitter.close.1 = h.transmitter.step .close from rfl,
      Transmitter.isOpen_step hsane.transmitter, Transmitter.Op.closesAll, Bool.not_true,
      Bool.and_false]
  have hbelow := evolves_below hsane (Transmitter.evolves_step hsane.transmitter .close)
  exact ((evolves_heed hbelow.sane _).transmitter.shut hclosed).1

/-- A dispatcher is taken only where the transmitter is open. -/
theorem reserve_ok (hsane : h.Sane) (hok : h.reserve.1 = .ok d) :
    h.reserve.2.transmitter.isOpen = true ∧ d < h.reserve.2.transmitter.dispatchers.length := by
  have hbind : h.transmitter.bind.1 = .ok d := hok
  cases hopen : h.transmitter.isOpen with
  | false =>
      rw [Transmitter.bind_of_closed hopen] at hbind
      cases hbind
  | true =>
      obtain ⟨hlast, hopen', hlength, -⟩ :=
        Transmitter.bind_of_open hopen hsane.transmitter.manned
      obtain rfl := Except.ok.inj (hlast.symm.trans hbind)
      refine ⟨hopen', ?_⟩
      show _ < h.transmitter.bind.2.dispatchers.length
      rw [hlength]
      exact Nat.lt_succ_self _

theorem shape_heed (h : Hub) (reports : List Report) :
    (h.heed reports).transmitter.shape = h.transmitter.shape := by
  induction reports generalizing h with
  | nil => rfl
  | cons report reports ih =>
      rw [heed_cons, ih, transmitter_closeStream]
      split
      · exact Transmitter.shape_closeDispatcher ..
      · rfl

theorem shape_post (h : Hub) (now s : Nat) (request : Request) (batched : Bool) :
    (h.post now s request batched).2.transmitter.shape = h.transmitter.shape := by
  cases batched with
  | true => exact Transmitter.shape_dispatch ..
  | false => exact (shape_heed _ _).trans (Transmitter.shape_dispatchNow ..)

theorem reserve_of_shut (hshut : h.transmitter.isOpen = false) :
    h.reserve = (.error .clientClosed, h) := by
  rw [reserve, Transmitter.bind_of_closed hshut]

theorem not_accepts_of_shut (hshut : h.transmitter.isOpen = false) (d : Nat) :
    h.transmitter.accepts d = false := by
  rw [Transmitter.accepts, hshut, Bool.false_and]

/-- A transmitter that is closed takes no request, whether it would go at once or not. -/
theorem post_of_shut (hshut : h.transmitter.isOpen = false) (now s : Nat) (request : Request)
    (batched : Bool) : (h.post now s request batched).1 = .error .clientClosed := by
  have hrefused := not_accepts_of_shut hshut (h.stream s).dispatcher
  cases batched with
  | true => rw [post, if_pos rfl, Transmitter.dispatch_of_not_accepts hrefused]
  | false =>
      rw [post, if_neg Bool.false_ne_true, Transmitter.dispatchNow_of_not_accepts hrefused]

/-- What is sent is sent by an open transmitter. -/
theorem isOpen_of_send (hs : s < h.streams.length) {now : Nat} {payload : RequestPayload}
    {batched : Bool} {call : Call} (hsend : (h.send now s payload batched).1 = .ok call) :
    (h.send now s payload batched).2.transmitter.isOpen = true := by
  obtain ⟨-, -, -, -, hpost⟩ := sent_of_send hs (Prod.ext hsend rfl)
  have hshape := shape_post (h.registered s) now s ⟨⟨(h.stream s).nextId⟩, payload⟩ batched
  rw [hpost] at hshape
  rw [Transmitter.isOpen_of_shape hshape]
  by_contra hshut
  have hrefused := post_of_shut (h := h.registered s) (by simpa using hshut) now s
    ⟨⟨(h.stream s).nextId⟩, payload⟩ batched
  rw [hpost] at hrefused
  cases hrefused

theorem register_error {collector : Collector} {id : RequestId} {error : Error}
    (hregister : (collector.register id).1 = .error error) : error.isReplicaFailure = false := by
  unfold Collector.register at hregister
  split at hregister
  · obtain rfl := Except.error.inj hregister
    rfl
  · split at hregister
    · obtain rfl := Except.error.inj hregister
      rfl
    · cases hregister

/-- Nothing is sent where the transmitter is closed. -/
theorem send_of_shut (hs : s < h.streams.length) (hshut : h.transmitter.isOpen = false) (now : Nat)
    (payload : RequestPayload) (batched : Bool) :
    ∃ error, (h.send now s payload batched).1 = .error error ∧ error.isReplicaFailure = false := by
  cases hopen : (h.stream s).isOpen with
  | false =>
      rw [send_of_closed hopen]
      exact ⟨_, rfl, rfl⟩
  | true =>
      cases hregister : ((h.stream s).collector.register ⟨(h.stream s).nextId⟩).1 with
      | error error =>
          rw [send_of_unregistered hopen hregister]
          exact ⟨_, rfl, register_error hregister⟩
      | ok k =>
          have hpost := post_of_shut (h := h.registered s) hshut now s
            ⟨⟨(h.stream s).nextId⟩, payload⟩ batched
          rw [send_of_registered hs hopen hregister, hpost]
          exact ⟨_, rfl, rfl⟩

theorem askMore_of_shut (hshut : h.transmitter.isOpen = false) (now s : Nat) (id : RequestId) :
    ∃ error, (h.askMore now s id).1 = .error error := by
  have hrefused := not_accepts_of_shut hshut (h.stream s).dispatcher
  unfold askMore
  dsimp only
  split
  · rw [Transmitter.dispatch_of_not_accepts hrefused]
    exact ⟨_, rfl⟩
  · exact ⟨_, rfl⟩

end Hub

end GraphDriver
