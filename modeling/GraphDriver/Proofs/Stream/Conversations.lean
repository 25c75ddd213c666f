import GraphDriver.Stream.Hub
import GraphDriver.Proofs.Stream.Batching
import GraphDriver.Proofs.Stream.Demultiplexing

/-!
# Conversations

What can be done to the streams over one transmitter, in any order, and what it does to one of
them. Below a stream there is a dispatcher, which belongs to it alone; inside it there is a
collector; and the stream is open as long as its collector is.

* §1 the operations of a hub
* §2 runs of the transmitter below
* §3 one stream
* §4 well-formed hubs
* §5 what is noted
-/

namespace GraphDriver

namespace Hub

/-! ## §1  Runs -/

/-- What can be done to a hub, by the owners of its streams, by the connections, and by the
workers. -/
inductive Op where
  | reserve
  | release (d : Nat)
  | attach (d : Nat) (address : String)
  | send (now s : Nat) (payload : RequestPayload) (batched : Bool)
  | askMore (now s : Nat) (id : RequestId)
  | read (call : Call)
  | forget (s : Nat) (id : RequestId)
  | receive (s : Nat) (inbound : Inbound)
  | closeStream (s : Nat) (error : Option Error)
  | runDue (now : Nat)
  | close
  | pull (d : Nat)
  | abandon (d : Nat)
  | fail (d : Nat) (error : Error)

/-- Whether a dispatcher was reserved and no stream was made of it. -/
def isFree (h : Hub) (d : Nat) : Bool :=
  d < h.transmitter.dispatchers.length && h.streams.all (·.dispatcher ≠ d)

/-- Whether an operation can be done: its stream was opened, and the dispatcher that becomes a stream
or is given back is free. -/
def can (h : Hub) : Op → Bool
  | .release d | .attach d _ => h.isFree d
  | .send _ s _ _ | .askMore _ s _ | .forget s _ | .receive s _ | .closeStream s _ =>
    s < h.streams.length
  | .read call => call.stream < h.streams.length
  | .reserve | .runDue _ | .close | .pull _ | .abandon _ | .fail _ _ => true

def perform (h : Hub) : Op → Hub
  | .reserve => h.reserve.2
  | .release d => h.release d
  | .attach d address => (h.attach d address).2
  | .send now s payload batched => (h.send now s payload batched).2
  | .askMore now s id => (h.askMore now s id).2
  | .read call => (h.read call).2
  | .forget s id => h.forget s id
  | .receive s inbound => h.receive s inbound
  | .closeStream s error => (h.closeStream s error).2
  | .runDue now => h.runDue now
  | .close => h.close
  | .pull d => { h with transmitter := h.transmitter.step (.pull d) }
  | .abandon d => { h with transmitter := h.transmitter.step (.abandon d) }
  | .fail d error => { h with transmitter := h.transmitter.step (.fail d error) }

def step (h : Hub) (op : Op) : Hub := if h.can op then h.perform op else h

def run (h : Hub) (ops : List Op) : Hub := ops.foldl step h

/-- The requests that an operation gets into the dispatchers, and the batches that it pulls. -/
def noting (h : Hub) : Op → List Transmitter.Note
  | .send now s payload batched =>
    match (h.send now s payload batched).1 with
    | .ok call => [.accepted (h.stream s).dispatcher ⟨call.id, payload⟩]
    | .error _ => []
  | .askMore now s id =>
    if (h.askMore now s id).1.isOk then [.accepted (h.stream s).dispatcher ⟨id, .streamContinue⟩]
    else []
  | .pull d => h.transmitter.noted (.pull d)
  | _ => []

def noted (h : Hub) (op : Op) : List Transmitter.Note := if h.can op then h.noting op else []

/-- What is noted of a run. -/
def notes (h : Hub) (ops : List Op) : List Transmitter.Note := Run.log step noted h ops

/-- What an operation hands to the reader of one mailbox. -/
def given (s k : Nat) (h : Hub) : Op → List Delivery
  | .read call =>
    if h.can (.read call) ∧ call.stream = s ∧ call.mailbox = k then
      (h.read call).1.item?.toList
    else []
  | _ => []

/-- Everything that a run hands to the reader of one mailbox. -/
def handed (s k : Nat) (h : Hub) (ops : List Op) : List Delivery :=
  Run.log step (given s k) h ops

variable {h : Hub} {s d : Nat}

theorem run_append (h : Hub) (xs ys : List Op) : h.run (xs ++ ys) = (h.run xs).run ys := by
  simp [run]

theorem run_snoc (h : Hub) (ops : List Op) (op : Op) :
    h.run (ops ++ [op]) = (h.run ops).step op := by
  simp [run]

theorem notes_append (h : Hub) (xs ys : List Op) :
    h.notes (xs ++ ys) = h.notes xs ++ (h.run xs).notes ys :=
  Run.log_append h xs ys

theorem notes_snoc (h : Hub) (ops : List Op) (op : Op) :
    h.notes (ops ++ [op]) = h.notes ops ++ (h.run ops).noted op :=
  Run.log_snoc h ops op

theorem step_of_can {op : Op} (hcan : h.can op = true) : h.step op = h.perform op := if_pos hcan

theorem step_of_not_can {op : Op} (hcan : h.can op = false) : h.step op = h :=
  if_neg (by simp [hcan])

end Hub

/-! ## §2  Runs of the transmitter below -/

namespace Transmitter

/-- Whether an operation neither binds a dispatcher nor sets a hook. -/
def Op.calm : Op → Bool
  | .bind | .setHook _ _ => false
  | _ => true

/-- A calm run leads from one transmitter to another, with what is noted of it. -/
def Leads (t : Transmitter) (noted : List Note) (t' : Transmitter) : Prop :=
  ∃ ops : List Op, (∀ op ∈ ops, op.calm = true) ∧ t.run ops = t' ∧ t.notes ops = noted

/-- The later of two transmitters: no dispatcher was lost or opened again, and every hook is the
same. -/
structure Extends (t t' : Transmitter) : Prop where
  wellFormed : t'.WellFormed
  length_le : t.dispatchers.length ≤ t'.dispatchers.length
  hook_eq : ∀ d, (t'.dispatcher d).hook = (t.dispatcher d).hook
  closed : ∀ d, (t.dispatcher d).closed = true → (t'.dispatcher d).closed = true

variable {t t' t'' : Transmitter} {xs ys : List Note} {d : Nat}

theorem Leads.refl (t : Transmitter) : Leads t [] t := ⟨[], by simp, rfl, rfl⟩

theorem leads_step (t : Transmitter) (op : Op) (hop : op.calm = true) :
    Leads t (t.noted op) (t.step op) :=
  ⟨[op], by simpa using hop, rfl, by simp [notes, Run.log]⟩

theorem Leads.trans (h : Leads t xs t') (h' : Leads t' ys t'') : Leads t (xs ++ ys) t'' := by
  obtain ⟨ops, hops, rfl, rfl⟩ := h
  obtain ⟨ops', hops', rfl, rfl⟩ := h'
  refine ⟨ops ++ ops', ?_, ?_, ?_⟩
  · intro op hop
    rcases List.mem_append.mp hop with hop | hop
    · exact hops op hop
    · exact hops' op hop
  · simp [run]
  · exact Run.log_append t ops ops'

/-- What calm steps keep, calm runs keep. -/
theorem Leads.keeps {P : Transmitter → Prop} (h : Leads t xs t')
    (hstep : ∀ (u : Transmitter) (op : Op), op.calm = true → P u → P (u.step op)) (ht : P t) :
    P t' := by
  obtain ⟨ops, hops, rfl, -⟩ := h
  induction ops using List.reverseRecOn with
  | nil => exact ht
  | append_singleton ops op ih =>
      rw [run_snoc]
      exact hstep _ op (hops op (by simp))
        (ih fun op' hop' => hops op' (List.mem_append_left _ hop'))

theorem extends_step (wf : t.WellFormed) (op : Op) (hop : ∀ e hook, op ≠ .setHook e hook) :
    t.Extends (t.step op) :=
  ⟨wf.step op, length_step wf op, hook_step wf op hop, fun _ hd => closed_step wf hd op⟩

theorem Extends.trans (h : t.Extends t') (h' : t'.Extends t'') : t.Extends t'' :=
  ⟨h'.wellFormed, Nat.le_trans h.length_le h'.length_le,
    fun d => (h'.hook_eq d).trans (h.hook_eq d), fun d hd => h'.closed d (h.closed d hd)⟩

theorem Leads.extends (h : Leads t xs t') (wf : t.WellFormed) : t.Extends t' := by
  refine h.keeps (P := fun u => t.Extends u) (fun u op hop hu => ?_)
    ⟨wf, Nat.le_refl _, fun _ => rfl, fun _ hd => hd⟩
  refine hu.trans (extends_step hu.wellFormed op ?_)
  rintro e hook rfl
  simp [Op.calm] at hop

theorem Leads.length_eq (h : Leads t xs t') (wf : t.WellFormed) :
    t'.dispatchers.length = t.dispatchers.length := by
  refine (h.keeps (P := fun u => u.WellFormed ∧ u.dispatchers.length = t.dispatchers.length)
    (fun u op hop hu => ?_) ⟨wf, rfl⟩).2
  refine ⟨hu.1.step op, (length_step_of_ne_bind hu.1 ?_).trans hu.2⟩
  rintro rfl
  simp [Op.calm] at hop

theorem leads_runDue (t : Transmitter) (now : Nat) : Leads t [] (t.runDue now).1 := by
  have hfold : ∀ (ws : List Nat) (u : Transmitter),
      Leads u [] (ws.foldl (fun u w => (u.runWorker now w).1) u) := by
    intro ws
    induction ws with
    | nil => exact fun u => Leads.refl u
    | cons w ws ih => exact fun u => (leads_step u (.runWorker now w) rfl).trans (ih _)
  rw [runDue_eq]
  exact hfold _ t

theorem leads_closeDispatcher (t : Transmitter) (d : Nat) : Leads t [] (t.closeDispatcher d).1 :=
  leads_step t (.closeDispatcher d) rfl

end Transmitter

/-! ## §3  One stream -/

/-- The stream once it is closed; a closed stream stays as it was closed. -/
def Stream.closed (x : Stream) (error : Option Error) : Stream :=
  if x.isOpen then { x with isOpen := false, collector := x.collector.close error } else x

namespace Stream

@[simp] theorem isOpen_closed (x : Stream) (error : Option Error) :
    (x.closed error).isOpen = false := by
  unfold closed
  split
  · rfl
  · simpa using ‹¬ x.isOpen = true›

@[simp] theorem dispatcher_closed (x : Stream) (error : Option Error) :
    (x.closed error).dispatcher = x.dispatcher := by
  unfold closed
  split <;> rfl

@[simp] theorem closed_closed (x : Stream) (error other : Option Error) :
    (x.closed error).closed other = x.closed error := by
  rw [closed, if_neg (by simp)]

end Stream

namespace Hub

variable {h : Hub} {s d : Nat}

@[simp] theorem length_modifyStream (h : Hub) (s : Nat) (f : Stream → Stream) :
    (h.modifyStream s f).streams.length = h.streams.length :=
  List.length_modify ..

@[simp] theorem transmitter_modifyStream (h : Hub) (s : Nat) (f : Stream → Stream) :
    (h.modifyStream s f).transmitter = h.transmitter := rfl

theorem stream_modifyStream (hs : s < h.streams.length) (s₀ : Nat) (f : Stream → Stream) :
    (h.modifyStream s₀ f).stream s = if s = s₀ then f (h.stream s) else h.stream s := by
  unfold stream modifyStream
  rw [Transmitter.getD_modify]
  by_cases hss : s = s₀
  · subst hss
    rw [if_pos ⟨rfl, hs⟩, if_pos rfl]
  · rw [if_neg (fun hc => hss hc.1), if_neg hss]

theorem closeStream_of_closed (hclosed : (h.stream s).isOpen = false) (error : Option Error) :
    h.closeStream s error = (false, h) := by
  simp [closeStream, hclosed]

theorem closeStream_of_open (hopen : (h.stream s).isOpen = true) (error : Option Error) :
    h.closeStream s error =
      (true, { h.modifyStream s fun x =>
          { x with isOpen := false, collector := x.collector.close error } with
        transmitter := (h.transmitter.closeDispatcher (h.stream s).dispatcher).1 }) := by
  simp [closeStream, hopen]

@[simp] theorem length_closeStream (h : Hub) (s : Nat) (error : Option Error) :
    (h.closeStream s error).2.streams.length = h.streams.length := by
  cases hopen : (h.stream s).isOpen with
  | false => rw [closeStream_of_closed hopen]
  | true =>
      rw [closeStream_of_open hopen]
      exact length_modifyStream ..

theorem stream_closeStream (hs : s < h.streams.length) (s₀ : Nat) (error : Option Error) :
    (h.closeStream s₀ error).2.stream s =
      if s = s₀ then (h.stream s).closed error else h.stream s := by
  cases hopen : (h.stream s₀).isOpen with
  | false =>
      rw [closeStream_of_closed hopen]
      split
      · rename_i hss
        rw [hss, Stream.closed, hopen]
        rfl
      · rfl
  | true =>
      rw [closeStream_of_open hopen]
      refine (stream_modifyStream hs s₀ _).trans ?_
      split
      · rename_i hss
        rw [hss, Stream.closed, hopen]
        rfl
      · rfl

theorem transmitter_closeStream (h : Hub) (s : Nat) (error : Option Error) :
    (h.closeStream s error).2.transmitter =
      if (h.stream s).isOpen then (h.transmitter.closeDispatcher (h.stream s).dispatcher).1
      else h.transmitter := by
  cases hopen : (h.stream s).isOpen with
  | false => simp [closeStream_of_closed hopen]
  | true => simp [closeStream_of_open hopen]

theorem heed_cons (h : Hub) (report : Report) (reports : List Report) :
    h.heed (report :: reports) =
      ((h.closeStream report.label (some report.error)).2).heed reports := rfl

@[simp] theorem length_heed (h : Hub) (reports : List Report) :
    (h.heed reports).streams.length = h.streams.length := by
  induction reports generalizing h with
  | nil => rfl
  | cons report reports ih => rw [heed_cons, ih, length_closeStream]

/-- Reports of one error close the streams that they name. -/
theorem stream_heed {reports : List Report} {error : Error}
    (herror : ∀ report ∈ reports, report.error = error) (hs : s < h.streams.length) :
    (h.heed reports).stream s =
      if s ∈ reports.map (·.label) then (h.stream s).closed (some error) else h.stream s := by
  induction reports generalizing h with
  | nil => rfl
  | cons report reports ih =>
      have hrest := fun r hr => herror r (List.mem_cons_of_mem _ hr)
      rw [heed_cons, ih hrest (by simpa using hs), stream_closeStream hs,
        herror report List.mem_cons_self, List.map_cons]
      by_cases hlabel : s = report.label
      · simp [hlabel]
      · simp [hlabel]

theorem leads_closeStream (h : Hub) (s : Nat) (error : Option Error) :
    h.transmitter.Leads [] (h.closeStream s error).2.transmitter := by
  rw [transmitter_closeStream]
  split
  · exact Transmitter.leads_closeDispatcher ..
  · exact Transmitter.Leads.refl _

theorem leads_heed (h : Hub) (reports : List Report) :
    h.transmitter.Leads [] (h.heed reports).transmitter := by
  induction reports generalizing h with
  | nil => exact Transmitter.Leads.refl _
  | cons report reports ih => exact (leads_closeStream h _ _).trans (ih _)

theorem read_eq (h : Hub) (call : Call) :
    h.read call =
      (((h.stream call.stream).collector.read call.mailbox).1,
        h.modifyStream call.stream fun x =>
          { x with collector := ((h.stream call.stream).collector.read call.mailbox).2 }) := rfl

theorem stream_read {call : Call} (hs : call.stream < h.streams.length) :
    (h.read call).2.stream call.stream =
      { h.stream call.stream with
        collector := ((h.stream call.stream).collector.read call.mailbox).2 } := by
  rw [read_eq]
  exact (stream_modifyStream hs _ _).trans (if_pos rfl)

/-! ### Sending -/

/-- The hub once a request was numbered and its call registered. -/
def registered (h : Hub) (s : Nat) : Hub :=
  h.modifyStream s fun x =>
    { x with
      nextId := x.nextId + 1
      collector := ((h.stream s).collector.register ⟨(h.stream s).nextId⟩).2 }

/-- The request goes to the dispatcher, and a refusal of its batch is heard. -/
def post (h : Hub) (now s : Nat) (request : Request) (batched : Bool) : Except Error Unit × Hub :=
  if batched then
    ((h.transmitter.dispatch now (h.stream s).dispatcher request).1,
      { h with transmitter := (h.transmitter.dispatch now (h.stream s).dispatcher request).2 })
  else
    ((h.transmitter.dispatchNow (h.stream s).dispatcher request).1,
      h.transmit (h.transmitter.dispatchNow (h.stream s).dispatcher request).2)

@[simp] theorem length_post (h : Hub) (now s : Nat) (request : Request) (batched : Bool) :
    (h.post now s request batched).2.streams.length = h.streams.length := by
  cases batched with
  | true => rfl
  | false => exact length_heed _ _

@[simp] theorem length_registered (h : Hub) (s : Nat) :
    (h.registered s).streams.length = h.streams.length :=
  length_modifyStream ..

theorem stream_registered (hs : s < h.streams.length) (s₀ : Nat) :
    (h.registered s₀).stream s =
      if s = s₀ then
        { h.stream s with
          nextId := (h.stream s).nextId + 1
          collector := ((h.stream s).collector.register ⟨(h.stream s).nextId⟩).2 }
      else h.stream s := by
  refine (stream_modifyStream hs s₀ _).trans ?_
  split
  · rename_i hss
    rw [hss]
  · rfl

@[simp] theorem dispatcher_registered (h : Hub) (s₀ : Nat) (hs : s < h.streams.length) :
    ((h.registered s₀).stream s).dispatcher = (h.stream s).dispatcher := by
  rw [stream_registered hs]
  split <;> rfl

theorem send_of_closed (hclosed : (h.stream s).isOpen = false) (now : Nat)
    (payload : RequestPayload) (batched : Bool) :
    h.send now s payload batched = (.error .transactionClosed, h) := by
  simp [send, hclosed]

theorem send_of_unregistered (hopen : (h.stream s).isOpen = true) {error : Error}
    (hregister : ((h.stream s).collector.register ⟨(h.stream s).nextId⟩).1 = .error error)
    (now : Nat) (payload : RequestPayload) (batched : Bool) :
    h.send now s payload batched = (.error error, h.registered s) := by
  unfold send
  simp only [hopen, if_true]
  rw [hregister]
  rfl

theorem send_of_registered (hs : s < h.streams.length) (hopen : (h.stream s).isOpen = true)
    {k : Nat}
    (hregister : ((h.stream s).collector.register ⟨(h.stream s).nextId⟩).1 = .ok k)
    (now : Nat) (payload : RequestPayload) (batched : Bool) :
    let id : RequestId := ⟨(h.stream s).nextId⟩
    let posted := (h.registered s).post now s ⟨id, payload⟩ batched
    h.send now s payload batched =
      match posted.1 with
      | .ok () => (.ok ⟨s, k, id⟩, posted.2)
      | .error error => (.error error, posted.2.forget s id) := by
  intro id posted
  have hdispatcher : ((h.registered s).stream s).dispatcher = (h.stream s).dispatcher :=
    dispatcher_registered h s hs
  have hposted : posted = (h.registered s).post now s ⟨id, payload⟩ batched := rfl
  rw [post, hdispatcher] at hposted
  rw [hposted]
  unfold send
  simp only [hopen, if_true]
  rw [hregister]
  cases batched with
  | true => rfl
  | false => rfl

/-- A call that is begun is registered under the next number, and its request was accepted. -/
theorem sent_of_send (hs : s < h.streams.length) {now : Nat} {payload : RequestPayload}
    {batched : Bool} {call : Call} {h' : Hub}
    (hsend : h.send now s payload batched = (.ok call, h')) :
    (h.stream s).isOpen = true ∧ call.stream = s ∧ call.id = ⟨(h.stream s).nextId⟩ ∧
      ((h.stream s).collector.register ⟨(h.stream s).nextId⟩).1 = .ok call.mailbox ∧
      (h.registered s).post now s ⟨⟨(h.stream s).nextId⟩, payload⟩ batched = (.ok (), h') := by
  cases hopen : (h.stream s).isOpen with
  | false => simp [send_of_closed hopen] at hsend
  | true =>
      cases hregister : ((h.stream s).collector.register ⟨(h.stream s).nextId⟩).1 with
      | error error => simp [send_of_unregistered hopen hregister] at hsend
      | ok k =>
          rw [send_of_registered hs hopen hregister] at hsend
          split at hsend
          · rename_i hposted
            obtain ⟨hcall, rfl⟩ := Prod.mk.inj hsend
            obtain rfl := Except.ok.inj hcall
            exact ⟨rfl, rfl, rfl, rfl, Prod.ext hposted rfl⟩
          · simp at hsend

end Hub

/-! ## §4  Well-formed hubs -/

/-- The collector of a stream is in order, and closed with the stream. -/
structure Stream.Sound (x : Stream) : Prop where
  collector : x.collector.WellFormed
  alive : x.isOpen = !x.collector.closed

namespace Stream

theorem Sound.closed {x : Stream} (h : x.Sound) (error : Option Error) :
    (x.closed error).Sound := by
  unfold Stream.closed
  split
  · exact ⟨Collector.wellFormed_close _ _, by simp⟩
  · exact h

end Stream

namespace Hub

/-- Each stream has a dispatcher of its own, whose hook names the stream, and which is closed with
it. -/
structure WellFormed (h : Hub) : Prop where
  transmitter : h.transmitter.WellFormed
  bound : ∀ s < h.streams.length, (h.stream s).dispatcher < h.transmitter.dispatchers.length
  hooked : ∀ s < h.streams.length,
    (h.transmitter.dispatcher (h.stream s).dispatcher).hook = some { label := s, closes := false }
  owned : ∀ d hook, (h.transmitter.dispatcher d).hook = some hook →
    hook.label < h.streams.length ∧ (h.stream hook.label).dispatcher = d
  sound : ∀ s < h.streams.length, (h.stream s).Sound
  ended : ∀ s < h.streams.length, (h.stream s).isOpen = false →
    (h.transmitter.dispatcher (h.stream s).dispatcher).closed = true

/-- A hub over a new transmitter, without streams. -/
def new (config : TransmitterConfig) : Hub := { transmitter := Transmitter.new config }

theorem wellFormed_new (config : TransmitterConfig) : (new config).WellFormed := by
  refine ⟨Transmitter.wellFormed_new config, ?_, ?_, ?_, ?_, ?_⟩
  · exact fun _ hs => absurd hs (Nat.not_lt_zero _)
  · exact fun _ hs => absurd hs (Nat.not_lt_zero _)
  · intro d hook hhook
    rw [Transmitter.dispatcher_of_le (Nat.zero_le d)] at hhook
    exact absurd hhook (by simp [show (default : Dispatcher).hook = none from rfl])
  · exact fun _ hs => absurd hs (Nat.not_lt_zero _)
  · exact fun _ hs => absurd hs (Nat.not_lt_zero _)

variable {h h' : Hub} {s d : Nat} {xs : List Transmitter.Note}

/-- The transmitter goes on, and the streams stay sound and keep their dispatchers. -/
theorem WellFormed.update (wf : h.WellFormed) (hextends : h.transmitter.Extends h'.transmitter)
    (hlength : h'.streams.length = h.streams.length)
    (hdispatcher : ∀ s < h.streams.length, (h'.stream s).dispatcher = (h.stream s).dispatcher)
    (hsound : ∀ s < h.streams.length, (h'.stream s).Sound)
    (hended : ∀ s < h.streams.length, (h'.stream s).isOpen = false →
      (h.stream s).isOpen = false ∨
        (h'.transmitter.dispatcher (h.stream s).dispatcher).closed = true) :
    h'.WellFormed := by
  refine ⟨hextends.wellFormed, ?_, ?_, ?_, ?_, ?_⟩
  · intro s hs
    rw [hlength] at hs
    rw [hdispatcher s hs]
    exact Nat.lt_of_lt_of_le (wf.bound s hs) hextends.length_le
  · intro s hs
    rw [hlength] at hs
    rw [hdispatcher s hs, hextends.hook_eq]
    exact wf.hooked s hs
  · intro d hook hhook
    rw [hextends.hook_eq] at hhook
    obtain ⟨hlabel, howner⟩ := wf.owned d hook hhook
    rw [hlength, hdispatcher _ hlabel]
    exact ⟨hlabel, howner⟩
  · intro s hs
    rw [hlength] at hs
    exact hsound s hs
  · intro s hs hclosed
    rw [hlength] at hs
    rw [hdispatcher s hs]
    rcases hended s hs hclosed with hbefore | hnow
    · exact hextends.closed _ (wf.ended s hs hbefore)
    · exact hnow

theorem WellFormed.below (wf : h.WellFormed) {t : Transmitter}
    (hextends : h.transmitter.Extends t) : WellFormed { h with transmitter := t } :=
  wf.update hextends rfl (fun _ _ => rfl) wf.sound (fun _ _ hclosed => .inl hclosed)

theorem WellFormed.modifyStream (wf : h.WellFormed) (s₀ : Nat) {f : Stream → Stream}
    (hdispatcher : ∀ x, (f x).dispatcher = x.dispatcher) (hisOpen : ∀ x, (f x).isOpen = x.isOpen)
    (hsound : s₀ < h.streams.length → (f (h.stream s₀)).Sound) :
    (h.modifyStream s₀ f).WellFormed := by
  have hextends := (Transmitter.Leads.refl h.transmitter).extends wf.transmitter
  refine wf.update hextends (length_modifyStream ..) ?_ ?_ ?_
  · intro s hs
    rw [stream_modifyStream hs]
    split
    · exact hdispatcher _
    · rfl
  · intro s hs
    rw [stream_modifyStream hs]
    split
    · rename_i hss
      subst hss
      exact hsound hs
    · exact wf.sound s hs
  · intro s hs hclosed
    rw [stream_modifyStream hs] at hclosed
    split at hclosed
    · exact .inl ((hisOpen _).symm.trans hclosed)
    · exact .inl hclosed

theorem WellFormed.closeStream (wf : h.WellFormed) (s₀ : Nat) (error : Option Error) :
    (h.closeStream s₀ error).2.WellFormed := by
  have hextends := (leads_closeStream h s₀ error).extends wf.transmitter
  refine wf.update hextends (length_closeStream ..) ?_ ?_ ?_
  · intro s hs
    rw [stream_closeStream hs]
    split <;> simp
  · intro s hs
    rw [stream_closeStream hs]
    split
    · exact (wf.sound s hs).closed error
    · exact wf.sound s hs
  · intro s hs hclosed
    rw [stream_closeStream hs] at hclosed
    rw [transmitter_closeStream]
    split at hclosed
    · rename_i hss
      subst hss
      split
      · refine .inr ?_
        rw [Transmitter.dispatcher_closeDispatcher (wf.bound s hs), if_pos rfl]
        exact Dispatcher.closed_closing _
      · exact .inl (by simpa using ‹¬ (h.stream s).isOpen = true›)
    · exact .inl hclosed

theorem WellFormed.heed (wf : h.WellFormed) (reports : List Report) :
    (h.heed reports).WellFormed := by
  induction reports generalizing h with
  | nil => exact wf
  | cons report reports ih => exact ih (wf.closeStream _ _)

theorem WellFormed.transmit (wf : h.WellFormed) {step : Transmitter × List Report}
    (hleads : h.transmitter.Leads xs step.1) : (h.transmit step).WellFormed :=
  (wf.below (hleads.extends wf.transmitter)).heed step.2

/-! ### Operations -/

theorem closed_register (c : Collector) (id : RequestId) : (c.register id).2.closed = c.closed := by
  unfold Collector.register
  split
  · rfl
  · split <;> rfl

theorem closed_route (c : Collector) (m : ServerMessage) : (c.route m).2.closed = c.closed := by
  unfold Collector.route
  split
  · rfl
  · split
    · split <;> rfl
    · split <;> rfl

theorem WellFormed.registered (wf : h.WellFormed) (s : Nat) : (h.registered s).WellFormed := by
  refine wf.modifyStream s (fun _ => rfl) (fun _ => rfl) fun hs => ?_
  have hsound := wf.sound s hs
  exact ⟨hsound.collector.register _, hsound.alive.trans (by rw [closed_register])⟩

theorem WellFormed.forget (wf : h.WellFormed) (s : Nat) (id : RequestId) :
    (h.forget s id).WellFormed :=
  wf.modifyStream s (fun _ => rfl) (fun _ => rfl) fun hs =>
    ⟨(wf.sound s hs).collector.remove id, (wf.sound s hs).alive⟩

theorem WellFormed.read (wf : h.WellFormed) (call : Call) : (h.read call).2.WellFormed := by
  rw [read_eq]
  refine wf.modifyStream call.stream (fun _ => rfl) (fun _ => rfl) fun hs => ?_
  have hsound := wf.sound call.stream hs
  have hclosed := ((h.stream call.stream).collector.read_frame call.mailbox).2.1
  exact ⟨hsound.collector.read _, hsound.alive.trans (congrArg (!·) hclosed.symm)⟩

theorem WellFormed.receive (wf : h.WellFormed) (s : Nat) (inbound : Inbound) :
    (h.receive s inbound).WellFormed := by
  unfold Hub.receive
  dsimp only
  split
  · split
    · rename_i m
      have hroute := closed_route (h.stream s).collector m
      have hcollector := fun hs => (wf.sound s hs).collector.route m
      split
      · rename_i collector heq
        rw [heq] at hroute hcollector
        exact wf.modifyStream s (fun _ => rfl) (fun _ => rfl) fun hs =>
          ⟨hcollector hs, (wf.sound s hs).alive.trans (by rw [← hroute])⟩
      · exact wf.closeStream s _
    · exact wf.closeStream s _
    · exact wf.closeStream s _
    · exact wf.closeStream s _
  · exact wf

theorem leads_dispatchNow (t : Transmitter) (d : Nat) (request : Request) :
    t.Leads (t.noted (.dispatchNow d request)) (t.dispatchNow d request).2.1 :=
  Transmitter.leads_step t (.dispatchNow d request) rfl

theorem WellFormed.post (wf : h.WellFormed) (now s : Nat) (request : Request) (batched : Bool) :
    (h.post now s request batched).2.WellFormed := by
  unfold Hub.post
  split
  · exact wf.below (Transmitter.extends_step wf.transmitter (.dispatch now _ request) (by simp))
  · exact wf.transmit (leads_dispatchNow ..)

theorem WellFormed.send (wf : h.WellFormed) (hs : s < h.streams.length) (now : Nat)
    (payload : RequestPayload) (batched : Bool) :
    (h.send now s payload batched).2.WellFormed := by
  cases hopen : (h.stream s).isOpen with
  | false => rwa [send_of_closed hopen]
  | true =>
      cases hregister : ((h.stream s).collector.register ⟨(h.stream s).nextId⟩).1 with
      | error error =>
          rw [send_of_unregistered hopen hregister]
          exact wf.registered s
      | ok k =>
          have hposted := (wf.registered s).post now s ⟨⟨(h.stream s).nextId⟩, payload⟩ batched
          rw [send_of_registered hs hopen hregister]
          split
          · exact hposted
          · exact hposted.forget s _

theorem WellFormed.askMore (wf : h.WellFormed) (now s : Nat) (id : RequestId) :
    (h.askMore now s id).2.WellFormed := by
  unfold Hub.askMore
  dsimp only
  split
  · exact wf.below (Transmitter.extends_step wf.transmitter (.dispatch now _ _) (by simp))
  · exact wf

theorem free_of_isFree (hfree : h.isFree d = true) :
    d < h.transmitter.dispatchers.length ∧ ∀ s < h.streams.length, (h.stream s).dispatcher ≠ d := by
  simp only [isFree, Bool.and_eq_true, decide_eq_true_eq, List.all_eq_true] at hfree
  refine ⟨hfree.1, fun s hs => ?_⟩
  have hmem : h.stream s ∈ h.streams := by
    rw [stream, List.getD_eq_getElem _ _ hs]
    exact List.getElem_mem hs
  exact hfree.2 _ hmem

theorem stream_attach (d : Nat) (address : String) (s : Nat) :
    (h.attach d address).2.stream s =
      if s = h.streams.length then { dispatcher := d, address } else h.stream s :=
  Transmitter.getD_append_one ..

theorem WellFormed.attach (wf : h.WellFormed) (hfree : h.isFree d = true) (address : String) :
    (h.attach d address).2.WellFormed := by
  obtain ⟨hd, hne⟩ := free_of_isFree hfree
  have hlength : (h.attach d address).2.streams.length = h.streams.length + 1 := by
    simp [Hub.attach]
  have hdispatchers : (h.attach d address).2.transmitter.dispatchers.length =
      h.transmitter.dispatchers.length := by
    simp [Hub.attach, Transmitter.setHook]
  have hdispatcher : ∀ e < h.transmitter.dispatchers.length,
      (h.attach d address).2.transmitter.dispatcher e =
        if e = d then
          { h.transmitter.dispatcher d with
            hook := some { label := h.streams.length, closes := false } }
        else h.transmitter.dispatcher e :=
    fun e he => Transmitter.dispatcher_modify he d _
  -- the stream that was opened, and those that were there
  have hcases : ∀ s < h.streams.length + 1, s = h.streams.length ∨ s < h.streams.length := by
    intro s hs
    omega
  refine ⟨wf.transmitter.setHook d _, ?_, ?_, ?_, ?_, ?_⟩
  · intro s hs
    rw [hlength] at hs
    rw [hdispatchers, stream_attach]
    rcases hcases s hs with rfl | hlt
    · simpa using hd
    · rw [if_neg (Nat.ne_of_lt hlt)]
      exact wf.bound s hlt
  · intro s hs
    rw [hlength] at hs
    rw [stream_attach]
    rcases hcases s hs with rfl | hlt
    · rw [if_pos rfl, hdispatcher d hd, if_pos rfl]
    · rw [if_neg (Nat.ne_of_lt hlt), hdispatcher _ (wf.bound s hlt), if_neg (hne s hlt)]
      exact wf.hooked s hlt
  · intro e hook hhook
    by_cases he : e < h.transmitter.dispatchers.length
    · rw [hdispatcher e he] at hhook
      rw [hlength, stream_attach]
      split at hhook
      · rename_i hed
        obtain rfl : (⟨h.streams.length, false⟩ : Hook) = hook := by simpa using hhook
        exact ⟨Nat.lt_succ_self _, by simp [hed]⟩
      · obtain ⟨hlabel, howner⟩ := wf.owned e hook hhook
        refine ⟨Nat.lt_succ_of_lt hlabel, ?_⟩
        rw [if_neg (Nat.ne_of_lt hlabel)]
        exact howner
    · rw [Transmitter.dispatcher_of_le (by rw [hdispatchers]; exact Nat.not_lt.mp he)] at hhook
      exact absurd hhook (by simp [show (default : Dispatcher).hook = none from rfl])
  · intro s hs
    rw [hlength] at hs
    rw [stream_attach]
    split
    · exact ⟨Collector.wellFormed_empty, rfl⟩
    · rcases hcases s hs with rfl | hlt
      · contradiction
      · exact wf.sound s hlt
  · intro s hs hclosed
    rw [hlength] at hs
    rw [stream_attach] at hclosed ⊢
    rcases hcases s hs with rfl | hlt
    · simp at hclosed
    · rw [if_neg (Nat.ne_of_lt hlt)] at hclosed ⊢
      rw [hdispatcher _ (wf.bound s hlt), if_neg (hne s hlt)]
      exact wf.ended s hlt hclosed

theorem WellFormed.step (wf : h.WellFormed) (op : Op) : (h.step op).WellFormed := by
  cases hcan : h.can op with
  | false => rwa [step_of_not_can hcan]
  | true =>
      rw [step_of_can hcan]
      cases op with
      | reserve => exact wf.below (Transmitter.extends_step wf.transmitter .bind (by simp))
      | release d => exact wf.transmit (Transmitter.leads_closeDispatcher ..)
      | attach d address => exact wf.attach hcan address
      | send now s payload batched => exact wf.send (by simpa [can] using hcan) now payload batched
      | askMore now s id => exact wf.askMore now s id
      | read call => exact wf.read call
      | forget s id => exact wf.forget s id
      | receive s inbound => exact wf.receive s inbound
      | closeStream s error => exact wf.closeStream s error
      | runDue now => exact wf.transmit (Transmitter.leads_runDue ..)
      | close => exact wf.transmit (Transmitter.leads_step h.transmitter .close rfl)
      | pull d => exact wf.below (Transmitter.extends_step wf.transmitter (.pull d) (by simp))
      | abandon d => exact wf.below (Transmitter.extends_step wf.transmitter (.abandon d) (by simp))
      | fail d error =>
          exact wf.below (Transmitter.extends_step wf.transmitter (.fail d error) (by simp))

theorem WellFormed.run (wf : h.WellFormed) (ops : List Op) : (h.run ops).WellFormed :=
  Run.keeps (fun _ op wf => wf.step op) wf ops

@[simp] theorem length_send (hs : s < h.streams.length) (now : Nat) (payload : RequestPayload)
    (batched : Bool) : (h.send now s payload batched).2.streams.length = h.streams.length := by
  cases hopen : (h.stream s).isOpen with
  | false => rw [send_of_closed hopen]
  | true =>
      cases hregister : ((h.stream s).collector.register ⟨(h.stream s).nextId⟩).1 with
      | error error =>
          rw [send_of_unregistered hopen hregister]
          exact length_registered h s
      | ok k =>
          rw [send_of_registered hs hopen hregister]
          split
          · simp
          · simp [forget]

theorem WellFormed.of_send (wf : h.WellFormed) (hs : s < h.streams.length) {now : Nat}
    {payload : RequestPayload} {batched : Bool} {result : Except Error Call} {h' : Hub}
    (hsend : h.send now s payload batched = (result, h')) :
    h'.WellFormed ∧ s < h'.streams.length := by
  have wf' := wf.send hs now payload batched
  have hlength := length_send hs now payload batched
  rw [hsend] at wf' hlength
  exact ⟨wf', hlength.symm ▸ hs⟩

/-- Only opening a stream makes their list longer. -/
theorem length_step (h : Hub) {op : Op} (hattach : ∀ d address, op ≠ .attach d address) :
    (h.step op).streams.length = h.streams.length := by
  cases hcan : h.can op with
  | false => rw [step_of_not_can hcan]
  | true =>
      rw [step_of_can hcan]
      cases op with
      | attach d address => exact absurd rfl (hattach d address)
      | send now s payload batched =>
          exact length_send (by simpa [can] using hcan) now payload batched
      | askMore now s id =>
          unfold perform askMore
          dsimp only
          split <;> rfl
      | receive s inbound =>
          unfold perform receive
          dsimp only
          split
          · split
            · split <;> simp
            · simp
            · simp
            · simp
          · rfl
      | reserve => rfl
      | release d => simp [perform, release, transmit]
      | read call => simp [perform, read_eq]
      | forget s id => simp [perform, forget]
      | closeStream s error => simp [perform]
      | runDue now => simp [perform, runDue, transmit]
      | close => simp [perform, Hub.close, transmit]
      | pull d => rfl
      | abandon d => rfl
      | fail d error => rfl

/-- A stream is opened and never taken from the list. -/
theorem length_step_le (h : Hub) (op : Op) : h.streams.length ≤ (h.step op).streams.length := by
  by_cases hattach : ∃ d address, op = .attach d address
  · obtain ⟨d, address, rfl⟩ := hattach
    unfold step
    split
    · simp [perform, attach]
    · exact Nat.le_refl _
  · exact Nat.le_of_eq (length_step h (by simpa using hattach)).symm

theorem lt_length_run (hs : s < h.streams.length) (ops : List Op) :
    s < (h.run ops).streams.length :=
  Run.keeps (P := fun h => s < h.streams.length)
    (fun h op hs => Nat.lt_of_lt_of_le hs (length_step_le h op)) hs ops

/-! ## §5  What is noted -/

theorem leads_transmit (h : Hub) {step : Transmitter × List Report}
    (hleads : h.transmitter.Leads xs step.1) :
    h.transmitter.Leads xs (h.transmit step).transmitter := by
  have hheed := leads_heed { h with transmitter := step.1 } step.2
  have htrans := hleads.trans hheed
  rwa [List.append_nil] at htrans

theorem leads_post (h : Hub) (now s : Nat) (request : Request) (batched : Bool) :
    h.transmitter.Leads
      (if (h.post now s request batched).1.isOk then [.accepted (h.stream s).dispatcher request]
        else [])
      (h.post now s request batched).2.transmitter := by
  cases batched with
  | true => exact Transmitter.leads_step h.transmitter (.dispatch now _ request) rfl
  | false => exact leads_transmit h (leads_dispatchNow h.transmitter _ request)

theorem leads_send (hs : s < h.streams.length) (now : Nat) (payload : RequestPayload)
    (batched : Bool) :
    h.transmitter.Leads (h.noting (.send now s payload batched))
      (h.send now s payload batched).2.transmitter := by
  simp only [noting]
  cases hopen : (h.stream s).isOpen with
  | false =>
      rw [send_of_closed hopen]
      exact Transmitter.Leads.refl _
  | true =>
      cases hregister : ((h.stream s).collector.register ⟨(h.stream s).nextId⟩).1 with
      | error error =>
          rw [send_of_unregistered hopen hregister]
          exact Transmitter.Leads.refl _
      | ok k =>
          have hposted := leads_post (h.registered s) now s ⟨⟨(h.stream s).nextId⟩, payload⟩ batched
          rw [dispatcher_registered h s hs] at hposted
          rw [send_of_registered hs hopen hregister]
          cases hresult :
              ((h.registered s).post now s ⟨⟨(h.stream s).nextId⟩, payload⟩ batched).1 with
          | ok u =>
              rw [hresult] at hposted
              exact hposted
          | error error =>
              rw [hresult] at hposted
              exact hposted

theorem leads_askMore (h : Hub) (now s : Nat) (id : RequestId) :
    h.transmitter.Leads (h.noting (.askMore now s id)) (h.askMore now s id).2.transmitter := by
  unfold noting askMore
  dsimp only
  split
  · exact Transmitter.leads_step h.transmitter (.dispatch now _ _) rfl
  · exact Transmitter.Leads.refl _

theorem leads_receive (h : Hub) (s : Nat) (inbound : Inbound) :
    h.transmitter.Leads [] (h.receive s inbound).transmitter := by
  unfold receive
  dsimp only
  split
  · split
    · split
      · exact Transmitter.Leads.refl _
      · exact leads_closeStream ..
    · exact leads_closeStream ..
    · exact leads_closeStream ..
    · exact leads_closeStream ..
  · exact Transmitter.Leads.refl _

/-- What a hub does to its transmitter is a run of it, with the same notes. -/
theorem leads_step (h : Hub) {op : Op} (hreserve : op ≠ .reserve)
    (hattach : ∀ d address, op ≠ .attach d address) :
    h.transmitter.Leads (h.noted op) (h.step op).transmitter := by
  unfold noted
  cases hcan : h.can op with
  | false =>
      rw [step_of_not_can hcan]
      exact Transmitter.Leads.refl _
  | true =>
      rw [step_of_can hcan, if_pos rfl]
      cases op with
      | reserve => exact absurd rfl hreserve
      | attach d address => exact absurd rfl (hattach d address)
      | release d => exact leads_transmit h (Transmitter.leads_closeDispatcher ..)
      | send now s payload batched => exact leads_send (by simpa [can] using hcan) ..
      | askMore now s id => exact leads_askMore ..
      | read call => exact Transmitter.Leads.refl _
      | forget s id => exact Transmitter.Leads.refl _
      | receive s inbound => exact leads_receive ..
      | closeStream s error => exact leads_closeStream ..
      | runDue now => exact leads_transmit h (Transmitter.leads_runDue ..)
      | close => exact leads_transmit h (Transmitter.leads_step h.transmitter .close rfl)
      | pull d => exact Transmitter.leads_step h.transmitter (.pull d) rfl
      | abandon d => exact Transmitter.leads_step h.transmitter (.abandon d) rfl
      | fail d error => exact Transmitter.leads_step h.transmitter (.fail d error) rfl

/-- Nothing is noted of a dispatcher that was not reserved. -/
theorem noted_of_le (wf : h.WellFormed) (hd : h.transmitter.dispatchers.length ≤ d) (op : Op) :
    Transmitter.accepted d (h.noted op) = [] ∧ Transmitter.received d (h.noted op) = [] := by
  unfold noted
  split
  · rename_i hcan
    have hbound : ∀ s, s < h.streams.length → (h.stream s).dispatcher ≠ d := by
      intro s hs heq
      exact Nat.not_lt.mpr hd (heq ▸ wf.bound s hs)
    cases op with
    | send now s payload batched =>
        have hne := hbound s (by simpa [can] using hcan)
        simp only [noting]
        split <;> simp [Transmitter.accepted, Transmitter.received, hne]
    | askMore now s id =>
        have hne := hbound s (by simpa [can] using hcan)
        simp only [noting]
        split <;> simp [Transmitter.accepted, Transmitter.received, hne]
    | pull e =>
        simp only [noting, Transmitter.noted, Transmitter.accepted_received,
          Transmitter.received_received]
        refine ⟨trivial, ?_⟩
        split
        · rename_i hed
          rw [hed, Transmitter.dispatcher_of_le hd]
          rfl
        · rfl
    | reserve => exact ⟨rfl, rfl⟩
    | release e => exact ⟨rfl, rfl⟩
    | attach e address => exact ⟨rfl, rfl⟩
    | read call => exact ⟨rfl, rfl⟩
    | forget s id => exact ⟨rfl, rfl⟩
    | receive s inbound => exact ⟨rfl, rfl⟩
    | closeStream s error => exact ⟨rfl, rfl⟩
    | runDue now => exact ⟨rfl, rfl⟩
    | close => exact ⟨rfl, rfl⟩
    | abandon e => exact ⟨rfl, rfl⟩
    | fail e error => exact ⟨rfl, rfl⟩
  · exact ⟨rfl, rfl⟩

/-- Whatever is done to a hub, its transmitter makes a run of its own, with the same notes. -/
theorem exists_run (h : Hub) (op : Op) :
    ∃ ops, h.transmitter.run ops = (h.step op).transmitter ∧
      h.transmitter.notes ops = h.noted op := by
  -- Reserving adds a dispatcher and attaching sets a hook, which no `Leads` does.
  by_cases hreserve : op = .reserve
  · subst hreserve
    exact ⟨[.bind], rfl, rfl⟩
  · by_cases hattach : ∃ d address, op = .attach d address
    · obtain ⟨d, address, rfl⟩ := hattach
      have hnone : h.noted (.attach d address) = [] := by simp [noted, noting]
      cases hcan : h.can (.attach d address) with
      | false => exact ⟨[], by rw [step_of_not_can hcan]; rfl, hnone.symm⟩
      | true =>
          refine ⟨[.setHook d ⟨h.streams.length, false⟩], ?_, hnone.symm⟩
          rw [step_of_can hcan]
          rfl
    · obtain ⟨ops, -, hrun, hnotes⟩ := leads_step h hreserve (by simpa using hattach)
      exact ⟨ops, hrun, hnotes⟩

/-- A dispatcher that was not there has nothing on its way yet. -/
theorem outgoing_of_le (wf : h.WellFormed) (hd : h.transmitter.dispatchers.length ≤ d) (op : Op) :
    ((h.step op).transmitter.dispatcher d).outgoing = [] := by
  by_cases hreserve : op = .reserve
  · subst hreserve
    obtain ⟨w, hnew⟩ := Transmitter.dispatcher_step_of_le wf.transmitter hd .bind
    show ((h.transmitter.step .bind).dispatcher d).outgoing = []
    rw [hnew]
    rfl
  · have hlength : (h.step op).transmitter.dispatchers.length =
        h.transmitter.dispatchers.length := by
      by_cases hattach : ∃ e address, op = .attach e address
      · obtain ⟨e, address, rfl⟩ := hattach
        unfold step
        split
        · simp [perform, attach, Transmitter.setHook]
        · rfl
      · exact (leads_step h hreserve (by simpa using hattach)).length_eq wf.transmitter
    rw [Transmitter.dispatcher_of_le (hlength ▸ hd)]
    rfl

/-- What is on its way in a dispatcher changes by what is accepted and what is pulled. -/
theorem outgoing_step (wf : h.WellFormed) (op : Op) (d : Nat)
    (hheld : ((h.step op).transmitter.dispatcher d).queue.abandoned = false) :
    (Transmitter.received d (h.noted op)).flatMap (·.requests) ++
        ((h.step op).transmitter.dispatcher d).outgoing =
      (h.transmitter.dispatcher d).outgoing ++ Transmitter.accepted d (h.noted op) := by
  rcases Nat.lt_or_ge d h.transmitter.dispatchers.length with hd | hd
  · obtain ⟨ops, hrun, hnotes⟩ := exists_run h op
    rw [← hrun] at hheld ⊢
    rw [← hnotes]
    exact Transmitter.outgoing_run wf.transmitter hd ops hheld
  · obtain ⟨haccepted, hreceived⟩ := noted_of_le wf hd op
    rw [haccepted, hreceived, outgoing_of_le wf hd, Transmitter.dispatcher_of_le hd]
    rfl

theorem held_of_step (wf : h.WellFormed) (op : Op)
    (hheld : ((h.step op).transmitter.dispatcher d).queue.abandoned = false) :
    (h.transmitter.dispatcher d).queue.abandoned = false := by
  obtain ⟨ops, hrun, -⟩ := exists_run h op
  rw [← hrun] at hheld
  exact Transmitter.held_of_run wf.transmitter ops hheld

theorem outgoing_run (wf : h.WellFormed) (ops : List Op) (d : Nat)
    (hheld : ((h.run ops).transmitter.dispatcher d).queue.abandoned = false) :
    (Transmitter.received d (h.notes ops)).flatMap (·.requests) ++
        ((h.run ops).transmitter.dispatcher d).outgoing =
      (h.transmitter.dispatcher d).outgoing ++ Transmitter.accepted d (h.notes ops) := by
  induction ops using List.reverseRecOn with
  | nil => exact (List.append_nil _).symm
  | append_singleton ops op ih =>
      rw [run_snoc] at hheld
      have hstep := outgoing_step (wf.run ops) op d hheld
      rw [run_snoc, notes_snoc, Transmitter.received_append, Transmitter.accepted_append,
        List.flatMap_append, List.append_assoc, hstep, ← List.append_assoc,
        ih (held_of_step (wf.run ops) op hheld), List.append_assoc]

/-- A closed dispatcher accepts nothing, and stays closed. -/
theorem accepted_of_closed (wf : h.WellFormed)
    (hclosed : (h.transmitter.dispatcher d).closed = true) (ops : List Op) :
    Transmitter.accepted d (h.notes ops) = [] ∧
      ((h.run ops).transmitter.dispatcher d).closed = true := by
  induction ops using List.reverseRecOn with
  | nil => exact ⟨rfl, hclosed⟩
  | append_singleton ops op ih =>
      obtain ⟨hnone, hstill⟩ := ih
      have wf' := (wf.run ops).transmitter
      obtain ⟨ops', hrun, hnotes⟩ := exists_run (h.run ops) op
      rw [run_snoc, notes_snoc, Transmitter.accepted_append, hnone, List.nil_append, ← hrun,
        ← hnotes]
      exact ⟨Transmitter.accepted_of_closed wf' hstill ops', Transmitter.closed_run wf' hstill ops'⟩

end Hub

end GraphDriver
