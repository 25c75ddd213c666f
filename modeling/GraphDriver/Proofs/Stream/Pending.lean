import GraphDriver.Proofs.Stream.Lateness
import GraphDriver.Proofs.Stream.Teardown

/-!
# Calls in flight

Which calls of a stream are registered, at any point of any run. An entry is made before it is known
whether its request gets out, and it ends in four ways: the request fails, the terminal message
comes, nobody reads the parts any more, or the stream closes. Two of them may come to one call, in
either order. What is left in the registry are the calls that none has come to.

* §1 the entries of a stream
* §2 calls, and those who read their parts
* §3 numbers of calls
* §4 calls in flight
* §5 the registry
-/

namespace GraphDriver

/-! ## §1  The entries of a stream -/

namespace Collector

variable {c : Collector} {id : RequestId} {e : RequestId × Nat}

theorem isRegistered_iff : c.isRegistered id = true ↔ ∃ k, (id, k) ∈ c.registered := by
  simp [isRegistered]

/-- A message ends the entry under its number if it is a terminal one, and no other. -/
theorem mem_registered_route (hopen : c.closed = false) {m : ServerMessage} :
    e ∈ (c.route m).2.registered ↔
      e ∈ c.registered ∧ ¬ (m.isTerminal = true ∧ m.requestId = e.1) := by
  unfold Collector.route
  rw [hopen]
  cases hlookup : c.lookup m.requestId with
  | some k =>
      cases hterminal : m.isTerminal with
      | true =>
          refine mem_registered_remove.trans (and_congr_right fun _ => ?_)
          simp [eq_comm]
      | false => simp [deliver]
  | none =>
      have hfree := isRegistered_eq_false_iff.mp (lookup_eq_none_iff.mp hlookup)
      have hkept : e ∈ c.registered ↔
          e ∈ c.registered ∧ ¬ (m.isTerminal = true ∧ m.requestId = e.1) :=
        ⟨fun he => ⟨he, fun hends => hfree e he hends.2.symm⟩, And.left⟩
      cases c.wasIssued m.requestId <;> exact hkept

/-- No number is registered over the head of a call in flight. -/
theorem free_of_register {k : Nat} (hregister : (c.register id).1 = .ok k) :
    c.isRegistered id = false := by
  by_contra htaken
  unfold register at hregister
  split at hregister
  · cases hregister
  · rw [if_pos (by simpa using htaken)] at hregister
    cases hregister

/-- A registration that is taken back leaves what was there. -/
theorem mem_registered_givenBack {k : Nat} (hregister : (c.register id).1 = .ok k) :
    e ∈ ((c.register id).2.remove id).registered ↔ e ∈ c.registered := by
  have hfree := free_of_register hregister
  rw [mem_registered_remove, (register_eq_ok hregister).2.1, List.mem_append, List.mem_singleton]
  constructor
  · rintro ⟨he | rfl, hne⟩
    · exact he
    · exact absurd rfl hne
  · exact fun he => ⟨.inl he, isRegistered_eq_false_iff.mp hfree e he⟩

theorem boxes_step_le (c : Collector) (op : Op) :
    c.mailboxes.length ≤ (c.step op).mailboxes.length := by
  have hread := fun k => Nat.le_of_eq (c.read_frame k).2.2.1.symm
  cases op with
  | remove id => exact Nat.le_refl _
  | read k => exact hread k
  | tryRead k => exact step_tryRead c k ▸ hread k
  | register id =>
      cases hregister : (c.register id).1 with
      | error error => exact Nat.le_of_eq (by rw [Collector.step, register_eq_error hregister])
      | ok k => simp [Collector.step, (register_eq_ok hregister).2.2]
  | route m =>
      rw [Collector.step, route]
      split
      · exact Nat.le_refl _
      · split
        · split <;> simp [remove]
        · split <;> exact Nat.le_refl _
  | close error =>
      cases error with
      | none => exact Nat.le_refl _
      | some error =>
          exact Nat.le_of_eq
            (foldl_deliver (.error error) c.registered
              { c with registered := [], closed := true }).2.2.1.symm

theorem boxes_run_le (c : Collector) (ops : List Op) :
    c.mailboxes.length ≤ (c.run ops).mailboxes.length :=
  Run.keeps (P := fun c' : Collector => c.mailboxes.length ≤ c'.mailboxes.length)
    (fun c' op h => Nat.le_trans h (c'.boxes_step_le op)) (Nat.le_refl _) ops

end Collector

/-- As long as the numbers do not start again, none is given twice. -/
theorem RequestId.nodup_firsts {n : Nat} (hn : n < 2 ^ 32) : (RequestId.firsts n).Nodup := by
  refine List.Nodup.map_on ?_ List.nodup_range
  intro i hi j hj heq
  rw [List.mem_range] at hi hj
  have hsame := congrArg (fun id : RequestId => id.value.toNat) heq
  simp only [toNat_after (show i + 1 < 2 ^ 32 by omega),
    toNat_after (show j + 1 < 2 ^ 32 by omega)] at hsame
  omega

namespace Hub

variable {config : TransmitterConfig} {h : Hub} {s now : Nat} {id : RequestId} {op : Op}
  {e : RequestId × Nat} {payload : RequestPayload} {batched : Bool}

/-- The call that an operation begins on a stream, if it does. -/
def begins (h : Hub) (s : Nat) : Op → List Call
  | .send now s' payload batched =>
    if s' = s ∧ s < h.streams.length then (h.send now s payload batched).1.toOption.toList else []
  | _ => []

theorem mem_begins {call : Call} :
    call ∈ h.begins s op ↔ s < h.streams.length ∧ ∃ now payload batched,
      op = .send now s payload batched ∧ (h.send now s payload batched).1 = .ok call := by
  have hok : ∀ {result : Except Error Call}, call ∈ result.toOption.toList ↔ result = .ok call := by
    intro result
    cases result <;> simp [Except.toOption, eq_comm]
  cases op with
  | send now s' payload batched =>
      by_cases hbegins : s' = s ∧ s < h.streams.length
      · obtain ⟨rfl, hs⟩ := hbegins
        rw [begins, if_pos ⟨rfl, hs⟩, hok]
        constructor
        · exact fun hsend => ⟨hs, now, payload, batched, rfl, hsend⟩
        · rintro ⟨-, _, _, _, hop, hsend⟩
          cases hop
          exact hsend
      · rw [begins, if_neg hbegins]
        constructor
        · exact fun hmem => absurd hmem List.not_mem_nil
        · rintro ⟨hs, _, _, _, hop, -⟩
          cases hop
          exact absurd ⟨rfl, hs⟩ hbegins
  | _ => simp [begins]

theorem begins_of_error {error : Error} (herror : (h.send now s payload batched).1 = .error error) :
    h.begins s (.send now s payload batched) = [] := by
  simp [begins, herror, Except.toOption]

/-- A request on an open stream: the entry of the call that it begins is added, and if it begins
none, nothing is. -/
theorem mem_registered_send (hs : s < h.streams.length)
    (hopen : (h.stream s).isOpen = true) (hcause : h.cause s (.send now s payload batched) = none) :
    e ∈ ((h.stream s).collector.run (h.touches s (.send now s payload batched))).registered ↔
      (∃ call ∈ h.begins s (.send now s payload batched), e = (call.id, call.mailbox)) ∨
        e ∈ (h.stream s).collector.registered := by
  have hclosings : h.closings s (.send now s payload batched) = [] := by
    rw [closings, hcause]
    exact ite_self _
  rw [touches, if_pos ⟨rfl, hopen⟩, hclosings, begins, if_pos ⟨rfl, hs⟩]
  dsimp only
  cases hsend : (h.send now s payload batched).1 with
  | ok call =>
      obtain ⟨-, -, hid, hregister, -⟩ := sent_of_send hs (Prod.ext hsend rfl)
      rw [hregister]
      show e ∈ ((h.stream s).collector.register ⟨(h.stream s).nextId⟩).2.registered ↔ _
      rw [(Collector.register_eq_ok hregister).2.1, ← hid]
      simp [Except.toOption, or_comm]
  | error error =>
      -- a request fails before it is registered, or its entry is taken back
      cases hregister : ((h.stream s).collector.register ⟨(h.stream s).nextId⟩).1 with
      | error error' =>
          show e ∈ ((h.stream s).collector.register ⟨(h.stream s).nextId⟩).2.registered ↔ _
          rw [Collector.register_eq_error hregister]
          simp [Except.toOption]
      | ok k =>
          refine (Collector.mem_registered_givenBack hregister).trans ?_
          simp [Except.toOption]

/-- A call is ended by the operation that gives its parts up and by a terminal message for it, and
by no other. -/
theorem ends_iff : op.Ends s id ↔ op = .forget s id ∨
    ∃ m, op = .receive s (.message m) ∧ m.isTerminal = true ∧ m.requestId = id := by
  constructor
  · intro hends
    cases hends with
    | dropped => exact .inl rfl
    | answered m hid hterminal => exact .inr ⟨m, rfl, hterminal, hid⟩
  · rintro (rfl | ⟨m, rfl, hterminal, hid⟩)
    · exact .dropped
    · exact .answered m hid hterminal

theorem ends_forget {s' : Nat} {id' : RequestId} :
    Op.Ends s id (.forget s' id') ↔ s' = s ∧ id' = id := by
  simp [ends_iff]

theorem ends_message {s' : Nat} {m : ServerMessage} :
    Op.Ends s id (.receive s' (.message m)) ↔
      s' = s ∧ m.isTerminal = true ∧ m.requestId = id := by
  simp [ends_iff]

/-- **One step.** What an operation that leaves a stream open does to the registry: the entry of the
call that it begins is added, and the entry of the call that it ends is taken out. -/
theorem mem_registered_step (wf : h.WellFormed) (hs : s < h.streams.length)
    (hopen' : ((h.step op).stream s).isOpen = true) :
    e ∈ ((h.step op).stream s).collector.registered ↔
      (∃ call ∈ h.begins s op, e = (call.id, call.mailbox)) ∨
        e ∈ (h.stream s).collector.registered ∧ ¬ op.Ends s e.1 := by
  rw [isOpen_step wf hs, Bool.and_eq_true, Option.isNone_iff_eq_none] at hopen'
  obtain ⟨hopen, hcause⟩ := hopen'
  have hquiet : h.closings s op = [] := by
    rw [closings, hcause]
    exact ite_self _
  rw [stream_step wf hs]
  show e ∈ ((h.stream s).collector.run (h.touches s op)).registered ↔ _
  have hidle : h.touches s op = [] → h.begins s op = [] → ¬ op.Ends s e.1 →
      (e ∈ ((h.stream s).collector.run (h.touches s op)).registered ↔
        (∃ call ∈ h.begins s op, e = (call.id, call.mailbox)) ∨
          e ∈ (h.stream s).collector.registered ∧ ¬ op.Ends s e.1) := by
    intro htouches hbegins hends
    rw [htouches, hbegins]
    simp [Collector.run, hends]
  cases op with
  | send now s' payload batched =>
      by_cases hss : s' = s
      · subst hss
        rw [mem_registered_send hs hopen hcause]
        simp [ends_iff]
      · exact hidle (by simp [touches, hss]) (by simp [begins, hss]) (by simp [ends_iff])
  | read call =>
      by_cases hss : call.stream = s
      · rw [touches, if_pos hss]
        show e ∈ ((h.stream s).collector.read call.mailbox).2.registered ↔ _
        rw [((h.stream s).collector.read_frame call.mailbox).1]
        simp [begins, ends_iff]
      · exact hidle (by simp [touches, hss]) rfl (by simp [ends_iff])
  | forget s' id =>
      by_cases hss : s' = s
      · subst hss
        rw [touches, if_pos rfl, ends_forget]
        refine Collector.mem_registered_remove.trans ?_
        simp [begins, eq_comm]
      · exact hidle (by simp [touches, hss]) rfl (by simp [ends_forget, hss])
  | receive s' inbound =>
      cases inbound with
      | message m =>
          by_cases hss : s' = s
          · subst hss
            have hclosed : (h.stream s').collector.closed = false := by
              simpa [hopen] using (wf.sound s' hs).alive
            rw [touches, if_pos ⟨rfl, hopen, hcause⟩, ends_message]
            refine (Collector.mem_registered_route hclosed).trans ?_
            simp [begins]
          · exact hidle (by simp [touches, hss, hquiet]) rfl (by simp [ends_message, hss])
      | failed error => exact hidle hquiet rfl (by simp [ends_iff])
      | ended => exact hidle hquiet rfl (by simp [ends_iff])
      | outboundFailed error => exact hidle hquiet rfl (by simp [ends_iff])
  | _ => exact hidle hquiet rfl (by simp [ends_iff])

theorem isOpen_of_step (wf : h.WellFormed) (hs : s < h.streams.length)
    (hopen' : ((h.step op).stream s).isOpen = true) : (h.stream s).isOpen = true := by
  rw [isOpen_step wf hs, Bool.and_eq_true] at hopen'
  exact hopen'.1

/-- Of a closed stream nothing is registered. -/
theorem registered_of_closed (wf : h.WellFormed) (hs : s < h.streams.length)
    (hclosed : (h.stream s).isOpen = false) : (h.stream s).collector.registered = [] :=
  (wf.sound s hs).collector.silent (by simpa [hclosed] using (wf.sound s hs).alive)

/-- A request that fails leaves the registry as it was, unless it is sent at once and refused with
its batch: that closes the stream, and nothing is registered any more. -/
theorem registered_of_error (wf : h.WellFormed) (hs : s < h.streams.length) {error : Error}
    (herror : (h.send now s payload batched).1 = .error error) :
    let x := (h.step (.send now s payload batched)).stream s
    x.isOpen = (h.stream s).isOpen ∧
        (∀ e, e ∈ x.collector.registered ↔ e ∈ (h.stream s).collector.registered) ∨
      (h.stream s).isOpen = true ∧ x.isOpen = false ∧ x.collector.registered = [] ∧
        batched = false ∧
        h.refusalAtOnce s ⟨⟨(h.stream s).nextId⟩, payload⟩ = some error := by
  intro x
  have wf' := wf.step (.send now s payload batched)
  have hs' := Nat.lt_of_lt_of_le hs (length_step_le h (.send now s payload batched))
  have hstays := isOpen_step wf hs (.send now s payload batched)
  cases hopen : (h.stream s).isOpen with
  | false =>
      rw [hopen, Bool.false_and] at hstays
      refine .inl ⟨hstays, fun e => ?_⟩
      rw [registered_of_closed wf hs hopen, registered_of_closed wf' hs' hstays]
  | true =>
      rw [hopen, Bool.true_and] at hstays
      cases hcause : h.cause s (.send now s payload batched) with
      | none =>
          have hopen' : x.isOpen = true := hstays.trans (by rw [hcause]; rfl)
          refine .inl ⟨hopen', fun e => ?_⟩
          rw [mem_registered_step wf hs hopen', begins_of_error herror]
          simp [ends_iff]
      | some c =>
          have hclosed' : x.isOpen = false := hstays.trans (by rw [hcause]; rfl)
          have hnow : batched = false := by
            by_contra hbatched
            simp [cause, hbatched] at hcause
          obtain ⟨refusal, hrefusal, -, hfailed⟩ := send_of_cause wf hs hopen hcause
          obtain rfl := Except.error.inj (hfailed.symm.trans herror)
          exact .inr ⟨rfl, hclosed', registered_of_closed wf' hs' hclosed', hnow, hrefusal⟩

theorem stream_of_le (hs : h.streams.length ≤ s) : h.stream s = default := by
  simp [stream, List.getD_eq_getElem?_getD, List.getElem?_eq_none hs]

/-! ### Mailboxes and numbers -/

/-- How many mailboxes the calls of a stream have had. -/
def boxes (h : Hub) (s : Nat) : Nat := (h.stream s).collector.mailboxes.length

theorem boxes_of_le (hs : h.streams.length ≤ s) : h.boxes s = 0 := by
  rw [boxes, stream_of_le hs]
  rfl

theorem boxes_step_le (wf : h.WellFormed) (op : Op) : h.boxes s ≤ (h.step op).boxes s := by
  by_cases hs : s < h.streams.length
  · rw [boxes, boxes, stream_step wf hs]
    exact Collector.boxes_run_le ..
  · rw [boxes_of_le (Nat.not_lt.mp hs)]
    exact Nat.zero_le _

theorem boxes_run_le (wf : h.WellFormed) (ops : List Op) : h.boxes s ≤ (h.run ops).boxes s := by
  induction ops using List.reverseRecOn with
  | nil => exact Nat.le_refl _
  | append_singleton ops op ih =>
      rw [run_snoc]
      exact Nat.le_trans ih (boxes_step_le (wf.run ops) op)

/-- A call that begins has the next mailbox. -/
theorem boxes_begins (wf : h.WellFormed) {call : Call} (hmem : call ∈ h.begins s op) :
    call.stream = s ∧ call.mailbox = h.boxes s ∧ h.boxes s < (h.step op).boxes s := by
  obtain ⟨hs, now, payload, batched, rfl, hsend⟩ := mem_begins.mp hmem
  obtain ⟨hopen, hstream, -, hregister, -⟩ := sent_of_send hs (Prod.ext hsend rfl)
  obtain ⟨hlast, -, hmailboxes⟩ := Collector.register_eq_ok hregister
  refine ⟨hstream, hlast, ?_⟩
  have hmore : h.boxes s <
      ((h.stream s).collector.step (.register ⟨(h.stream s).nextId⟩)).mailboxes.length := by
    simp [boxes, Collector.step, hmailboxes]
  refine Nat.lt_of_lt_of_le hmore ?_
  rw [boxes, stream_step wf hs, effect, touches, if_pos ⟨rfl, hopen⟩]
  exact Collector.boxes_run_le ..

theorem eq_of_begins (wf : h.WellFormed) {call call' : Call} (hmem : call' ∈ h.begins s op)
    (hcall : call.stream = s) (heq : (call.id, call.mailbox) = (call'.id, call'.mailbox)) :
    call = call' := by
  have hstream := (boxes_begins wf hmem).1
  obtain ⟨hid, hbox⟩ := Prod.mk.inj heq
  cases call
  cases call'
  simp_all

theorem nodup_begins (h : Hub) (s : Nat) (op : Op) : (h.begins s op).Nodup := by
  unfold begins
  split
  · split
    · exact Option.toList_nodup _
    · exact List.nodup_nil
  · exact List.nodup_nil

theorem assigned_append (s : Nat) (h : Hub) (xs ys : List Op) :
    assigned s h (xs ++ ys) = assigned s h xs ++ assigned s (h.run xs) ys :=
  Run.log_append h xs ys

/-- The number of a call that begins is the one that its request takes. -/
theorem ids_begins (h : Hub) (s : Nat) (op : Op) :
    ((h.begins s op).map (·.id)).Sublist (assigns s h op) := by
  cases op with
  | send now s' payload batched =>
      by_cases hbegins : s' = s ∧ s < h.streams.length
      · obtain ⟨rfl, hs⟩ := hbegins
        rw [begins, if_pos ⟨rfl, hs⟩]
        cases hsend : (h.send now s' payload batched).1 with
        | error error => exact List.nil_sublist _
        | ok call =>
            obtain ⟨hopen, -, hid, -⟩ := sent_of_send hs (Prod.ext hsend rfl)
            rw [assigns, if_pos (by simp [can, numbers, hs, hopen]), ← hid]
            exact List.Sublist.refl _
      · rw [begins, if_neg hbegins]
        exact List.nil_sublist _
  | _ => exact List.nil_sublist _

/-! ## §2  Calls, and those who read their parts -/

/-- How a request is answered: by one message, and then it may go out at once, or in parts. -/
inductive CallKind where
  | single (batched : Bool)
  | streamed
deriving DecidableEq

/-- Whether the request of a call waits for the next batch. -/
def CallKind.isBatched : CallKind → Bool
  | .single batched => batched
  | .streamed => true

/-- The part readers that come with a call. -/
def CallKind.readers (kind : CallKind) (call : Call) : List Call :=
  match kind with
  | .single _ => []
  | .streamed => [call]

theorem eq_of_mem_readers {kind : CallKind} {call call' : Call}
    (hmem : call ∈ kind.readers call') : call = call' := by
  cases kind with
  | single batched => exact absurd hmem List.not_mem_nil
  | streamed => exact List.mem_singleton.mp hmem

/-- Whether an operation neither begins a call nor gives one up. -/
def Op.isAside : Op → Bool
  | .send .. | .forget .. => false
  | _ => true

/-- A hub, and the calls whose parts somebody reads. -/
structure Custody where
  hub : Hub
  readers : List Call := []

/-- What happens to a hub and its part readers: a call is made, a reader is dropped, or something
else happens at the hub. -/
inductive Deed where
  | call (kind : CallKind) (now s : Nat) (payload : RequestPayload)
  | drop (place : Nat)
  | other (op : Op) (haside : op.isAside = true)

/-- Whether a deed makes a call on a stream. -/
def Deed.isCall (s : Nat) : Deed → Bool
  | .call _ _ s' _ => s' = s
  | _ => false

namespace Custody

variable {x : Custody} {deeds : List Deed} {deed : Deed} {kind : CallKind} {call : Call}

/-- What a deed does to the hub. A reader that is dropped gives its call up, finished or not. -/
def ops (x : Custody) : Deed → List Op
  | .call kind now s payload => [.send now s payload kind.isBatched]
  | .drop place => x.readers[place]?.toList.map fun call => .forget call.stream call.id
  | .other op _ => [op]

/-- The call that a deed begins, if it does. -/
def begins (x : Custody) : Deed → List (CallKind × Call)
  | .call kind now s payload =>
    (x.hub.begins s (.send now s payload kind.isBatched)).map fun call => (kind, call)
  | _ => []

def step (x : Custody) (deed : Deed) : Custody where
  hub := x.hub.run (x.ops deed)
  readers :=
    match deed with
    | .drop place => x.readers.eraseIdx place
    | deed => x.readers ++ (x.begins deed).flatMap fun (kind, call) => kind.readers call

def run (x : Custody) (deeds : List Deed) : Custody := deeds.foldl step x

/-- A hub over a new transmitter, without streams and without readers. -/
def new (config : TransmitterConfig) : Custody := { hub := Hub.new config }

/-- What a run does to the hub. -/
def history (x : Custody) (deeds : List Deed) : List Op := Run.log step ops x deeds

/-- The calls that a run begins. -/
def begun (x : Custody) (deeds : List Deed) : List (CallKind × Call) := Run.log step begins x deeds

/-- How many calls a run makes on a stream, those that fail among them. -/
def calls (s : Nat) (deeds : List Deed) : Nat := deeds.countP (·.isCall s)

theorem run_snoc (x : Custody) (deeds : List Deed) (deed : Deed) :
    x.run (deeds ++ [deed]) = (x.run deeds).step deed := by
  simp [run]

theorem run_append (x : Custody) (xs ys : List Deed) : x.run (xs ++ ys) = (x.run xs).run ys := by
  simp [run]

theorem hub_step (x : Custody) (deed : Deed) : (x.step deed).hub = x.hub.run (x.ops deed) := rfl

theorem begun_snoc (x : Custody) (deeds : List Deed) (deed : Deed) :
    x.begun (deeds ++ [deed]) = x.begun deeds ++ (x.run deeds).begins deed :=
  Run.log_snoc x deeds deed

theorem history_snoc (x : Custody) (deeds : List Deed) (deed : Deed) :
    x.history (deeds ++ [deed]) = x.history deeds ++ (x.run deeds).ops deed :=
  Run.log_snoc x deeds deed

theorem hub_run (x : Custody) (deeds : List Deed) :
    (x.run deeds).hub = x.hub.run (x.history deeds) := by
  induction deeds using List.reverseRecOn with
  | nil => rfl
  | append_singleton deeds deed ih =>
      rw [run_snoc, history_snoc, Hub.run_append, ← ih, hub_step]

theorem wellFormed_run (config : TransmitterConfig) (deeds : List Deed) :
    ((new config).run deeds).hub.WellFormed := by
  rw [hub_run]
  exact (wellFormed_new config).run _

/-- What a deed does to the hub is one operation, or none, if there is no such reader. -/
theorem ops_cases (x : Custody) (deed : Deed) :
    x.ops deed = [] ∨ ∃ op, x.ops deed = [op] := by
  cases deed with
  | call kind now s payload => exact .inr ⟨_, rfl⟩
  | other op haside => exact .inr ⟨_, rfl⟩
  | drop place =>
      cases hreader : x.readers[place]? with
      | none => exact .inl (by simp [ops, hreader])
      | some call => exact .inr ⟨.forget call.stream call.id, by simp [ops, hreader]⟩

/-- A reader that is dropped gives its call up. -/
theorem hub_drop {place : Nat} {dropped : Call} (hplace : x.readers[place]? = some dropped) :
    (x.step (.drop place)).hub = x.hub.step (.forget dropped.stream dropped.id) := by
  simp [hub_step, ops, hplace, Hub.run]

theorem registered_of_new {s : Nat} (hs : ¬ s < x.hub.streams.length)
    (hs' : s < (x.step deed).hub.streams.length) :
    ((x.step deed).hub.stream s).collector.registered = [] := by
  rcases x.ops_cases deed with hops | ⟨op, hops⟩
  · rw [hub_step, hops] at hs'
    exact absurd hs' hs
  · rw [hub_step, hops] at hs' ⊢
    have hcounts := (numbered_of_new hs hs').counts
    exact List.eq_nil_iff_forall_not_mem.mpr fun e he =>
      absurd (hcounts.known e he) List.not_mem_nil

theorem mem_begins :
    (kind, call) ∈ x.begins deed ↔ ∃ now payload, deed = .call kind now call.stream payload ∧
      call ∈ x.hub.begins call.stream (.send now call.stream payload kind.isBatched) := by
  cases deed with
  | call kind' now s payload =>
      constructor
      · intro hmem
        obtain ⟨call', hcall', heq⟩ := List.mem_map.mp hmem
        obtain ⟨rfl, rfl⟩ := Prod.mk.inj heq
        obtain ⟨hs, _, _, _, hop, hsend⟩ := Hub.mem_begins.mp hcall'
        obtain ⟨-, rfl, -⟩ := sent_of_send hs (Prod.ext hsend rfl)
        exact ⟨now, payload, rfl, hcall'⟩
      · rintro ⟨_, _, heq, hbegins⟩
        cases heq
        exact List.mem_map_of_mem hbegins
  | _ => simp [begins]

/-! ## §3  Numbers of calls -/

/-- The numbers of the calls that a deed begins on a stream are among those that are given in it. -/
theorem ids_begins (x : Custody) (deed : Deed) (s : Nat) :
    (((x.begins deed).filter (·.2.stream = s)).map (·.2.id)).Sublist
      (assigned s x.hub (x.ops deed)) := by
  cases deed with
  | call kind now s' payload =>
      let op : Op := .send now s' payload kind.isBatched
      have hone : assigned s x.hub (x.ops (.call kind now s' payload)) = assigns s x.hub op :=
        List.append_nil _
      have hall : ((x.begins (.call kind now s' payload)).filter (·.2.stream = s)).map (·.2.id) =
          ((x.hub.begins s' op).filter (·.stream = s)).map (·.id) := by
        simp [begins, List.filter_map, op, Function.comp_def]
      rw [hone, hall]
      by_cases hss : s' = s
      · subst hss
        exact (List.filter_sublist.map _).trans (Hub.ids_begins x.hub s' op)
      · rw [List.filter_eq_nil_iff.mpr ?_]
        · exact List.nil_sublist _
        · intro call hcall
          obtain ⟨hs', _, _, _, hop, hsend⟩ := Hub.mem_begins.mp hcall
          obtain ⟨-, rfl, -⟩ := sent_of_send hs' (Prod.ext hsend rfl)
          simpa using hss
  | _ => exact List.nil_sublist _

theorem ids_begun (x : Custody) (deeds : List Deed) (s : Nat) :
    (((x.begun deeds).filter (·.2.stream = s)).map (·.2.id)).Sublist
      (assigned s x.hub (x.history deeds)) := by
  induction deeds using List.reverseRecOn with
  | nil => exact List.nil_sublist _
  | append_singleton deeds deed ih =>
      rw [begun_snoc, history_snoc, assigned_append, ← hub_run, List.filter_append,
        List.map_append]
      exact ih.append ((x.run deeds).ids_begins deed s)

theorem calls_snoc (s : Nat) (deeds : List Deed) (deed : Deed) :
    calls s (deeds ++ [deed]) = calls s deeds + calls s [deed] :=
  List.countP_append

/-- A call takes at most one number. -/
theorem length_assigned_le (x : Custody) (deeds : List Deed) (s : Nat) :
    (assigned s x.hub (x.history deeds)).length ≤ calls s deeds := by
  induction deeds using List.reverseRecOn with
  | nil => exact Nat.le_refl _
  | append_singleton deeds deed ih =>
      have hone : (assigned s (x.run deeds).hub ((x.run deeds).ops deed)).length ≤
          calls s [deed] := by
        cases deed with
        | call kind now s' payload =>
            by_cases hss : s' = s
            · subst hss
              have hone : calls s' [.call kind now s' payload] = 1 := by
                simp [calls, Deed.isCall]
              rw [hone]
              show (assigns s' (x.run deeds).hub _ ++ []).length ≤ 1
              rw [List.append_nil, assigns]
              split <;> simp
            · simp [ops, assigned, Run.log, assigns, numbers, hss]
        | drop place =>
            rcases hreader : (x.run deeds).readers[place]? with _ | call <;>
              simp [ops, hreader, assigned, Run.log, assigns, numbers]
        | other op haside =>
            cases op with
            | send now s' payload batched => simp [Op.isAside] at haside
            | _ => simp [ops, assigned, Run.log, assigns, numbers]
      rw [history_snoc, assigned_append, ← hub_run, List.length_append, calls_snoc]
      exact Nat.add_le_add ih hone

/-- As long as the numbers do not start again, no two calls of a stream have the same one. -/
theorem begun_inj (config : TransmitterConfig) {deeds : List Deed} {s : Nat}
    (hfew : calls s deeds < 2 ^ 32) {b b' : CallKind × Call}
    (hb : b ∈ (new config).begun deeds) (hb' : b' ∈ (new config).begun deeds)
    (hs : b.2.stream = s) (hs' : b'.2.stream = s) (hid : b.2.id = b'.2.id) : b = b' := by
  have hshort := length_assigned_le (new config) deeds s
  have hnodup : (assigned s (Hub.new config) ((new config).history deeds)).Nodup := by
    rw [(numbered_run config _ s (Nat.lt_of_le_of_lt hshort hfew)).1]
    exact RequestId.nodup_firsts (Nat.lt_of_le_of_lt hshort hfew)
  refine List.inj_on_of_nodup_map (hnodup.sublist (ids_begun (new config) deeds s)) ?_ ?_ hid
  · exact List.mem_filter.mpr ⟨hb, by simpa using hs⟩
  · exact List.mem_filter.mpr ⟨hb', by simpa using hs'⟩

/-- No two calls of a run are the same, however long it is: each has a mailbox of its own. -/
theorem nodup_begun (config : TransmitterConfig) (deeds : List Deed) :
    (∀ b ∈ (new config).begun deeds,
        b.2.mailbox < ((new config).run deeds).hub.boxes b.2.stream) ∧
      (((new config).begun deeds).map (·.2)).Nodup := by
  induction deeds using List.reverseRecOn with
  | nil => exact ⟨fun _ hb => absurd hb List.not_mem_nil, List.nodup_nil⟩
  | append_singleton deeds deed ih =>
      obtain ⟨hbelow, hnodup⟩ := ih
      have wf := wellFormed_run config deeds
      have hnew : ∀ b ∈ ((new config).run deeds).begins deed,
          b.2.mailbox = ((new config).run deeds).hub.boxes b.2.stream ∧
            b.2.mailbox < ((new config).run (deeds ++ [deed])).hub.boxes b.2.stream := by
        rintro ⟨kind, call⟩ hb
        obtain ⟨now, payload, rfl, hcall⟩ := mem_begins.mp hb
        obtain ⟨-, hbox, hlt⟩ := boxes_begins wf hcall
        rw [run_snoc]
        exact ⟨hbox, hbox ▸ hlt⟩
      rw [begun_snoc, List.map_append]
      constructor
      · intro b hb
        rcases List.mem_append.mp hb with hold | hb
        · rw [run_snoc]
          exact Nat.lt_of_lt_of_le (hbelow b hold) (boxes_run_le wf _)
        · exact (hnew b hb).2
      · refine List.nodup_append.mpr ⟨hnodup, ?_, ?_⟩
        · cases deed with
          | call kind now s payload =>
              have hone := Hub.nodup_begins ((new config).run deeds).hub s
                (.send now s payload kind.isBatched)
              simpa [begins, Function.comp_def] using hone
          | _ => exact List.nodup_nil
        · -- the mailbox of a new call is beyond those of all earlier ones
          intro call hold call' hnew' heq
          obtain ⟨b, hb, rfl⟩ := List.mem_map.mp hold
          obtain ⟨b', hb', rfl⟩ := List.mem_map.mp hnew'
          have hlt := hbelow b hb
          rw [heq, ← (hnew b' hb').1] at hlt
          exact Nat.lt_irrefl _ hlt

/-- Whoever reads the parts of a call got its reader when the call began. -/
theorem readers_run (config : TransmitterConfig) (deeds : List Deed) :
    ((new config).run deeds).readers.Sublist
      (((new config).begun deeds).flatMap fun (kind, call) => kind.readers call) := by
  induction deeds using List.reverseRecOn with
  | nil => exact List.Sublist.refl _
  | append_singleton deeds deed ih =>
      rw [run_snoc, begun_snoc, List.flatMap_append]
      cases deed with
      | drop place =>
          have hnone : ((new config).run deeds).begins (.drop place) = [] := rfl
          rw [hnone, List.flatMap_nil, List.append_nil]
          exact (List.eraseIdx_sublist _ place).trans ih
      | call kind now s payload => exact ih.append (List.Sublist.refl _)
      | other op haside => exact ih.append (List.Sublist.refl _)

theorem streamed_of_mem_readers {config : TransmitterConfig}
    (hmem : call ∈ ((new config).run deeds).readers) :
    (.streamed, call) ∈ (new config).begun deeds := by
  have hread := (readers_run config deeds).subset hmem
  obtain ⟨⟨kind, call'⟩, hb, hreader⟩ := List.mem_flatMap.mp hread
  cases kind with
  | single batched => exact absurd hreader List.not_mem_nil
  | streamed =>
      obtain rfl := eq_of_mem_readers hreader
      exact hb

theorem nodup_readers (config : TransmitterConfig) (deeds : List Deed) :
    ((new config).run deeds).readers.Nodup := by
  have hsublist : ∀ bs : List (CallKind × Call),
      (bs.flatMap fun (kind, call) => kind.readers call).Sublist (bs.map (·.2)) := by
    intro bs
    induction bs with
    | nil => exact List.Sublist.refl _
    | cons b bs ih =>
        obtain ⟨kind, call⟩ := b
        cases kind with
        | single batched => exact ih.cons call
        | streamed => exact ih.cons_cons call
  exact ((nodup_begun config deeds).2.sublist (hsublist _)).sublist (readers_run config deeds)

/-- A reader that is dropped is gone, and the others are still there. -/
theorem mem_readers_drop {config : TransmitterConfig} {place : Nat} {dropped : Call}
    (hplace : ((new config).run deeds).readers[place]? = some dropped) :
    call ∈ (((new config).run deeds).step (.drop place)).readers ↔
      call ≠ dropped ∧ call ∈ ((new config).run deeds).readers := by
  obtain ⟨hlt, rfl⟩ := List.getElem?_eq_some_iff.mp hplace
  have hnodup := nodup_readers config deeds
  show call ∈ ((new config).run deeds).readers.eraseIdx place ↔ _
  rw [← hnodup.erase_getElem place hlt]
  exact hnodup.mem_erase_iff

/-! ## §4  Calls in flight -/

/-- The terminal message of a call comes. -/
inductive Answers (call : Call) : Deed → Prop
  | intro (m : ServerMessage) (hid : m.requestId = call.id) (hterminal : m.isTerminal = true) :
      Answers call (.other (.receive call.stream (.message m)) rfl)

/-- A call was begun in a run, and its terminal message has not come since. -/
def Unanswered (x : Custody) (deeds : List Deed) (kind : CallKind) (call : Call) : Prop :=
  ∃ before deed after, deeds = before ++ deed :: after ∧
    (kind, call) ∈ (x.run before).begins deed ∧ ∀ later ∈ after, ¬ Answers call later

/-- A call is in flight after a run: it is unanswered, and if it is answered in parts, its reader
was not dropped. -/
def InFlight (x : Custody) (deeds : List Deed) (call : Call) : Prop :=
  ∃ kind, x.Unanswered deeds kind call ∧ (kind = .streamed → call ∈ (x.run deeds).readers)

theorem unanswered_snoc :
    x.Unanswered (deeds ++ [deed]) kind call ↔
      (kind, call) ∈ (x.run deeds).begins deed ∨
        x.Unanswered deeds kind call ∧ ¬ Answers call deed := by
  constructor
  · rintro ⟨before, first, after, hdeeds, hbegins, hnever⟩
    induction after using List.reverseRecOn with
    | nil =>
        obtain ⟨rfl, hfirst⟩ := List.append_inj' hdeeds rfl
        obtain rfl : deed = first := by simpa using hfirst
        exact .inl hbegins
    | append_singleton after last _ =>
        rw [← List.cons_append, ← List.append_assoc] at hdeeds
        obtain ⟨rfl, hlast⟩ := List.append_inj' hdeeds rfl
        obtain rfl : deed = last := by simpa using hlast
        exact .inr ⟨⟨before, first, after, rfl, hbegins,
          fun later hlater => hnever later (List.mem_append_left _ hlater)⟩, hnever deed (by simp)⟩
  · rintro (hbegins | ⟨⟨before, first, after, rfl, hbegins, hnever⟩, hnot⟩)
    · exact ⟨deeds, deed, [], rfl, hbegins, by simp⟩
    · refine ⟨before, first, after ++ [deed], by simp, hbegins, fun later hlater => ?_⟩
      rcases List.mem_append.mp hlater with hlater | hlater
      · exact hnever later hlater
      · rwa [List.mem_singleton.mp hlater]

theorem Unanswered.mem_begun (h : x.Unanswered deeds kind call) :
    (kind, call) ∈ x.begun deeds := by
  obtain ⟨before, deed, after, rfl, hbegins, -⟩ := h
  rw [begun, Run.log_append]
  exact List.mem_append_right _ (List.mem_append_left _ hbegins)

/-- What else is done at a hub ends a call only if it is its terminal message. -/
theorem ends_iff_answers {op : Op} (haside : op.isAside = true) :
    op.Ends call.stream call.id ↔ Answers call (.other op haside) := by
  constructor
  · rintro (⟨m, hid, hterminal⟩ | _)
    · exact .intro m hid hterminal
    · simp [Op.isAside] at haside
  · rintro ⟨m, hid, hterminal⟩
    exact .answered m hid hterminal

/-- Calls begin on streams that were opened before. -/
theorem lt_of_mem_begun {config : TransmitterConfig}
    (hb : (kind, call) ∈ (new config).begun deeds) :
    call.stream < ((new config).run deeds).hub.streams.length := by
  by_contra hs
  have hbox := (nodup_begun config deeds).1 _ hb
  rw [boxes_of_le (Nat.not_lt.mp hs)] at hbox
  exact Nat.not_lt_zero _ hbox

/-- What is registered in an open stream are the calls in flight. -/
def Exact (x : Custody) (deeds : List Deed) (s : Nat) : Prop :=
  s < (x.run deeds).hub.streams.length → ((x.run deeds).hub.stream s).isOpen = true →
    ∀ call : Call, call.stream = s →
      ((call.id, call.mailbox) ∈ ((x.run deeds).hub.stream s).collector.registered ↔
        x.InFlight deeds call)

variable {config : TransmitterConfig} {s : Nat}

/-- A call is made: if it begins, it is in flight, and the others stay as they are. -/
theorem Exact.make (ih : (new config).Exact deeds s)
    (hs : s < ((new config).run deeds).hub.streams.length) (now s' : Nat)
    (payload : RequestPayload) :
    (new config).Exact (deeds ++ [.call kind now s' payload]) s := by
  have wf := wellFormed_run config deeds
  let op : Op := .send now s' payload kind.isBatched
  have hhub : (((new config).run deeds).step (.call kind now s' payload)).hub =
      ((new config).run deeds).hub.step op := rfl
  intro _ hopen' call hcall
  rw [run_snoc, hhub] at hopen' ⊢
  have hopen := isOpen_of_step wf hs hopen'
  -- the call that is new, seen from the hub and from the run
  have hnew : ∀ kind', (kind', call) ∈ ((new config).run deeds).begins (.call kind now s' payload) ↔
      kind' = kind ∧ call ∈ ((new config).run deeds).hub.begins s op := by
    intro kind'
    rw [mem_begins]
    constructor
    · rintro ⟨_, _, hdeed, hbegins⟩
      cases hdeed
      exact ⟨rfl, hcall ▸ hbegins⟩
    · rintro ⟨rfl, hbegins⟩
      obtain ⟨-, _, _, _, hop, -⟩ := Hub.mem_begins.mp hbegins
      obtain ⟨-, rfl, -⟩ := Op.send.inj hop
      subst hcall
      exact ⟨now, payload, rfl, hbegins⟩
  refine (mem_registered_step wf hs hopen').trans ?_
  constructor
  · rintro (⟨call', hbegins, heq⟩ | ⟨hregistered, -⟩)
    · obtain rfl := eq_of_begins wf hbegins hcall heq
      have hmem := (hnew kind).mpr ⟨rfl, hbegins⟩
      refine ⟨kind, unanswered_snoc.mpr (.inl hmem), ?_⟩
      rintro rfl
      rw [run_snoc]
      exact List.mem_append_right _ (List.mem_flatMap.mpr ⟨_, hmem, List.mem_singleton_self _⟩)
    · obtain ⟨kind', hunanswered, hreads⟩ := (ih hs hopen call hcall).mp hregistered
      refine ⟨kind', unanswered_snoc.mpr (.inr ⟨hunanswered, nofun⟩), fun hkind => ?_⟩
      rw [run_snoc]
      exact List.mem_append_left _ (hreads hkind)
  · rintro ⟨kind', hunanswered, hreads⟩
    rw [run_snoc] at hreads
    by_cases hbegins : call ∈ ((new config).run deeds).hub.begins s op
    · exact .inl ⟨call, hbegins, rfl⟩
    · rcases unanswered_snoc.mp hunanswered with hmem | ⟨hold, -⟩
      · exact absurd ((hnew kind').mp hmem).2 hbegins
      · refine .inr ⟨(ih hs hopen call hcall).mpr ⟨kind', hold, fun hkind => ?_⟩,
          by simp [ends_iff]⟩
        rcases List.mem_append.mp (hreads hkind) with hread | hread
        · exact hread
        · obtain ⟨⟨kind'', call'⟩, hmem, hread⟩ := List.mem_flatMap.mp hread
          obtain rfl := eq_of_mem_readers hread
          exact absurd ((hnew kind'').mp hmem).2 hbegins

/-- A reader is dropped: its call is no longer in flight, if it was, and as no other has the same
number, the others stay as they are. -/
theorem Exact.drop (ih : (new config).Exact deeds s)
    (hs : s < ((new config).run deeds).hub.streams.length) (hfew : calls s deeds < 2 ^ 32)
    (place : Nat) : (new config).Exact (deeds ++ [.drop place]) s := by
  have wf := wellFormed_run config deeds
  have hold : ∀ kind call, (new config).Unanswered (deeds ++ [.drop place]) kind call ↔
      (new config).Unanswered deeds kind call := by
    intro kind call
    rw [unanswered_snoc, mem_begins]
    constructor
    · rintro (⟨_, _, hdeed, -⟩ | ⟨hunanswered, -⟩)
      · cases hdeed
      · exact hunanswered
    · exact fun hunanswered => .inr ⟨hunanswered, nofun⟩
  cases hplace : ((new config).run deeds).readers[place]? with
  | none =>
      have hsame : (new config).run (deeds ++ [.drop place]) = (new config).run deeds := by
        rw [run_snoc]
        simp only [step, ops, hplace, Option.toList_none, List.map_nil, Hub.run, List.foldl_nil]
        rw [List.eraseIdx_of_length_le (List.getElem?_eq_none_iff.mp hplace)]
      unfold Exact InFlight
      simp only [hsame, hold]
      exact ih
  | some dropped =>
      intro _ hopen' call hcall
      rw [run_snoc, hub_drop hplace] at hopen' ⊢
      have hopen := isOpen_of_step wf hs hopen'
      refine (mem_registered_step wf hs hopen').trans ?_
      rw [ends_forget]
      constructor
      · rintro (⟨_, hnone, -⟩ | ⟨hregistered, hother⟩)
        · exact absurd hnone List.not_mem_nil
        · obtain ⟨kind, hunanswered, hreads⟩ := (ih hs hopen call hcall).mp hregistered
          refine ⟨kind, (hold kind call).mpr hunanswered, fun hkind => ?_⟩
          rw [run_snoc]
          refine (mem_readers_drop hplace).mpr ⟨?_, hreads hkind⟩
          rintro rfl
          exact hother ⟨hcall, rfl⟩
      · rintro ⟨kind, hunanswered, hreads⟩
        rw [hold] at hunanswered
        rw [run_snoc] at hreads
        refine .inr ⟨(ih hs hopen call hcall).mpr ⟨kind, hunanswered, fun hkind =>
          ((mem_readers_drop hplace).mp (hreads hkind)).2⟩, ?_⟩
        -- another call under the number would be the same, and then its reader is gone
        rintro ⟨hstream, hid⟩
        have hdropped := streamed_of_mem_readers (List.mem_of_getElem? hplace)
        cases begun_inj config hfew hunanswered.mem_begun hdropped hcall hstream hid.symm
        exact ((mem_readers_drop hplace).mp (hreads rfl)).1 rfl

/-- Something else happens: only a terminal message ends a call. -/
theorem Exact.aside (ih : (new config).Exact deeds s)
    (hs : s < ((new config).run deeds).hub.streams.length) {op : Op} (haside : op.isAside = true) :
    (new config).Exact (deeds ++ [.other op haside]) s := by
  have wf := wellFormed_run config deeds
  have hhub : (((new config).run deeds).step (.other op haside)).hub =
      ((new config).run deeds).hub.step op := rfl
  intro _ hopen' call hcall
  rw [run_snoc, hhub] at hopen' ⊢
  have hopen := isOpen_of_step wf hs hopen'
  have hnone : ((new config).run deeds).hub.begins s op = [] := by
    cases op with
    | send now s' payload batched => simp [Op.isAside] at haside
    | _ => rfl
  refine (mem_registered_step wf hs hopen').trans ?_
  subst hcall
  rw [hnone, ends_iff_answers haside, ih hs hopen call rfl]
  constructor
  · rintro (⟨_, hnone, -⟩ | ⟨⟨kind, hunanswered, hreads⟩, hnot⟩)
    · exact absurd hnone List.not_mem_nil
    · refine ⟨kind, unanswered_snoc.mpr (.inr ⟨hunanswered, hnot⟩), fun hkind => ?_⟩
      rw [run_snoc]
      exact List.mem_append_left _ (hreads hkind)
  · rintro ⟨kind, hunanswered, hreads⟩
    rw [run_snoc] at hreads
    rcases unanswered_snoc.mp hunanswered with hnone | ⟨hold, hnot⟩
    · exact absurd hnone List.not_mem_nil
    · exact .inr ⟨⟨kind, hold, fun hkind => by simpa [step, begins] using hreads hkind⟩, hnot⟩

/-- A stream that has just been opened has no calls yet. -/
theorem exact_of_new (hs : ¬ s < ((new config).run deeds).hub.streams.length) :
    (new config).Exact (deeds ++ [deed]) s := by
  intro hs' _ call hcall
  rw [run_snoc] at hs' ⊢
  constructor
  · intro hregistered
    rw [registered_of_new hs hs'] at hregistered
    exact absurd hregistered List.not_mem_nil
  · rintro ⟨kind, hunanswered, -⟩
    rcases unanswered_snoc.mp hunanswered with hbegins | ⟨hold, -⟩
    · obtain ⟨_, _, -, hbegins⟩ := mem_begins.mp hbegins
      exact absurd (hcall ▸ (Hub.mem_begins.mp hbegins).1) hs
    · exact absurd (hcall ▸ lt_of_mem_begun hold.mem_begun) hs

/-- **A run.** As long as the numbers of a stream do not start again, what is registered in it while
it is open are the calls in flight. -/
theorem exact_run (config : TransmitterConfig) (deeds : List Deed) (s : Nat)
    (hfew : calls s deeds < 2 ^ 32) : (new config).Exact deeds s := by
  induction deeds using List.reverseRecOn with
  | nil => exact fun hs => absurd hs (Nat.not_lt_zero _)
  | append_singleton deeds deed ih =>
      rw [calls_snoc] at hfew
      by_cases hs : s < ((new config).run deeds).hub.streams.length
      · have hexact := ih (by omega)
        cases deed with
        | call kind now s' payload => exact hexact.make hs now s' payload
        | drop place => exact hexact.drop hs (by omega) place
        | other op haside => exact hexact.aside hs haside
      · exact exact_of_new hs

/-! ## §5  The registry -/

/-- **The registry is exact.** In any run over a new transmitter, of calls, of part readers that are
dropped and of anything else, and for any stream that was opened in it: while the stream is open,
and fewer than `2^32` calls were made on it, a number is registered if and only if there is a call
in flight under it, one that began under it, whose terminal message has not come since, and whose
reader, if it is answered in parts, was not dropped. A call that fails makes no entry and takes none
out, unless its request was sent at once and refused with its batch, which closes the stream. Once
the stream is closed, and whatever happens later, no number is registered and no call is pending. -/
theorem registry_is_exact (config : TransmitterConfig) (deeds : List Deed) (s : Nat)
    (hs : s < ((new config).run deeds).hub.streams.length) :
    let x := (new config).run deeds
    ((x.hub.stream s).isOpen = true → calls s deeds < 2 ^ 32 → ∀ id,
        ((x.hub.stream s).collector.isRegistered id = true ↔
          ∃ call : Call, call.stream = s ∧ call.id = id ∧ (new config).InFlight deeds call)) ∧
      (∀ kind now payload error,
        (x.hub.send now s payload kind.isBatched).1 = .error error →
          let x' := x.step (.call kind now s payload)
          (x'.hub.stream s).isOpen = (x.hub.stream s).isOpen ∧
              (∀ e, e ∈ (x'.hub.stream s).collector.registered ↔
                e ∈ (x.hub.stream s).collector.registered) ∨
            (x.hub.stream s).isOpen = true ∧ (x'.hub.stream s).isOpen = false ∧
              (x'.hub.stream s).collector.registered = [] ∧ kind = .single false ∧
              x.hub.refusalAtOnce s ⟨⟨(x.hub.stream s).nextId⟩, payload⟩ = some error) ∧
      ((x.hub.stream s).isOpen = false → ∀ later,
        let h := (x.run later).hub
        (h.stream s).isOpen = false ∧
          (∀ id, (h.stream s).collector.isRegistered id = false) ∧ h.pendingCalls s = 0) := by
  intro x
  have wf := wellFormed_run config deeds
  refine ⟨?_, ?_, ?_⟩
  · intro hopen hfew id
    have hexact := exact_run config deeds s hfew hs hopen
    rw [Collector.isRegistered_iff]
    constructor
    · rintro ⟨k, hregistered⟩
      exact ⟨⟨s, k, id⟩, rfl, rfl, (hexact ⟨s, k, id⟩ rfl).mp hregistered⟩
    · rintro ⟨call, hcall, rfl, hflight⟩
      exact ⟨call.mailbox, (hexact call hcall).mpr hflight⟩
  · intro kind now payload error herror x'
    rcases registered_of_error wf hs herror with hkept | ⟨hopen, hclosed, hnone, hnow, hrefusal⟩
    · exact .inl hkept
    · refine .inr ⟨hopen, hclosed, hnone, ?_, hrefusal⟩
      cases kind with
      | single batched => exact congrArg CallKind.single hnow
      | streamed => cases hnow
  · intro hclosed later h
    have hrun : h = x.hub.run (x.history later) := hub_run x later
    have wf' : h.WellFormed := by
      rw [hrun]
      exact wf.run _
    have hs' : s < h.streams.length := by
      rw [hrun]
      exact lt_length_run hs _
    have hclosed' : (h.stream s).isOpen = false := by
      rw [hrun]
      exact stays_closed wf hs hclosed _
    refine ⟨hclosed', fun id => ?_, pendingCalls_of_closed wf' hs' hclosed'⟩
    rw [Collector.isRegistered_eq_false_iff, registered_of_closed wf' hs' hclosed']
    exact fun e he => absurd he List.not_mem_nil

/-- Four calls: one is answered, and of the two that are answered in parts the reader of the first
is dropped. The other reader and the last call still wait, until a request is refused. The reader
that is dropped after that has nothing to give up. -/
theorem registry_is_exact_refused :
    let deeds : List Deed :=
      [.other .reserve rfl, .other (.attach 0 "server") rfl, .call (.single true) 0 0 .commit,
        .call .streamed 0 0 .rollback, .call .streamed 0 0 .rollback,
        .call (.single true) 0 0 .commit,
        .other (.receive 0 (.message (.response ⟨⟨1⟩, .ok .committed⟩))) rfl, .drop 0,
        .other (.abandon 0) rfl]
    let refused : Deed := .call (.single false) 0 0 .rollback
    let inFlight (n : UInt32) : Prop :=
      ∃ call : Call, call.stream = 0 ∧ call.id = ⟨n⟩ ∧ (new {}).InFlight deeds call
    ¬ inFlight 1 ∧ ¬ inFlight 2 ∧ inFlight 3 ∧ inFlight 4 ∧ ¬ inFlight 5 ∧
      ((((new {}).run deeds).step refused).hub.stream 0).collector.registered = [] ∧
      (((new {}).run (deeds ++ [refused])).run [.drop 0]).hub.pendingCalls 0 = 0 := by
  intro deeds refused inFlight
  have hs : 0 < ((new {}).run deeds).hub.streams.length := by decide +kernel
  obtain ⟨hregistered, hfails, -⟩ := registry_is_exact {} deeds 0 hs
  have hiff := hregistered (by decide +kernel) (by decide +kernel)
  have herror : (((new {}).run deeds).hub.send 0 0 .rollback false).1 =
      .error RequestQueue.refusal := by decide +kernel
  have hclosed : (((new {}).run (deeds ++ [refused])).hub.stream 0).isOpen = false := by
    decide +kernel
  obtain ⟨-, -, hnever⟩ := registry_is_exact {} (deeds ++ [refused]) 0 (by decide +kernel)
  refine ⟨?_, ?_, ?_, ?_, ?_, ?_, (hnever hclosed [.drop 0]).2.2⟩
  · exact fun h => absurd ((hiff ⟨1⟩).mpr h) (by decide +kernel)
  · exact fun h => absurd ((hiff ⟨2⟩).mpr h) (by decide +kernel)
  · exact (hiff ⟨3⟩).mp (by decide +kernel)
  · exact (hiff ⟨4⟩).mp (by decide +kernel)
  · exact fun h => absurd ((hiff ⟨5⟩).mpr h) (by decide +kernel)
  · rcases hfails (.single false) 0 .rollback _ herror with ⟨hopen, -⟩ | ⟨-, -, hnone, -⟩
    · exact absurd hopen (by decide +kernel)
    · exact hnone

end Custody

end Hub

end GraphDriver
