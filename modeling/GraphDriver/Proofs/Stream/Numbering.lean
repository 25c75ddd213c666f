import GraphDriver.Proofs.Stream.Effects
import Mathlib.Algebra.Group.Nat.Defs

/-!
# Numbering

Which numbers the requests of a stream get, and what becomes of a message under any number. The
requests are numbered from one on, so the highest number alone tells the numbers that were given to
a request from those that were not; all but the number zero, which lies below every other and is
given to none.

* §1 the numbers that are given
* §2 what a collector makes of a number
* §3 one stream, step by step
* §4 messages for no request
-/

namespace GraphDriver

/-! ## §1  The numbers that are given -/

/-- The number of the request that comes after `n` others. -/
def RequestId.after (n : Nat) : RequestId := ⟨UInt32.ofNat (n + 1)⟩

/-- The numbers of the first requests of a stream. -/
def RequestId.firsts (n : Nat) : List RequestId := (List.range n).map .after

namespace RequestId

theorem firsts_succ (n : Nat) : firsts (n + 1) = firsts n ++ [after n] := by
  simp [firsts, List.range_succ]

theorem getLast?_firsts_succ (n : Nat) : (firsts (n + 1)).getLast? = some (after n) := by
  rw [firsts_succ, List.getLast?_concat]

theorem eq_zero_iff {id : RequestId} : id = ⟨0⟩ ↔ id.value.toNat = 0 := by
  rw [RequestId.mk.injEq, ← UInt32.toNat_inj]
  rfl

theorem toNat_after {n : Nat} (hn : n + 1 < 2 ^ 32) : (after n).value.toNat = n + 1 := by
  simpa [after] using hn

/-- As long as they do not start again, the numbers are those from one on. -/
theorem mem_firsts {n : Nat} (hn : n < 2 ^ 32) {id : RequestId} :
    id ∈ firsts n ↔ id.value.toNat ≠ 0 ∧ id.value.toNat ≤ n := by
  rw [firsts, List.mem_map]
  constructor
  · rintro ⟨i, hi, rfl⟩
    rw [List.mem_range] at hi
    rw [toNat_after (by omega)]
    omega
  · rintro ⟨hpos, hle⟩
    refine ⟨id.value.toNat - 1, List.mem_range.mpr (by omega), ?_⟩
    rw [after, Nat.sub_add_cancel (by omega), UInt32.ofNat_toNat]

end RequestId

/-! ## §2  What a collector makes of a number -/

namespace Collector

variable {c : Collector} {n : Nat}

theorem lookup_eq_none_iff {id : RequestId} : c.lookup id = none ↔ c.isRegistered id = false := by
  rw [isRegistered_eq_false_iff, lookup, Option.map_eq_none_iff, List.find?_eq_none]
  simp

/-- An open collector refuses a message for a number that is not registered, unless it takes the
number for that of an earlier call. -/
theorem route_fst (hopen : c.closed = false) (m : ServerMessage) :
    (c.route m).1 =
      if c.isRegistered m.requestId || c.wasIssued m.requestId then .ok ()
      else .error (.unknownRequestId m.requestId) := by
  unfold route
  rw [hopen]
  cases hlookup : c.lookup m.requestId with
  | some k =>
      have hregistered : c.isRegistered m.requestId = true := by
        by_contra hfree
        rw [lookup_eq_none_iff.mpr (by simpa using hfree)] at hlookup
        simp at hlookup
      simp [hregistered]
  | none =>
      rw [lookup_eq_none_iff.mp hlookup]
      cases c.wasIssued m.requestId <;> rfl

/-- A collector that has registered the first `n` numbers: it knows the last of them, and what is in
flight is among them. -/
structure Counts (c : Collector) (n : Nat) : Prop where
  highest : c.highest = (RequestId.firsts n).getLast?
  known : ∀ e ∈ c.registered, e.1 ∈ RequestId.firsts n

/-- Going by the highest number, every number up to it was given to a request. -/
theorem Counts.wasIssued (h : c.Counts n) (hn : n < 2 ^ 32) (id : RequestId) :
    c.wasIssued id = true ↔ n ≠ 0 ∧ id.value.toNat ≤ n := by
  unfold Collector.wasIssued
  rw [h.highest]
  cases n with
  | zero => simp [RequestId.firsts]
  | succ n =>
      have hle : id ≤ RequestId.after n ↔ id.value.toNat ≤ n + 1 := by
        rw [← RequestId.toNat_after hn]
        exact UInt32.le_iff_toNat_le
      rw [RequestId.getLast?_firsts_succ]
      simp [hle]

/-- A message is refused if no request was given its number, but for the number zero: it lies below
the highest number as soon as there is one. -/
theorem Counts.refuses (h : c.Counts n) (hn : n < 2 ^ 32) (hopen : c.closed = false)
    (m : ServerMessage) :
    (c.route m).1 =
      if m.requestId ∉ RequestId.firsts n ∧ (m.requestId ≠ ⟨0⟩ ∨ n = 0) then
        .error (.unknownRequestId m.requestId)
      else .ok () := by
  have hissued := h.wasIssued hn m.requestId
  have hzero : m.requestId = ⟨0⟩ ↔ m.requestId.value.toNat = 0 := RequestId.eq_zero_iff
  rw [route_fst hopen]
  simp only [RequestId.mem_firsts hn, ne_eq, hzero]
  cases hregistered : c.isRegistered m.requestId with
  | true =>
      obtain ⟨e, he, hid⟩ := List.any_eq_true.mp hregistered
      have hmem := h.known e he
      rw [of_decide_eq_true hid, RequestId.mem_firsts hn] at hmem
      rw [if_pos (by simp), if_neg (fun hc => hc.1 hmem)]
  | false =>
      rw [Bool.false_or]
      by_cases hold : c.wasIssued m.requestId = true
      · have hbelow := hissued.mp hold
        rw [if_pos hold, if_neg (by omega)]
      · have habove : ¬ (n ≠ 0 ∧ m.requestId.value.toNat ≤ n) := fun hc => hold (hissued.mpr hc)
        rw [if_neg hold, if_pos (by omega)]

/-- Whether an operation registers no number. -/
def Op.plain : Op → Bool
  | .register _ => false
  | _ => true

theorem highest_read (c : Collector) (k : Nat) : (c.read k).2.highest = c.highest := by
  unfold read
  cases c.mailboxes[k]? <;> rfl

theorem highest_deliver (c : Collector) (k : Nat) (delivery : Delivery) :
    (c.deliver k delivery).highest = c.highest := rfl

theorem highest_close (c : Collector) (error : Option Error) :
    (c.close error).highest = c.highest := by
  have hfold : ∀ (es : List (RequestId × Nat)) (c' : Collector) (delivery : Delivery),
      (es.foldl (fun c' e => c'.deliver e.2 delivery) c').highest = c'.highest := by
    intro es
    induction es with
    | nil => exact fun _ _ => rfl
    | cons e es ih => exact fun c' delivery => (ih _ delivery).trans (highest_deliver ..)
  cases error with
  | none => rfl
  | some error => exact hfold _ _ _

/-- Only a registration adds a number. -/
theorem step_of_plain (c : Collector) {op : Op} (hplain : op.plain = true) :
    (c.step op).highest = c.highest ∧ ∀ e ∈ (c.step op).registered, e ∈ c.registered := by
  have hremove : ∀ id, ∀ e ∈ (c.remove id).registered, e ∈ c.registered := fun id e he =>
    (mem_registered_remove.mp he).1
  have hread : ∀ k, (c.read k).2.highest = c.highest ∧
      ∀ e ∈ (c.read k).2.registered, e ∈ c.registered := by
    intro k
    refine ⟨highest_read c k, fun e he => ?_⟩
    rwa [(c.read_frame k).1] at he
  cases op with
  | register id => simp [Op.plain] at hplain
  | remove id => exact ⟨rfl, hremove id⟩
  | read k => exact hread k
  | tryRead k => exact step_tryRead c k ▸ hread k
  | close error =>
      refine ⟨highest_close c error, fun e he => ?_⟩
      rw [Collector.step, registered_close] at he
      exact absurd he List.not_mem_nil
  | route m =>
      rw [Collector.step, Collector.route]
      split
      · exact ⟨rfl, fun _ he => he⟩
      · split
        · dsimp only
          split
          · exact ⟨rfl, hremove m.requestId⟩
          · exact ⟨rfl, fun _ he => he⟩
        · split <;> exact ⟨rfl, fun _ he => he⟩

theorem Counts.step (h : c.Counts n) {op : Op} (hplain : op.plain = true) :
    (c.step op).Counts n := by
  obtain ⟨hhighest, hregistered⟩ := c.step_of_plain hplain
  exact ⟨hhighest.trans h.highest, fun e he => h.known e (hregistered e he)⟩

theorem Counts.run (h : c.Counts n) {ops : List Op} (hplain : ∀ op ∈ ops, op.plain = true) :
    (c.run ops).Counts n := by
  induction ops generalizing c with
  | nil => exact h
  | cons op ops ih =>
      exact ih (h.step (hplain op List.mem_cons_self))
        fun op' hop' => hplain op' (List.mem_cons_of_mem _ hop')

/-- The next number is never in flight, and becomes the highest. -/
theorem Counts.register (h : c.Counts n) (hn : n + 1 < 2 ^ 32) (hopen : c.closed = false) :
    (c.step (.register (.after n))).Counts (n + 1) := by
  have hafter := RequestId.toNat_after hn
  have hfree : c.isRegistered (.after n) = false := by
    rw [isRegistered_eq_false_iff]
    rintro e he hid
    have hmem := h.known e he
    rw [hid, RequestId.mem_firsts (by omega), hafter] at hmem
    omega
  have hnew : ¬ c.wasIssued (.after n) = true := by
    rw [h.wasIssued (by omega), hafter]
    omega
  rw [Collector.step, Collector.register, if_neg (by simp [hopen]), if_neg (by simp [hfree])]
  constructor
  · rw [RequestId.getLast?_firsts_succ]
    exact if_neg hnew
  · intro e he
    rw [RequestId.firsts_succ]
    rcases List.mem_append.mp he with he | he
    · exact List.mem_append_left _ (h.known e he)
    · rw [List.mem_singleton.mp he]
      exact List.mem_append_right _ (List.mem_singleton_self _)

end Collector

namespace Hub

variable {h : Hub} {s n : Nat}

/-! ## §3  One stream -/

/-- The number that an operation gives to a request of a stream, whatever becomes of the request. -/
def assigns (s : Nat) (h : Hub) (op : Op) : List RequestId :=
  if h.can op && h.numbers s op then [⟨(h.stream s).nextId⟩] else []

/-- The numbers that a run gives to the requests of a stream. -/
def assigned (s : Nat) (h : Hub) (ops : List Op) : List RequestId :=
  Run.log step (assigns s) h ops

theorem assigned_snoc (s : Nat) (h : Hub) (ops : List Op) (op : Op) :
    assigned s h (ops ++ [op]) = assigned s h ops ++ assigns s (h.run ops) op :=
  Run.log_snoc h ops op

/-- A stream that has numbered `n` requests. -/
structure Numbered (x : Stream) (n : Nat) : Prop where
  next : (⟨x.nextId⟩ : RequestId) = .after n
  counts : x.collector.Counts n

theorem numbered_opened (d : Nat) (address : String) :
    Numbered { dispatcher := d, address } 0 :=
  ⟨rfl, rfl, fun _ he => absurd he List.not_mem_nil⟩

/-- How an operation ends a stream registers nothing. -/
theorem plain_closings (op : Op) : ∀ op' ∈ h.closings s op, op'.plain = true := by
  intro op' hop'
  unfold closings at hop'
  split at hop'
  · obtain ⟨error, -, rfl⟩ := List.mem_map.mp hop'
    rfl
  · exact absurd hop' List.not_mem_nil

/-- An operation registers a number only if it takes it for a request. -/
theorem plain_touches {op : Op} (hnumbers : h.numbers s op = false) :
    ∀ op' ∈ h.touches s op, op'.plain = true := by
  have hone : ∀ (p : Prop) [Decidable p] (only : Collector.Op), only.plain = true →
      ∀ op' ∈ if p then [only] else [], op'.plain = true := by
    intro p _ only honly op' hop'
    split at hop'
    · rwa [List.mem_singleton.mp hop']
    · exact absurd hop' List.not_mem_nil
  cases op with
  | send now s₀ payload batched =>
      have helse : ¬ (s₀ = s ∧ (h.stream s).isOpen = true) := by simpa [numbers] using hnumbers
      rw [touches, if_neg helse]
      exact fun _ hop' => absurd hop' List.not_mem_nil
  | read call => exact hone _ _ rfl
  | forget s₀ id => exact hone _ _ rfl
  | receive s₀ inbound =>
      cases inbound with
      | message m =>
          rw [touches]
          split
          · intro op' hop'
            rw [List.mem_singleton.mp hop']
            rfl
          · exact plain_closings _
      | _ => exact plain_closings _
  | _ => exact plain_closings _

/-- What gives no number to a request leaves the numbering as it was. -/
theorem Numbered.step_of_quiet (hx : Numbered (h.stream s) n) (wf : h.WellFormed)
    (hs : s < h.streams.length) {op : Op} (hquiet : assigns s h op = []) :
    Numbered ((h.step op).stream s) n := by
  cases hcan : h.can op with
  | false => rwa [step_of_not_can hcan]
  | true =>
      have hnumbers : h.numbers s op = false := by simpa [assigns, hcan] using hquiet
      rw [stream_step wf hs, effect, hnumbers]
      exact ⟨hx.next, hx.counts.run (plain_touches hnumbers)⟩

/-- A request gets the next number. -/
theorem Numbered.step_of_assigns (hx : Numbered (h.stream s) n) (wf : h.WellFormed)
    (hs : s < h.streams.length) (hn : n + 1 < 2 ^ 32) {op : Op} (hassigns : assigns s h op ≠ []) :
    assigns s h op = [.after n] ∧ Numbered ((h.step op).stream s) (n + 1) := by
  have htakes : (h.can op && h.numbers s op) = true := by
    by_contra hnot
    exact hassigns (if_neg hnot)
  rw [assigns, if_pos htakes, hx.next]
  refine ⟨rfl, ?_⟩
  obtain ⟨-, hnumbers⟩ := Bool.and_eq_true_iff.mp htakes
  rw [stream_step wf hs, effect, hnumbers]
  cases op with
  | send now s₀ payload batched =>
      have hown : s₀ = s ∧ (h.stream s).isOpen = true := by simpa [numbers] using hnumbers
      have halive := (wf.sound s hs).alive
      rw [hown.2] at halive
      constructor
      · have hnext := congrArg RequestId.value hx.next
        simp only [if_true, RequestId.after] at hnext ⊢
        rw [hnext, UInt32.ofNat_add (n + 1)]
        rfl
      · -- what follows the registration closes the collector or gives the registration back
        rw [touches, if_pos hown, hx.next]
        refine (hx.counts.register hn (by simpa using halive.symm)).run ?_
        intro op' hop'
        rcases List.mem_append.mp hop' with hop' | hop'
        · exact plain_closings _ op' hop'
        · split at hop'
          · rw [List.mem_singleton.mp hop']
            rfl
          · exact absurd hop' List.not_mem_nil
  | _ => simp [numbers] at hnumbers

/-- A stream that is new after a step is as it was opened. -/
theorem numbered_of_new (hs : ¬ s < h.streams.length) {op : Op}
    (hs' : s < (h.step op).streams.length) : Numbered ((h.step op).stream s) 0 := by
  by_cases hattach : ∃ d address, op = .attach d address
  · obtain ⟨d, address, rfl⟩ := hattach
    cases hcan : h.can (.attach d address) with
    | false =>
        rw [step_of_not_can hcan] at hs'
        exact absurd hs' hs
    | true =>
        rw [step_of_can hcan] at hs' ⊢
        have hlength : s < h.streams.length + 1 := by simpa [perform, attach] using hs'
        rw [perform, stream_attach, if_pos (by omega)]
        exact numbered_opened d address
  · rw [length_step h (by simpa using hattach)] at hs'
    exact absurd hs' hs

/-- A stream that was not opened numbers nothing. -/
theorem assigns_of_not_opened (hs : ¬ s < h.streams.length) (op : Op) : assigns s h op = [] := by
  refine if_neg fun htakes => ?_
  obtain ⟨hcan, hnumbers⟩ := Bool.and_eq_true_iff.mp htakes
  cases op with
  | send now s₀ payload batched =>
      obtain ⟨rfl, -⟩ : s₀ = s ∧ _ := by simpa [numbers] using hnumbers
      exact hs (by simpa [can] using hcan)
  | _ => simp [numbers] at hnumbers

/-- **A run.** The numbers that a run gives to the requests of a stream are the first ones, in
order, and the stream counts them. -/
theorem numbered_run (config : TransmitterConfig) (ops : List Op) (s : Nat)
    (hfew : (assigned s (new config) ops).length < 2 ^ 32) :
    let ids := assigned s (new config) ops
    let h := (new config).run ops
    ids = RequestId.firsts ids.length ∧ (¬ s < h.streams.length → ids = []) ∧
      (s < h.streams.length → Numbered (h.stream s) ids.length) := by
  induction ops using List.reverseRecOn with
  | nil => exact ⟨rfl, fun _ => rfl, fun hs => absurd hs (Nat.not_lt_zero _)⟩
  | append_singleton ops op ih =>
      rw [assigned_snoc, List.length_append] at hfew
      obtain ⟨hids, hnone, hx⟩ := ih (by omega)
      have wf : ((new config).run ops).WellFormed := (wellFormed_new config).run ops
      dsimp only
      rw [assigned_snoc, run_snoc]
      by_cases hs : s < ((new config).run ops).streams.length
      · have hs' := Nat.lt_of_lt_of_le hs (length_step_le _ op)
        by_cases hquiet : assigns s ((new config).run ops) op = []
        · rw [hquiet, List.append_nil]
          exact ⟨hids, fun hnot => absurd hs' hnot, fun _ => (hx hs).step_of_quiet wf hs hquiet⟩
        · have hlength := List.length_pos_iff.mpr hquiet
          obtain ⟨hone, hnext⟩ := (hx hs).step_of_assigns wf hs (by omega) hquiet
          rw [hone, List.length_append, List.length_singleton, RequestId.firsts_succ, ← hids]
          exact ⟨rfl, fun hnot => absurd hs' hnot, fun _ => hnext⟩
      · rw [assigns_of_not_opened hs, hnone hs, List.append_nil]
        exact ⟨rfl, fun _ => rfl, numbered_of_new hs⟩

/-! ## §4  Messages for no request -/

/-- **Only unknown numbers are fatal.** In any run over a new transmitter that gives fewer than
`2^32 - 1` numbers to the requests of a stream, and for any message that comes while the stream is
open: the stream is closed, with the error that names the number of the message, if and only if no
request of the stream was given the number, and it is not zero or no request was sent at all; and
any other message leaves the stream open. -/
theorem unknown_is_fatal (config : TransmitterConfig) (before : List Op) (s : Nat)
    (m : ServerMessage) (hs : s < ((new config).run before).streams.length)
    (hopen : (((new config).run before).stream s).isOpen = true)
    (hfew : (assigned s (new config) before).length < 2 ^ 32 - 1) :
    let h := (new config).run before
    let ids := assigned s (new config) before
    let h' := h.step (.receive s (.message m))
    let unknown := m.requestId ∉ ids ∧ (m.requestId ≠ ⟨0⟩ ∨ ids = [])
    ids = RequestId.firsts ids.length ∧
      (h' = (h.closeStream s (some (.unknownRequestId m.requestId))).2 ∧
          (h'.stream s).isOpen = false ↔ unknown) ∧
      ((h'.stream s).isOpen = true ↔ ¬ unknown) := by
  intro h ids h' unknown
  have wf : h.WellFormed := (wellFormed_new config).run before
  obtain ⟨hids, -, hx⟩ := numbered_run config before s (by omega)
  have halive := (wf.sound s hs).alive
  rw [show (h.stream s).isOpen = true from hopen] at halive
  have hroute := (hx hs).counts.refuses (by omega) (by simpa using halive.symm) m
  simp only [← hids, List.length_eq_zero_iff] at hroute
  have hstep : h' = h.receive s (.message m) := step_of_can (by simpa [can] using hs)
  have hcause : h.cause s (.receive s (.message m)) =
      if unknown then some (some (.unknownRequestId m.requestId)) else none := by
    rw [cause, if_pos rfl, hroute]
    by_cases hunknown : unknown
    · rw [if_pos hunknown, if_pos hunknown]
    · rw [if_neg hunknown, if_neg hunknown]
  have hstays : (h'.stream s).isOpen = (h.cause s (.receive s (.message m))).isNone := by
    rw [isOpen_step wf hs, hopen, Bool.true_and]
  refine ⟨hids, ?_, ?_⟩
  · constructor
    · rintro ⟨-, hclosed⟩
      by_contra hknown
      rw [hstays, hcause, if_neg hknown] at hclosed
      simp at hclosed
    · intro hunknown
      refine ⟨?_, ?_⟩
      · rw [hstep, receive_of_open hopen, hcause, if_pos hunknown]
      · rw [hstays, hcause, if_pos hunknown]
        rfl
  · rw [hstays, hcause]
    by_cases hunknown : unknown
    · simp [hunknown]
    · simp [hunknown]

/-- Two calls, of which one has its answer: a late message for it leaves the stream open, one for
the number that comes next closes it. -/
theorem unknown_is_fatal_next :
    let before : List Op :=
      [.reserve, .attach 0 "server", .send 0 0 .commit true, .send 0 0 .rollback true,
        .receive 0 (.message (.response ⟨⟨1⟩, .ok .committed⟩))]
    let h := (new {}).run before
    let late : ServerMessage := .response ⟨⟨1⟩, .ok .committed⟩
    let early : ServerMessage := .response ⟨⟨3⟩, .ok .committed⟩
    assigned 0 (new {}) before = [⟨1⟩, ⟨2⟩] ∧
      ((h.step (.receive 0 (.message late))).stream 0).isOpen = true ∧
      h.step (.receive 0 (.message early)) =
        (h.closeStream 0 (some (.unknownRequestId ⟨3⟩))).2 := by
  intro before h late early
  have hids : assigned 0 (new {}) before = [⟨1⟩, ⟨2⟩] := by decide +kernel
  have hs : 0 < h.streams.length := by decide +kernel
  have hopen : (h.stream 0).isOpen = true := by decide +kernel
  have hfew : (assigned 0 (new {}) before).length < 2 ^ 32 - 1 := by
    rw [hids]
    decide
  obtain ⟨-, -, hlate⟩ := unknown_is_fatal {} before 0 late hs hopen hfew
  obtain ⟨-, hearly, -⟩ := unknown_is_fatal {} before 0 early hs hopen hfew
  rw [hids] at hlate hearly
  exact ⟨hids, hlate.mpr (by decide), (hearly.mpr (by decide)).1⟩

/-- The number zero is given to no request, and yet a message under it is dropped: after one call
the stream takes it for a late one. -/
theorem zero_is_dropped :
    let before : List Op := [.reserve, .attach 0 "server", .send 0 0 .commit true]
    let h := (new {}).run before
    let m : ServerMessage := .response ⟨⟨0⟩, .ok .committed⟩
    (h.stream 0).isOpen = true ∧ m.requestId ∉ assigned 0 (new {}) before ∧
      (assigned 0 (new {}) before).length < 2 ^ 32 - 1 ∧
      ((h.step (.receive 0 (.message m))).stream 0).isOpen = true := by
  decide +kernel

end Hub

end GraphDriver
