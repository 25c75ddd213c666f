import GraphDriver.Proofs.Run
import GraphDriver.Stream.Collector
import Mathlib.Data.List.Induction
import Mathlib.Data.List.Nodup

/-!
# Demultiplexing

What the calls of one transaction read. A call is owed the messages that were routed under its
number since it was registered, up to the one that ends it, and after them one error for ever. What
its mailbox holds is at any time the part of it that was not handed out yet, whatever the other
calls do.

* §1 the operations of a collector and what a run hands out
* §2 what a call is owed
* §3 one mailbox
* §4 the registry
* §5 a mailbox follows what its call is owed
-/

namespace GraphDriver

/-- What a look has found, if it has found something. -/
theorem Poll.of_mem {α : Type} {found : Poll α} {a : α} (h : a ∈ found.item?.toList) :
    found = .item a ∧ found.item?.toList = [a] := by
  cases found with
  | item b =>
      obtain rfl : a = b := by simpa [Poll.item?] using h
      exact ⟨rfl, rfl⟩
  | ended => simp [Poll.item?] at h
  | waiting => simp [Poll.item?] at h

namespace Collector

/-! ## §1  Runs -/

/-- What can be done to a collector and to the mailboxes that it made. -/
inductive Op where
  | register (id : RequestId)
  | remove (id : RequestId)
  | route (message : ServerMessage)
  | close (error : Option Error)
  | read (mailbox : Nat)
  | tryRead (mailbox : Nat)

def step (c : Collector) : Op → Collector
  | .register id => (c.register id).2
  | .remove id => c.remove id
  | .route message => (c.route message).2
  | .close error => c.close error
  | .read mailbox => (c.read mailbox).2
  | .tryRead mailbox => (c.tryRead mailbox).2

def run (c : Collector) (ops : List Op) : Collector := ops.foldl step c

/-- What an operation hands to the reader of one mailbox. -/
def given (k : Nat) (c : Collector) : Op → List Delivery
  | .read mailbox => if mailbox = k then (c.read mailbox).1.item?.toList else []
  | .tryRead mailbox => if mailbox = k then (c.tryRead mailbox).1.toList else []
  | _ => []

/-- Everything that a run hands to the reader of one mailbox. -/
def handed (k : Nat) (c : Collector) (ops : List Op) : List Delivery :=
  Run.log step (given k) c ops

end Collector

/-! ## §2  What a call is owed -/

/-- Messages in the order in which they are to be read, and the error that follows them for ever
once no more can come. -/
structure Due where
  messages : List ServerMessage := []
  verdict : Option Error := none

namespace Due

/-- The outcome of the read that comes after `n` others. -/
def nth (due : Due) (n : Nat) : Poll Delivery :=
  match due.messages[n]? with
  | some message => .item (.ok message)
  | none =>
    match due.verdict with
    | some error => .item (.error error)
    | none => .waiting

/-- What is owed in the end, if `more` is owed from now on. A verdict is final. -/
def andThen (due more : Due) : Due :=
  match due.verdict with
  | some _ => due
  | none => ⟨due.messages ++ more.messages, more.verdict⟩

theorem andThen_of_verdict {due more : Due} (h : due.verdict ≠ none) :
    due.andThen more = due := by
  unfold andThen
  split
  · rfl
  · exact absurd ‹_› h

theorem andThen_of_open {due more : Due} (h : due.verdict = none) :
    due.andThen more = ⟨due.messages ++ more.messages, more.verdict⟩ := by
  unfold andThen
  rw [h]

/-- What was read stays as it was when more is owed. -/
theorem nth_andThen {due more : Due} {n : Nat} {delivery : Delivery}
    (h : due.nth n = .item delivery) : (due.andThen more).nth n = .item delivery := by
  cases hv : due.verdict with
  | some error =>
      rw [andThen_of_verdict (by simp [hv])]
      exact h
  | none =>
      rw [andThen_of_open hv]
      unfold nth at h ⊢
      cases hm : due.messages[n]? with
      | none => simp [hm, hv] at h
      | some message =>
          rw [List.getElem?_append_left (List.getElem?_eq_some_iff.mp hm).1, hm]
          rw [hm] at h
          exact h

@[simp] theorem andThen_nothing (due : Due) : due.andThen {} = due := by
  obtain ⟨messages, verdict⟩ := due
  cases verdict <;> simp [andThen]

@[simp] theorem nothing_andThen (due : Due) : ({} : Due).andThen due = due := by
  rw [andThen_of_open rfl, List.nil_append]

theorem andThen_assoc (a b c : Due) : (a.andThen b).andThen c = a.andThen (b.andThen c) := by
  cases ha : a.verdict with
  | some error =>
      have hne : a.verdict ≠ none := by simp [ha]
      rw [andThen_of_verdict hne, andThen_of_verdict hne, andThen_of_verdict hne]
  | none =>
      rw [andThen_of_open ha, andThen_of_open ha]
      cases hb : b.verdict with
      | some error => simp [andThen, hb]
      | none => simp [andThen, hb]

section Along

variable {σ ω : Type} (step : σ → ω → σ) (adds : σ → ω → Due) (given : σ → ω → List Delivery)

/-- What a run owes, if every step adds to it. -/
def along : σ → List ω → Due
  | _, [] => {}
  | s, op :: ops => (adds s op).andThen (along (step s op) ops)

theorem along_snoc (s : σ) (ops : List ω) (op : ω) :
    along step adds s (ops ++ [op]) =
      (along step adds s ops).andThen (adds (ops.foldl step s) op) := by
  induction ops generalizing s with
  | nil => simp [along]
  | cons first ops ih =>
      rw [List.cons_append, along, ih, along, andThen_assoc, List.foldl_cons]

/-- **Reading a run.** If each step hands out at most what is owed next, a run hands out read by
read what is owed. -/
theorem reads_along {F : σ → Due → Nat → Prop}
    (hstep : ∀ s due n op, F s due n →
      F (step s op) (due.andThen (adds s op)) (n + (given s op).length))
    (hgiven : ∀ s due n op delivery, F s due n → delivery ∈ given s op →
      given s op = [delivery] ∧ due.nth n = .item delivery)
    {s : σ} {due : Due} {n : Nat} (h : F s due n) (ops : List ω) :
    F (ops.foldl step s) (due.andThen (along step adds s ops))
        (n + (Run.log step given s ops).length) ∧
      ∀ i (hi : i < (Run.log step given s ops).length),
        (due.andThen (along step adds s ops)).nth (n + i) =
          .item (Run.log step given s ops)[i] := by
  induction ops using List.reverseRecOn with
  | nil => exact ⟨by simpa [Run.log, along] using h, by simp [Run.log]⟩
  | append_singleton ops op ih =>
      -- What the step owes comes behind what was owed, so what was read before stays right.
      obtain ⟨hfollows, hread⟩ := ih
      rw [along_snoc, ← andThen_assoc, List.foldl_concat]
      refine ⟨?_, ?_⟩
      · rw [Run.log_snoc, List.length_append, ← Nat.add_assoc]
        exact hstep _ _ _ op hfollows
      · intro i hi
        simp only [Run.log_snoc] at hi ⊢
        rcases Nat.lt_or_ge i (Run.log step given s ops).length with hlt | hge
        · rw [List.getElem_append_left hlt]
          exact nth_andThen (hread i hlt)
        · have hlt : i - (Run.log step given s ops).length <
              (given (ops.foldl step s) op).length := by
            rw [List.length_append] at hi
            omega
          obtain ⟨hone, hnext⟩ := hgiven _ _ _ op _ hfollows (List.getElem_mem hlt)
          have hlen := congrArg List.length hone
          rw [List.length_append, hlen, List.length_singleton] at hi
          obtain rfl : i = (Run.log step given s ops).length := by omega
          rw [List.getElem_append_right hge]
          exact nth_andThen hnext

end Along

end Due

namespace Collector

/-- What operations owe to a call that was registered under a number before them: the messages
routed under the number, up to the terminal one or to the end of the registration. -/
def owed (id : RequestId) : List Op → Due
  | [] => {}
  | .route message :: ops =>
    if message.requestId = id then
      if message.isTerminal then ⟨[message], some .transactionClosed⟩
      else ⟨message :: (owed id ops).messages, (owed id ops).verdict⟩
    else owed id ops
  | .remove other :: ops => if other = id then ⟨[], some .transactionClosed⟩ else owed id ops
  | .close error :: _ => ⟨[], some (error.getD .transactionClosed)⟩
  | .register _ :: ops | .read _ :: ops | .tryRead _ :: ops => owed id ops

theorem owed_append (id : RequestId) (xs ys : List Op) :
    owed id (xs ++ ys) = (owed id xs).andThen (owed id ys) := by
  induction xs with
  | nil => rfl
  | cons op xs ih =>
      cases op with
      | route message =>
          rw [List.cons_append, owed, owed, ih]
          split
          · split
            · rfl
            · cases hv : (owed id xs).verdict with
              | some e => simp [Due.andThen, hv]
              | none => simp [Due.andThen, hv]
          · rfl
      | remove other =>
          rw [List.cons_append, owed, owed, ih]
          split
          · rfl
          · rfl
      | close error => rfl
      | register other => exact ih
      | read mailbox => exact ih
      | tryRead mailbox => exact ih

theorem owed_eq_along (id : RequestId) (c : Collector) (ops : List Op) :
    owed id ops = Due.along step (fun _ op => owed id [op]) c ops := by
  induction ops generalizing c with
  | nil => rfl
  | cons op ops ih => rw [Due.along, ← ih, ← owed_append, List.singleton_append]

/-- Every message that is owed carries the number of the call. -/
theorem requestId_of_mem_owed {id : RequestId} {message : ServerMessage} {ops : List Op}
    (h : message ∈ (owed id ops).messages) : message.requestId = id := by
  induction ops with
  | nil => simp [owed] at h
  | cons op ops ih =>
      cases op with
      | route routed =>
          rw [owed] at h
          split at h
          · split at h
            · rw [List.mem_singleton.mp h]
              assumption
            · rcases List.mem_cons.mp h with rfl | h
              · assumption
              · exact ih h
          · exact ih h
      | remove other =>
          rw [owed] at h
          split at h
          · simp at h
          · exact ih h
      | close error => simp [owed] at h
      | register other => exact ih h
      | read mailbox => exact ih h
      | tryRead mailbox => exact ih h

end Collector

/-! ## §3  One mailbox -/

namespace Mailbox

/-- How a mailbox stands to what its call is owed after `n` reads. Until the messages are read and
a first error is told, it holds the rest of the messages, and behind them the error if that was
delivered; then it holds the verdict. -/
inductive Holds (m : Mailbox) (due : Due) (n : Nat) : Prop where
  | unread (tail : List Delivery) (untold : m.verdict = none) (le : n ≤ due.messages.length)
      (waiting : m.waiting = (due.messages.drop n).map .ok ++ tail)
      (behind : (tail = [] ∧ ∀ error, due.verdict = some error → error = .transactionClosed) ∨
        ∃ error, due.verdict = some error ∧ tail = [.error error])
  | told (error : Error) (verdict : m.verdict = some error) (eq : due.verdict = some error)
      (lt : due.messages.length < n)

/-- What a read takes out was first among what waited. -/
theorem waiting_get {m : Mailbox} {fed : Bool}
    (herror : ∀ error, (m.get fed).1 ≠ .item (.error error)) :
    m.waiting = (m.get fed).1.item?.toList ++ (m.get fed).2.waiting := by
  unfold get at herror ⊢
  cases hverdict : m.verdict with
  | some error => simp [hverdict] at herror
  | none =>
      rw [hverdict] at herror
      unfold take at herror ⊢
      cases hwaiting : m.waiting with
      | nil =>
          rw [hwaiting] at herror
          cases fed with
          | true => simp [Poll.item?, hwaiting]
          | false => simp [settle] at herror
      | cons delivery rest =>
          rw [hwaiting] at herror
          cases delivery with
          | ok message => rfl
          | error error => simp [settle] at herror

/-- Reading without waiting does what reading does when it need not wait. -/
theorem tryGet_eq (m : Mailbox) (fed : Bool) :
    m.tryGet fed = ((m.get fed).1.item?, (m.get fed).2) := by
  unfold tryGet get
  cases m.verdict with
  | some error => rfl
  | none =>
      obtain ⟨found, rest⟩ := m.take fed
      cases found <;> rfl

/-- What a read gives is what is owed next, and the mailbox holds the rest. -/
theorem Holds.get {m : Mailbox} {due : Due} {n : Nat} {fed : Bool} (h : m.Holds due n)
    (hfed : fed = due.verdict.isNone) :
    (m.get fed).1 = due.nth n ∧
      (m.get fed).2.Holds due (n + (m.get fed).1.item?.toList.length) := by
  cases h with
  | told error verdict eq lt =>
      have hnone : due.messages[n]? = none := List.getElem?_eq_none (Nat.le_of_lt lt)
      have hget : m.get fed = (.item (.error error), m) := by
        unfold Mailbox.get
        rw [verdict]
      rw [hget]
      refine ⟨?_, ?_⟩
      · simp [Due.nth, hnone, eq]
      · exact .told error verdict eq (Nat.lt_succ_of_lt lt)
  | unread tail untold le waiting behind =>
      rcases Nat.lt_or_eq_of_le le with lt | rfl
      · -- a message is next
        have hdrop : due.messages.drop n = due.messages[n] :: due.messages.drop (n + 1) :=
          List.drop_eq_getElem_cons lt
        rw [hdrop, List.map_cons, List.cons_append] at waiting
        have hget : m.get fed = (.item (.ok due.messages[n]),
            { m with waiting := (due.messages.drop (n + 1)).map .ok ++ tail }) := by
          simp [Mailbox.get, untold, take, waiting, settle]
        rw [hget]
        refine ⟨?_, ?_⟩
        · simp [Due.nth, lt]
        · exact .unread tail untold lt rfl behind
      · rw [List.drop_length, List.map_nil, List.nil_append] at waiting
        have hnone : due.messages[due.messages.length]? = none :=
          List.getElem?_eq_none (Nat.le_refl _)
        rcases behind with ⟨rfl, hclosed⟩ | ⟨error, hverdict, rfl⟩
        · cases hv : due.verdict with
          | none =>
              -- more can come
              have hget : m.get fed = (.waiting, m) := by
                simp [Mailbox.get, untold, take, waiting, hfed, hv]
              rw [hget]
              refine ⟨?_, ?_⟩
              · simp [Due.nth, hv]
              · exact .unread [] untold le (by simp [waiting]) (.inl ⟨rfl, hclosed⟩)
          | some error =>
              -- the deliveries are over without an error
              obtain rfl := hclosed error hv
              have hget : m.get fed = (.item (.error .transactionClosed),
                  { m with verdict := some .transactionClosed }) := by
                simp [Mailbox.get, untold, take, waiting, hfed, hv, settle]
              rw [hget]
              refine ⟨?_, ?_⟩
              · simp [Due.nth, hv]
              · exact .told _ rfl hv (Nat.lt_succ_self _)
        · -- the error that was delivered is next
          have hget : m.get fed = (.item (.error error),
              { m with waiting := [], verdict := some error }) := by
            simp [Mailbox.get, untold, take, waiting, settle]
          rw [hget]
          refine ⟨?_, ?_⟩
          · simp [Due.nth, hverdict]
          · exact .told _ rfl hverdict (Nat.lt_succ_self _)

/-- A mailbox whose call is in flight holds the messages that were not read and nothing else. -/
theorem Holds.of_open {m : Mailbox} {due : Due} {n : Nat} (h : m.Holds due n)
    (hopen : due.verdict = none) :
    m.verdict = none ∧ n ≤ due.messages.length ∧
      m.waiting = (due.messages.drop n).map .ok := by
  cases h with
  | told error verdict eq lt => simp [hopen] at eq
  | unread tail untold le waiting behind =>
      rcases behind with ⟨rfl, -⟩ | ⟨error, hverdict, -⟩
      · exact ⟨untold, le, by simpa using waiting⟩
      · simp [hopen] at hverdict

/-- The call gets one more message, which may be its last. -/
theorem Holds.deliver {m : Mailbox} {due : Due} {n : Nat} (h : m.Holds due n)
    (hopen : due.verdict = none) (message : ServerMessage) {verdict : Option Error}
    (hverdict : ∀ error, verdict = some error → error = .transactionClosed) :
    Holds { m with waiting := m.waiting ++ [.ok message] }
      ⟨due.messages ++ [message], verdict⟩ n := by
  obtain ⟨untold, le, waiting⟩ := h.of_open hopen
  refine .unread [] untold ?_ ?_ (.inl ⟨rfl, hverdict⟩)
  · rw [List.length_append]
    exact Nat.le_add_right_of_le le
  · rw [List.drop_append_of_le_length le]
    simp [waiting]

/-- The call ends without an error. -/
theorem Holds.finish {m : Mailbox} {due : Due} {n : Nat} (h : m.Holds due n)
    (hopen : due.verdict = none) : m.Holds ⟨due.messages, some .transactionClosed⟩ n := by
  obtain ⟨untold, le, waiting⟩ := h.of_open hopen
  exact .unread [] untold le (by simp [waiting]) (.inl ⟨rfl, by simp⟩)

/-- The call ends with an error. -/
theorem Holds.fail {m : Mailbox} {due : Due} {n : Nat} (h : m.Holds due n)
    (hopen : due.verdict = none) (error : Error) :
    Holds { m with waiting := m.waiting ++ [.error error] } ⟨due.messages, some error⟩ n := by
  obtain ⟨untold, le, waiting⟩ := h.of_open hopen
  exact .unread [.error error] untold le (by simp [waiting]) (.inr ⟨error, rfl, rfl⟩)

end Mailbox

namespace Collector

/-! ## §4  The registry -/

/-- A mailbox that nothing but messages was delivered to. -/
def Holding (c : Collector) (k : Nat) : Prop :=
  ∃ (m : Mailbox) (messages : List ServerMessage),
    c.mailboxes[k]? = some m ∧ m.verdict = none ∧ m.waiting = messages.map .ok

/-- No number and no mailbox is registered twice, nothing is after the closing, and while a call is
in flight its mailbox holds messages only. -/
structure WellFormed (c : Collector) : Prop where
  ids : (c.registered.map (·.1)).Nodup
  boxes : (c.registered.map (·.2)).Nodup
  holding : ∀ e ∈ c.registered, c.Holding e.2
  silent : c.closed = true → c.registered = []

theorem wellFormed_empty : WellFormed {} :=
  ⟨List.nodup_nil, List.nodup_nil, by simp, by simp⟩

theorem Holding.lt_length {c : Collector} {k : Nat} (h : c.Holding k) : k < c.mailboxes.length := by
  obtain ⟨m, -, hm, -, -⟩ := h
  exact (List.getElem?_eq_some_iff.mp hm).1

theorem Holding.congr {c c' : Collector} {k : Nat} (h : c.Holding k)
    (hbox : c'.mailboxes[k]? = c.mailboxes[k]?) : c'.Holding k := by
  obtain ⟨m, messages, hm, hrest⟩ := h
  exact ⟨m, messages, hbox.trans hm, hrest⟩

theorem isFed_eq_false_iff {c : Collector} {k : Nat} :
    c.isFed k = false ↔ ∀ e ∈ c.registered, e.2 ≠ k := by
  simp [isFed]

theorem isRegistered_eq_false_iff {c : Collector} {id : RequestId} :
    c.isRegistered id = false ↔ ∀ e ∈ c.registered, e.1 ≠ id := by
  simp [isRegistered]

theorem WellFormed.lookup_eq_some_iff {c : Collector} (wf : c.WellFormed) {id : RequestId}
    {k : Nat} : c.lookup id = some k ↔ (id, k) ∈ c.registered := by
  unfold lookup
  constructor
  · intro h
    obtain ⟨e, he, rfl⟩ := Option.map_eq_some_iff.mp h
    have hid : e.1 = id := by simpa using List.find?_some he
    rw [← hid]
    exact List.mem_of_find?_eq_some he
  · intro h
    cases hf : c.registered.find? (·.1 = id) with
    | none =>
        have hne := List.find?_eq_none.mp hf _ h
        simp at hne
    | some e =>
        have hid : e.1 = id := by simpa using List.find?_some hf
        have heq : e = (id, k) :=
          List.inj_on_of_nodup_map wf.ids (List.mem_of_find?_eq_some hf) h hid
        rw [heq]
        rfl

/-- A mailbox that is fed is fed by one number. -/
theorem WellFormed.id_unique {c : Collector} (wf : c.WellFormed) {id id' : RequestId} {k : Nat}
    (h : (id, k) ∈ c.registered) (h' : (id', k) ∈ c.registered) : id = id' :=
  congrArg Prod.fst (List.inj_on_of_nodup_map wf.boxes h h' rfl)

theorem mailboxes_deliver (c : Collector) (j k : Nat) (delivery : Delivery) :
    (c.deliver j delivery).mailboxes[k]? =
      (c.mailboxes[k]?).map fun m =>
        if j = k then { m with waiting := m.waiting ++ [delivery] } else m := by
  simp [deliver, List.getElem?_modify]

@[simp] theorem length_mailboxes_deliver (c : Collector) (j : Nat) (delivery : Delivery) :
    (c.deliver j delivery).mailboxes.length = c.mailboxes.length := by
  simp [deliver]

theorem Holding.deliver {c : Collector} {k : Nat} (h : c.Holding k) (j : Nat)
    (message : ServerMessage) : (c.deliver j (.ok message)).Holding k := by
  obtain ⟨m, messages, hm, hverdict, hwaiting⟩ := h
  by_cases hj : j = k
  · refine ⟨{ m with waiting := m.waiting ++ [.ok message] }, messages ++ [message], ?_,
      hverdict, ?_⟩
    · rw [mailboxes_deliver, hm]
      simp [hj]
    · simp [hwaiting]
  · refine ⟨m, messages, ?_, hverdict, hwaiting⟩
    rw [mailboxes_deliver, hm]
    simp [hj]

theorem WellFormed.deliver {c : Collector} (wf : c.WellFormed) (j : Nat) (message : ServerMessage) :
    (c.deliver j (.ok message)).WellFormed :=
  ⟨wf.ids, wf.boxes, fun e he => (wf.holding e he).deliver j message, wf.silent⟩

theorem WellFormed.remove {c : Collector} (wf : c.WellFormed) (id : RequestId) :
    (c.remove id).WellFormed := by
  have hsub : (c.registered.filter (·.1 ≠ id)).Sublist c.registered := List.filter_sublist
  refine ⟨wf.ids.sublist (hsub.map _), wf.boxes.sublist (hsub.map _), ?_, ?_⟩
  · intro e he
    exact wf.holding e (hsub.subset he)
  · intro hclosed
    simp [Collector.remove, wf.silent hclosed]

theorem WellFormed.register {c : Collector} (wf : c.WellFormed) (id : RequestId) :
    (c.register id).2.WellFormed := by
  unfold Collector.register
  split
  · exact wf
  · rename_i hclosed
    split
    · exact wf
    · rename_i hfree
      have hid : ∀ e ∈ c.registered, e.1 ≠ id :=
        isRegistered_eq_false_iff.mp (Bool.eq_false_iff.mpr hfree)
      refine ⟨?_, ?_, ?_, ?_⟩
      · rw [List.map_append, List.nodup_append]
        refine ⟨wf.ids, by simp, ?_⟩
        intro a ha b hb
        obtain ⟨e, he, rfl⟩ := List.mem_map.mp ha
        rw [show b = id by simpa using hb]
        exact hid e he
      · rw [List.map_append, List.nodup_append]
        refine ⟨wf.boxes, by simp, ?_⟩
        intro a ha b hb
        obtain ⟨e, he, rfl⟩ := List.mem_map.mp ha
        rw [show b = c.mailboxes.length by simpa using hb]
        exact Nat.ne_of_lt (wf.holding e he).lt_length
      · intro e he
        rcases List.mem_append.mp he with he | he
        · have hholding := wf.holding e he
          exact hholding.congr (List.getElem?_append_left hholding.lt_length)
        · rw [List.mem_singleton.mp he]
          exact ⟨{ id := id }, [], List.getElem?_concat_length, rfl, rfl⟩
      · intro h
        exact absurd h hclosed

theorem WellFormed.route {c : Collector} (wf : c.WellFormed) (message : ServerMessage) :
    (c.route message).2.WellFormed := by
  unfold Collector.route
  split
  · exact wf
  · split
    · split
      · exact (wf.remove _).deliver _ _
      · exact wf.deliver _ _
    · split <;> exact wf

/-- Delivering one thing to each of several mailboxes changes nothing but them. -/
theorem foldl_deliver (delivery : Delivery) (es : List (RequestId × Nat)) (c : Collector) :
    let c' := es.foldl (fun c (e : RequestId × Nat) => c.deliver e.2 delivery) c
    c'.registered = c.registered ∧ c'.closed = c.closed ∧
      c'.mailboxes.length = c.mailboxes.length ∧
      ∀ k, k ∉ es.map (·.2) → c'.mailboxes[k]? = c.mailboxes[k]? := by
  induction es generalizing c with
  | nil => exact ⟨rfl, rfl, rfl, fun _ _ => rfl⟩
  | cons e es ih =>
      obtain ⟨hregistered, hclosed, hlength, hframe⟩ := ih (c.deliver e.2 delivery)
      refine ⟨hregistered, hclosed, ?_, ?_⟩
      · rw [List.foldl_cons, hlength, length_mailboxes_deliver]
      · intro k hk
        rw [List.map_cons, List.mem_cons, not_or] at hk
        rw [List.foldl_cons, hframe k hk.2, mailboxes_deliver]
        simp [Ne.symm hk.1]

/-- Of several different mailboxes each gets the delivery once. -/
theorem foldl_deliver_mem (delivery : Delivery) {es : List (RequestId × Nat)}
    (hes : (es.map (·.2)).Nodup) {k : Nat} (hk : k ∈ es.map (·.2)) (c : Collector) :
    (es.foldl (fun c (e : RequestId × Nat) => c.deliver e.2 delivery) c).mailboxes[k]? =
      (c.mailboxes[k]?).map fun m => { m with waiting := m.waiting ++ [delivery] } := by
  induction es generalizing c with
  | nil => simp at hk
  | cons e es ih =>
      rw [List.map_cons, List.nodup_cons] at hes
      rw [List.map_cons, List.mem_cons] at hk
      rw [List.foldl_cons]
      rcases hk with rfl | hk
      · rw [(foldl_deliver delivery es _).2.2.2 _ hes.1, mailboxes_deliver]
        simp
      · rw [ih hes.2 hk, mailboxes_deliver]
        have hne : e.2 ≠ k := fun h => hes.1 (h ▸ hk)
        simp [hne]

@[simp] theorem registered_close (c : Collector) (error : Option Error) :
    (c.close error).registered = [] := by
  cases error with
  | none => rfl
  | some error => exact (foldl_deliver _ c.registered _).1

@[simp] theorem closed_close (c : Collector) (error : Option Error) :
    (c.close error).closed = true := by
  cases error with
  | none => rfl
  | some error => exact (foldl_deliver _ c.registered _).2.1

/-- A mailbox that is not fed does not notice the closing. -/
theorem mailboxes_close_of_unfed {c : Collector} {k : Nat} (h : c.isFed k = false)
    (error : Option Error) : (c.close error).mailboxes[k]? = c.mailboxes[k]? := by
  cases error with
  | none => rfl
  | some error =>
      refine (foldl_deliver _ c.registered _).2.2.2 k ?_
      intro hk
      obtain ⟨e, he, hek⟩ := List.mem_map.mp hk
      exact isFed_eq_false_iff.mp h e he hek

/-- A mailbox that is fed gets the error of the closing, if there is one. -/
theorem WellFormed.mailboxes_close {c : Collector} (wf : c.WellFormed) {id : RequestId} {k : Nat}
    (h : (id, k) ∈ c.registered) (error : Option Error) :
    (c.close error).mailboxes[k]? =
      (c.mailboxes[k]?).map fun m =>
        { m with waiting := m.waiting ++ (error.map Except.error).toList } := by
  cases error with
  | none => simp [close]
  | some error => exact foldl_deliver_mem _ wf.boxes (List.mem_map_of_mem h) _

theorem wellFormed_close (c : Collector) (error : Option Error) : (c.close error).WellFormed := by
  refine ⟨?_, ?_, ?_, ?_⟩ <;> simp

theorem read_eq_of_mailbox {c : Collector} {k : Nat} {m : Mailbox} (h : c.mailboxes[k]? = some m) :
    c.read k = ((m.get (c.isFed k)).1,
      { c with mailboxes := c.mailboxes.set k (m.get (c.isFed k)).2 }) := by
  unfold read
  rw [h]

/-- Reading without waiting does what reading does when it need not wait. -/
theorem tryRead_eq (c : Collector) (k : Nat) :
    c.tryRead k = ((c.read k).1.item?, (c.read k).2) := by
  unfold tryRead read
  cases c.mailboxes[k]? with
  | none => rfl
  | some m => simp only [Mailbox.tryGet_eq]

/-- A read changes one mailbox and nothing else. -/
theorem read_frame (c : Collector) (j : Nat) :
    (c.read j).2.registered = c.registered ∧ (c.read j).2.closed = c.closed ∧
      (c.read j).2.mailboxes.length = c.mailboxes.length ∧
      ∀ k, k ≠ j → (c.read j).2.mailboxes[k]? = c.mailboxes[k]? := by
  unfold read
  cases c.mailboxes[j]? with
  | none => exact ⟨rfl, rfl, rfl, fun _ _ => rfl⟩
  | some m =>
      refine ⟨rfl, rfl, by simp, fun k hk => ?_⟩
      exact List.getElem?_set_ne (Ne.symm hk)

theorem isFed_of_mem {c : Collector} {e : RequestId × Nat} (h : e ∈ c.registered) :
    c.isFed e.2 = true := by
  by_contra hfed
  exact isFed_eq_false_iff.mp (Bool.eq_false_iff.mpr hfed) e h rfl

/-- A read takes out the first message, if there is one. -/
theorem Holding.read {c : Collector} {k : Nat} (h : c.Holding k) (hfed : c.isFed k = true) :
    (c.read k).2.Holding k := by
  have hlt := h.lt_length
  obtain ⟨m, messages, hm, hverdict, hwaiting⟩ := h
  rw [read_eq_of_mailbox hm, hfed]
  cases messages with
  | nil =>
      refine ⟨m, [], ?_, hverdict, hwaiting⟩
      rw [List.getElem?_set_self hlt]
      simp [Mailbox.get, Mailbox.take, hverdict, hwaiting]
  | cons message rest =>
      refine ⟨{ m with waiting := rest.map .ok }, rest, ?_, hverdict, rfl⟩
      rw [List.getElem?_set_self hlt]
      simp [Mailbox.get, Mailbox.take, Mailbox.settle, hverdict, hwaiting]

theorem WellFormed.read {c : Collector} (wf : c.WellFormed) (j : Nat) :
    (c.read j).2.WellFormed := by
  obtain ⟨hregistered, hclosed, -, hframe⟩ := c.read_frame j
  refine ⟨?_, ?_, ?_, ?_⟩
  · rw [hregistered]
    exact wf.ids
  · rw [hregistered]
    exact wf.boxes
  · intro e he
    rw [hregistered] at he
    by_cases hj : e.2 = j
    · subst hj
      exact (wf.holding e he).read (isFed_of_mem he)
    · exact (wf.holding e he).congr (hframe e.2 hj)
  · rw [hregistered, hclosed]
    exact wf.silent

theorem step_tryRead (c : Collector) (j : Nat) : c.step (.tryRead j) = c.step (.read j) := by
  simp only [step, tryRead_eq]

theorem WellFormed.step {c : Collector} (wf : c.WellFormed) (op : Op) : (c.step op).WellFormed := by
  cases op with
  | register id => exact wf.register id
  | remove id => exact wf.remove id
  | route message => exact wf.route message
  | close error => exact wellFormed_close c error
  | read j => exact wf.read j
  | tryRead j =>
      rw [step_tryRead]
      exact wf.read j

theorem WellFormed.run {c : Collector} (wf : c.WellFormed) (ops : List Op) :
    (c.run ops).WellFormed :=
  Run.keeps (fun _ op h => h.step op) wf ops

/-! ## §5  A mailbox follows what its call is owed -/

/-- A call registered under a number, with its mailbox: it is fed until the verdict falls, and its
mailbox holds what was not read. -/
structure Follows (c : Collector) (k : Nat) (id : RequestId) (due : Due) (n : Nat) : Prop where
  fed : due.verdict = none → (id, k) ∈ c.registered
  unfed : due.verdict ≠ none → c.isFed k = false
  box : ∃ m, c.mailboxes[k]? = some m ∧ m.Holds due n

variable {c : Collector} {k : Nat} {id : RequestId} {due : Due} {n : Nat}

/-- A call in flight is owed what its mailbox holds. -/
theorem WellFormed.follows (wf : c.WellFormed) (h : (id, k) ∈ c.registered) :
    ∃ (m : Mailbox) (messages : List ServerMessage), c.mailboxes[k]? = some m ∧
      m.waiting = messages.map .ok ∧ Follows c k id ⟨messages, none⟩ 0 := by
  obtain ⟨m, messages, hm, hverdict, hwaiting⟩ := wf.holding _ h
  refine ⟨m, messages, hm, hwaiting, fun _ => h, fun hv => absurd rfl hv, m, hm, ?_⟩
  exact .unread [] hverdict (Nat.zero_le _) (by simp [hwaiting]) (.inl ⟨rfl, by simp⟩)

/-- A registration that succeeds makes an empty mailbox at the end of the list. -/
theorem register_eq_ok (h : (c.register id).1 = .ok k) :
    k = c.mailboxes.length ∧ (c.register id).2.registered = c.registered ++ [(id, k)] ∧
      (c.register id).2.mailboxes = c.mailboxes ++ [{ id := id }] := by
  unfold register at h ⊢
  split at h
  · simp at h
  · split at h
    · simp at h
    · rename_i hclosed hfree
      obtain rfl : c.mailboxes.length = k := by simpa using h
      simp [hclosed, hfree]

/-- A registration that fails changes nothing. -/
theorem register_eq_error {error : Error} (h : (c.register id).1 = .error error) :
    (c.register id).2 = c := by
  unfold register at h ⊢
  split
  · rfl
  · split
    · rfl
    · simp_all

theorem follows_register (h : (c.register id).1 = .ok k) :
    Follows (c.register id).2 k id {} 0 := by
  obtain ⟨rfl, hregistered, hmailboxes⟩ := register_eq_ok h
  refine ⟨?_, ?_, ?_⟩
  · intro _
    rw [hregistered]
    simp
  · intro hv
    exact absurd rfl hv
  · refine ⟨{ id := id }, ?_, ?_⟩
    · rw [hmailboxes]
      simp
    · exact .unread [] rfl (Nat.le_refl 0) rfl (.inl ⟨rfl, by simp⟩)

theorem Follows.lt_length (h : Follows c k id due n) : k < c.mailboxes.length := by
  obtain ⟨m, hm, -⟩ := h.box
  exact (List.getElem?_eq_some_iff.mp hm).1

theorem Follows.isFed_eq (h : Follows c k id due n) : c.isFed k = due.verdict.isNone := by
  cases hv : due.verdict with
  | some error => exact h.unfed (by simp [hv])
  | none =>
      have := h.fed hv
      simp only [isFed, List.any_eq_true, decide_eq_true_eq, Option.isNone_none]
      exact ⟨(id, k), this, rfl⟩

/-- A change that keeps the registration and the mailbox of a call is none to it. -/
theorem Follows.of_frame {c' : Collector} (h : Follows c k id due n)
    (hfed : (id, k) ∈ c.registered → (id, k) ∈ c'.registered)
    (hunfed : c.isFed k = false → c'.isFed k = false)
    (hbox : c'.mailboxes[k]? = c.mailboxes[k]?) : Follows c' k id due n := by
  refine ⟨fun hv => hfed (h.fed hv), fun hv => hunfed (h.unfed hv), ?_⟩
  rw [hbox]
  exact h.box

/-- Another registration is of no concern. -/
theorem Follows.register (h : Follows c k id due n) (other : RequestId) :
    Follows (c.register other).2 k id due n := by
  cases hr : (c.register other).1 with
  | error error =>
      rw [register_eq_error hr]
      exact h
  | ok j =>
      obtain ⟨rfl, hregistered, hmailboxes⟩ := register_eq_ok hr
      have hlt := h.lt_length
      refine h.of_frame ?_ ?_ ?_
      · intro hmem
        rw [hregistered]
        exact List.mem_append_left _ hmem
      · intro hunfed
        rw [isFed_eq_false_iff] at hunfed ⊢
        intro e he
        rw [hregistered] at he
        rcases List.mem_append.mp he with he | he
        · exact hunfed e he
        · rw [List.mem_singleton.mp he]
          exact Nat.ne_of_gt hlt
      · rw [hmailboxes, List.getElem?_append_left hlt]

theorem mem_registered_remove {other : RequestId} {e : RequestId × Nat} :
    e ∈ (c.remove other).registered ↔ e ∈ c.registered ∧ e.1 ≠ other := by
  simp [remove]

theorem isFed_remove_of_unfed (h : c.isFed k = false) (other : RequestId) :
    (c.remove other).isFed k = false := by
  rw [isFed_eq_false_iff] at h ⊢
  exact fun e he => h e (mem_registered_remove.mp he).1

/-- The end of the registration of a call leaves its mailbox unfed. -/
theorem WellFormed.isFed_remove (wf : c.WellFormed) (h : (id, k) ∈ c.registered) :
    (c.remove id).isFed k = false := by
  rw [isFed_eq_false_iff]
  rintro ⟨other, j⟩ he rfl
  obtain ⟨he, hne⟩ := mem_registered_remove.mp he
  exact hne (wf.id_unique he h)

theorem Follows.remove (wf : c.WellFormed) (h : Follows c k id due n) (other : RequestId) :
    Follows (c.remove other) k id (due.andThen (owed id [.remove other])) n := by
  by_cases hv : due.verdict = none
  · have hmem := h.fed hv
    by_cases hid : other = id
    · subst hid
      obtain ⟨m, hm, hholds⟩ := h.box
      have hdue : due.andThen (owed other [.remove other]) =
          ⟨due.messages, some .transactionClosed⟩ := by
        simp [Due.andThen_of_open hv, owed]
      rw [hdue]
      exact ⟨by simp, fun _ => wf.isFed_remove hmem, m, hm, hholds.finish hv⟩
    · have hdue : due.andThen (owed id [.remove other]) = due := by
        simp [owed, hid]
      rw [hdue]
      refine h.of_frame ?_ (isFed_remove_of_unfed · other) rfl
      intro _
      exact mem_registered_remove.mpr ⟨hmem, fun h => hid h.symm⟩
  · rw [Due.andThen_of_verdict hv]
    refine h.of_frame ?_ (isFed_remove_of_unfed · other) rfl
    intro hmem
    have hunfed := isFed_eq_false_iff.mp (h.unfed hv) _ hmem
    exact absurd rfl hunfed

theorem mailboxes_deliver_ne {j : Nat} (h : j ≠ k) (delivery : Delivery) :
    (c.deliver j delivery).mailboxes[k]? = c.mailboxes[k]? := by
  rw [mailboxes_deliver]
  simp [h]

/-- A delivery to another mailbox is of no concern, even if it ends the registration there. -/
theorem Follows.deliver_ne (h : Follows c k id due n) {other : RequestId} {j : Nat}
    (hj : j ≠ k) (hid : due.verdict = none → other ≠ id) (message : ServerMessage) :
    Follows ((if message.isTerminal then c.remove other else c).deliver j (.ok message))
      k id due n := by
  split
  · refine h.of_frame ?_ (isFed_remove_of_unfed · other) (mailboxes_deliver_ne hj _)
    intro hmem
    have hv : due.verdict = none := by
      by_contra hv
      exact isFed_eq_false_iff.mp (h.unfed hv) _ hmem rfl
    exact mem_registered_remove.mpr ⟨hmem, (hid hv).symm⟩
  · exact h.of_frame (fun hmem => hmem) (fun hunfed => hunfed) (mailboxes_deliver_ne hj _)

/-- A message under the number of a call in flight arrives, and ends the call if it is terminal. -/
theorem Follows.deliver (wf : c.WellFormed) (h : Follows c k id due n) (hv : due.verdict = none)
    (message : ServerMessage) :
    Follows ((if message.isTerminal then c.remove id else c).deliver k (.ok message)) k id
      ⟨due.messages ++ [message], if message.isTerminal then some .transactionClosed else none⟩
      n := by
  have hmem := h.fed hv
  obtain ⟨m, hm, hholds⟩ := h.box
  have hbox : ∀ c' : Collector, c'.mailboxes = c.mailboxes →
      (c'.deliver k (.ok message)).mailboxes[k]? =
        some { m with waiting := m.waiting ++ [.ok message] } := by
    intro c' hc'
    rw [mailboxes_deliver, hc', hm]
    simp
  split
  · exact ⟨by simp, fun _ => wf.isFed_remove hmem, _, hbox _ rfl,
      hholds.deliver hv message (by simp)⟩
  · exact ⟨fun _ => hmem, by simp, _, hbox _ rfl, hholds.deliver hv message (by simp)⟩

/-- A message that is not for the call, or comes when it is over, is of no concern to it. -/
theorem Follows.route_ne (wf : c.WellFormed) (h : Follows c k id due n) {message : ServerMessage}
    (hid : due.verdict = none → message.requestId ≠ id) :
    Follows (c.route message).2 k id due n := by
  unfold Collector.route
  split
  · exact h
  · cases hl : c.lookup message.requestId with
    | none =>
        dsimp only
        split <;> exact h
    | some j =>
        have hmem := wf.lookup_eq_some_iff.mp hl
        have hj : j ≠ k := by
          rintro rfl
          by_cases hv : due.verdict = none
          · exact hid hv (wf.id_unique hmem (h.fed hv))
          · exact isFed_eq_false_iff.mp (h.unfed hv) _ hmem rfl
        exact h.deliver_ne hj hid message

theorem Follows.route (wf : c.WellFormed) (h : Follows c k id due n) (message : ServerMessage) :
    Follows (c.route message).2 k id (due.andThen (owed id [.route message])) n := by
  by_cases hv : due.verdict = none
  · by_cases hid : message.requestId = id
    · subst hid
      -- a collector with a call in flight is not closed
      have hmem := h.fed hv
      have hopen : ¬ c.closed = true := by
        intro hclosed
        rw [wf.silent hclosed] at hmem
        simp at hmem
      have hdue : due.andThen (owed message.requestId [.route message]) =
          ⟨due.messages ++ [message],
            if message.isTerminal then some .transactionClosed else none⟩ := by
        rw [Due.andThen_of_open hv]
        cases ht : message.isTerminal <;> simp [owed, ht]
      rw [Collector.route, if_neg hopen, wf.lookup_eq_some_iff.mpr hmem, hdue]
      exact h.deliver wf hv message
    · have hdue : due.andThen (owed id [.route message]) = due := by
        simp [owed, hid]
      rw [hdue]
      exact h.route_ne wf fun _ => hid
  · rw [Due.andThen_of_verdict hv]
    exact h.route_ne wf fun hopen => absurd hopen hv

theorem Follows.close (wf : c.WellFormed) (h : Follows c k id due n) (error : Option Error) :
    Follows (c.close error) k id (due.andThen (owed id [.close error])) n := by
  have hunfed : (c.close error).isFed k = false := by
    simp [isFed]
  by_cases hv : due.verdict = none
  · obtain ⟨m, hm, hholds⟩ := h.box
    have hdue : due.andThen (owed id [.close error]) =
        ⟨due.messages, some (error.getD .transactionClosed)⟩ := by
      simp [Due.andThen_of_open hv, owed]
    have hbox := wf.mailboxes_close (h.fed hv) error
    rw [hm] at hbox
    rw [hdue]
    refine ⟨by simp, fun _ => hunfed, _, hbox, ?_⟩
    cases error with
    | none => simpa using hholds.finish hv
    | some error => exact hholds.fail hv error
  · rw [Due.andThen_of_verdict hv]
    exact ⟨fun hopen => absurd hopen hv, fun _ => hunfed,
      by rw [mailboxes_close_of_unfed (h.unfed hv)]; exact h.box⟩

/-- A read of the mailbox gives what is owed next. -/
theorem Follows.read_eq (h : Follows c k id due n) :
    (c.read k).1 = due.nth n ∧
      Follows (c.read k).2 k id due (n + (c.read k).1.item?.toList.length) := by
  obtain ⟨m, hm, hholds⟩ := h.box
  obtain ⟨hnext, hrest⟩ := hholds.get h.isFed_eq
  rw [read_eq_of_mailbox hm]
  refine ⟨hnext, h.fed, h.unfed, _, ?_, hrest⟩
  exact List.getElem?_set_self h.lt_length

theorem Follows.read_ne (h : Follows c k id due n) {j : Nat} (hj : j ≠ k) :
    Follows (c.read j).2 k id due n := by
  obtain ⟨hregistered, -, -, hframe⟩ := c.read_frame j
  refine h.of_frame ?_ ?_ (hframe k (Ne.symm hj))
  · rw [hregistered]
    exact fun hmem => hmem
  · simp only [isFed, hregistered]
    exact fun hunfed => hunfed

theorem given_tryRead (k : Nat) (c : Collector) (j : Nat) :
    c.given k (.tryRead j) = c.given k (.read j) := by
  simp only [given, tryRead_eq]

/-- **One step.** Whatever is done to a collector, the mailbox of a call goes on to hold what the
call is owed, less what the step hands out. -/
theorem Follows.step (wf : c.WellFormed) (h : Follows c k id due n) (op : Op) :
    Follows (c.step op) k id (due.andThen (owed id [op])) (n + (c.given k op).length) := by
  have hread : ∀ j, Follows (c.read j).2 k id due (n + (c.given k (.read j)).length) := by
    intro j
    by_cases hj : j = k
    · subst hj
      simpa [given] using h.read_eq.2
    · simpa [given, hj] using h.read_ne hj
  cases op with
  | register other => simpa [Collector.step, given, owed] using h.register other
  | remove other => exact h.remove wf other
  | route message => exact h.route wf message
  | close error => exact h.close wf error
  | read j => simpa [Collector.step, owed] using hread j
  | tryRead j =>
      rw [step_tryRead, given_tryRead]
      simpa [Collector.step, owed] using hread j

/-- What a step hands out is what is owed next. -/
theorem Follows.nth_of_mem_given (h : Follows c k id due n) {op : Op} {delivery : Delivery}
    (hd : delivery ∈ c.given k op) : c.given k op = [delivery] ∧ due.nth n = .item delivery := by
  have hread : ∀ j, delivery ∈ c.given k (.read j) →
      c.given k (.read j) = [delivery] ∧ due.nth n = .item delivery := by
    intro j hd
    by_cases hj : j = k
    · subst hj
      simp only [given, if_true] at hd ⊢
      obtain ⟨hfound, hone⟩ := Poll.of_mem hd
      exact ⟨hone, h.read_eq.1.symm.trans hfound⟩
    · simp [given, hj] at hd
  cases op with
  | read j => exact hread j hd
  | tryRead j =>
      rw [given_tryRead] at hd ⊢
      exact hread j hd
  | register other => simp [given] at hd
  | remove other => simp [given] at hd
  | route message => simp [given] at hd
  | close error => simp [given] at hd

/-- **A run.** What a run hands out of the mailbox of a call is, read by read, what the call is
owed, and the mailbox holds the rest. -/
theorem Follows.run (wf : c.WellFormed) (h : Follows c k id due n) (ops : List Op) :
    Follows (c.run ops) k id (due.andThen (owed id ops)) (n + (handed k c ops).length) ∧
      ∀ i (hi : i < (handed k c ops).length),
        (due.andThen (owed id ops)).nth (n + i) = .item (handed k c ops)[i] := by
  obtain ⟨⟨-, hfollows⟩, hread⟩ := Due.reads_along Collector.step (fun _ op => owed id [op])
    (given k) (F := fun c due n => c.WellFormed ∧ Follows c k id due n)
    (fun _ _ _ op h => ⟨h.1.step op, h.2.step h.1 op⟩)
    (fun _ _ _ _ _ h hd => h.2.nth_of_mem_given hd) ⟨wf, h⟩ ops
  rw [← owed_eq_along] at hfollows hread
  exact ⟨hfollows, hread⟩

/-- A number that is registered again had come to its end before. -/
theorem Follows.verdict_of_register (h : Follows c k id due n) {j : Nat}
    (hj : (c.register id).1 = .ok j) : due.verdict ≠ none := by
  intro hv
  have hmem := h.fed hv
  unfold Collector.register at hj
  split at hj
  · simp at hj
  · split at hj
    · simp at hj
    · rename_i hfree
      exact isRegistered_eq_false_iff.mp (Bool.eq_false_iff.mpr hfree) _ hmem rfl

/-- **Demultiplexing is exact.** In any run, and for any call that was registered in it: what its
mailbox hands out is read by read what the call is owed, under its own number alone; the next read
gives what comes next, or waits for it; if its number is registered again, nothing that is routed
from then on is owed to it; and reading without waiting gives the same as reading, in the same
state, whenever reading need not wait. -/
theorem handed_is_owed (before after : List Op) (id : RequestId) (k : Nat)
    (h : ((run {} before).register id).1 = .ok k) :
    let c := (run {} before).step (.register id)
    let got := handed k c after
    let c' := c.run after
    (∀ i (hi : i < got.length), (owed id after).nth i = .item got[i]) ∧
      (c'.read k).1 = (owed id after).nth got.length ∧
      (∀ message, .ok message ∈ got → message.requestId = id) ∧
      (∀ mid rest j, after = mid ++ .register id :: rest →
        ((c.run mid).register id).1 = .ok j →
          j ≠ k ∧ (owed id mid).verdict ≠ none ∧ owed id after = owed id mid) ∧
      (∀ r, (c'.tryRead k).1 = some r ↔ (c'.read k).1 = .item r) ∧
      (c'.tryRead k).2 = (c'.read k).2 := by
  intro c got c'
  have wf : c.WellFormed := (wellFormed_empty.run before).step _
  have hstart : Follows c k id {} 0 := follows_register h
  have hdue : ∀ ops, ({} : Due).andThen (owed id ops) = owed id ops :=
    fun _ => Due.nothing_andThen _
  obtain ⟨hfollows, hread⟩ := hstart.run wf after
  rw [hdue, Nat.zero_add] at hfollows
  have hgot : ∀ i (hi : i < got.length), (owed id after).nth i = .item got[i] := by
    intro i hi
    have := hread i hi
    rwa [hdue, Nat.zero_add] at this
  refine ⟨hgot, hfollows.read_eq.1, ?_, ?_, ?_, ?_⟩
  · intro message hmem
    obtain ⟨i, hi, heq⟩ := List.mem_iff_getElem.mp hmem
    have hnth := hgot i hi
    rw [heq, Due.nth] at hnth
    split at hnth
    · rename_i routed hrouted
      obtain rfl : routed = message := by simpa using hnth
      exact requestId_of_mem_owed (List.mem_of_getElem? hrouted)
    · split at hnth <;> simp at hnth
  · intro mid rest j hsplit hj
    have hmid := (hstart.run wf mid).1
    rw [hdue] at hmid
    have hverdict := hmid.verdict_of_register hj
    refine ⟨?_, hverdict, ?_⟩
    · rw [(register_eq_ok hj).1]
      exact Nat.ne_of_gt hmid.lt_length
    · rw [hsplit, owed_append, Due.andThen_of_verdict hverdict]
  · intro r
    rw [tryRead_eq]
    cases (c'.read k).1 <;> simp [Poll.item?]
  · rw [tryRead_eq]

/-- A number that is used twice: the second call is read with and without waiting, and gets the
error of the closing behind the part that had arrived. -/
theorem handed_is_owed_reused :
    let part : ServerMessage := .responsePart ⟨⟨7⟩, .logic (.rules [])⟩
    let before : List Op :=
      [.register ⟨7⟩, .route (.response ⟨⟨7⟩, .ok .opened⟩), .register ⟨8⟩]
    let after : List Op :=
      [.route part, .route (.response ⟨⟨8⟩, .ok .committed⟩), .read 2, .close (some .clientClosed),
        .tryRead 2, .read 1]
    ((run {} before).register ⟨7⟩).1 = .ok 2 ∧
      handed 2 ((run {} before).step (.register ⟨7⟩)) after =
        [.ok part, .error .clientClosed] ∧
      ((((run {} before).step (.register ⟨7⟩)).run after).read 2).1 =
        .item (.error .clientClosed) := by
  intro part before after
  have h : ((run {} before).register ⟨7⟩).1 = .ok 2 := by decide
  refine ⟨h, by decide, ?_⟩
  rw [(handed_is_owed before after ⟨7⟩ 2 h).2.1]
  decide

end Collector

end GraphDriver
