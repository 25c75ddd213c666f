import GraphDriver.Stream.Transmitter
import Mathlib.Data.List.Basic
import Mathlib.Data.List.GetD
import Mathlib.Tactic.ByContra

/-!
# Dispatchers one by one

What each operation of a transmitter does to a single dispatcher and to the members of a single
worker. An operation on a dispatcher changes that one alone; a flush, however many dispatchers it
goes over, treats each of them as if it were alone.

* §1 one dispatcher
* §2 flushing, refusals, closing
* §3 dispatching and binding
* §4 flushing many
-/

namespace GraphDriver

/-! ## §1  One dispatcher -/

namespace Dispatcher

/-- The dispatcher once its buffer was offered to its queue. -/
def flushed (x : Dispatcher) : Dispatcher :=
  if x.buffer.isEmpty then x
  else { x with buffer := [], queue := (x.queue.put ⟨x.buffer⟩).2 }

/-- The error of the flush, if the queue refuses the batch. -/
def refusal (x : Dispatcher) : Option Error :=
  if x.buffer.isEmpty then none
  else
    match (x.queue.put ⟨x.buffer⟩).1 with
    | .ok () => none
    | .error error => some error

def shut (x : Dispatcher) : Dispatcher := { x with closed := true, queue := x.queue.close }

/-- Whether the hook closes the dispatcher. -/
def closesOnRefusal (x : Dispatcher) : Bool := x.hook.any (·.closes)

/-- The dispatcher once its hook was called. -/
def heard (x : Dispatcher) : Dispatcher := if x.closesOnRefusal then x.shut else x

/-- The dispatcher once it was flushed and its hook heard of a refusal. -/
def settled (x : Dispatcher) : Dispatcher :=
  if x.refusal.isSome then x.flushed.heard else x.flushed

/-- What the hook hears of the flush. -/
def reports (x : Dispatcher) : List Report :=
  match x.refusal, x.hook with
  | some error, some hook => [{ label := hook.label, error }]
  | _, _ => []

/-- The dispatcher once it is closed. -/
def closing (x : Dispatcher) : Dispatcher := if x.closed then x else x.flushed.shut

def buffered (x : Dispatcher) (request : Request) : Dispatcher :=
  { x with buffer := x.buffer ++ [request] }

@[simp] theorem buffer_flushed (x : Dispatcher) : x.flushed.buffer = [] := by
  unfold flushed
  split
  · exact List.isEmpty_iff.mp ‹_›
  · rfl

@[simp] theorem flushed_flushed (x : Dispatcher) : x.flushed.flushed = x.flushed := by
  rw [flushed, buffer_flushed]
  rfl

@[simp] theorem hook_flushed (x : Dispatcher) : x.flushed.hook = x.hook := by
  unfold flushed
  split <;> rfl

@[simp] theorem worker_flushed (x : Dispatcher) : x.flushed.worker = x.worker := by
  unfold flushed
  split <;> rfl

@[simp] theorem closed_flushed (x : Dispatcher) : x.flushed.closed = x.closed := by
  unfold flushed
  split <;> rfl

@[simp] theorem shut_shut (x : Dispatcher) : x.shut.shut = x.shut := rfl

@[simp] theorem shut_heard (x : Dispatcher) : x.heard.shut = x.shut := by
  unfold heard
  split <;> rfl

@[simp] theorem hook_heard (x : Dispatcher) : x.heard.hook = x.hook := by
  unfold heard
  split <;> rfl

@[simp] theorem heard_heard (x : Dispatcher) : x.heard.heard = x.heard := by
  by_cases h : x.closesOnRefusal
  · have h' : x.shut.closesOnRefusal = true := h
    simp [heard, h, h']
  · simp [heard, h]

@[simp] theorem buffer_heard (x : Dispatcher) : x.heard.buffer = x.buffer := by
  unfold heard
  split <;> rfl

@[simp] theorem worker_heard (x : Dispatcher) : x.heard.worker = x.worker := by
  unfold heard
  split <;> rfl

@[simp] theorem buffer_settled (x : Dispatcher) : x.settled.buffer = [] := by
  unfold settled
  split <;> simp

@[simp] theorem hook_settled (x : Dispatcher) : x.settled.hook = x.hook := by
  unfold settled
  split <;> simp

@[simp] theorem worker_settled (x : Dispatcher) : x.settled.worker = x.worker := by
  unfold settled
  split <;> simp

end Dispatcher

namespace Transmitter

variable {t : Transmitter} {d e w : Nat}

theorem getD_modify {α : Type} (l : List α) (f : α → α) (i j : Nat) (a : α) :
    (l.modify i f).getD j a = if j = i ∧ i < l.length then f (l.getD j a) else l.getD j a := by
  by_cases hj : j < l.length
  · by_cases hij : i = j
    · subst hij
      simp [List.getD_eq_getElem?_getD, hj]
    · simp [List.getD_eq_getElem?_getD, hj, hij, Ne.symm hij]
  · have hne : ¬ (j = i ∧ i < l.length) := by
      rintro ⟨rfl, h⟩
      exact hj h
    rw [if_neg hne, List.getD_eq_default _ _ (by simpa using hj),
      List.getD_eq_default _ _ (by simpa using hj)]

theorem getD_append_one {α : Type} (l : List α) (a b : α) (i : Nat) :
    (l ++ [a]).getD i b = if i = l.length then a else l.getD i b := by
  rcases Nat.lt_trichotomy i l.length with hlt | heq | hgt
  · rw [List.getD_append _ _ _ _ hlt, if_neg (Nat.ne_of_lt hlt)]
  · subst heq
    simp
  · rw [if_neg (Nat.ne_of_gt hgt), List.getD_eq_default _ _ (Nat.le_of_lt hgt)]
    refine List.getD_eq_default _ _ ?_
    rw [List.length_append]
    exact hgt

def worker (t : Transmitter) (w : Nat) : Worker := t.workers.getD w default

def members (t : Transmitter) (w : Nat) : List Nat := (t.worker w).members

/-- What no operation on one dispatcher changes. -/
def shape (t : Transmitter) : Bool × Nat × Nat :=
  (t.isOpen, t.dispatchers.length, t.workers.length)

theorem isOpen_of_shape {t t' : Transmitter} (h : t'.shape = t.shape) : t'.isOpen = t.isOpen :=
  congrArg (·.1) h

theorem length_of_shape {t t' : Transmitter} (h : t'.shape = t.shape) :
    t'.dispatchers.length = t.dispatchers.length :=
  congrArg (·.2.1) h

theorem width_of_shape {t t' : Transmitter} (h : t'.shape = t.shape) :
    t'.workers.length = t.workers.length :=
  congrArg (·.2.2) h

/-- Beyond the last dispatcher there is nothing but the default. -/
theorem dispatcher_of_le (h : t.dispatchers.length ≤ d) : t.dispatcher d = default :=
  List.getD_eq_default _ _ h

theorem worker_of_le (h : t.workers.length ≤ w) : t.worker w = default :=
  List.getD_eq_default _ _ h

theorem dispatcher_modify (he : e < t.dispatchers.length) (d : Nat) (f : Dispatcher → Dispatcher) :
    dispatcher { t with dispatchers := t.dispatchers.modify d f } e =
      if e = d then f (t.dispatcher d) else t.dispatcher e := by
  unfold dispatcher
  rw [getD_modify]
  by_cases h : e = d
  · subst h
    rw [if_pos ⟨rfl, he⟩, if_pos rfl]
  · rw [if_neg (fun hed => h hed.1), if_neg h]

/-- What is true of every dispatcher that there is and of the default is true of them all. -/
theorem dispatcher_congr {α : Type} {f : Dispatcher → α} {t' : Transmitter}
    (hshape : t'.shape = t.shape)
    (h : ∀ e < t.dispatchers.length, f (t'.dispatcher e) = f (t.dispatcher e)) (e : Nat) :
    f (t'.dispatcher e) = f (t.dispatcher e) := by
  by_cases he : e < t.dispatchers.length
  · exact h e he
  · have hle := Nat.not_lt.mp he
    rw [dispatcher_of_le hle, dispatcher_of_le (by rwa [length_of_shape hshape])]

/-! ## §2  Flushing, refusals, closing -/

theorem dispatcher_setDispatcher (hd : d < t.dispatchers.length) (x : Dispatcher) (e : Nat) :
    (t.setDispatcher d x).dispatcher e = if e = d then x else t.dispatcher e := by
  by_cases h : e = d
  · subst h
    simp [dispatcher, setDispatcher, List.getD_eq_getElem?_getD, hd]
  · simp [dispatcher, setDispatcher, List.getD_eq_getElem?_getD, Ne.symm h, h]

@[simp] theorem shape_flush (t : Transmitter) (d : Nat) : (t.flush d).2.shape = t.shape := by
  unfold flush
  dsimp only
  split
  · rfl
  · simp [shape, setDispatcher]

@[simp] theorem worker_flush (t : Transmitter) (d w : Nat) :
    (t.flush d).2.worker w = t.worker w := by
  unfold flush
  dsimp only
  split <;> rfl

theorem dispatcher_flush (t : Transmitter) (d e : Nat) :
    (t.flush d).2.dispatcher e = if e = d then (t.dispatcher d).flushed else t.dispatcher e := by
  unfold flush
  dsimp only
  split
  · rename_i hempty
    split
    · rename_i h
      rw [h, Dispatcher.flushed, if_pos hempty]
    · rfl
  · rename_i hbuffer
    have hd : d < t.dispatchers.length := by
      by_contra hd
      rw [dispatcher_of_le (Nat.not_lt.mp hd)] at hbuffer
      exact hbuffer rfl
    rw [Dispatcher.flushed, if_neg hbuffer]
    exact dispatcher_setDispatcher hd _ e

theorem flush_fst (t : Transmitter) (d : Nat) :
    (t.flush d).1 = match (t.dispatcher d).refusal with
      | none => .ok ()
      | some error => .error error := by
  unfold flush Dispatcher.refusal
  dsimp only
  split
  · rfl
  · cases ((t.dispatcher d).queue.put ⟨(t.dispatcher d).buffer⟩).1 with
    | ok u => rfl
    | error error => rfl

@[simp] theorem shape_deregister (t : Transmitter) (d : Nat) :
    (t.deregister d).shape = t.shape := by
  simp [shape, deregister]

@[simp] theorem dispatcher_deregister (t : Transmitter) (d e : Nat) :
    (t.deregister d).dispatcher e = t.dispatcher e := rfl

theorem worker_deregister (t : Transmitter) (d w : Nat) :
    (t.deregister d).worker w =
      if w = (t.dispatcher d).worker then
        { t.worker w with members := (t.members w).filter (· ≠ d) }
      else t.worker w := by
  unfold deregister worker members
  rw [getD_modify]
  by_cases h : w = (t.dispatcher d).worker
  · subst h
    by_cases hlt : (t.dispatcher d).worker < t.workers.length
    · rw [if_pos ⟨rfl, hlt⟩, if_pos rfl]
      rfl
    · rw [if_neg (fun h => hlt h.2), if_pos rfl, worker_of_le (Nat.not_lt.mp hlt),
        List.getD_eq_default _ _ (Nat.not_lt.mp hlt)]
      rfl
  · rw [if_neg (fun hw => h hw.1), if_neg h]

@[simp] theorem shape_shut (t : Transmitter) (d : Nat) : (t.shut d).shape = t.shape := by
  simp [shape, shut]

@[simp] theorem worker_shut (t : Transmitter) (d w : Nat) : (t.shut d).worker w = t.worker w := rfl

theorem dispatcher_shut (he : e < t.dispatchers.length) (d : Nat) :
    (t.shut d).dispatcher e = if e = d then (t.dispatcher d).shut else t.dispatcher e :=
  dispatcher_modify he d _

@[simp] theorem shape_refused (t : Transmitter) (d : Nat) (error : Error) :
    (t.refused d error).1.shape = t.shape := by
  unfold refused
  split
  · rfl
  · dsimp only
    split <;> simp

theorem dispatcher_refused (he : e < t.dispatchers.length) (d : Nat) (error : Error) :
    (t.refused d error).1.dispatcher e =
      if e = d then (t.dispatcher d).heard else t.dispatcher e := by
  unfold refused Dispatcher.heard Dispatcher.closesOnRefusal
  cases hhook : (t.dispatcher d).hook with
  | none =>
      by_cases h : e = d
      · simp [h]
      · simp [h]
  | some hook =>
      by_cases hc : hook.closes
      · have he' : e < (t.deregister d).dispatchers.length := he
        simp [hc, dispatcher_shut he']
      · by_cases h : e = d
        · simp [hc, h]
        · simp [hc, h]

/-- What a dispatcher keeps when its hook is called, all dispatchers keep. -/
theorem refused_congr {α : Type} {f : Dispatcher → α} (hf : ∀ x, f (Dispatcher.heard x) = f x)
    (t : Transmitter) (d : Nat) (error : Error) (e : Nat) :
    f ((t.refused d error).1.dispatcher e) = f (t.dispatcher e) := by
  refine dispatcher_congr (shape_refused t d error) (fun e he => ?_) e
  rw [dispatcher_refused he]
  split
  · simp [*]
  · rfl

theorem worker_refused (t : Transmitter) (d : Nat) (error : Error) (w : Nat) :
    (t.refused d error).1.worker w =
      if (t.dispatcher d).closesOnRefusal then (t.deregister d).worker w else t.worker w := by
  unfold refused Dispatcher.closesOnRefusal
  cases hhook : (t.dispatcher d).hook with
  | none => rfl
  | some hook => by_cases hc : hook.closes <;> simp [hc]

theorem refused_snd (t : Transmitter) (d : Nat) (error : Error) :
    (t.refused d error).2 =
      (t.dispatcher d).hook.toList.map fun hook => { label := hook.label, error } := by
  unfold refused
  cases (t.dispatcher d).hook <;> rfl

theorem deregister_deregister (t : Transmitter) (d w : Nat) :
    ((t.deregister d).deregister d).worker w = (t.deregister d).worker w := by
  have h : ((t.deregister d).deregister d).worker w =
      if w = (t.dispatcher d).worker then
        { (t.deregister d).worker w with
          members := ((t.deregister d).members w).filter (· ≠ d) }
      else (t.deregister d).worker w := worker_deregister (t.deregister d) d w
  rw [h]
  by_cases hw : w = (t.dispatcher d).worker
  · rw [if_pos hw]
    simp [members, worker_deregister, hw]
  · rw [if_neg hw]

theorem closeDispatcher_of_closed (h : (t.dispatcher d).closed = true) :
    t.closeDispatcher d = (t.deregister d, []) := by
  unfold closeDispatcher
  simp [h]

theorem closeDispatcher_of_open (h : (t.dispatcher d).closed = false) :
    t.closeDispatcher d =
      match (t.dispatcher d).refusal with
      | none => (((t.deregister d).flush d).2.shut d, [])
      | some error =>
        ((((t.deregister d).flush d).2.refused d error).1.shut d,
          (((t.deregister d).flush d).2.refused d error).2) := by
  have hfst := flush_fst (t.deregister d) d
  rw [dispatcher_deregister] at hfst
  unfold closeDispatcher
  simp only [dispatcher_deregister, h, Bool.false_eq_true, if_false]
  generalize (t.deregister d).flush d = step at hfst ⊢
  obtain ⟨result, t'⟩ := step
  cases hr : (t.dispatcher d).refusal with
  | none =>
      obtain rfl : result = .ok () := by rw [hr] at hfst; exact hfst
      rfl
  | some error =>
      obtain rfl : result = .error error := by rw [hr] at hfst; exact hfst
      rfl

@[simp] theorem shape_closeDispatcher (t : Transmitter) (d : Nat) :
    (t.closeDispatcher d).1.shape = t.shape := by
  cases h : (t.dispatcher d).closed with
  | true => simp [closeDispatcher_of_closed h]
  | false =>
      rw [closeDispatcher_of_open h]
      split <;> simp

theorem dispatcher_closeDispatcher (he : e < t.dispatchers.length) (d : Nat) :
    (t.closeDispatcher d).1.dispatcher e =
      if e = d then (t.dispatcher d).closing else t.dispatcher e := by
  cases h : (t.dispatcher d).closed with
  | true =>
      rw [closeDispatcher_of_closed h, Dispatcher.closing, if_pos h]
      split
      · simp [*]
      · rfl
  | false =>
      have hflush : e < ((t.deregister d).flush d).2.dispatchers.length := by
        rw [length_of_shape (shape_flush _ d)]
        exact he
      have hopen : ¬ (t.dispatcher d).closed = true := by simp [h]
      rw [closeDispatcher_of_open h, Dispatcher.closing, if_neg hopen]
      split
      · simp only [dispatcher_shut hflush, dispatcher_flush, dispatcher_deregister, if_true]
        split <;> rfl
      · have hrefused : ∀ error,
            e < (((t.deregister d).flush d).2.refused d error).1.dispatchers.length := by
          intro error
          rw [length_of_shape (shape_refused _ d error)]
          exact hflush
        rw [dispatcher_shut (hrefused _)]
        by_cases hed : e = d
        · subst hed
          simp only [dispatcher_refused hflush, dispatcher_flush, dispatcher_deregister, if_true,
            Dispatcher.shut_heard]
        · simp only [dispatcher_refused hflush, dispatcher_flush, dispatcher_deregister, hed,
            if_false]

theorem worker_closeDispatcher (t : Transmitter) (d w : Nat) :
    (t.closeDispatcher d).1.worker w = (t.deregister d).worker w := by
  cases h : (t.dispatcher d).closed with
  | true => rw [closeDispatcher_of_closed h]
  | false =>
      rw [closeDispatcher_of_open h]
      split
      · rw [worker_shut, worker_flush]
      · rw [worker_shut, worker_refused]
        split
        · have hagain := deregister_deregister t d w
          rw [worker_deregister] at hagain ⊢
          simpa [members, dispatcher_flush] using hagain
        · rw [worker_flush]

theorem closeDispatcher_snd (t : Transmitter) (d : Nat) :
    (t.closeDispatcher d).2 =
      if (t.dispatcher d).closed then [] else (t.dispatcher d).reports := by
  cases h : (t.dispatcher d).closed with
  | true => simp [closeDispatcher_of_closed h]
  | false =>
      rw [closeDispatcher_of_open h, if_neg (by simp)]
      unfold Dispatcher.reports
      cases hr : (t.dispatcher d).refusal with
      | none => rfl
      | some error =>
          simp only [refused_snd, dispatcher_flush, if_true, Dispatcher.hook_flushed,
            dispatcher_deregister]
          cases (t.dispatcher d).hook <;> rfl

/-! ## §3  Dispatching and binding -/

@[simp] theorem shape_buffer (t : Transmitter) (d : Nat) (request : Request) :
    (t.buffer d request).shape = t.shape := by
  simp [shape, buffer]

theorem dispatcher_buffer (he : e < t.dispatchers.length) (d : Nat) (request : Request) :
    (t.buffer d request).dispatcher e =
      if e = d then (t.dispatcher d).buffered request else t.dispatcher e :=
  dispatcher_modify he d _

@[simp] theorem shape_wake (t : Transmitter) (w now : Nat) : (t.wake w now).shape = t.shape := by
  simp [shape, wake]

@[simp] theorem dispatcher_wake (t : Transmitter) (w now e : Nat) :
    (t.wake w now).dispatcher e = t.dispatcher e := rfl

@[simp] theorem members_wake (t : Transmitter) (v now w : Nat) :
    (t.wake v now).members w = t.members w := by
  unfold wake members worker
  rw [getD_modify]
  split
  · split <;> rfl
  · rfl

theorem dispatch_of_accepts (h : t.accepts d = true) (now : Nat) (request : Request) :
    t.dispatch now d request =
      (.ok (), (t.buffer d request).wake (t.dispatcher d).worker now) := by
  unfold dispatch
  rw [if_pos h]

theorem dispatch_of_not_accepts (h : t.accepts d = false) (now : Nat) (request : Request) :
    t.dispatch now d request = (.error .clientClosed, t) := by
  unfold dispatch
  simp [h]

theorem dispatchNow_of_not_accepts (h : t.accepts d = false) (request : Request) :
    t.dispatchNow d request = (.error .clientClosed, t, []) := by
  unfold dispatchNow
  simp [h]

theorem dispatchNow_of_accepts (h : t.accepts d = true) (request : Request) :
    t.dispatchNow d request =
      match ((t.buffer d request).dispatcher d).refusal with
      | none => (.ok (), ((t.buffer d request).flush d).2, [])
      | some error => (.error error, ((t.buffer d request).flush d).2.refused d error) := by
  have hfst := flush_fst (t.buffer d request) d
  unfold dispatchNow
  rw [if_pos h]
  generalize (t.buffer d request).flush d = step at hfst ⊢
  obtain ⟨result, t'⟩ := step
  cases hr : ((t.buffer d request).dispatcher d).refusal with
  | none =>
      obtain rfl : result = .ok () := by rw [hr] at hfst; exact hfst
      rfl
  | some error =>
      obtain rfl : result = .error error := by rw [hr] at hfst; exact hfst
      rfl

@[simp] theorem shape_dispatch (t : Transmitter) (now d : Nat) (request : Request) :
    (t.dispatch now d request).2.shape = t.shape := by
  cases h : t.accepts d with
  | false => rw [dispatch_of_not_accepts h]
  | true => simp [dispatch_of_accepts h]

@[simp] theorem shape_dispatchNow (t : Transmitter) (d : Nat) (request : Request) :
    (t.dispatchNow d request).2.1.shape = t.shape := by
  cases h : t.accepts d with
  | false => rw [dispatchNow_of_not_accepts h]
  | true =>
      rw [dispatchNow_of_accepts h]
      split <;> simp

/-- What a request does to the dispatcher that takes it at once. -/
theorem dispatcher_dispatchNow (he : e < t.dispatchers.length) (h : t.accepts d = true)
    (request : Request) :
    (t.dispatchNow d request).2.1.dispatcher e =
      if e = d then ((t.dispatcher d).buffered request).settled else t.dispatcher e := by
  have hlen : e < ((t.buffer d request).flush d).2.dispatchers.length := by
    rw [length_of_shape (shape_flush _ d), length_of_shape (shape_buffer t d request)]
    exact he
  rw [dispatchNow_of_accepts h]
  by_cases hed : e = d
  · subst hed
    rw [dispatcher_buffer he, if_pos rfl]
    unfold Dispatcher.settled
    cases hr : ((t.dispatcher e).buffered request).refusal with
    | none => simp [dispatcher_flush, dispatcher_buffer he]
    | some error => simp [dispatcher_refused hlen, dispatcher_flush, dispatcher_buffer he]
  · rw [if_neg hed]
    split
    · simp only [dispatcher_flush, dispatcher_buffer he, hed, if_false]
    · simp only [dispatcher_refused hlen, dispatcher_flush, dispatcher_buffer he, hed, if_false]

theorem dispatchNow_snd_snd (hd : d < t.dispatchers.length) (h : t.accepts d = true)
    (request : Request) :
    (t.dispatchNow d request).2.2 = ((t.dispatcher d).buffered request).reports := by
  rw [dispatchNow_of_accepts h, dispatcher_buffer hd, if_pos rfl]
  unfold Dispatcher.reports
  cases hr : ((t.dispatcher d).buffered request).refusal with
  | none => rfl
  | some error =>
      have hhook : ((t.dispatcher d).buffered request).hook = (t.dispatcher d).hook := rfl
      simp only [refused_snd, dispatcher_flush, dispatcher_buffer hd, if_true,
        Dispatcher.hook_flushed, hhook]
      cases (t.dispatcher d).hook <;> rfl

/-- The result of a request that is taken at once is that of the flush. -/
theorem dispatchNow_fst (hd : d < t.dispatchers.length) (h : t.accepts d = true)
    (request : Request) :
    (t.dispatchNow d request).1 =
      match ((t.dispatcher d).buffered request).refusal with
      | none => .ok ()
      | some error => .error error := by
  rw [dispatchNow_of_accepts h, dispatcher_buffer hd, if_pos rfl]
  cases ((t.dispatcher d).buffered request).refusal <;> rfl

theorem bind_of_closed (h : t.isOpen = false) : t.bind = (.error .clientClosed, t) := by
  simp [bind, h]

/-- A new dispatcher is bound to the next worker in turn, and nothing else changes. -/
theorem bind_of_open (h : t.isOpen = true) (hmanned : 0 < t.workers.length) :
    t.bind.1 = .ok t.dispatchers.length ∧ t.bind.2.isOpen = true ∧
      t.bind.2.dispatchers.length = t.dispatchers.length + 1 ∧
      t.bind.2.workers.length = t.workers.length ∧
      (∀ e, t.bind.2.dispatcher e =
        if e = t.dispatchers.length then
          { worker := t.dispatchers.length % t.workers.length }
        else t.dispatcher e) ∧
      ∀ w, t.bind.2.members w =
        if w = t.dispatchers.length % t.workers.length then t.members w ++ [t.dispatchers.length]
        else t.members w := by
  have hw := Nat.mod_lt t.dispatchers.length hmanned
  unfold bind
  rw [if_pos h]
  refine ⟨rfl, h, ?_, ?_, ?_, ?_⟩
  · exact List.length_append
  · exact List.length_modify ..
  · exact fun e => getD_append_one ..
  · intro w
    unfold members worker
    rw [getD_modify]
    by_cases hwd : w = t.dispatchers.length % t.workers.length
    · rw [if_pos ⟨hwd, hw⟩, if_pos hwd, hwd]
    · rw [if_neg (fun hc => hwd hc.1), if_neg hwd]

/-! ## §4  Flushing many -/

/-- The first half of a flush: the buffers are offered, and the refusals gathered. -/
def offer (s : Transmitter × List (Nat × Error)) (d : Nat) : Transmitter × List (Nat × Error) :=
  ((s.1.flush d).2, s.2 ++ ((s.1.dispatcher d).refusal.map (d, ·)).toList)

/-- The second half of a flush: the hooks hear of the refusals. -/
def tell (s : Transmitter × List Report) (failure : Nat × Error) : Transmitter × List Report :=
  ((s.1.refused failure.1 failure.2).1, s.2 ++ (s.1.refused failure.1 failure.2).2)

theorem flushAll_eq (t : Transmitter) (ds : List Nat) :
    t.flushAll ds =
      (ds.foldl offer (t, [])).2.foldl tell ((ds.foldl offer (t, [])).1, []) := by
  unfold flushAll
  refine congrArg (fun p : Transmitter × List (Nat × Error) => p.2.foldl tell (p.1, []))
    (List.foldl_ext _ offer (t, []) ?_)
  rintro ⟨u, failures⟩ d -
  have hfst := flush_fst u d
  unfold offer
  dsimp only
  generalize u.flush d = step at hfst ⊢
  obtain ⟨result, t'⟩ := step
  cases hr : (u.dispatcher d).refusal with
  | none =>
      obtain rfl : result = .ok () := by rw [hr] at hfst; exact hfst
      simp
  | some error =>
      obtain rfl : result = .error error := by rw [hr] at hfst; exact hfst
      simp

theorem foldl_offer (ds : List Nat) (s : Transmitter × List (Nat × Error)) :
    (ds.foldl offer s).1.shape = s.1.shape ∧
      (∀ w, (ds.foldl offer s).1.worker w = s.1.worker w) ∧
      ∀ e, (ds.foldl offer s).1.dispatcher e =
        if e ∈ ds then (s.1.dispatcher e).flushed else s.1.dispatcher e := by
  induction ds generalizing s with
  | nil => exact ⟨rfl, fun _ => rfl, fun _ => by simp⟩
  | cons d ds ih =>
      obtain ⟨hshape, hworker, hdispatcher⟩ := ih (offer s d)
      refine ⟨?_, ?_, ?_⟩
      · rw [List.foldl_cons, hshape]
        exact shape_flush s.1 d
      · intro w
        rw [List.foldl_cons, hworker]
        exact worker_flush s.1 d w
      · intro e
        have hstep : (offer s d).1.dispatcher e =
            if e = d then (s.1.dispatcher d).flushed else s.1.dispatcher e :=
          dispatcher_flush s.1 d e
        rw [List.foldl_cons, hdispatcher, hstep]
        by_cases hed : e = d
        · subst hed
          simp
        · simp [hed]

/-- Of different dispatchers each refusal is gathered once, in order. -/
theorem foldl_offer_snd {ds : List Nat} (hds : ds.Nodup) (s : Transmitter × List (Nat × Error)) :
    (ds.foldl offer s).2 =
      s.2 ++ ds.filterMap fun d => (s.1.dispatcher d).refusal.map (d, ·) := by
  induction ds generalizing s with
  | nil => simp
  | cons d ds ih =>
      rw [List.nodup_cons] at hds
      rw [List.foldl_cons, ih hds.2]
      have hrest : (ds.filterMap fun e => ((offer s d).1.dispatcher e).refusal.map (e, ·)) =
          ds.filterMap fun e => (s.1.dispatcher e).refusal.map (e, ·) := by
        refine List.filterMap_congr fun e he => ?_
        have hed : e ≠ d := fun h => hds.1 (h ▸ he)
        have hstep : (offer s d).1.dispatcher e = s.1.dispatcher e :=
          (dispatcher_flush s.1 d e).trans (if_neg hed)
        rw [hstep]
      rw [hrest, List.filterMap_cons]
      cases hr : (s.1.dispatcher d).refusal <;> simp [offer, hr]

theorem foldl_tell (fs : List (Nat × Error)) (s : Transmitter × List Report) :
    (fs.foldl tell s).1.shape = s.1.shape ∧
      (∀ w, (∀ f ∈ fs, (s.1.dispatcher f.1).worker ≠ w) →
        (fs.foldl tell s).1.worker w = s.1.worker w) ∧
      (∀ e < s.1.dispatchers.length, (fs.foldl tell s).1.dispatcher e =
        if e ∈ fs.map (·.1) then (s.1.dispatcher e).heard else s.1.dispatcher e) ∧
      (fs.foldl tell s).2 = s.2 ++ fs.flatMap fun f =>
        (s.1.dispatcher f.1).hook.toList.map fun hook =>
          { label := hook.label, error := f.2 } := by
  induction fs generalizing s with
  | nil => exact ⟨rfl, fun _ _ => rfl, fun _ _ => by simp, by simp⟩
  | cons f fs ih =>
      have hstep : ∀ e < s.1.dispatchers.length, (tell s f).1.dispatcher e =
          if e = f.1 then (s.1.dispatcher f.1).heard else s.1.dispatcher e :=
        fun e he => dispatcher_refused he f.1 f.2
      have hhook : ∀ e, ((tell s f).1.dispatcher e).hook = (s.1.dispatcher e).hook :=
        refused_congr Dispatcher.hook_heard s.1 f.1 f.2
      have hplace : ∀ e, ((tell s f).1.dispatcher e).worker = (s.1.dispatcher e).worker :=
        refused_congr Dispatcher.worker_heard s.1 f.1 f.2
      obtain ⟨hshape, hworker, hdispatcher, hreports⟩ := ih (tell s f)
      refine ⟨?_, ?_, ?_, ?_⟩
      · rw [List.foldl_cons, hshape]
        exact shape_refused s.1 f.1 f.2
      -- a refusal changes only the worker of the dispatcher that it is of
      · intro w hw
        have hother : (tell s f).1.worker w = s.1.worker w := by
          have hne : w ≠ (s.1.dispatcher f.1).worker := (hw f List.mem_cons_self).symm
          have h := worker_refused s.1 f.1 f.2 w
          rw [worker_deregister, if_neg hne] at h
          rw [← ite_self (c := (s.1.dispatcher f.1).closesOnRefusal = true) (s.1.worker w)]
          exact h
        rw [List.foldl_cons, hworker w ?_, hother]
        intro g hg
        rw [hplace]
        exact hw g (List.mem_cons_of_mem _ hg)
      · intro e he
        have he' : e < (tell s f).1.dispatchers.length := by
          have hlen := length_of_shape (shape_refused s.1 f.1 f.2)
          exact hlen ▸ he
        rw [List.foldl_cons, hdispatcher e he', hstep e he, List.map_cons]
        by_cases hed : e = f.1
        · subst hed
          simp
        · rw [if_neg hed]
          simp only [List.mem_cons, hed, false_or]
      · rw [List.foldl_cons, hreports, List.flatMap_cons, ← List.append_assoc]
        congr 1
        · show s.2 ++ (s.1.refused f.1 f.2).2 = _
          rw [refused_snd]
        · simp only [hhook]

theorem mem_failures {ds : List Nat} (hds : ds.Nodup) :
    d ∈ (ds.foldl offer (t, [])).2.map (·.1) ↔
      d ∈ ds ∧ (t.dispatcher d).refusal.isSome = true := by
  rw [foldl_offer_snd hds, List.nil_append]
  simp only [List.mem_map, List.mem_filterMap, Option.map_eq_some_iff]
  constructor
  · rintro ⟨f, ⟨e, he, error, herror, rfl⟩, rfl⟩
    exact ⟨he, by simp [herror]⟩
  · rintro ⟨hd, hsome⟩
    obtain ⟨error, herror⟩ := Option.isSome_iff_exists.mp hsome
    exact ⟨(d, error), ⟨d, hd, error, herror, rfl⟩, rfl⟩

/-- **Flushing many.** Each of different dispatchers is flushed as if it were alone, and every
refusal is heard once. -/
theorem flushAll_spec {ds : List Nat} (hds : ds.Nodup) (t : Transmitter) :
    (t.flushAll ds).1.shape = t.shape ∧
      (∀ w, (∀ d ∈ ds, (t.dispatcher d).worker ≠ w) → (t.flushAll ds).1.worker w = t.worker w) ∧
      (∀ e < t.dispatchers.length, (t.flushAll ds).1.dispatcher e =
        if e ∈ ds then (t.dispatcher e).settled else t.dispatcher e) ∧
      (t.flushAll ds).2 = ds.flatMap fun d => (t.dispatcher d).reports := by
  obtain ⟨hshape, hworker, hdispatcher⟩ := foldl_offer ds (t, [])
  obtain ⟨hshape', hworker', hdispatcher', hreports⟩ :=
    foldl_tell (ds.foldl offer (t, [])).2 ((ds.foldl offer (t, [])).1, [])
  rw [flushAll_eq]
  refine ⟨hshape'.trans hshape, ?_, ?_, ?_⟩
  · intro w hw
    rw [hworker' w ?_, hworker w]
    intro f hf
    have hmem : f.1 ∈ ds := ((mem_failures hds).mp (List.mem_map_of_mem hf)).1
    have hplace : ((ds.foldl offer (t, [])).1.dispatcher f.1).worker =
        (t.dispatcher f.1).worker := by
      rw [hdispatcher, if_pos hmem, Dispatcher.worker_flushed]
    show ((ds.foldl offer (t, [])).1.dispatcher f.1).worker ≠ w
    rw [hplace]
    exact hw f.1 hmem
  · intro e he
    have he' : e < (ds.foldl offer (t, [])).1.dispatchers.length := by
      rw [length_of_shape hshape]
      exact he
    rw [hdispatcher' e he', hdispatcher]
    simp only [mem_failures hds, Dispatcher.settled]
    by_cases he : e ∈ ds
    · simp [he]
    · simp [he]
  · -- Hooks do not change when buffers are offered, so each report is that of a flush alone.
    rw [hreports, List.nil_append, foldl_offer_snd hds, List.nil_append,
      List.filterMap_eq_flatMap_toList, List.flatMap_assoc]
    refine List.flatMap_congr fun d hd => ?_
    unfold Dispatcher.reports
    cases hr : (t.dispatcher d).refusal with
    | none => simp
    | some error =>
        simp only [Option.map_some, Option.toList_some, List.flatMap_singleton, hdispatcher,
          if_pos hd, Dispatcher.hook_flushed]
        cases (t.dispatcher d).hook <;> rfl

/-- Whether it is time for a worker to flush. -/
def isDue (t : Transmitter) (now w : Nat) : Bool := (t.worker w).due.any (· ≤ now)

theorem isDue_of_le (h : t.workers.length ≤ w) (now : Nat) : t.isDue now w = false := by
  rw [isDue, worker_of_le h]
  rfl

/-- When a worker that is due flushes again: after the large window, or not before it is woken if it
has no members. -/
def nextFlush (t : Transmitter) (now w : Nat) : Option Nat :=
  if (t.members w).isEmpty then none else some (now + t.largeWindow)

/-- What a worker that is due does before it flushes: it sets the time of its next flush. -/
theorem runWorker_of_due {now : Nat} (h : t.isDue now w = true) :
    t.runWorker now w =
      flushAll
        { t with workers := t.workers.set w { t.worker w with due := t.nextFlush now w } }
        (t.members w) := by
  have hw : w < t.workers.length := by
    by_contra hw
    simp [isDue_of_le (Nat.not_lt.mp hw)] at h
  have hget : t.workers[w]? = some (t.worker w) := by
    simp [worker, List.getD_eq_getElem?_getD, hw]
  rw [isDue] at h
  unfold runWorker nextFlush members
  rw [hget]
  simp only [h, if_true]
  cases (t.worker w).members <;> rfl

theorem runWorker_of_not_due {now : Nat} (h : t.isDue now w = false) :
    t.runWorker now w = (t, []) := by
  unfold runWorker
  split
  · rfl
  · rename_i worker hget
    have hworker : t.worker w = worker := by
      simp [Transmitter.worker, List.getD_eq_getElem?_getD, hget]
    rw [isDue, hworker] at h
    simp [h]

/-- **A worker.** When it is due it flushes its members, each as if it were alone, and no other
dispatcher. -/
theorem runWorker_spec (now : Nat) (hnodup : (t.members w).Nodup) :
    (t.runWorker now w).1.shape = t.shape ∧
      (∀ v, v ≠ w → (∀ d ∈ t.members w, (t.dispatcher d).worker = w) →
        (t.runWorker now w).1.worker v = t.worker v) ∧
      (∀ e < t.dispatchers.length, (t.runWorker now w).1.dispatcher e =
        if t.isDue now w ∧ e ∈ t.members w then (t.dispatcher e).settled else t.dispatcher e) ∧
      (t.runWorker now w).2 =
        if t.isDue now w then (t.members w).flatMap fun d => (t.dispatcher d).reports else [] := by
  cases hdue : t.isDue now w with
  | false =>
      rw [runWorker_of_not_due hdue]
      exact ⟨rfl, fun _ _ _ => rfl, fun _ _ => by simp, by simp⟩
  | true =>
      rw [runWorker_of_due hdue]
      obtain ⟨hshape, hworker, hdispatcher, hreports⟩ := flushAll_spec hnodup
        { t with workers := t.workers.set w { t.worker w with due := t.nextFlush now w } }
      refine ⟨?_, ?_, ?_, ?_⟩
      · rw [hshape]
        simp [shape]
      · intro v hv hmembers
        rw [hworker v ?_]
        · simp [worker, List.getD_eq_getElem?_getD, List.getElem?_set_ne (Ne.symm hv)]
        · intro d hd
          show (t.dispatcher d).worker ≠ v
          rw [hmembers d hd]
          exact Ne.symm hv
      · intro e he
        rw [hdispatcher e he]
        simp only [true_and]
        rfl
      · exact hreports

end Transmitter

end GraphDriver
