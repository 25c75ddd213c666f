import GraphDriver.Proofs.Stream.Heeding
import GraphDriver.Proofs.Stream.Pagination

/-!
# Iteration

Reading the parts of a streamed answer one after the other, whatever the server sends and whatever
closes the stream. A look answers the offers to go on that it meets, and gives what is behind them.
A closed stream answers no offer, so an offer that was not read before the closing hides what is
behind it, the cause of the closing included.

* §1 what a look finds
* §2 an iteration
* §3 what an iteration tells
* §4 on a closed stream
* §5 the cause of the closing
-/

namespace GraphDriver

/-! ## §1  What a look finds -/

/-- The data in a message. -/
def ServerMessage.data? : ServerMessage → Option PartPayload
  | .response _ => none
  | .responsePart ⟨_, .streamState _⟩ => none
  | .responsePart ⟨_, payload⟩ => some payload

/-- The data in messages, in order. -/
def dataIn (messages : List ServerMessage) : List PartPayload := messages.filterMap (·.data?)

theorem ServerMessage.data?_part {payload : PartPayload}
    (hdata : ∀ state, payload ≠ .streamState state) (id : RequestId) :
    (ServerMessage.responsePart ⟨id, payload⟩).data? = some payload := by
  cases payload with
  | streamState state => exact absurd rfl (hdata state)
  | query part => rfl
  | logic part => rfl

theorem dataIn_take_succ {messages : List ServerMessage} {m : ServerMessage} {n : Nat}
    (hm : messages[n]? = some m) :
    dataIn (messages.take (n + 1)) = dataIn (messages.take n) ++ m.data?.toList := by
  rw [List.take_add_one, hm, dataIn, List.filterMap_append]
  cases hdata : m.data? <;> simp [dataIn, hdata]

namespace Due

variable {due : Due} {n : Nat} {m : ServerMessage} {error : Error}

theorem messages_of_nth (h : due.nth n = .item (.ok m)) : due.messages[n]? = some m := by
  unfold nth at h
  split at h
  · rename_i m' hm
    obtain rfl : m' = m := by simpa using h
    exact hm
  · split at h <;> simp at h

/-- An error comes behind all messages. -/
theorem of_nth_error (h : due.nth n = .item (.error error)) :
    due.messages.length ≤ n ∧ due.verdict = some error := by
  unfold nth at h
  split at h
  · simp at h
  · rename_i hnone
    refine ⟨List.getElem?_eq_none_iff.mp hnone, ?_⟩
    split at h
    · rename_i error' hverdict
      obtain rfl : error' = error := by simpa using h
      exact hverdict
    · simp at h

theorem nth_ne_ended (due : Due) (n : Nat) : due.nth n ≠ .ended := by
  unfold nth
  split
  · simp
  · split <;> simp

end Due

namespace Transmitter

/-- Whether a dispatcher takes requests does not change when it takes one. -/
theorem accepts_dispatch (t : Transmitter) (now d e : Nat) (request : Request) :
    (t.dispatch now d request).2.accepts e = t.accepts e := by
  cases haccepts : t.accepts d with
  | false => rw [dispatch_of_not_accepts haccepts]
  | true =>
      have hclosed : ((t.buffer d request).dispatcher e).closed = (t.dispatcher e).closed := by
        by_cases he : e < t.dispatchers.length
        · rw [dispatcher_buffer he]
          split
          · rename_i heq
            rw [heq]
            rfl
          · rfl
        · have hle := Nat.not_lt.mp he
          rw [dispatcher_of_le hle, dispatcher_of_le]
          rwa [length_of_shape (shape_buffer _ _ _)]
      rw [dispatch_of_accepts haccepts]
      show ((t.buffer d request).isOpen && !((t.buffer d request).dispatcher e).closed) = _
      rw [hclosed, isOpen_of_shape (shape_buffer _ _ _)]
      rfl

end Transmitter

theorem PartReader.ext {p q : PartReader} (hcall : p.call = q.call)
    (hfinished : p.finished = q.finished) : p = q := by
  cases p
  cases q
  simp_all

/-- How a single response to a streamed request fails its reader. -/
def Response.failure (id : RequestId) (response : Response) : Error :=
  match response.result with
  | .error error => .ofServerError error
  | .ok _ => .protocol (.responseForStream id)

/-- What a look for a part finds at the deliveries of a call from the `n`th on, and how many are
read then, if the offers to go on are answered as granted. -/
inductive Finds (call : Call) (granted : Except Error Unit) (due : Due) :
    Nat → Poll (Except Error PartPayload) → Nat → Prop
  | waiting {n : Nat} (hnext : due.nth n = .waiting) : Finds call granted due n .waiting n
  | part {n : Nat} {id : RequestId} {payload : PartPayload}
      (hnext : due.nth n = .item (.ok (.responsePart ⟨id, payload⟩)))
      (hdata : ∀ state, payload ≠ .streamState state) :
      Finds call granted due n (.item (.ok payload)) (n + 1)
  | done {n : Nat} {id : RequestId}
      (hnext : due.nth n = .item (.ok (.responsePart ⟨id, .streamState .done⟩))) :
      Finds call granted due n .ended (n + 1)
  | answered {n : Nat} {response : Response}
      (hnext : due.nth n = .item (.ok (.response response))) :
      Finds call granted due n (.item (.error (response.failure call.id))) (n + 1)
  | failed {n : Nat} {error : Error} (hnext : due.nth n = .item (.error error)) :
      Finds call granted due n (.item (.error error)) (n + 1)
  | refused {n : Nat} {id : RequestId} {error : Error}
      (hnext : due.nth n = .item (.ok (.responsePart ⟨id, .streamState .continue⟩)))
      (hrefused : granted = .error error) :
      Finds call granted due n (.item (.error error)) (n + 1)
  | offered {n n' : Nat} {id : RequestId} {found : Poll (Except Error PartPayload)}
      (hnext : due.nth n = .item (.ok (.responsePart ⟨id, .streamState .continue⟩)))
      (hgranted : granted = .ok ()) (hrest : Finds call granted due (n + 1) found n') :
      Finds call granted due n found n'

/-- What a look finds that finishes the reader. -/
def isLast : Poll (Except Error PartPayload) → Bool
  | .waiting | .item (.ok _) => false
  | .ended | .item (.error _) => true

/-- The error in what a look finds. -/
def failed? : Poll (Except Error PartPayload) → Option Error
  | .item (.error error) => some error
  | _ => none

section

variable {call : Call} {granted : Except Error Unit} {due : Due} {n n' : Nat}
  {found : Poll (Except Error PartPayload)}

theorem failed?_of_not_last (hlast : isLast found = false) : failed? found = none := by
  unfold failed?
  split
  · simp [isLast] at hlast
  · rfl

/-- A look gives the data that it takes, or an error behind it. -/
theorem Finds.item (hfinds : Finds call granted due n found n') :
    (dataIn (due.messages.take n')).map .ok ++ (failed? found).toList.map .error =
      (dataIn (due.messages.take n)).map .ok ++ found.item?.toList := by
  induction hfinds with
  | waiting hnext => rfl
  | part hnext hdata =>
      rw [dataIn_take_succ (Due.messages_of_nth hnext), ServerMessage.data?_part hdata]
      simp [Poll.item?, failed?]
  | done hnext =>
      rw [dataIn_take_succ (Due.messages_of_nth hnext)]
      simp [ServerMessage.data?, Poll.item?, failed?]
  | answered hnext =>
      rw [dataIn_take_succ (Due.messages_of_nth hnext)]
      simp [ServerMessage.data?, Poll.item?, failed?]
  | failed hnext =>
      have hle := (Due.of_nth_error hnext).1
      rw [List.take_of_length_le hle, List.take_of_length_le (Nat.le_succ_of_le hle)]
      simp [Poll.item?, failed?]
  | refused hnext hrefused =>
      rw [dataIn_take_succ (Due.messages_of_nth hnext)]
      simp [ServerMessage.data?, Poll.item?, failed?]
  | offered hnext hgranted hrest ih =>
      refine ih.trans ?_
      rw [dataIn_take_succ (Due.messages_of_nth hnext)]
      simp [ServerMessage.data?]

/-- A part that is found was not read before. -/
theorem Finds.lt_of_part {payload : PartPayload}
    (hfinds : Finds call granted due n (.item (.ok payload)) n') :
    n < n' ∧ n' ≤ due.messages.length := by
  generalize hfound : Poll.item (Except.ok payload) = found at hfinds
  induction hfinds with
  | part hnext hdata =>
      exact ⟨Nat.lt_succ_self _, (List.getElem?_eq_some_iff.mp (Due.messages_of_nth hnext)).1⟩
  | offered hnext hgranted hrest ih => exact ⟨Nat.lt_of_succ_lt (ih hfound).1, (ih hfound).2⟩
  | _ => cases hfound

/-- As long as a call is in flight, only an offer that is not answered finishes its reader. -/
theorem Finds.of_open (hfinds : Finds call granted due n found n') (hverdict : due.verdict = none)
    (hparts : ∀ m ∈ due.messages, m.isTerminal = false) (hlast : isLast found = true) :
    ∃ error, granted = .error error ∧ failed? found = some error := by
  have hpart : ∀ {n m}, due.nth n = .item (.ok m) → m.isTerminal = false := fun hnext =>
    hparts _ (List.mem_of_getElem? (Due.messages_of_nth hnext))
  induction hfinds with
  | waiting hnext => simp [isLast] at hlast
  | part hnext hdata => simp [isLast] at hlast
  | done hnext => simpa [ServerMessage.isTerminal] using hpart hnext
  | answered hnext => simpa [ServerMessage.isTerminal] using hpart hnext
  | failed hnext =>
      have hfallen := (Due.of_nth_error hnext).2
      rw [hverdict] at hfallen
      cases hfallen
  | refused hnext hrefused => exact ⟨_, hrefused, rfl⟩
  | offered hnext hgranted hrest ih => exact ih hlast

end

namespace Hub

variable {h : Hub} {call : Call} {due : Due} {n : Nat} {p : PartReader}

/-- How a stream answers an offer to go on. -/
def grants (h : Hub) (s : Nat) : Except Error Unit :=
  if (h.stream s).isOpen then
    if h.transmitter.accepts (h.stream s).dispatcher then .ok () else .error .clientClosed
  else .error .transactionClosed

theorem askMore_fst (h : Hub) (now s : Nat) (id : RequestId) :
    (h.askMore now s id).1 = h.grants s := by
  unfold askMore grants
  dsimp only
  split
  · cases haccepts : h.transmitter.accepts (h.stream s).dispatcher with
    | false => simp [Transmitter.dispatch_of_not_accepts haccepts]
    | true => simp [Transmitter.dispatch_of_accepts haccepts]
  · rfl

theorem stream_askMore (h : Hub) (now s : Nat) (id : RequestId) (s' : Nat) :
    (h.askMore now s id).2.stream s' = h.stream s' := by
  unfold askMore
  dsimp only
  split <;> rfl

theorem length_askMore (h : Hub) (now s : Nat) (id : RequestId) :
    (h.askMore now s id).2.streams.length = h.streams.length := by
  unfold askMore
  dsimp only
  split <;> rfl

theorem grants_read (hs : call.stream < h.streams.length) :
    (h.read call).2.grants call.stream = h.grants call.stream := by
  rw [grants, stream_read hs]
  rfl

theorem grants_askMore (h : Hub) (now s : Nat) (id : RequestId) :
    (h.askMore now s id).2.grants s = h.grants s := by
  rw [grants, stream_askMore, grants]
  unfold askMore
  dsimp only
  split
  · rw [Transmitter.accepts_dispatch]
  · rfl

/-- A look stops at what is no offer to go on. -/
theorem finds_of_read {found : Poll Delivery} {h' : Hub} (now reads : Nat)
    (hread : h.read call = (found, h')) (hnext : due.nth n = found)
    (hoffer : ∀ id, found ≠ .item (.ok (.responsePart ⟨id, .streamState .continue⟩)))
    (granted : Except Error Unit) :
    ∃ outcome, nextPartWithin (reads + 1) h now ⟨call, false⟩ =
        (outcome, ⟨call, isLast outcome⟩, h') ∧
      Finds call granted due n outcome (n + found.item?.toList.length) := by
  cases found with
  | ended => exact absurd hnext (Due.nth_ne_ended due n)
  | waiting => exact ⟨.waiting, by simp [nextPartWithin, hread, isLast], .waiting hnext⟩
  | item delivery =>
      cases delivery with
      | error error =>
          exact ⟨.item (.error error), by simp [nextPartWithin, hread, isLast], .failed hnext⟩
      | ok message =>
          cases message with
          | response response =>
              refine ⟨.item (.error (response.failure call.id)), ?_, .answered hnext⟩
              simp only [nextPartWithin, hread, Response.failure]
              cases response.result <;> rfl
          | responsePart part =>
              obtain ⟨id, payload⟩ := part
              cases payload with
              | query part =>
                  exact ⟨.item (.ok (.query part)), by simp [nextPartWithin, hread, isLast],
                    .part hnext (by simp)⟩
              | logic part =>
                  exact ⟨.item (.ok (.logic part)), by simp [nextPartWithin, hread, isLast],
                    .part hnext (by simp)⟩
              | streamState state =>
                  cases state with
                  | «continue» => exact absurd rfl (hoffer id)
                  | done => exact ⟨.ended, by simp [nextPartWithin, hread, isLast], .done hnext⟩

/-- A look goes on behind an offer that is answered. -/
theorem nextPartWithin_offer {id : RequestId} {h' : Hub} (now reads : Nat)
    (hread : h.read call = (.item (.ok (.responsePart ⟨id, .streamState .continue⟩)), h')) :
    nextPartWithin (reads + 1) h now ⟨call, false⟩ =
      match h'.grants call.stream with
      | .error error =>
        (.item (.error error), ⟨call, true⟩, (h'.askMore now call.stream call.id).2)
      | .ok () =>
        nextPartWithin reads (h'.askMore now call.stream call.id).2 now ⟨call, false⟩ := by
  have hasked : h'.askMore now call.stream call.id =
      (h'.grants call.stream, (h'.askMore now call.stream call.id).2) :=
    Prod.ext (askMore_fst ..) rfl
  generalize (h'.askMore now call.stream call.id).2 = h'' at hasked ⊢
  cases hgranted : h'.grants call.stream with
  | error error => simp [nextPartWithin, hread, hasked, hgranted]
  | ok u => simp [nextPartWithin, hread, hasked, hgranted]

/-- **A look for a part** finds what is owed next behind the offers to go on. -/
theorem nextPartWithin_finds (now reads : Nat) (hs : call.stream < h.streams.length)
    (hf : Collector.Follows (h.stream call.stream).collector call.mailbox call.id due n)
    (hreads : due.messages.length - n < reads) :
    let out := nextPartWithin reads h now ⟨call, false⟩
    ∃ n', Finds call (h.grants call.stream) due n out.1 n' ∧ out.2.1 = ⟨call, isLast out.1⟩ ∧
      Collector.Follows (out.2.2.stream call.stream).collector call.mailbox call.id due n' := by
  induction reads generalizing h n with
  | zero => exact absurd hreads (Nat.not_lt_zero _)
  | succ reads ih =>
      intro out
      have hread : h.read call = (due.nth n, (h.read call).2) := Prod.ext hf.read_eq.1 rfl
      have hrest : Collector.Follows ((h.read call).2.stream call.stream).collector call.mailbox
          call.id due (n + (due.nth n).item?.toList.length) := by
        rw [stream_read hs, ← hf.read_eq.1]
        exact hf.read_eq.2
      have hs' : call.stream < (h.read call).2.streams.length := by
        rw [read_eq]
        simpa using hs
      have hgrants := grants_read (h := h) hs
      generalize (h.read call).2 = h' at hread hrest hs' hgrants
      by_cases hoffer : ∃ id, due.nth n = .item (.ok (.responsePart ⟨id, .streamState .continue⟩))
      · obtain ⟨id, hnext⟩ := hoffer
        rw [hnext] at hread hrest
        have hout : out = _ := nextPartWithin_offer now reads hread
        let h'' := (h'.askMore now call.stream call.id).2
        have hfollows : Collector.Follows (h''.stream call.stream).collector call.mailbox call.id
            due (n + 1) := by
          rw [stream_askMore]
          exact hrest
        cases hgranted : h.grants call.stream with
        | error error =>
            rw [hgrants, hgranted] at hout
            rw [hout]
            exact ⟨n + 1, .refused hnext rfl, rfl, hfollows⟩
        | ok u =>
            have hlt := (List.getElem?_eq_some_iff.mp (Due.messages_of_nth hnext)).1
            obtain ⟨n', hfinds, hparts, hfollows'⟩ := ih (h := h'') (n := n + 1)
              (by rwa [length_askMore]) hfollows (by omega)
            rw [grants_askMore, hgrants, hgranted] at hfinds
            rw [hgrants, hgranted] at hout
            rw [hout]
            exact ⟨n', .offered hnext rfl hfinds, hparts, hfollows'⟩
      · obtain ⟨outcome, hout, hfinds⟩ := finds_of_read now reads hread rfl
          (fun id hnext => hoffer ⟨id, hnext⟩) (h.grants call.stream)
        rw [show out = _ from hout]
        exact ⟨_, hfinds, rfl, hrest⟩

theorem nextPart_finds (now : Nat) (hs : call.stream < h.streams.length)
    (hf : Collector.Follows (h.stream call.stream).collector call.mailbox call.id due n) :
    let out := h.nextPart now ⟨call, false⟩
    ∃ n', Finds call (h.grants call.stream) due n out.1 n' ∧ out.2.1 = ⟨call, isLast out.1⟩ ∧
      Collector.Follows (out.2.2.stream call.stream).collector call.mailbox call.id due n' := by
  have hbacklog := length_le_backlog hf
  exact nextPartWithin_finds now _ hs hf (by dsimp only; omega)

/-- A look neither opens nor closes a stream. -/
theorem isOpen_nextPart (now : Nat) (p : PartReader) (wf : h.WellFormed)
    (hs : p.call.stream < h.streams.length) :
    let h' := (h.nextPart now p).2.2
    h'.WellFormed ∧ p.call.stream < h'.streams.length ∧
      (h'.stream p.call.stream).isOpen = (h.stream p.call.stream).isOpen := by
  refine (keeps_nextPart (P := fun u => u.WellFormed ∧ p.call.stream < u.streams.length ∧
    (u.stream p.call.stream).isOpen = (h.stream p.call.stream).isOpen) ?_ ?_ ⟨wf, hs, rfl⟩).1
  · rintro u ⟨wf, hs, hopen⟩
    refine ⟨wf.read _, ?_, ?_⟩
    · rw [read_eq]
      simpa using hs
    · rwa [stream_read hs]
  · rintro u ⟨wf, hs, hopen⟩
    refine ⟨wf.askMore .., ?_, ?_⟩
    · rwa [length_askMore]
    · rwa [stream_askMore]

theorem grants_of_open (hopen : (h.stream call.stream).isOpen = true) {error : Error}
    (hrefused : h.grants call.stream = .error error) : error = .clientClosed := by
  rw [grants, if_pos hopen] at hrefused
  split at hrefused
  · cases hrefused
  · exact (Except.error.inj hrefused).symm

end Hub

/-! ## §2  An iteration -/

/-- A hub and a reader of the parts of one of its calls. -/
structure Iteration where
  hub : Hub
  reader : PartReader

namespace Iteration

/-- A hub with a reader that has read nothing. -/
def start (h : Hub) (call : Call) : Iteration := ⟨h, { call }⟩

def look (now : Nat) (x : Iteration) : Poll (Except Error PartPayload) × Iteration :=
  let (found, reader, hub) := x.hub.nextPart now x.reader
  (found, { hub, reader })

def step (x : Iteration) : Turn → Iteration
  | .other op => { x with hub := x.hub.step op }
  | .look now => (x.look now).2

def run (x : Iteration) (turns : List Turn) : Iteration := turns.foldl step x

/-- What a look gives to the owner of the reader. -/
def telling (x : Iteration) : Turn → List (Except Error PartPayload)
  | .other _ => []
  | .look now => (x.look now).1.item?.toList

/-- What the owner of the reader got in a run. -/
def told (x : Iteration) (turns : List Turn) : List (Except Error PartPayload) :=
  Run.log step telling x turns

theorem run_snoc (x : Iteration) (turns : List Turn) (turn : Turn) :
    x.run (turns ++ [turn]) = (x.run turns).step turn := by
  simp [run]

theorem told_snoc (x : Iteration) (turns : List Turn) (turn : Turn) :
    x.told (turns ++ [turn]) = x.told turns ++ (x.run turns).telling turn :=
  Run.log_snoc x turns turn

theorem look_of_finished {x : Iteration} (hfinished : x.reader.finished = true) (now : Nat) :
    x.look now = (.ended, x) := by
  rw [look, Hub.nextPart_of_finished hfinished]

theorem rests_of_finished {x : Iteration} (hfinished : x.reader.finished = true) (now : Nat) :
    x.step (.look now) = x ∧ x.telling (.look now) = [] := by
  rw [step, telling, look_of_finished hfinished]
  exact ⟨rfl, rfl⟩

end Iteration

/-- The mailbox of a call is its reader's alone. -/
def IsOwn (call : Call) (turns : List Turn) : Prop :=
  ∀ other, .other (.read other) ∈ turns → other.stream = call.stream →
    other.mailbox ≠ call.mailbox

/-- Nothing in a run ends a call. -/
def IsInFlight (call : Call) (turns : List Turn) : Prop :=
  ∀ op, .other op ∈ turns → ¬ op.Ends call.stream call.id

section

variable {call : Call} {turns : List Turn} {turn : Turn} {op : Hub.Op}

theorem IsOwn.init (h : IsOwn call (turns ++ [turn])) : IsOwn call turns :=
  fun other hmem => h other (List.mem_append_left _ hmem)

theorem IsInFlight.init (h : IsInFlight call (turns ++ [turn])) : IsInFlight call turns :=
  fun op hmem => h op (List.mem_append_left _ hmem)

/-- What an operation brings to a call is what arrives for it. -/
theorem messages_brought (call : Call) (op : Hub.Op) :
    (Hub.brought call.stream call.id op).messages = arrived call [.other op] := by
  cases op with
  | receive s inbound =>
      cases inbound with
      | message m =>
          rw [Hub.brought]
          by_cases hs : s = call.stream
          · by_cases hid : m.requestId = call.id
            · have hone : arrived call [.other (.receive s (.message m))] = [m] := by
                simp [arrived, hs, hid]
              rw [if_pos hs, hone, Collector.owed, if_pos hid]
              split <;> rfl
            · simp [arrived, Collector.owed, hs, hid]
          · simp [arrived, hs]
      | _ => rfl
  | forget s id =>
      rw [Hub.brought]
      split
      · rw [Collector.owed]
        split <;> rfl
      · rfl
  | _ => rfl

end

/-! ## §3  What an iteration tells -/

namespace Iteration

variable {call : Call} {turns : List Turn} {told : List (Except Error PartPayload)} {due : Due}
  {n : Nat} {error : Option Error} {x : Iteration}

/-- How an iteration stands of which `n` deliveries were read: the owner got the data in them, and
perhaps an error behind it. -/
structure Sound (call : Call) (turns : List Turn) (told : List (Except Error PartPayload))
    (due : Due) (n : Nat) (error : Option Error) (x : Iteration) : Prop where
  wellFormed : x.hub.WellFormed
  lt : call.stream < x.hub.streams.length
  reader : x.reader.call = call
  follows : Collector.Follows (x.hub.stream call.stream).collector call.mailbox call.id due n
  came : due.messages <+: arrived call turns
  current : due.verdict = none → due.messages = arrived call turns
  told : told = (dataIn (due.messages.take n)).map .ok ++ error.toList.map .error
  reading : x.reader.finished = false → error = none
  inFlight : (x.hub.stream call.stream).isOpen = true → IsInFlight call turns →
    due.verdict = none ∧ (∀ m ∈ due.messages, m.requestId = call.id ∧ m.isTerminal = false) ∧
      (x.reader.finished = true → error = some .clientClosed)

theorem arrived_look (call : Call) (turns : List Turn) (now : Nat) :
    arrived call (turns ++ [.look now]) = arrived call turns := by
  rw [arrived_snoc]
  exact List.append_nil _

/-- A look in a sound iteration. -/
theorem Sound.look (hsound : Sound call turns told due n error x) (now : Nat) :
    ∃ n' error', Sound call (turns ++ [.look now]) (told ++ x.telling (.look now)) due n' error'
      (x.step (.look now)) := by
  obtain ⟨h, p⟩ := x
  obtain ⟨wf, hs, hcall, hf, hcame, hcurrent, htold, hreading, hinFlight⟩ := hsound
  rw [← arrived_look call turns now] at hcame hcurrent
  cases hfinished : p.finished with
  | true =>
      obtain ⟨hstep, htelling⟩ := rests_of_finished (x := ⟨h, p⟩) hfinished now
      rw [hstep, htelling, List.append_nil]
      exact ⟨n, error, wf, hs, hcall, hf, hcame, hcurrent, htold, hreading,
        fun hopen hends => hinFlight hopen hends.init⟩
  | false =>
      obtain rfl : p = ⟨call, false⟩ := PartReader.ext hcall hfinished
      obtain ⟨n', hfinds, hparts, hfollows⟩ := Hub.nextPart_finds now hs hf
      obtain ⟨wf', hs', hopen⟩ := Hub.isOpen_nextPart now ⟨call, false⟩ wf hs
      obtain rfl := hreading rfl
      refine ⟨n', failed? (h.nextPart now ⟨call, false⟩).1, wf', hs', ?_, hfollows, hcame,
        hcurrent, ?_, ?_, ?_⟩
      · exact congrArg PartReader.call hparts
      · rw [htold, Option.toList_none, List.map_nil, List.append_nil]
        exact hfinds.item.symm
      · intro hgoing
        have hlast : isLast (h.nextPart now ⟨call, false⟩).1 = false :=
          (congrArg PartReader.finished hparts).symm.trans hgoing
        exact failed?_of_not_last hlast
      · intro hopen' hends
        have hwas : (h.stream call.stream).isOpen = true := hopen.symm.trans hopen'
        obtain ⟨hverdict, hmessages, -⟩ := hinFlight hwas hends.init
        refine ⟨hverdict, hmessages, fun hover => ?_⟩
        have hlast : isLast (h.nextPart now ⟨call, false⟩).1 = true :=
          (congrArg PartReader.finished hparts).symm.trans hover
        obtain ⟨refusal, hrefused, hfailed⟩ :=
          hfinds.of_open hverdict (fun m hm => (hmessages m hm).2) hlast
        rw [hfailed, Hub.grants_of_open hwas hrefused]

/-- What was read stays as it was when more is owed. -/
theorem take_andThen {c : Collector} {k : Nat} {id : RequestId}
    (hf : Collector.Follows c k id due n) (more : Due) :
    (due.andThen more).messages.take n = due.messages.take n := by
  cases hverdict : due.verdict with
  | some error => rw [Due.andThen_of_verdict (by simp [hverdict])]
  | none =>
      obtain ⟨m, -, hholds⟩ := hf.box
      rw [Due.andThen_of_open hverdict]
      exact List.take_append_of_le_length (hholds.of_open hverdict).2.1

/-- As long as a call is in flight, it is owed what arrives. -/
theorem arrived_andThen (hcame : due.messages <+: arrived call turns)
    (hcurrent : due.verdict = none → due.messages = arrived call turns) (h : Hub) (op : Hub.Op) :
    let due' := due.andThen (h.adds call.stream call.id op)
    due'.messages <+: arrived call (turns ++ [.other op]) ∧
      (due'.verdict = none → due'.messages = arrived call (turns ++ [.other op])) := by
  rw [arrived_snoc]
  dsimp only
  cases hverdict : due.verdict with
  | some error =>
      rw [Due.andThen_of_verdict (by simp [hverdict]), hverdict]
      exact ⟨hcame.trans (List.prefix_append _ _), fun hgoing => by cases hgoing⟩
  | none =>
      rw [Due.andThen_of_open hverdict, hcurrent hverdict]
      cases hcause : h.cause call.stream op with
      | some error =>
          rw [Hub.adds_of_cause hcause]
          exact ⟨by simp, fun hgoing => by cases hgoing⟩
      | none =>
          rw [Hub.adds_of_no_cause hcause, messages_brought]
          exact ⟨List.prefix_rfl, fun _ => rfl⟩

/-- Another operation in a sound iteration. -/
theorem Sound.other {op : Hub.Op} (hsound : Sound call turns told due n error x)
    (hown : IsOwn call (turns ++ [.other op])) :
    Sound call (turns ++ [.other op]) told
      (due.andThen (x.hub.adds call.stream call.id op)) n error (x.step (.other op)) := by
  obtain ⟨wf, hs, hcall, hf, hcame, hcurrent, htold, hreading, hinFlight⟩ := hsound
  have hgiven : x.hub.given call.stream call.mailbox op = [] :=
    Hub.given_of_own fun other hop => hown other (by simp [hop])
  have hfollows := Hub.follows_step wf hs hf op
  rw [hgiven, List.length_nil, Nat.add_zero] at hfollows
  obtain ⟨hcame', hcurrent'⟩ := arrived_andThen hcame hcurrent x.hub op
  refine ⟨wf.step op, Nat.lt_of_lt_of_le hs (Hub.length_step_le _ op), hcall, hfollows, hcame',
    hcurrent', ?_, hreading, ?_⟩
  · rw [take_andThen hf]
    exact htold
  · intro hopen hends
    have hopen' : ((x.hub.step op).stream call.stream).isOpen = true := hopen
    rw [Hub.isOpen_step wf hs, Bool.and_eq_true, Option.isNone_iff_eq_none] at hopen'
    obtain ⟨hwas, hcause⟩ := hopen'
    obtain ⟨hverdict, hmessages, hover⟩ := hinFlight hwas hends.init
    obtain ⟨hnone, hbrought⟩ := Hub.brought_of_not_ends (hends op (by simp))
    rw [Due.andThen_of_open hverdict, Hub.adds_of_no_cause hcause]
    refine ⟨hnone, fun m hm => ?_, hover⟩
    rcases List.mem_append.mp hm with hm | hm
    · exact hmessages m hm
    · exact hbrought m hm

/-- **A run.** An iteration that starts with a call is sound. -/
theorem sound_run {h : Hub} (wf : h.WellFormed) (hs : call.stream < h.streams.length)
    (hf : Collector.Follows (h.stream call.stream).collector call.mailbox call.id {} 0)
    (hown : IsOwn call turns) :
    ∃ due n error, Sound call turns ((start h call).told turns) due n error
      ((start h call).run turns) := by
  induction turns using List.reverseRecOn with
  | nil =>
      refine ⟨{}, 0, none, wf, hs, rfl, hf, List.nil_prefix, fun _ => rfl, rfl, fun _ => rfl, ?_⟩
      exact fun _ _ => ⟨rfl, fun m hm => absurd hm List.not_mem_nil, fun hover => by cases hover⟩
  | append_singleton turns turn ih =>
      obtain ⟨due, n, error, hsound⟩ := ih hown.init
      rw [told_snoc, run_snoc]
      cases turn with
      | other op =>
          rw [telling, List.append_nil]
          exact ⟨_, n, error, hsound.other hown⟩
      | look now =>
          obtain ⟨n', error', hsound'⟩ := hsound.look now
          exact ⟨due, n', error', hsound'⟩

/-! ## §4  On a closed stream -/

/-- What the parts that were not read before a closing still give to a reader: the data up to an
offer to go on, which a closed stream does not answer, or all of them and then the cause. -/
def epilogue (cause : Error) : List PartPayload → List (Except Error PartPayload)
  | [] => [.error cause]
  | .streamState .continue :: _ => [.error .transactionClosed]
  | .streamState .done :: _ => []
  | payload :: rest => .ok payload :: epilogue cause rest

theorem epilogue_data {payload : PartPayload} (hdata : ∀ state, payload ≠ .streamState state)
    (cause : Error) (rest : List PartPayload) :
    epilogue cause (payload :: rest) = .ok payload :: epilogue cause rest := by
  cases payload with
  | streamState state => exact absurd rfl (hdata state)
  | query part => rfl
  | logic part => rfl

/-- How many looks there are among turns. -/
def looks (turns : List Turn) : Nat :=
  turns.countP fun
    | .look _ => true
    | .other _ => false

/-- An iteration on a closed stream that has an outcome before it: its reader is finished, or it has
parts and the cause of the closing to read. -/
structure Owes (call : Call) (x : Iteration) (outcome : List (Except Error PartPayload)) : Prop
    where
  wellFormed : x.hub.WellFormed
  lt : call.stream < x.hub.streams.length
  closed : (x.hub.stream call.stream).isOpen = false
  reader : x.reader.call = call
  rest : x.reader.finished = true ∧ outcome = [] ∨
    x.reader.finished = false ∧ ∃ (due : Due) (n : Nat) (cause : Error) (parts : List PartPayload),
      Collector.Follows (x.hub.stream call.stream).collector call.mailbox call.id due n ∧
        due.verdict = some cause ∧ due.messages.drop n = parts.map call.message ∧
        outcome = epilogue cause parts

/-- What a look finds on a closed stream is first in what is left. -/
theorem finds_epilogue {cause : Error} {parts : List PartPayload} {n' : Nat}
    {found : Poll (Except Error PartPayload)}
    (hfinds : Finds call (.error .transactionClosed) due n found n')
    (hverdict : due.verdict = some cause) (hparts : due.messages.drop n = parts.map call.message) :
    found = (epilogue cause parts).head?.elim .ended .item ∧
      (isLast found = true ∧ (epilogue cause parts).tail = [] ∨
        isLast found = false ∧ ∃ rest, due.messages.drop n' = rest.map call.message ∧
          (epilogue cause parts).tail = epilogue cause rest) := by
  cases parts with
  | nil =>
      have hle : due.messages.length ≤ n := List.drop_eq_nil_iff.mp hparts
      have hcause : due.nth n = .item (.error cause) := by
        rw [Due.nth, List.getElem?_eq_none hle, hverdict]
      cases hfinds with
      | failed hnext =>
          rw [hcause] at hnext
          cases hnext
          exact ⟨rfl, .inl ⟨rfl, rfl⟩⟩
      | waiting hnext => simp [hcause] at hnext
      | part hnext hdata => simp [hcause] at hnext
      | done hnext => simp [hcause] at hnext
      | answered hnext => simp [hcause] at hnext
      | refused hnext hrefused => simp [hcause] at hnext
      | offered hnext hgranted hrest => cases hgranted
  | cons payload rest =>
      have hmessage : due.messages[n]? = some (call.message payload) := by
        rw [← List.head?_drop, hparts]
        rfl
      have hrest : due.messages.drop (n + 1) = rest.map call.message := by
        rw [← List.tail_drop, hparts]
        rfl
      have hpart : due.nth n = .item (.ok (.responsePart ⟨call.id, payload⟩)) := by
        rw [Due.nth, hmessage]
        rfl
      cases hfinds with
      | part hnext hdata =>
          rw [hpart] at hnext
          cases hnext
          rw [epilogue_data hdata]
          exact ⟨rfl, .inr ⟨rfl, rest, hrest, rfl⟩⟩
      | done hnext =>
          rw [hpart] at hnext
          cases hnext
          exact ⟨rfl, .inl ⟨rfl, rfl⟩⟩
      | refused hnext hrefused =>
          rw [hpart] at hnext
          cases hnext
          cases hrefused
          exact ⟨rfl, .inl ⟨rfl, rfl⟩⟩
      | waiting hnext => simp [hpart] at hnext
      | answered hnext => simp [hpart] at hnext
      | failed hnext => simp [hpart] at hnext
      | offered hnext hgranted hrest => cases hgranted

variable {outcome : List (Except Error PartPayload)}

/-- A look on a closed stream gives the first of what is left. -/
theorem Owes.look (howes : Owes call x outcome) (now : Nat) :
    (x.look now).1 = outcome.head?.elim .ended .item ∧ Owes call (x.look now).2 outcome.tail := by
  obtain ⟨h, p⟩ := x
  obtain ⟨wf, hs, hclosed, hcall, hrest⟩ := howes
  rcases hrest with ⟨hfinished, rfl⟩ | ⟨hfinished, due, n, cause, parts, hf, hverdict, hparts, rfl⟩
  · rw [look_of_finished (x := ⟨h, p⟩) hfinished]
    exact ⟨rfl, wf, hs, hclosed, hcall, .inl ⟨hfinished, rfl⟩⟩
  · obtain rfl : p = ⟨call, false⟩ := PartReader.ext hcall hfinished
    obtain ⟨n', hfinds, hreader, hfollows⟩ := Hub.nextPart_finds now hs hf
    obtain ⟨wf', hs', hopen⟩ := Hub.isOpen_nextPart now ⟨call, false⟩ wf hs
    have hdenied : h.grants call.stream = .error .transactionClosed := by
      rw [Hub.grants, if_neg]
      simpa using hclosed
    rw [hdenied] at hfinds
    obtain ⟨hfound, hafter⟩ := finds_epilogue hfinds hverdict hparts
    refine ⟨hfound, wf', hs', hopen.trans hclosed, congrArg PartReader.call hreader, ?_⟩
    have hstate := congrArg PartReader.finished hreader
    rcases hafter with ⟨hlast, htail⟩ | ⟨hlast, rest, hdrop, htail⟩
    · exact .inl ⟨hstate.trans hlast, htail⟩
    · exact .inr ⟨hstate.trans hlast, due, n', cause, rest, hfollows, hverdict, hdrop, htail⟩

/-- Nothing that is done elsewhere changes what is left. -/
theorem Owes.other (howes : Owes call x outcome) {op : Hub.Op} (hown : IsOwn call [.other op]) :
    Owes call (x.step (.other op)) outcome := by
  obtain ⟨wf, hs, hclosed, hcall, hrest⟩ := howes
  have hstays : ((x.hub.step op).stream call.stream).isOpen = false := by
    rw [Hub.isOpen_step wf hs, hclosed, Bool.false_and]
  refine ⟨wf.step op, Nat.lt_of_lt_of_le hs (Hub.length_step_le _ op), hstays, hcall, ?_⟩
  rcases hrest with hover | ⟨hfinished, due, n, cause, parts, hf, hverdict, hparts, houtcome⟩
  · exact .inl hover
  · have hgiven : x.hub.given call.stream call.mailbox op = [] :=
      Hub.given_of_own fun other hop => hown other (by simp [hop])
    have hfollows := Hub.follows_step wf hs hf op
    rw [hgiven, List.length_nil, Nat.add_zero, Due.andThen_of_verdict (by simp [hverdict])]
      at hfollows
    exact .inr ⟨hfinished, due, n, cause, parts, hfollows, hverdict, hparts, houtcome⟩

/-- **On a closed stream** the looks give what is left, one after the other, whatever else is done.
-/
theorem Owes.run (howes : Owes call x outcome) (hown : IsOwn call turns) :
    x.told turns = outcome.take (looks turns) ∧
      Owes call (x.run turns) (outcome.drop (looks turns)) := by
  induction turns using List.reverseRecOn with
  | nil => exact ⟨rfl, howes⟩
  | append_singleton turns turn ih =>
      obtain ⟨htold, hrest⟩ := ih hown.init
      rw [told_snoc, run_snoc, looks, List.countP_append]
      cases turn with
      | other op =>
          rw [telling, List.append_nil]
          refine ⟨htold, hrest.other fun other hmem => hown other ?_⟩
          exact List.mem_append_right _ hmem
      | look now =>
          obtain ⟨hfound, hthen⟩ := hrest.look now
          have hone : (outcome.drop (looks turns)).head?.toList =
              (Poll.item? ((outcome.drop (looks turns)).head?.elim .ended .item)).toList := by
            cases (outcome.drop (looks turns)).head? <;> rfl
          refine ⟨?_, ?_⟩
          · rw [telling, hfound, htold, ← hone, List.head?_drop]
            exact List.take_add_one.symm
          · rw [List.tail_drop] at hthen
            exact hthen

/-! ## §5  The cause of the closing -/

theorem dataIn_append (xs ys : List ServerMessage) : dataIn (xs ++ ys) = dataIn xs ++ dataIn ys :=
  List.filterMap_append

theorem dataIn_data {payload : PartPayload} (hdata : ∀ state, payload ≠ .streamState state)
    (call : Call) (rest : List ServerMessage) :
    dataIn (call.message payload :: rest) = payload :: dataIn rest :=
  List.filterMap_cons_some (ServerMessage.data?_part hdata call.id)

theorem dataIn_offer (call : Call) (rest : List ServerMessage) :
    dataIn (call.message (.streamState .continue) :: rest) = dataIn rest := rfl

/-- Where nothing is complete, parts without data are offers to go on. -/
theorem dataIn_eq_nil_iff {parts : List PartPayload}
    (hgoing : ∀ part ∈ parts, part ≠ .streamState .done) :
    dataIn (parts.map call.message) = [] ↔ ∀ part ∈ parts, part = .streamState .continue := by
  rw [dataIn, List.filterMap_eq_nil_iff]
  refine ⟨fun hnone part hpart => ?_, fun hoffers m hm => ?_⟩
  · have hno := hnone _ (List.mem_map_of_mem hpart)
    cases part with
    | streamState state =>
        cases state with
        | «continue» => rfl
        | done => exact absurd rfl (hgoing _ hpart)
    | query part => cases hno
    | logic part => cases hno
  · obtain ⟨part, hpart, rfl⟩ := List.mem_map.mp hm
    rw [hoffers part hpart]
    rfl

theorem length_epilogue (cause : Error) (parts : List PartPayload) :
    (epilogue cause parts).length ≤ parts.length + 1 := by
  induction parts with
  | nil => exact Nat.le_refl _
  | cons payload rest ih =>
      cases payload with
      | streamState state => cases state <;> simp [epilogue]
      | query part => exact Nat.succ_le_succ ih
      | logic part => exact Nat.succ_le_succ ih

/-- A reader is told the rest of the data and the cause, unless an offer to go on hides data or the
cause from it. -/
theorem epilogue_eq_iff {cause : Error} {parts : List PartPayload}
    (hgoing : ∀ part ∈ parts, part ≠ .streamState .done) :
    epilogue cause parts = (dataIn (parts.map call.message)).map .ok ++ [.error cause] ↔
      ∀ pre post, parts = pre ++ .streamState .continue :: post →
        cause = .transactionClosed ∧ ∀ part ∈ post, part = .streamState .continue := by
  induction parts with
  | nil => exact ⟨fun _ pre post hsplit => by simp at hsplit, fun _ => rfl⟩
  | cons payload rest ih =>
      have hrest : ∀ part ∈ rest, part ≠ .streamState .done := fun part hpart =>
        hgoing part (List.mem_cons_of_mem _ hpart)
      have hdata : (∀ state, payload ≠ .streamState state) →
          (epilogue cause (payload :: rest) =
              (dataIn ((payload :: rest).map call.message)).map .ok ++ [.error cause] ↔
            ∀ pre post, payload :: rest = pre ++ .streamState .continue :: post →
              cause = .transactionClosed ∧ ∀ part ∈ post, part = .streamState .continue) := by
        intro hdata
        rw [epilogue_data hdata, List.map_cons, dataIn_data hdata, List.map_cons, List.cons_append,
          List.cons_inj_right, ih hrest]
        refine ⟨fun hoffers pre post hsplit => ?_, fun hoffers pre post hsplit => ?_⟩
        · cases pre with
          | nil => exact absurd (List.cons.inj hsplit).1 (hdata .continue)
          | cons first pre => exact hoffers pre post (List.cons.inj hsplit).2
        · exact hoffers (payload :: pre) post (congrArg (payload :: ·) hsplit)
      cases payload with
      | query part => exact hdata (by simp)
      | logic part => exact hdata (by simp)
      | streamState state =>
          cases state with
          | done => exact absurd rfl (hgoing _ List.mem_cons_self)
          | «continue» =>
              rw [epilogue, List.map_cons, dataIn_offer]
              constructor
              · intro htold
                have hlength := congrArg List.length htold
                rw [List.length_append, List.length_map] at hlength
                have hnone : dataIn (rest.map call.message) = [] :=
                  List.eq_nil_of_length_eq_zero (by simpa using hlength)
                rw [hnone] at htold
                have hcause : cause = .transactionClosed := by simpa using htold.symm
                have hall := (dataIn_eq_nil_iff hrest).mp hnone
                intro pre post hsplit
                refine ⟨hcause, fun part hpart => ?_⟩
                have hmem : part ∈ PartPayload.streamState .continue :: rest := by
                  rw [hsplit]
                  exact List.mem_append_right _ (List.mem_cons_of_mem _ hpart)
                rcases List.mem_cons.mp hmem with rfl | hmem
                · rfl
                · exact hall part hmem
              · intro hoffers
                obtain ⟨rfl, hall⟩ := hoffers [] rest rfl
                rw [(dataIn_eq_nil_iff hrest).mpr hall]
                rfl

/-- An operation that closes a stream leaves to the reader of a call in flight what it has not read,
and the cause. -/
theorem Sound.closed {op : Hub.Op} {c : Option Error} {unread : List PartPayload}
    (hsound : Sound call turns told due n error x)
    (hverdict : due.verdict = none) (hcause : x.hub.cause call.stream op = some c)
    (hunread : due.messages.drop n = unread.map call.message) :
    Owes call (x.step (.other op))
      (if x.reader.finished then [] else epilogue (c.getD .transactionClosed) unread) := by
  obtain ⟨wf, hs, hcall, hf, -, -, -, -, -⟩ := hsound
  have hclosed : ((x.hub.step op).stream call.stream).isOpen = false := by
    rw [Hub.isOpen_step wf hs, hcause]
    simp
  have hgiven : x.hub.given call.stream call.mailbox op = [] := by
    cases op with
    | read other => simp [Hub.cause] at hcause
    | _ => rfl
  have hfollows := Hub.follows_step wf hs hf op
  rw [Hub.adds_of_cause hcause, hgiven, Due.andThen_of_open hverdict, List.append_nil]
    at hfollows
  refine ⟨wf.step op, Nat.lt_of_lt_of_le hs (Hub.length_step_le _ op), hclosed, hcall, ?_⟩
  cases hfinished : x.reader.finished with
  | true => exact .inl ⟨hfinished, rfl⟩
  | false => exact .inr ⟨hfinished, _, _, _, _, hfollows, rfl, hunread, rfl⟩

/-- The parts of a call in flight on an open stream: the owner got the data in those that were read.
-/
theorem Sound.parts (hsound : Sound call turns told due n error x)
    (hopen : (x.hub.stream call.stream).isOpen = true) (hflight : IsInFlight call turns) :
    due.verdict = none ∧ ∃ read unread : List PartPayload,
      arrived call turns = (read ++ unread).map call.message ∧
        x.hub.unread call = unread.map (fun part => .ok (call.message part)) ∧
        due.messages.drop n = unread.map call.message ∧
        (∀ part ∈ unread, part ≠ .streamState .done) ∧
        (x.reader.finished = false → told = (dataIn (read.map call.message)).map .ok) ∧
        (x.reader.finished = true →
          told = (dataIn (read.map call.message)).map .ok ++ [.error .clientClosed]) := by
  obtain ⟨hverdict, hmessages, hrefused⟩ := hsound.inFlight hopen hflight
  have hbefore : ∀ m ∈ due.messages.take n, m.requestId = call.id ∧ m.isTerminal = false :=
    fun m hm => hmessages m (List.mem_of_mem_take hm)
  have hbehind : ∀ m ∈ due.messages.drop n, m.requestId = call.id ∧ m.isTerminal = false :=
    fun m hm => hmessages m (List.mem_of_mem_drop hm)
  obtain ⟨read, -, htaken⟩ := Hub.exists_parts hbefore
  obtain ⟨unread, hgoing, hleft⟩ := Hub.exists_parts hbehind
  have htold := hsound.told
  rw [htaken] at htold
  refine ⟨hverdict, read, unread, ?_, ?_, hleft, hgoing, fun hgone => ?_, fun hgone => ?_⟩
  · rw [← hsound.current hverdict, ← List.take_append_drop n due.messages, htaken, hleft,
      List.map_append]
    rfl
  · obtain ⟨m, hm, hholds⟩ := hsound.follows.box
    rw [Hub.unread, List.getD_eq_getElem?_getD, hm]
    exact (hholds.of_open hverdict).2.2.trans (by rw [hleft, List.map_map]; rfl)
  · rw [hsound.reading hgone] at htold
    exact htold.trans (List.append_nil _)
  · rw [hrefused hgone] at htold
    exact htold

/-- All the data is told and then the cause, unless an offer to go on hides data or the cause. -/
theorem told_epilogue_iff {cause : Error} {read unread : List PartPayload}
    (harrived : arrived call turns = (read ++ unread).map call.message)
    (hgoing : ∀ part ∈ unread, part ≠ .streamState .done)
    (htold : told = (dataIn (read.map call.message)).map .ok) :
    told ++ epilogue cause unread = (dataIn (arrived call turns)).map .ok ++ [.error cause] ↔
      ∀ pre post, unread = pre ++ .streamState .continue :: post →
        cause = .transactionClosed ∧ ∀ part ∈ post, part = .streamState .continue := by
  rw [htold, harrived, List.map_append, dataIn_append, List.map_append, List.append_assoc,
    List.append_cancel_left_eq]
  exact epilogue_eq_iff hgoing

/-- **The cause of a closing is told, unless an offer hides it.** A streamed call is begun in any
reachable hub, and its parts are read among any other operations. When its stream is closed before
its last message has come, the owner has got the data in the parts that were read, and gets from the
unread ones, look by look, the data up to the first offer to go on, and then the error of the closed
stream; only where no offer is among them, all the data and then the cause of the closing; and after
that the end, for ever. So read to the end the iteration tells all the data that came and then the
cause if and only if no offer to go on was unread, or none that had data behind it, and the cause is
the error of the closed stream itself. A reader that is finished by then was refused before, by a
client that was closed under an open stream. -/
theorem cause_is_told_iff (config : TransmitterConfig) (before : List Hub.Op) (now s : Nat)
    (payload : RequestPayload) (call : Call) (h : Hub)
    (hs : s < ((Hub.new config).run before).streams.length)
    (hsend : ((Hub.new config).run before).send now s payload true = (.ok call, h))
    (turns : List Turn) (hown : IsOwn call turns) (hflight : IsInFlight call turns)
    (hopen : (((start h call).run turns).hub.stream s).isOpen = true) (op : Hub.Op)
    (c : Option Error) (hcause : ((start h call).run turns).hub.cause s op = some c) :
    let x := (start h call).run turns
    let y := x.step (.other op)
    let told := (start h call).told turns
    let cause := c.getD .transactionClosed
    ∃ read unread : List PartPayload,
      arrived call turns = (read ++ unread).map call.message ∧
        x.hub.unread call = unread.map (fun part => .ok (call.message part)) ∧
        (x.reader.finished = false →
          told = (dataIn (read.map call.message)).map .ok ∧
            ∀ later, IsOwn call later →
              y.told later = (epilogue cause unread).take (looks later) ∧
                (∀ now, ((y.run later).look now).1 =
                  (epilogue cause unread)[looks later]?.elim .ended .item) ∧
                (unread.length < looks later →
                  (told ++ y.told later =
                      (dataIn (arrived call turns)).map .ok ++ [.error cause] ↔
                    ∀ pre post, unread = pre ++ .streamState .continue :: post →
                      cause = .transactionClosed ∧
                        ∀ part ∈ post, part = .streamState .continue))) ∧
        (x.reader.finished = true →
          told = (dataIn (read.map call.message)).map .ok ++ [.error .clientClosed] ∧
            ∀ later, IsOwn call later →
              y.told later = [] ∧ ∀ now, ((y.run later).look now).1 = .ended) := by
  intro x y told cause
  have wf := (Hub.wellFormed_new config).run before
  obtain ⟨rfl, hf⟩ := Hub.begun_of_send hs hsend
  obtain ⟨wfh, hsh⟩ := wf.of_send hs hsend
  obtain ⟨due, n, error, hsound⟩ := sound_run wfh hsh hf hown
  obtain ⟨hverdict, read, unread, harrived, hunread, hleft, hgoing, hreading, hrefused⟩ :=
    hsound.parts hopen hflight
  have howes := hsound.closed hverdict hcause hleft
  refine ⟨read, unread, harrived, hunread, fun hgone => ?_, fun hgone => ?_⟩
  · rw [hgone, if_neg Bool.false_ne_true] at howes
    refine ⟨hreading hgone, fun later hlater => ?_⟩
    obtain ⟨htells, hends⟩ := howes.run hlater
    refine ⟨htells, fun now => ?_, fun hlong => ?_⟩
    · rw [(hends.look now).1, List.head?_drop]
    · have hall : y.told later = epilogue cause unread :=
        htells.trans (List.take_of_length_le (Nat.le_trans (length_epilogue _ _) hlong))
      rw [hall]
      exact told_epilogue_iff harrived hgoing (hreading hgone)
  · rw [hgone, if_pos rfl] at howes
    refine ⟨hrefused hgone, fun later hlater => ?_⟩
    obtain ⟨htells, hends⟩ := howes.run hlater
    exact ⟨htells.trans List.take_nil, fun now => by rw [(hends.look now).1, List.drop_nil]; rfl⟩

/-- A connection that fails behind two parts, one of which was read. -/
theorem cause_is_told_iff_failed :
    let rule (label : String) : Rule := ⟨label, "", ""⟩
    let part (label : String) : PartPayload := .logic (.rules [rule label])
    let config : TransmitterConfig := {}
    let before : List Hub.Op := [.reserve, .attach 0 "server"]
    let call : Call := ⟨0, 0, ⟨1⟩⟩
    let h := (((Hub.new config).run before).send 0 0 (.logic .getRules) true).2
    let brings (payload : PartPayload) : Turn :=
      .other (.receive 0 (.message (call.message payload)))
    let turns : List Turn := [brings (part "a"), .look 0, brings (part "b")]
    let x := (start h call).run turns
    let y := x.step (.other (.receive 0 (.failed (.io "connection reset"))))
    let later : List Turn := [.look 1, .look 2]
    (x.hub.stream 0).isOpen = true ∧ x.reader.finished = false ∧
      (start h call).told turns ++ y.told later =
        [.ok (part "a"), .ok (part "b"), .error (.io "connection reset")] ∧
      ((y.run later).look 3).1 = .ended := by
  intro rule part config before call h brings turns x y later
  have hown : ∀ turns : List Turn, (∀ other, Turn.other (.read other) ∉ turns) →
      IsOwn call turns := fun turns hnone other hmem => absurd hmem (hnone other)
  have hflight : IsInFlight call turns := by
    intro op hmem hend
    simp only [turns, brings, List.mem_cons, List.not_mem_nil, or_false, reduceCtorEq, false_or,
      Turn.other.injEq] at hmem
    cases hend with
    | answered m hid hterminal =>
        rcases hmem with hmem | hmem
        · cases hmem
          exact absurd hterminal (by decide +kernel)
        · cases hmem
          exact absurd hterminal (by decide +kernel)
    | dropped => rcases hmem with hmem | hmem <;> cases hmem
  have hsend : ((Hub.new config).run before).send 0 0 (.logic .getRules) true = (.ok call, h) :=
    Prod.ext (by decide +kernel) rfl
  have hopen : (x.hub.stream 0).isOpen = true := by decide +kernel
  have hreading : x.reader.finished = false := by decide +kernel
  obtain ⟨read, unread, -, hunread, htells, -⟩ := cause_is_told_iff config before 0 0
    (.logic .getRules) call h (by decide +kernel) hsend turns (hown _ (by simp [turns, brings]))
    hflight hopen (.receive 0 (.failed (.io "connection reset"))) (some (.io "connection reset"))
    (by decide +kernel)
  obtain ⟨-, hlater⟩ := htells hreading
  obtain ⟨-, hend, hiff⟩ := hlater later (hown _ (by simp [later]))
  have hone : unread.map (fun part => (.ok (call.message part) : Delivery)) =
      [.ok (call.message (part "b"))] := hunread.symm.trans (by decide +kernel)
  obtain ⟨b, rfl, hb⟩ := List.map_eq_singleton_iff.mp hone
  obtain rfl : b = part "b" := by simpa [Call.message] using hb
  refine ⟨hopen, hreading, (hiff (by decide)).mpr ?_, (hend 3).trans (by decide +kernel)⟩
  intro pre post hsplit
  have hmem : PartPayload.streamState .continue ∈ [part "b"] := by
    rw [hsplit]
    simp
  simp [part] at hmem

/-- An offer to go on that is unread when the connection fails hides the part behind it, and the
cause. -/
theorem offer_hides_cause :
    let rule (label : String) : Rule := ⟨label, "", ""⟩
    let part (label : String) : PartPayload := .logic (.rules [rule label])
    let call : Call := ⟨0, 0, ⟨1⟩⟩
    let h := (((Hub.new {}).run [.reserve, .attach 0 "server"]).send 0 0 (.logic .getRules) true).2
    let brings (payload : PartPayload) : Turn :=
      .other (.receive 0 (.message (call.message payload)))
    let turns : List Turn :=
      [brings (part "a"), brings (.streamState .continue), brings (part "b")]
    let x := (start h call).run turns
    let y := x.step (.other (.receive 0 (.failed (.io "connection reset"))))
    let later : List Turn := [.look 1, .look 2, .look 3, .look 4]
    (x.hub.stream 0).isOpen = true ∧ (y.hub.stream 0).isOpen = false ∧
      x.hub.unread call = [part "a", .streamState .continue, part "b"].map
        (fun part => .ok (call.message part)) ∧
      y.told later = [.ok (part "a"), .error .transactionClosed] ∧
      y.told later ≠ [.ok (part "a"), .ok (part "b"), .error (.io "connection reset")] := by
  decide +kernel

end Iteration

end GraphDriver
