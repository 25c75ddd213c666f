import GraphDriver.Client.Transaction
import GraphDriver.Proofs.Client.Runs
import GraphDriver.Proofs.Stream.Ordering

/-!
# Talks

What a transaction says on its stream: it opens, its owner asks questions, and the readers of
streamed answers ask to go on. Questions are numbered as they are asked, most of them wait for the
next batch, and a request to go on bears an old number; still the requests leave in the order in
which they were said.

* §1 requests
* §2 what is said is in order
* §3 what has been said
* §4 transactions and their readers
* §5 one turn
* §6 an opening
* §7 the wire
* §8 the operations of a transaction
-/

namespace GraphDriver

/-! ## §1  Requests -/

namespace RequestPayload

/-- With what a request that is answered in parts is answered. -/
def kind? : RequestPayload → Option AnswerKind
  | .query (.match _) _ => some .match
  | .query (.insert _) _ => some .insert
  | .query (.update _) _ => some .update
  | .query (.matchGroup _) _ => some .matchGroup
  | .query (.matchGroupAggregate _) _ => some .matchGroupAggregate
  | .logic .getRules => some .rules
  | _ => none

/-- Whether a request waits for the next batch. -/
def isBatched : RequestPayload → Bool
  | .open .. | .commit | .rollback => false
  | _ => true

/-- Whether a request opens a transaction. -/
def isOpening : RequestPayload → Bool
  | .open .. => true
  | _ => false

/-- Whether a request is a question of the owner of a transaction: neither the opening of the
transaction nor the request to go on with an answer. -/
def isQuestion : RequestPayload → Bool
  | .open .. | .streamContinue => false
  | _ => true

/-- The call of a request, if it is answered in parts. -/
def reading (payload : RequestPayload) (call : Call) : List Call :=
  if payload.kind?.isSome then [call] else []

end RequestPayload

/-- Whether a request came with a number of its own. -/
def Request.isNumbered (r : Request) : Bool := r.payload ≠ .streamContinue

/-- A request is answered in parts. -/
def Request.IsStreamed (r : Request) : Prop := r.payload.kind?.isSome = true

/-- Of two requests with numbers of their own the later one has the higher number. -/
def Request.Precedes (r r' : Request) : Prop :=
  r.isNumbered = true → r'.isNumbered = true → r.id.value < r'.id.value

/-! ## §2  What is said is in order -/

/-- Every request to go on is one with the answer to an earlier request. -/
def Grounded (said : List Request) : Prop :=
  ∀ front id back, said = front ++ id.further :: back →
    ∃ r ∈ front, r.id = id ∧ r.IsStreamed

/-- Requests that were numbered from one to `n`, in order, at most one of them an opening. -/
structure Orderly (said : List Request) (n : Nat) : Prop where
  within : ∀ r ∈ said, r.id.value.toNat ≤ n
  rising : said.Pairwise Request.Precedes
  grounded : Grounded said
  opened : said.countP (·.payload.isOpening) ≤ 1

variable {said : List Request} {n : Nat}

theorem Grounded.concat (h : Grounded said) {r : Request}
    (hr : ∀ id, r = id.further → ∃ earlier ∈ said, earlier.id = id ∧ earlier.IsStreamed) :
    Grounded (said ++ [r]) := by
  intro front id back hsplit
  rcases List.eq_nil_or_concat back with rfl | ⟨back, last, rfl⟩
  · obtain ⟨rfl, hlast⟩ := List.append_inj' hsplit rfl
    exact hr id (List.singleton_inj.mp hlast)
  · rw [List.concat_eq_append, ← List.cons_append, ← List.append_assoc] at hsplit
    exact h front id back (List.append_inj' hsplit rfl).1

/-- A request to go on goes behind the request that it is about. -/
theorem Orderly.further (h : Orderly said n) {id : RequestId}
    (hid : ∃ r ∈ said, r.id = id ∧ r.IsStreamed) : Orderly (said ++ [id.further]) n := by
  refine ⟨fun r hr => ?_, ?_, h.grounded.concat ?_, ?_⟩
  · rcases List.mem_append.mp hr with hr | hr
    · exact h.within r hr
    · obtain ⟨earlier, hmem, hsame, -⟩ := hid
      rw [List.mem_singleton.mp hr, show id.further.id = id from rfl, ← hsame]
      exact h.within earlier hmem
  · rw [List.pairwise_append]
    refine ⟨h.rising, List.pairwise_singleton .., fun r _ r' hr' _ hnumbered => ?_⟩
    rw [List.mem_singleton.mp hr'] at hnumbered
    simp [Request.isNumbered, RequestId.further] at hnumbered
  · intro other hother
    obtain rfl : id = other := congrArg Request.id hother
    exact hid
  · rw [List.countP_append]
    exact h.opened

/-- A question gets the next number. -/
theorem Orderly.question (h : Orderly said n) (hn : n + 1 < 2 ^ 32) {payload : RequestPayload}
    (hquestion : payload.isQuestion = true) :
    Orderly (said ++ [⟨.after n, payload⟩]) (n + 1) := by
  have hafter := RequestId.toNat_after hn
  refine ⟨fun r hr => ?_, ?_, h.grounded.concat ?_, ?_⟩
  · rcases List.mem_append.mp hr with hr | hr
    · exact Nat.le_succ_of_le (h.within r hr)
    · rw [List.mem_singleton.mp hr]
      exact Nat.le_of_eq hafter
  · rw [List.pairwise_append]
    refine ⟨h.rising, List.pairwise_singleton .., fun r hr r' hr' _ _ => ?_⟩
    have hle := h.within r hr
    rw [List.mem_singleton.mp hr', UInt32.lt_iff_toNat_lt, hafter]
    omega
  · rintro other heq
    obtain rfl : payload = .streamContinue := congrArg Request.payload heq
    simp [RequestPayload.isQuestion] at hquestion
  · have hnone : payload.isOpening = false := by
      cases payload <;> simp [RequestPayload.isQuestion, RequestPayload.isOpening] at hquestion ⊢
    rw [List.countP_append]
    simpa [hnone] using h.opened

/-! ## §3  What has been said -/

/-- A transaction that has said something: what it has said is in order, and each request to go on
is answered by an offer that the reader of an earlier request has taken. -/
structure Spoken (h : Hub) (s : Nat) (calls : List Call) (said : List Request)
    (routed : List ServerMessage) (n : Nat) : Prop where
  wellFormed : h.WellFormed
  lt : s < h.streams.length
  numbered : Hub.Numbered (h.stream s) n
  orderly : Orderly said n
  own : ∀ call ∈ calls, call.stream = s ∧ ∃ r ∈ said, r.id = call.id ∧ r.IsStreamed
  apart : (calls.map (·.id)).Nodup
  read : ∀ id, id.further ∈ said → ∃ call ∈ calls, call.id = id
  counted : ∀ call ∈ calls,
    h.Counted call (said.count call.id.further) (routed.count call.id.offer)

namespace Spoken

open Hub (Counted)

variable {h h' : Hub} {s : Nat} {calls : List Call} {asked : List Request}
  {routed : List ServerMessage} {call : Call} {id : RequestId} {now : Nat}

/-- Whatever is done at the hub, a transaction goes on with what it has said. -/
theorem step {n' : Nat} (hx : Spoken h s calls said routed n) (op : Hub.Op) (hle : n ≤ n')
    (hnumbered : Hub.Numbered ((h.step op).stream s) n') :
    Spoken (h.step op) s calls said (routed ++ h.routing s op) n' := by
  refine {
    wellFormed := hx.wellFormed.step op
    lt := Nat.lt_of_lt_of_le hx.lt (Hub.length_step_le h op)
    numbered := hnumbered
    orderly := { hx.orderly with within := fun r hr => Nat.le_trans (hx.orderly.within r hr) hle }
    own := hx.own
    apart := hx.apart
    read := hx.read
    counted := fun call hcall => ?_ }
  obtain ⟨rfl, -⟩ := hx.own call hcall
  rw [List.count_append]
  exact (hx.counted call hcall).step hx.wellFormed hx.lt op

theorem quiet (hx : Spoken h s calls said routed n) (op : Hub.Op)
    (hquiet : Hub.assigns s h op = []) :
    Spoken (h.step op) s calls said (routed ++ h.routing s op) n :=
  hx.step op (Nat.le_refl n) (hx.numbered.step_of_quiet hx.wellFormed hx.lt hquiet)

theorem reading (hx : Spoken h s calls said routed n) (hcall : call ∈ calls) :
    Spoken (h.read call).2 s calls said routed n := by
  obtain ⟨rfl, -⟩ := hx.own call hcall
  have hread := hx.quiet (.read call) (by simp [Hub.assigns, Hub.numbers])
  rwa [Hub.step_read hx.lt, show h.routing call.stream (.read call) = [] from rfl,
    List.append_nil] at hread

theorem asking (hx : Spoken h s calls said routed n) (hcall : call ∈ calls) :
    Spoken (h.askMore now call.stream call.id).2 s calls said routed n := by
  obtain ⟨rfl, -⟩ := hx.own call hcall
  have hasked := hx.quiet (.askMore now call.stream call.id)
    (by simp [Hub.assigns, Hub.numbers])
  rwa [Hub.step_askMore hx.lt, show h.routing call.stream (.askMore now call.stream call.id) = []
    from rfl, List.append_nil] at hasked

/-- A reader that takes an offer may ask to go on. -/
theorem offer (hx : Spoken h s calls said routed n) (hcall : call ∈ calls)
    (hfound : (h.read call).1 = .item (.ok id.offer)) :
    Spoken (h.read call).2 s calls (said ++ [call.id.further]) routed n := by
  have hread := hx.reading hcall
  obtain ⟨hstream, hearlier⟩ := hx.own call hcall
  refine { hread with
    orderly := hx.orderly.further hearlier
    own := fun other hother => ?_
    read := fun id hid => ?_
    counted := fun other hother => ?_ }
  · obtain ⟨hsame, r, hr, hid⟩ := hx.own other hother
    exact ⟨hsame, r, List.mem_append_left _ hr, hid⟩
  · rcases List.mem_append.mp hid with hid | hid
    · exact hx.read id hid
    · exact ⟨call, hcall, (congrArg Request.id (List.mem_singleton.mp hid)).symm⟩
  · rw [List.count_append]
    by_cases hsame : other = call
    · subst hsame
      rw [List.count_singleton_self]
      exact (hx.counted other hother).offer (hstream ▸ hx.lt) hfound
    · have hne : call.id.further ≠ other.id.further := by
        intro heq
        exact hsame (List.inj_on_of_nodup_map hx.apart hother hcall
          (congrArg Request.id heq).symm)
      rw [List.count_singleton, if_neg (by simpa using hne), Nat.add_zero]
      exact hread.counted other hother

/-- **A look.** Whatever a reader takes, it asks to go on at most once for each offer. -/
theorem reads (hx : Spoken h s calls said routed n) (hcall : call ∈ calls)
    (hreads : Hub.Reads call now h asked h') : Spoken h' s calls (said ++ asked) routed n := by
  induction hreads generalizing said with
  | refl h =>
      rw [List.append_nil]
      exact hx
  | read later ih => exact ih (hx.reading hcall)
  | offer found later ih =>
      rw [← List.append_assoc]
      refine ih (Spoken.asking ?_ hcall)
      unfold Hub.asks
      split
      · exact hx.offer hcall found
      · rw [List.append_nil]
        exact hx.reading hcall

/-- A question that fails says nothing. -/
theorem refused (hx : Spoken h s calls said routed n) (hn : n + 1 < 2 ^ 32) (now : Nat)
    (payload : RequestPayload) (batched : Bool) :
    ∃ n' ≤ n + 1, Spoken (h.send now s payload batched).2 s calls said routed n' := by
  let op : Hub.Op := .send now s payload batched
  have hstep : h.step op = (h.send now s payload batched).2 :=
    Hub.step_of_can (by simpa [op, Hub.can] using hx.lt)
  have hrouting : routed ++ h.routing s op = routed := List.append_nil _
  rw [← hstep, ← hrouting]
  by_cases hquiet : Hub.assigns s h op = []
  · exact ⟨n, Nat.le_succ n, hx.quiet op hquiet⟩
  · obtain ⟨-, hnumbered⟩ := hx.numbered.step_of_assigns hx.wellFormed hx.lt hn hquiet
    exact ⟨n + 1, Nat.le_refl _, hx.step op (Nat.le_succ n) hnumbered⟩

/-- A question that is accepted is said under the next number. -/
theorem question (hx : Spoken h s calls said routed n) (hn : n + 1 < 2 ^ 32)
    {payload : RequestPayload} (hquestion : payload.isQuestion = true)
    (hsend : h.send now s payload payload.isBatched = (.ok call, h')) :
    Spoken h' s (calls ++ payload.reading call) (said ++ [⟨call.id, payload⟩]) routed (n + 1) := by
  obtain ⟨hopen, rfl, hid, -, -⟩ := Hub.sent_of_send hx.lt hsend
  have hafter : call.id = .after n := hid.trans hx.numbered.next
  let op : Hub.Op := .send now call.stream payload payload.isBatched
  have hstep : h.step op = h' := by
    rw [Hub.step_of_can (by simpa [op, Hub.can] using hx.lt)]
    exact congrArg Prod.snd hsend
  have hassigns : Hub.assigns call.stream h op ≠ [] := by
    simp [Hub.assigns, Hub.can, Hub.numbers, op, hx.lt, hopen]
  obtain ⟨-, hnumbered⟩ := hx.numbered.step_of_assigns hx.wellFormed hx.lt hn hassigns
  have hrest := hx.step op (Nat.le_succ n) hnumbered
  rw [hstep, show h.routing call.stream op = [] from rfl, List.append_nil] at hrest
  have hnew : ∀ other ∈ calls, other.id ≠ call.id := by
    rintro other hother hsame
    obtain ⟨-, r, hr, hrid, -⟩ := hx.own other hother
    have hle := hx.orderly.within r hr
    rw [hrid, hsame, hafter, RequestId.toNat_after hn] at hle
    omega
  have hsaid : ∀ id, (said ++ [(⟨call.id, payload⟩ : Request)]).count (RequestId.further id) =
      said.count id.further := by
    intro id
    have hne : (⟨call.id, payload⟩ : Request) ≠ id.further := by
      intro heq
      rw [show payload = .streamContinue from congrArg Request.payload heq] at hquestion
      simp [RequestPayload.isQuestion] at hquestion
    rw [List.count_append, List.count_singleton, if_neg (by simpa using hne), Nat.add_zero]
  have hmem : ∀ other ∈ payload.reading call, other = call ∧ payload.kind?.isSome = true := by
    intro other hother
    unfold RequestPayload.reading at hother
    split at hother
    · exact ⟨List.mem_singleton.mp hother, ‹_›⟩
    · exact absurd hother List.not_mem_nil
  refine { hrest with
    orderly := hafter ▸ hx.orderly.question hn hquestion
    own := fun other hother => ?_
    apart := ?_
    read := fun id hid => ?_
    counted := fun other hother => ?_ }
  · rcases List.mem_append.mp hother with hother | hother
    · obtain ⟨hsame, r, hr, hrid⟩ := hx.own other hother
      exact ⟨hsame, r, List.mem_append_left _ hr, hrid⟩
    · obtain ⟨rfl, hstreamed⟩ := hmem other hother
      exact ⟨rfl, _, List.mem_append_right _ (List.mem_singleton_self _), rfl, hstreamed⟩
  · rw [List.map_append, List.nodup_append]
    refine ⟨hx.apart, ?_, ?_⟩
    · unfold RequestPayload.reading
      split <;> simp
    · rintro _ hold _ hnow rfl
      obtain ⟨other, hother, hsame⟩ := List.mem_map.mp hold
      obtain ⟨new, hin, heq⟩ := List.mem_map.mp hnow
      rw [(hmem new hin).1] at heq
      exact hnew other hother (hsame.trans heq.symm)
  · rcases List.mem_append.mp hid with hid | hid
    · obtain ⟨other, hother, hsame⟩ := hx.read id hid
      exact ⟨other, List.mem_append_left _ hother, hsame⟩
    · have hone := hsaid id
      rw [List.count_append, List.mem_singleton.mp hid, List.count_singleton_self] at hone
      omega
  · rw [hsaid]
    rcases List.mem_append.mp hother with hother | hother
    · exact hrest.counted other hother
    · obtain ⟨rfl, hstreamed⟩ := hmem other hother
      have hbatched : payload.isBatched = true := by
        cases payload <;> simp [RequestPayload.kind?, RequestPayload.isBatched] at hstreamed ⊢
      rw [hbatched] at hsend
      obtain ⟨-, hf⟩ := Hub.begun_of_send hx.lt hsend
      have hnone : said.count other.id.further = 0 := by
        rw [List.count_eq_zero]
        intro hin
        obtain ⟨old, hold, hsame⟩ := hx.read _ hin
        exact hnew old hold hsame
      exact ⟨{}, 0, hf, by rw [hnone]; exact Nat.zero_le _, Nat.zero_le _⟩

end Spoken

/-! ## §4  Transactions and their readers -/

/-- A transaction and the readers of its streamed answers. -/
structure Talk where
  hub : Hub
  stream : Nat
  readers : List AnswerReader := []

namespace Talk

/-- What can happen to a transaction. -/
inductive Turn where
  /-- Its owner asks something. -/
  | ask (now : Nat) (payload : RequestPayload)
  /-- One of its readers is looked into. -/
  | look (now i : Nat)
  /-- Anything else at the hub: messages come, answers are read, batches leave, streams close. -/
  | other (op : Hub.Op)

/-- The readers of a call that was begun. -/
def reader (payload : RequestPayload) (call : Call) : List AnswerReader :=
  (payload.kind?.map fun kind => { kind, parts := { call } }).toList

def step (x : Talk) : Turn → Talk
  | .ask now payload =>
    if payload.isQuestion then
      match x.hub.send now x.stream payload payload.isBatched with
      | (.ok call, hub) => { x with hub, readers := x.readers ++ reader payload call }
      | (.error _, hub) => { x with hub }
    else x
  | .look now i =>
    match x.readers[i]? with
    | some a =>
      let (_, a, hub) := x.hub.nextAnswer now a
      { x with hub, readers := x.readers.set i a }
    | none => x
  | .other op => if op.speaks x.stream then x else { x with hub := x.hub.step op }

def run (x : Talk) (turns : List Turn) : Talk := turns.foldl step x

/-- What the dispatcher of a transaction accepts and its receiver pulls. A look leaves its requests
in the buffer. -/
def noted (x : Talk) : Turn → List Transmitter.Note
  | .ask now payload =>
    if payload.isQuestion then x.hub.noted (.send now x.stream payload payload.isBatched) else []
  | .look now i =>
    (((x.step (.look now i)).hub.outlet x.stream).buffer.drop
      (x.hub.outlet x.stream).buffer.length).map (.accepted (x.hub.stream x.stream).dispatcher)
  | .other op => if op.speaks x.stream then [] else x.hub.noted op

def notes (x : Talk) (turns : List Turn) : List Transmitter.Note := Run.log step noted x turns

/-- The messages that are routed to the calls of a transaction. -/
def routing (x : Talk) : Turn → List ServerMessage
  | .other op => x.hub.routing x.stream op
  | _ => []

def routed (x : Talk) (turns : List Turn) : List ServerMessage := Run.log step routing x turns

variable {x : Talk} {said : List Request} {routed : List ServerMessage} {n d : Nat}

/-- A transaction that has said something, and whose dispatcher is known. -/
structure Says (x : Talk) (d : Nat) (said : List Request) (routed : List ServerMessage) (n : Nat) :
    Prop where
  spoken : Spoken x.hub x.stream (x.readers.map (·.parts.call)) said routed n
  dispatcher : (x.hub.stream x.stream).dispatcher = d

/-- How many calls a turn may begin. -/
def Turn.calls : Turn → Nat
  | .ask _ _ => 1
  | _ => 0

/-! ## §5  One turn -/

theorem map_call_reader (payload : RequestPayload) (call : Call) :
    (reader payload call).map (·.parts.call) = payload.reading call := by
  unfold reader RequestPayload.reading
  cases payload.kind? <;> rfl

theorem Says.ask (hx : x.Says d said routed n) (hn : n + 1 < 2 ^ 32) (now : Nat)
    (payload : RequestPayload) :
    ∃ n' ≤ n + 1, (x.step (.ask now payload)).Says d
      (said ++ Transmitter.accepted d (x.noted (.ask now payload))) routed n' := by
  obtain ⟨hspoken, rfl⟩ := hx
  unfold step noted
  dsimp only
  split
  · rename_i hquestion
    let op : Hub.Op := .send now x.stream payload payload.isBatched
    have hcan : x.hub.can op = true := by simpa [op, Hub.can] using hspoken.lt
    have hdispatcher := Hub.dispatcher_step hspoken.wellFormed hspoken.lt op
    rw [Hub.step_of_can hcan] at hdispatcher
    have hnoted : x.hub.noted op = x.hub.noting op := if_pos hcan
    rw [hnoted, Hub.noting]
    cases hsend : x.hub.send now x.stream payload payload.isBatched with
    | mk result hub =>
      have hhub : x.hub.perform op = hub := congrArg Prod.snd hsend
      rw [hhub] at hdispatcher
      cases result with
      | error error =>
          obtain ⟨n', hle, hrest⟩ := hspoken.refused hn now payload payload.isBatched
          rw [hsend] at hrest
          refine ⟨n', hle, ?_, hdispatcher⟩
          rw [Transmitter.accepted_nil, List.append_nil]
          exact hrest
      | ok call =>
          refine ⟨n + 1, Nat.le_refl _, ?_, hdispatcher⟩
          dsimp only
          rw [Transmitter.accepted_accepted, if_pos rfl, List.map_append, map_call_reader]
          exact hspoken.question hn hquestion hsend
  · refine ⟨n, Nat.le_succ n, ?_, rfl⟩
    rw [Transmitter.accepted_nil, List.append_nil]
    exact hspoken

/-- What a look does to a transaction. -/
theorem step_look {a : AnswerReader} {i : Nat} (ha : x.readers[i]? = some a) (now : Nat) :
    x.step (.look now i) =
      { x with
        hub := (x.hub.nextAnswer now a).2.2
        readers := x.readers.set i (x.hub.nextAnswer now a).2.1 } := by
  simp only [step, ha]

theorem step_look_of_none {i : Nat} (ha : x.readers[i]? = none) (now : Nat) :
    x.step (.look now i) = x := by
  simp only [step, ha]

/-- What a look leaves in the buffer is what its reads asked for. -/
theorem wrote_look {a : AnswerReader} {i : Nat} (wf : x.hub.WellFormed)
    (hs : x.stream < x.hub.streams.length) (hown : a.parts.call.stream = x.stream)
    (ha : x.readers[i]? = some a) (now : Nat) :
    ∃ asked, Hub.Reads a.parts.call now x.hub asked (x.step (.look now i)).hub ∧
      x.hub.Wrote x.stream asked (x.step (.look now i)).hub ∧
      x.noted (.look now i) = asked.map (.accepted (x.hub.stream x.stream).dispatcher) := by
  obtain ⟨⟨asked, hreads⟩, -⟩ := x.hub.nextAnswer_reads now a
  have hhub : (x.step (.look now i)).hub = (x.hub.nextAnswer now a).2.2 := by
    rw [step_look ha]
  rw [← hhub] at hreads
  have hwrote := hreads.wrote wf (hown ▸ hs)
  rw [hown] at hwrote
  refine ⟨asked, hreads, hwrote, ?_⟩
  rw [noted, hwrote.buffer, List.drop_left]

theorem Says.look (hx : x.Says d said routed n) (now i : Nat) :
    (x.step (.look now i)).Says d (said ++ Transmitter.accepted d (x.noted (.look now i))) routed
      n := by
  obtain ⟨hspoken, rfl⟩ := hx
  cases ha : x.readers[i]? with
  | none =>
      have hnone : x.noted (.look now i) = [] := by
        rw [noted, step_look_of_none ha, List.drop_length]
        rfl
      rw [hnone, step_look_of_none ha, Transmitter.accepted_nil,
        List.append_nil]
      exact ⟨hspoken, rfl⟩
  | some a =>
      have hmem : a.parts.call ∈ x.readers.map (·.parts.call) :=
        List.mem_map_of_mem (List.mem_of_getElem? ha)
      obtain ⟨hown, -⟩ := hspoken.own _ hmem
      obtain ⟨asked, hreads, hwrote, hnoted⟩ :=
        wrote_look hspoken.wellFormed hspoken.lt hown ha now
      have hcalls : (x.step (.look now i)).readers.map (·.parts.call) =
          x.readers.map (·.parts.call) := by
        obtain ⟨hi, rfl⟩ := List.getElem?_eq_some_iff.mp ha
        rw [step_look ha, List.map_set, (x.hub.nextAnswer_reads now _).2]
        refine List.ext_getElem? fun j => ?_
        rw [List.getElem?_set]
        split
        · subst j
          simp [hi]
        · rfl
      have hstream : (x.step (.look now i)).stream = x.stream := by rw [step_look ha]
      have haccepted : Transmitter.accepted (x.hub.stream x.stream).dispatcher
          (x.noted (.look now i)) = asked := by
        rw [hnoted, Transmitter.accepted_map]
      refine ⟨?_, ?_⟩
      · rw [hcalls, hstream, haccepted]
        exact hspoken.reads hmem hreads
      · rw [hstream, hwrote.dispatcher]

theorem Says.other (hx : x.Says d said routed n) (op : Hub.Op) :
    (x.step (.other op)).Says d (said ++ Transmitter.accepted d (x.noted (.other op)))
      (routed ++ x.routing (.other op)) n := by
  obtain ⟨hspoken, rfl⟩ := hx
  cases hspeaks : op.speaks x.stream with
  | true =>
      have hrouting : x.routing (.other op) = [] := by
        cases op <;> simp [Hub.Op.speaks] at hspeaks <;> rfl
      rw [hrouting, List.append_nil, noted, step, if_pos hspeaks, if_pos hspeaks,
        Transmitter.accepted_nil, List.append_nil]
      exact ⟨hspoken, rfl⟩
  | false =>
      have hspeaks' : ¬ op.speaks x.stream = true := by simp [hspeaks]
      rw [noted, step, if_neg hspeaks', if_neg hspeaks',
        Hub.accepted_of_silent hspoken.wellFormed hspoken.lt hspeaks, List.append_nil]
      exact ⟨hspoken.quiet op (Hub.assigns_of_silent hspeaks),
        Hub.dispatcher_step hspoken.wellFormed hspoken.lt op⟩

/-- **One step.** -/
theorem Says.step (hx : x.Says d said routed n) (turn : Turn) (hn : n + turn.calls < 2 ^ 32) :
    ∃ n' ≤ n + turn.calls, (x.step turn).Says d
      (said ++ Transmitter.accepted d (x.noted turn)) (routed ++ x.routing turn) n' := by
  cases turn with
  | ask now payload =>
      rw [show x.routing (.ask now payload) = [] from rfl, List.append_nil]
      exact hx.ask hn now payload
  | look now i =>
      rw [show x.routing (.look now i) = [] from rfl, List.append_nil]
      exact ⟨n, Nat.le_refl n, hx.look now i⟩
  | other op => exact ⟨n, Nat.le_refl n, hx.other op⟩

theorem run_snoc (x : Talk) (turns : List Turn) (turn : Turn) :
    x.run (turns ++ [turn]) = (x.run turns).step turn := by
  simp [run]

theorem notes_snoc (x : Talk) (turns : List Turn) (turn : Turn) :
    x.notes (turns ++ [turn]) = x.notes turns ++ (x.run turns).noted turn :=
  Run.log_snoc x turns turn

theorem notes_append (x : Talk) (xs ys : List Turn) :
    x.notes (xs ++ ys) = x.notes xs ++ (x.run xs).notes ys :=
  Run.log_append x xs ys

theorem routed_snoc (x : Talk) (turns : List Turn) (turn : Turn) :
    x.routed (turns ++ [turn]) = x.routed turns ++ (x.run turns).routing turn :=
  Run.log_snoc x turns turn

/-- How many calls a run may begin. -/
def callsOf (turns : List Turn) : Nat := turns.foldr (fun turn n => turn.calls + n) 0

theorem callsOf_append (xs ys : List Turn) : callsOf (xs ++ ys) = callsOf xs + callsOf ys := by
  induction xs with
  | nil => exact (Nat.zero_add _).symm
  | cons turn xs ih => exact (congrArg (turn.calls + ·) ih).trans (Nat.add_assoc ..).symm

/-- **A run.** -/
theorem Says.run (hx : x.Says d said [] n) (turns : List Turn)
    (hfew : n + callsOf turns < 2 ^ 32) :
    ∃ n' ≤ n + callsOf turns, (x.run turns).Says d
      (said ++ Transmitter.accepted d (x.notes turns)) (x.routed turns) n' := by
  induction turns using List.reverseRecOn with
  | nil =>
      refine ⟨n, Nat.le_refl n, ?_⟩
      rw [show x.notes [] = [] from rfl, Transmitter.accepted_nil, List.append_nil]
      exact hx
  | append_singleton turns turn ih =>
      have hone : callsOf (turns ++ [turn]) = callsOf turns + turn.calls :=
        callsOf_append turns [turn]
      rw [hone] at hfew ⊢
      obtain ⟨n₁, hle₁, hx₁⟩ := ih (by omega)
      obtain ⟨n₂, hle₂, hx₂⟩ := hx₁.step turn (by omega)
      rw [run_snoc, notes_snoc, routed_snoc, Transmitter.accepted_append, ← List.append_assoc]
      exact ⟨n₂, by omega, hx₂⟩

/-- What is noted of a turn is noted of a run of the transmitter. -/
theorem Says.reaches (hx : x.Says d said routed n) (turn : Turn) :
    x.hub.transmitter.Reaches (x.noted turn) (x.step turn).hub.transmitter := by
  obtain ⟨hspoken, rfl⟩ := hx
  cases turn with
  | ask now payload =>
      unfold noted Talk.step
      dsimp only
      split
      · let op : Hub.Op := .send now x.stream payload payload.isBatched
        have hcan : x.hub.can op = true := by simpa [op, Hub.can] using hspoken.lt
        have hreaches : x.hub.transmitter.Reaches (x.hub.noted op) (x.hub.step op).transmitter :=
          x.hub.exists_run op
        rw [Hub.step_of_can hcan] at hreaches
        cases hsend : x.hub.send now x.stream payload payload.isBatched with
        | mk result hub =>
          have hhub : x.hub.perform op = hub := congrArg Prod.snd hsend
          rw [hhub] at hreaches
          cases result <;> exact hreaches
      · exact .refl _
  | look now i =>
      cases ha : x.readers[i]? with
      | none =>
          rw [noted, step_look_of_none ha, List.drop_length]
          exact .refl _
      | some a =>
          obtain ⟨hown, -⟩ := hspoken.own _ (List.mem_map_of_mem (List.mem_of_getElem? ha))
          obtain ⟨asked, -, hwrote, hnoted⟩ :=
            wrote_look hspoken.wellFormed hspoken.lt hown ha now
          rw [hnoted]
          exact hwrote.reaches
  | other op =>
      unfold noted Talk.step
      dsimp only
      split
      · exact .refl _
      · exact x.hub.exists_run op

/-! ## §6  An opening -/

/-- A transaction is opened on a new stream: its first request leaves at once. -/
def opened (h : Hub) (d : Nat) (address : String) (now : Nat) (first : RequestPayload) :
    Except Error Call × Talk :=
  let (s, h) := h.attach d address
  let (sent, hub) := h.send now s first false
  (sent, { hub, stream := s })

variable {h : Hub} {x : Talk} {d now : Nat} {address : String} {first : RequestPayload}
  {call : Call}

theorem opened_eq (hopened : opened h d address now first = (.ok call, x)) :
    x.stream = h.streams.length ∧ x.readers = [] ∧
      (h.attach d address).2.send now h.streams.length first false = (.ok call, x.hub) := by
  unfold opened at hopened
  obtain ⟨hsent, rfl⟩ := Prod.mk.inj hopened
  exact ⟨rfl, rfl, Prod.ext hsent rfl⟩

/-- The stream of a transaction is new, and its first request is the opening. -/
theorem step_opened (wf : h.WellFormed) (hfree : h.isFree d = true)
    (hopened : opened h d address now first = (.ok call, x)) :
    let h₁ := (h.attach d address).2
    h₁.WellFormed ∧ h.streams.length < h₁.streams.length ∧
      h₁.stream h.streams.length = { dispatcher := d, address } ∧
      h₁.step (.send now h.streams.length first false) = x.hub ∧
      h₁.noted (.send now h.streams.length first false) = [.accepted d ⟨call.id, first⟩] := by
  intro h₁
  obtain ⟨-, -, hsend⟩ := opened_eq hopened
  have hs : h.streams.length < h₁.streams.length := by simp [h₁, Hub.attach]
  have hnew : h₁.stream h.streams.length = { dispatcher := d, address } := by
    rw [Hub.stream_attach, if_pos rfl]
  have hcan : h₁.can (.send now h.streams.length first false) = true := by simpa [Hub.can] using hs
  refine ⟨wf.attach hfree address, hs, hnew, ?_, ?_⟩
  · rw [Hub.step_of_can hcan]
    exact congrArg Prod.snd hsend
  · rw [Hub.noted, if_pos hcan, Hub.noting, hsend, hnew]

/-- An opening is all that a transaction has said when it begins. -/
theorem talk_opened (wf : h.WellFormed) (hfree : h.isFree d = true)
    (hopening : first.isOpening = true)
    (hopened : opened h d address now first = (.ok call, x)) :
    call.id = ⟨1⟩ ∧ x.Says d [⟨⟨1⟩, first⟩] [] 1 := by
  obtain ⟨hstream, hreaders, hsend⟩ := opened_eq hopened
  obtain ⟨wf₁, hs, hnew, hstep, -⟩ := step_opened wf hfree hopened
  obtain ⟨-, -, hid, -, -⟩ := Hub.sent_of_send hs hsend
  rw [hnew] at hid
  have hassigns : Hub.assigns h.streams.length (h.attach d address).2
      (.send now h.streams.length first false) ≠ [] := by
    simp [Hub.assigns, Hub.can, Hub.numbers, hs, hnew]
  obtain ⟨-, hnumbered⟩ := Hub.Numbered.step_of_assigns
    (hnew ▸ Hub.numbered_opened d address) wf₁ hs (by decide) hassigns
  have hdispatcher := Hub.dispatcher_step wf₁ hs (.send now h.streams.length first false)
  rw [hstep] at hnumbered hdispatcher
  rw [hnew] at hdispatcher
  refine ⟨hid, ⟨?_, ?_⟩⟩
  · rw [hstream, hreaders]
    refine {
      wellFormed := hstep ▸ wf₁.step _
      lt := hstep ▸ Nat.lt_of_lt_of_le hs (Hub.length_step_le _ _)
      numbered := hnumbered
      orderly := ⟨?_, List.pairwise_singleton .., ?_, ?_⟩
      own := fun _ hother => absurd hother List.not_mem_nil
      apart := List.nodup_nil
      read := fun id hid => ?_
      counted := fun _ hother => absurd hother List.not_mem_nil }
    · intro r hr
      rw [List.mem_singleton.mp hr]
      exact Nat.le_refl 1
    · have hnothing : Grounded [] := fun _ _ _ hsplit => by simp at hsplit
      refine hnothing.concat fun id heq => ?_
      rw [show first = .streamContinue from congrArg Request.payload heq] at hopening
      simp [RequestPayload.isOpening] at hopening
    · exact List.countP_le_length
    · rw [show first = .streamContinue from
        (congrArg Request.payload (List.mem_singleton.mp hid)).symm] at hopening
      simp [RequestPayload.isOpening] at hopening
  · rw [hstream]
    exact hdispatcher

theorem batches_of_one {batches : List ClientMessage} {r : Request}
    (hflat : batches.flatMap (·.requests) = [r]) (hfull : ∀ batch ∈ batches, batch.requests ≠ []) :
    batches = [⟨[r]⟩] := by
  obtain _ | ⟨batch, rest⟩ := batches
  · simp at hflat
  · rw [List.flatMap_cons, List.append_eq_singleton_iff] at hflat
    rcases hflat with ⟨hnone, -⟩ | ⟨hone, hrest⟩
    · exact absurd hnone (hfull batch List.mem_cons_self)
    · have hend : rest = [] := by
        obtain _ | ⟨other, more⟩ := rest
        · rfl
        · rw [List.flatMap_cons, List.append_eq_nil_iff] at hrest
          exact absurd hrest.1 (hfull other (by simp))
      rw [hend, ← hone]

/-- A batch in which only the opening is waits in the queue when a transaction begins. -/
theorem queue_opened (config : TransmitterConfig) (before : List Hub.Op)
    (hfree : ((Hub.new config).run before).isFree d = true)
    (hopening : first.isOpening = true)
    (hopened : opened ((Hub.new config).run before) d address now first = (.ok call, x)) :
    (x.hub.transmitter.dispatcher d).queue.abandoned = false ∧
      (x.hub.transmitter.dispatcher d).queue.batches = [⟨[⟨⟨1⟩, first⟩]⟩] ∧
      (x.hub.transmitter.dispatcher d).outgoing = [⟨⟨1⟩, first⟩] := by
  have wf := (Hub.wellFormed_new config).run before
  generalize hh : (Hub.new config).run before = h at hfree hopened wf
  obtain ⟨hid, htalk⟩ := talk_opened wf hfree hopening hopened
  obtain ⟨hstream, -, hsend⟩ := opened_eq hopened
  obtain ⟨wf₁, hs, hnew, hstep, hnoted⟩ := step_opened wf hfree hopened
  obtain ⟨hheld₁, hsettled⟩ := Hub.sent_at_once wf₁ hs hsend
  have houtlet : x.hub.outlet h.streams.length = x.hub.transmitter.dispatcher d := by
    rw [Hub.outlet, ← hstream, htalk.dispatcher]
  have hheld : (x.hub.transmitter.dispatcher d).queue.abandoned = false := by
    rw [← houtlet, hsettled, Dispatcher.abandoned_settled]
    exact hheld₁
  have hbuffer : (x.hub.transmitter.dispatcher d).buffer = [] := by
    rw [← houtlet, hsettled, Dispatcher.buffer_settled]
  rw [Hub.outlet, hnew] at hheld₁
  -- nothing was on its way before, so that the opening is alone
  have hattach : h.step (.attach d address) = (h.attach d address).2 :=
    Hub.step_of_can (by simpa [Hub.can] using hfree)
  have hempty : (h.transmitter.dispatcher d).outgoing = [] := by
    have hheld₀ : (h.transmitter.dispatcher d).queue.abandoned = false :=
      Hub.held_of_step wf _ (hattach ▸ hheld₁)
    rw [← hh] at hheld₀ ⊢
    have hrun := Hub.outgoing_run (Hub.wellFormed_new config) before d hheld₀
    rw [Hub.accepted_of_free (Hub.wellFormed_new config) before
      (hh ▸ (Hub.free_of_isFree hfree).2)] at hrun
    exact (List.append_eq_nil_iff.mp (hrun.trans rfl)).2
  have hempty₁ := Hub.outgoing_step wf (.attach d address) d (hattach ▸ hheld₁)
  have hone := Hub.outgoing_step wf₁ (.send now h.streams.length first false) d (hstep ▸ hheld)
  have hquiet : h.noted (.attach d address) = [] := by simp [Hub.noted, Hub.noting]
  rw [hattach, hquiet, hempty] at hempty₁
  rw [hstep, hnoted, hid, Transmitter.accepted_accepted, if_pos rfl,
    show ((h.attach d address).2.transmitter.dispatcher d).outgoing = [] from hempty₁] at hone
  refine ⟨hheld, ?_, hone⟩
  rw [show Transmitter.received d [.accepted d ⟨⟨1⟩, first⟩] = [] from rfl, List.flatMap_nil,
    List.nil_append, List.nil_append, Dispatcher.outgoing, hbuffer, List.append_nil] at hone
  exact batches_of_one hone (htalk.spoken.wellFormed.transmitter.sound d).full

/-! ## §7  The wire -/

/-- A request with a number of its own stands at one place. -/
theorem front_unique {said front front' back back' : List Request} {r : Request}
    (hrising : said.Pairwise Request.Precedes) (hr : r.isNumbered = true)
    (h : said = front ++ r :: back) (h' : said = front' ++ r :: back') : front = front' := by
  have hapart : ∀ {xs ys : List Request}, said = xs ++ r :: ys → r ∉ xs := by
    intro xs ys hsplit hmem
    rw [hsplit, List.pairwise_append] at hrising
    exact absurd (hrising.2.2 r hmem r List.mem_cons_self hr hr) (UInt32.lt_irrefl _)
  rcases List.append_eq_append_iff.mp (h.symm.trans h') with ⟨more, rfl, hmore⟩ | ⟨more, rfl, hmore⟩
  · rcases more with _ | ⟨first, more⟩
    · exact (List.append_nil _).symm
    · obtain rfl := (List.cons.inj hmore).1
      exact absurd (by simp) (hapart h')
  · rcases more with _ | ⟨first, more⟩
    · exact List.append_nil _
    · obtain rfl := (List.cons.inj hmore).1
      exact absurd (by simp) (hapart h)

theorem stream_step (x : Talk) (turn : Turn) : (x.step turn).stream = x.stream := by
  cases turn with
  | ask now payload =>
      unfold step
      dsimp only
      split
      · split <;> rfl
      · rfl
  | look now i =>
      unfold step
      dsimp only
      split <;> rfl
  | other op =>
      unfold step
      dsimp only
      split <;> rfl

theorem stream_run (x : Talk) (turns : List Turn) : (x.run turns).stream = x.stream :=
  Run.keeps (P := fun y : Talk => y.stream = x.stream)
    (fun y turn hy => (stream_step y turn).trans hy) rfl turns

/-- What is accepted of a question is the question. -/
theorem accepted_ask {x : Talk} {said : List Request} {routed : List ServerMessage} {n : Nat}
    (hx : x.Says d said routed n) {payload : RequestPayload}
    (hquestion : payload.isQuestion = true)
    (hsend : (x.hub.send now x.stream payload payload.isBatched).1 = .ok call) :
    Transmitter.accepted d (x.noted (.ask now payload)) = [⟨call.id, payload⟩] := by
  have hcan : x.hub.can (.send now x.stream payload payload.isBatched) = true := by
    simpa [Hub.can] using hx.spoken.lt
  rw [noted, if_pos hquestion, Hub.noted, if_pos hcan, Hub.noting, hsend,
    Transmitter.accepted_accepted, if_pos hx.dispatcher]

theorem reaches_run {x : Talk} {said : List Request} {n : Nat} (hx : x.Says d said [] n)
    (turns : List Turn) (hfew : n + callsOf turns < 2 ^ 32) :
    x.hub.transmitter.Reaches (x.notes turns) (x.run turns).hub.transmitter := by
  induction turns using List.reverseRecOn with
  | nil => exact .refl _
  | append_singleton turns turn ih =>
      rw [callsOf_append] at hfew
      obtain ⟨n', -, hx'⟩ := hx.run turns (by omega)
      rw [run_snoc, notes_snoc]
      exact (ih (by omega)).trans (hx'.reaches turn)

/-- **The wire is well-formed.** -/
theorem wire_is_well_formed (config : TransmitterConfig) (before : List Hub.Op) (d now : Nat)
    (address : String) (session : SessionId) (transactionType : TransactionType)
    (options : Options) (latency : UInt32) (call : Call) (x : Talk) (turns : List Turn)
    (hfree : ((Hub.new config).run before).isFree d = true)
    (hopened : opened ((Hub.new config).run before) d address now
      (.open session transactionType options latency) = (.ok call, x))
    (hfew : 1 + callsOf turns < 2 ^ 32) :
    let first : Request := ⟨⟨1⟩, .open session transactionType options latency⟩
    let batches := Transmitter.received d (x.notes turns)
    let wire := batches.flatMap (·.requests)
    (batches = [] ∨ ∃ rest, batches = ⟨[first]⟩ :: rest) ∧
      wire.countP (·.payload.isOpening) ≤ 1 ∧
      ((wire.filter (·.isNumbered)).map (·.id.value)).Pairwise (· < ·) ∧
      Grounded wire ∧
      (∀ id : RequestId, wire.count id.further ≤ (x.routed turns).count id.offer) ∧
      ∀ earlier later now' payload call',
        turns = earlier ++ .ask now' payload :: later → payload.isQuestion = true →
        ((x.run earlier).hub.send now' x.stream payload payload.isBatched).1 = .ok call' →
        ∀ front back, wire = front ++ ⟨call'.id, payload⟩ :: back →
          front = first :: Transmitter.accepted d (x.notes earlier) := by
  intro first batches wire
  have wf := (Hub.wellFormed_new config).run before
  obtain ⟨-, htalk⟩ := talk_opened wf hfree rfl hopened
  obtain ⟨hheld, hbatches, houtgoing⟩ := queue_opened config before hfree rfl hopened
  obtain ⟨n, -, hrun⟩ := htalk.run turns hfew
  obtain ⟨ops, -, hnotes⟩ := reaches_run htalk turns hfew
  have wft := htalk.spoken.wellFormed.transmitter
  have hd : d < x.hub.transmitter.dispatchers.length := by
    have hbound := htalk.spoken.wellFormed.bound _ htalk.spoken.lt
    rwa [htalk.dispatcher] at hbound
  have hvacant : x.hub.transmitter.Vacant d := fun hgone => by simp [hheld] at hgone
  have hprefix := Transmitter.received_isPrefix hvacant wft hd ops
  rw [hnotes, houtgoing] at hprefix
  change wire <+: [first] ++ Transmitter.accepted d (x.notes turns) at hprefix
  obtain ⟨unsent, hunsent⟩ := hprefix
  obtain ⟨hspoken, -⟩ := hrun
  rw [← hunsent] at hspoken
  have hsub : List.Sublist wire (wire ++ unsent) := List.sublist_append_left _ _
  refine ⟨?_, ?_, ?_, ?_, ?_, ?_⟩
  · obtain ⟨more, hmore⟩ := Transmitter.received_run hvacant wft hd ops
    rw [hnotes, hbatches] at hmore
    change batches <+: _ at hmore
    generalize batches = batches at hmore
    obtain _ | ⟨batch, rest⟩ := batches
    · exact .inl rfl
    · rw [List.singleton_append, List.cons_prefix_cons] at hmore
      exact .inr ⟨rest, by rw [hmore.1]⟩
  · exact Nat.le_trans hsub.countP_le hspoken.orderly.opened
  · rw [List.pairwise_map, List.pairwise_filter]
    exact (hspoken.orderly.rising.sublist hsub).imp fun h hr hr' => h hr hr'
  · intro front id back hsplit
    exact hspoken.orderly.grounded front id (back ++ unsent) (by rw [hsplit]; simp)
  · intro id
    refine Nat.le_trans (hsub.count_le _) ?_
    by_cases hsaid : id.further ∈ wire ++ unsent
    · obtain ⟨other, hother, rfl⟩ := hspoken.read id hsaid
      exact (hspoken.counted other hother).le
    · rw [List.count_eq_zero.mpr hsaid]
      exact Nat.zero_le _
  · intro earlier later now' payload call' hturns hquestion hsend front back hfront
    have hbefore : 1 + callsOf earlier < 2 ^ 32 := by
      rw [hturns, callsOf_append] at hfew
      omega
    obtain ⟨n', -, hearlier⟩ := htalk.run earlier hbefore
    rw [← stream_run x earlier] at hsend
    have hasked := accepted_ask hearlier hquestion hsend
    have hall : wire ++ unsent = (first :: Transmitter.accepted d (x.notes earlier)) ++
        ⟨call'.id, payload⟩ ::
          Transmitter.accepted d (((x.run earlier).step (.ask now' payload)).notes later) := by
      have hnoted : x.notes turns = x.notes earlier ++ ((x.run earlier).noted (.ask now' payload) ++
          ((x.run earlier).step (.ask now' payload)).notes later) := by
        rw [hturns, notes_append]
        rfl
      rw [hunsent, hnoted, Transmitter.accepted_append, Transmitter.accepted_append, hasked]
      rfl
    have hnumbered : Request.isNumbered ⟨call'.id, payload⟩ = true := by
      cases payload <;> simp [Request.isNumbered, RequestPayload.isQuestion] at hquestion ⊢
    have hsplit : wire ++ unsent = front ++ ⟨call'.id, payload⟩ :: (back ++ unsent) := by
      rw [hfront, List.append_assoc, List.cons_append]
    exact front_unique hspoken.orderly.rising hnumbered hsplit hall

/-- A match query goes on once, and a commit overtakes nothing: the request to go on waits in the
buffer and leaves before the commit. -/
theorem wire_is_well_formed_paged :
    let config : TransmitterConfig := {}
    let before : List Hub.Op := [.reserve]
    let session : SessionId := ⟨⟨#[7]⟩⟩
    let opening : RequestPayload := .open session .read {} 0
    let query : RequestPayload := .query (.match "match $x;") {}
    let x := (opened ((Hub.new config).run before) 0 "server" 0 opening).2
    let brings (m : ServerMessage) : Turn := .other (.receive 0 (.message m))
    let earlier : List Turn :=
      [.other (.pull 0), brings (.response ⟨⟨1⟩, .ok .opened⟩), .ask 1 query, .other (.runDue 9),
        .other (.pull 0), brings (RequestId.offer ⟨2⟩), .look 20 0]
    let turns := earlier ++ [.ask 21 .commit, .other (.pull 0)]
    let first : Request := ⟨⟨1⟩, opening⟩
    Transmitter.received 0 (x.notes turns) =
        [⟨[first]⟩, ⟨[⟨⟨2⟩, query⟩]⟩, ⟨[RequestId.further ⟨2⟩, ⟨⟨3⟩, .commit⟩]⟩] ∧
      (x.routed turns).count (RequestId.offer ⟨2⟩) = 1 ∧
      first :: Transmitter.accepted 0 (x.notes earlier) =
        [first, ⟨⟨2⟩, query⟩, RequestId.further ⟨2⟩] := by
  intro config before session opening query x brings earlier turns first
  have hbatches : Transmitter.received 0 (x.notes turns) =
      [⟨[first]⟩, ⟨[⟨⟨2⟩, query⟩]⟩, ⟨[RequestId.further ⟨2⟩, ⟨⟨3⟩, .commit⟩]⟩] := by decide +kernel
  obtain ⟨-, -, -, -, -, hbefore⟩ := wire_is_well_formed config before 0 0 "server" session .read {}
    0 ⟨0, 0, ⟨1⟩⟩ x turns (by decide +kernel) (Prod.ext (by decide +kernel) rfl) (by decide +kernel)
  refine ⟨hbatches, by decide +kernel, ?_⟩
  refine (hbefore earlier [.other (.pull 0)] 21 .commit ⟨0, 2, ⟨3⟩⟩ rfl rfl (by decide +kernel)
    [first, ⟨⟨2⟩, query⟩, RequestId.further ⟨2⟩] [] ?_).symm
  rw [hbatches]
  rfl

end Talk

/-! ## §8  The operations of a transaction -/

/-- What is done at a hub, and then something else, is done at once. -/
theorem Connections.onHub_onHub {c : Connections} {hub : Nat} (hhub : hub < c.hubs.length)
    {α β : Type} (f : Hub → α × Hub) (g : Hub → β × Hub) :
    (c.onHub hub f).2.onHub hub g = c.onHub hub fun h => g (f h).2 := by
  have hhub : (c.modifyHub hub fun _ => (f (c.hub hub)).2).hub hub = (f (c.hub hub)).2 := by
    simp [Connections.hub, Connections.modifyHub, hhub]
  unfold Connections.onHub
  dsimp only
  rw [hhub]
  refine Prod.ext rfl ?_
  simp only [Connections.modifyHub, List.modify_modify_eq]
  rfl

namespace Transaction

open Operation

variable {others : Connections → Connections → Prop} {c c' : Connections} {log : List Event}
  {t : Transaction} {payload : RequestPayload}

/-- A request with one answer is sent at once; what is accepted waits for its answer. -/
theorem runs_ask {batched : Bool} {result : Except Error ResponsePayload} :
    Runs others (ask t payload batched) c log result c' ↔
      let sent := c.onHub t.hub (·.send c.now t.stream payload batched)
      match sent.1 with
      | .ok call => ∃ delivery, others sent.2 c' ∧ log = [⟨.receive t.hub call, delivery⟩] ∧
          result = Hub.singleAnswer call.id delivery
      | .error e => log = [] ∧ result = .error e ∧ c' = sent.2 := by
  dsimp only
  rw [ask, runs_get_bind, runs_modifyGet_bind, runs_ofOutcome_bind]
  generalize c.onHub t.hub (·.send c.now t.stream payload batched) = sent
  obtain ⟨error | call, c₀⟩ := sent
  · rfl
  · refine runs_perform_bind.trans ?_
    constructor
    · rintro ⟨c₁, delivery, _, hmoved, hend, rfl⟩
      obtain ⟨rfl, rfl, rfl⟩ := runs_ofOutcome.mp hend
      exact ⟨delivery, hmoved, rfl, rfl⟩
    · rintro ⟨delivery, hmoved, rfl, rfl⟩
      exact ⟨c', delivery, [], hmoved, runs_ofOutcome.mpr ⟨rfl, rfl, rfl⟩, rfl⟩

/-- A request that is answered in parts is sent at once, and nothing is waited for. -/
theorem runs_askMany {kind : AnswerKind} {result : Except Error AnswerReader} :
    Runs others (askMany t kind payload) c log result c' ↔
      let sent := c.onHub t.hub (·.send c.now t.stream payload true)
      log = [] ∧ result = sent.1.map (fun call => { kind, parts := { call } }) ∧ c' = sent.2 := by
  dsimp only
  rw [askMany, runs_get_bind, runs_modifyGet_bind, runs_ofOutcome_bind]
  generalize c.onHub t.hub (·.send c.now t.stream payload true) = sent
  obtain ⟨error | call, c₀⟩ := sent
  · rfl
  · exact runs_pure

/-- A stream that was opened was connected first, and then made of a dispatcher. -/
theorem runs_openStream {hub stream : Nat} {address : String}
    (h : Runs others (openStream hub address) c log (.ok stream) c') :
    ∃ c₀ c₁ d, c₀ = (c.onHub hub Hub.reserve).2 ∧ others c₀ c₁ ∧
      log = [⟨.dial address hub d, .ok ()⟩] ∧
      c₁.onHub hub (·.attach d address) = (stream, c') := by
  rw [openStream, runs_modifyGet_bind, runs_ofOutcome_bind] at h
  split at h
  · rename_i d hreserved
    obtain ⟨dialled, c₁, _, _, hdial, hgo, rfl⟩ := runs_outcome_bind.mp h
    obtain ⟨hmoved, rfl⟩ := Program.runs_perform.mp (runs_onAbandon.mp hdial)
    cases dialled with
    | ok u =>
        obtain ⟨rfl, hstream, rfl⟩ := runs_modifyGet.mp hgo
        exact ⟨_, c₁, d, rfl, hmoved, rfl, Prod.ext (Except.ok.inj hstream).symm rfl⟩
    | error e =>
        rw [runs_modify_bind] at hgo
        cases (runs_throw.mp hgo).2.1
  · cases h.2.1

/-- **A transaction is opened as its talk is.** -/
theorem runs_openOn {session : Nat} {transactionType : TransactionType} {options : Options}
    (hgrows : ∀ c c', others c c' → c.hubs.length ≤ c'.hubs.length)
    (hhub : (c.client (c.session session).client).hub < c.hubs.length)
    (h : Runs others (openOn session transactionType options) c log (.ok t) c') :
    let s := c.session session
    ∃ (c₁ : Connections) (d : Nat) (call : Call) (x : Talk),
      Talk.opened (c₁.hub t.hub) d (c.client s.client).address c₁.now
        (.open s.id transactionType options s.networkLatencyMillis) = (.ok call, x) ∧
      x.stream = t.stream ∧ t.hub = (c.client s.client).hub ∧
      others (c₁.modifyHub t.hub fun _ => x.hub) c' := by
  intro s
  rw [openOn, runs_get_bind] at h
  dsimp only at h
  split at h
  · split at h
    · obtain ⟨stream, c₂, _, _, hstream, hgo, rfl⟩ := runs_bind_ok.mp h
      obtain ⟨c₀, c₁, d, hreserved, hmoved, -, hattach⟩ := runs_openStream hstream
      obtain ⟨opened, c₃, _, _, hopened, hend, rfl⟩ := runs_outcome_bind.mp hgo
      cases opened with
      | error e => cases (runs_throw.mp (runs_modify_bind.mp hend)).2.1
      | ok u =>
          obtain ⟨-, ht, rfl⟩ := runs_pure.mp hend
          obtain rfl := Except.ok.inj ht
          obtain ⟨answer, _, _, _, hask, hexpect, -⟩ := runs_bind_ok.mp hopened
          obtain ⟨-, -, rfl⟩ := runs_expect.mp hexpect
          have hask := runs_ask.mp (runs_onAbandon.mp hask)
          have hhub₁ : (c.client s.client).hub < c₁.hubs.length := by
            have hlength := hgrows c₀ c₁ hmoved
            simp only [hreserved, Connections.onHub, Connections.modifyHub,
              List.length_modify] at hlength
            exact Nat.lt_of_lt_of_le hhub hlength
          obtain ⟨rfl, rfl⟩ := Prod.ext_iff.mp hattach
          dsimp only at hask
          -- The stream is made and its opening is sent with no wait in between.
          rw [Connections.onHub_onHub hhub₁] at hask
          split at hask
          · rename_i call hsent
            obtain ⟨delivery, hmoved', -, -⟩ := hask
            exact ⟨c₁, d, call, _, Prod.ext hsent rfl, rfl, rfl, hmoved'⟩
          · cases hask.2.1
    · cases (runs_throw_bind.mp h).2.1
  · cases (runs_throw_bind.mp h).2.1

end Transaction

end GraphDriver
