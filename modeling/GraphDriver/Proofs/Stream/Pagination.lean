import GraphDriver.Stream.Answers
import GraphDriver.Proofs.Stream.Teardown

/-!
# Pagination

Reading a streamed answer to its end. However a server cuts the answer into parts, and wherever it
waits to be asked for more, the reader gives the items in order and then ends, and asks once for each
time the server waits.

* §1 a reader among other operations
* §2 the answer of a server
* §3 looks
* §4 a call that is served
* §5 a look finds what is next
* §6 a reading
-/

namespace GraphDriver

variable {α : Type}

/-! ## §1  A reader among other operations -/

/-- A hub and a reader of one of its calls. -/
structure Reading (α : Type) where
  hub : Hub
  reader : ItemReader α

/-- What can happen while a call is read: something else at the hub, or a look for the next item. -/
inductive Turn where
  | other (op : Hub.Op)
  | look (now : Nat)

/-- The deliveries that wait for a call. -/
def Hub.unread (h : Hub) (call : Call) : List Delivery :=
  ((h.stream call.stream).collector.mailboxes.getD call.mailbox default).waiting

namespace Reading

variable (extract : PartPayload → Except Error (List α))

def look (now : Nat) (x : Reading α) : Poll (Except Error α) × Reading α :=
  let (found, reader, hub) := x.hub.nextItem extract now x.reader
  (found, { hub, reader })

def step (x : Reading α) : Turn → Reading α
  | .other op => { x with hub := x.hub.step op }
  | .look now => (x.look extract now).2

def run (x : Reading α) (turns : List Turn) : Reading α := turns.foldl (step extract) x

/-- What a look gives to the owner of the reader. -/
def telling (x : Reading α) : Turn → List (Except Error α)
  | .other _ => []
  | .look now => (x.look extract now).1.item?.toList

/-- What the owner of the reader got in a run. -/
def told (x : Reading α) (turns : List Turn) : List (Except Error α) :=
  Run.log (step extract) (telling extract) x turns

/-- The requests that a look leaves with the dispatcher. -/
def asking (x : Reading α) : Turn → List Request
  | .other _ => []
  | .look now =>
    let s := x.reader.parts.call.stream
    ((x.look extract now).2.hub.outlet s).buffer.drop (x.hub.outlet s).buffer.length

/-- The requests that the looks of a run left with the dispatcher. -/
def asked (x : Reading α) (turns : List Turn) : List Request :=
  Run.log (step extract) (asking extract) x turns

theorem run_snoc (x : Reading α) (turns : List Turn) (turn : Turn) :
    x.run extract (turns ++ [turn]) = (x.run extract turns).step extract turn := by
  simp [run]

theorem told_snoc (x : Reading α) (turns : List Turn) (turn : Turn) :
    x.told extract (turns ++ [turn]) =
      x.told extract turns ++ (x.run extract turns).telling extract turn :=
  Run.log_snoc x turns turn

theorem asked_snoc (x : Reading α) (turns : List Turn) (turn : Turn) :
    x.asked extract (turns ++ [turn]) =
      x.asked extract turns ++ (x.run extract turns).asking extract turn :=
  Run.log_snoc x turns turn

end Reading

/-- The messages that a run brings under the number of a call. -/
def arrived (call : Call) (turns : List Turn) : List ServerMessage :=
  turns.flatMap fun
    | .other (.receive s (.message m)) =>
      if s = call.stream ∧ m.requestId = call.id then [m] else []
    | _ => []

/-- The mailbox of a call is its reader's alone, and the call is not given up before its last message
has arrived. -/
structure Undisturbed (call : Call) (turns : List Turn) : Prop where
  own : ∀ other, .other (.read other) ∈ turns → other.stream = call.stream →
    other.mailbox ≠ call.mailbox
  held : ∀ xs ys, turns = xs ++ .other (.forget call.stream call.id) :: ys →
    ∃ m ∈ arrived call xs, m.isTerminal = true

variable {extract : PartPayload → Except Error (List α)} {pages : List PartPayload}
  {further : List ServerMessage} {payload : PartPayload} {call : Call} {turns : List Turn}
  {turn : Turn} {n a : Nat}

theorem arrived_snoc (call : Call) (turns : List Turn) (turn : Turn) :
    arrived call (turns ++ [turn]) = arrived call turns ++ arrived call [turn] := by
  simp [arrived]

theorem Undisturbed.init (h : Undisturbed call (turns ++ [turn])) : Undisturbed call turns := by
  refine ⟨fun other hmem => h.own other (List.mem_append_left _ hmem), ?_⟩
  intro xs ys hsplit
  exact h.held xs (ys ++ [turn]) (by rw [hsplit]; simp)

/-! ## §2  The answer of a server -/

/-- A page of an answer: a part that holds items, or the offer to go on when asked. -/
inductive IsPage (extract : PartPayload → Except Error (List α)) : PartPayload → Prop where
  | offer : IsPage extract (.streamState .continue)
  | part {payload : PartPayload} {items : List α} (data : ∀ state, payload ≠ .streamState state)
      (shape : extract payload = .ok items) : IsPage extract payload

/-- The items that a part holds. -/
def itemsOf (extract : PartPayload → Except Error (List α)) : PartPayload → List α
  | .streamState _ => []
  | payload =>
    match extract payload with
    | .ok items => items
    | .error _ => []

theorem itemsOf_data {items : List α} (data : ∀ state, payload ≠ .streamState state)
    (shape : extract payload = .ok items) : itemsOf extract payload = items := by
  cases payload with
  | streamState state => exact absurd rfl (data state)
  | query part => simp [itemsOf, shape]
  | logic part => simp [itemsOf, shape]

/-- The items in the first `n` pages. -/
def itemsTo (extract : PartPayload → Except Error (List α)) (pages : List PartPayload) (n : Nat) :
    List α :=
  (pages.take n).flatMap (itemsOf extract)

/-- Pages, and the marker that the answer is complete. -/
def script (pages : List PartPayload) : List PartPayload := pages ++ [.streamState .done]

namespace Call

/-- A part of the answer to a call. -/
def message (call : Call) (payload : PartPayload) : ServerMessage :=
  .responsePart ⟨call.id, payload⟩

/-- What a call is owed once `a` messages have come of its answer. -/
def due (call : Call) (pages : List PartPayload) (a : Nat) : Due where
  messages := ((script pages).take a).map call.message
  verdict := if a ≤ pages.length then none else some .transactionClosed

/-- The first `n` deliveries of an answer. -/
def taken (call : Call) (pages : List PartPayload) (n : Nat) : List Delivery :=
  ((script pages).take n).map fun payload => .ok (call.message payload)

/-- Whether a delivery offers to go on. -/
def isOffer (call : Call) : Delivery → Bool
  | .ok m => m = call.message (.streamState .continue)
  | .error _ => false

/-- One request to go on for each offer among deliveries. -/
def asks (call : Call) (deliveries : List Delivery) : List Request :=
  List.replicate (deliveries.countP call.isOffer) ⟨call.id, .streamContinue⟩

@[simp] theorem isOffer_message (call : Call) (payload : PartPayload) :
    call.isOffer (.ok (call.message payload)) = decide (payload = .streamState .continue) := by
  simp [isOffer, message]

@[simp] theorem asks_nil (call : Call) : call.asks [] = [] := rfl

theorem asks_append (call : Call) (xs ys : List Delivery) :
    call.asks (xs ++ ys) = call.asks xs ++ call.asks ys := by
  rw [asks, asks, asks, List.countP_append, List.replicate_append_replicate]

end Call

theorem script_of_lt (hn : n < pages.length) : (script pages)[n]? = pages[n]? :=
  List.getElem?_append_left hn

@[simp] theorem script_length (pages : List PartPayload) :
    (script pages)[pages.length]? = some (.streamState .done) :=
  List.getElem?_concat_length

theorem lt_of_script (hn : (script pages)[n]? = some payload) : n < pages.length + 1 := by
  have hlt := (List.getElem?_eq_some_iff.mp hn).1
  rwa [script, List.length_append] at hlt

theorem itemsTo_succ (hn : pages[n]? = some payload) :
    itemsTo extract pages (n + 1) = itemsTo extract pages n ++ itemsOf extract payload := by
  rw [itemsTo, itemsTo, List.take_add_one, hn, List.flatMap_append]
  simp

theorem itemsTo_of_le (hn : pages.length ≤ n) :
    itemsTo extract pages n = pages.flatMap (itemsOf extract) := by
  rw [itemsTo, List.take_of_length_le hn]

theorem itemsTo_mono (h : n ≤ a) : itemsTo extract pages n <+: itemsTo extract pages a := by
  obtain ⟨more, hmore⟩ := List.take_prefix_take_left (l := pages) h
  rw [itemsTo, itemsTo, ← hmore, List.flatMap_append]
  exact List.prefix_append _ _

theorem IsPage.not_terminal (h : IsPage extract payload) (call : Call) :
    (call.message payload).isTerminal = false := by
  cases h with
  | offer => rfl
  | part data shape => simpa [Call.message, ServerMessage.isTerminal] using data .done

namespace Call

theorem taken_succ (hn : (script pages)[n]? = some payload) :
    call.taken pages n ++ [.ok (call.message payload)] = call.taken pages (n + 1) := by
  rw [taken, taken, List.take_add_one, hn, List.map_append]
  rfl

/-- Of a complete answer each offer was asked for once. -/
theorem asks_taken_all (call : Call) (pages : List PartPayload) :
    call.asks (call.taken pages (pages.length + 1)) =
      List.replicate (pages.count (.streamState .continue)) ⟨call.id, .streamContinue⟩ := by
  have htake : (script pages).take (pages.length + 1) = script pages :=
    List.take_of_length_le (by rw [script, List.length_append]; exact Nat.le_refl _)
  have hoffers : (fun payload => call.isOffer (.ok (call.message payload))) =
      (fun payload => payload == .streamState .continue) := by
    funext payload
    rw [isOffer_message]
    rfl
  rw [asks, taken, htake, List.countP_map, Function.comp_def, hoffers, script, List.countP_append]
  rfl

theorem due_nth (hn : (script pages)[n]? = some payload) (hna : n < a) :
    (call.due pages a).nth n = .item (.ok (call.message payload)) := by
  rw [Due.nth, due, List.getElem?_map, List.getElem?_take_of_lt hna, hn]
  rfl

theorem due_nth_self (ha : a ≤ pages.length) : (call.due pages a).nth a = .waiting := by
  have hnone : (((script pages).take a).map call.message)[a]? = none := by
    rw [List.getElem?_eq_none_iff, List.length_map]
    exact List.length_take_le _ _
  rw [Due.nth, due]
  dsimp only
  rw [hnone, if_pos ha]

/-- A message under the number of the call is the next of the answer, or comes after its end. -/
theorem due_andThen_route (hpages : ∀ page ∈ pages, IsPage extract page) {m : ServerMessage}
    (hid : m.requestId = call.id)
    (hm : a ≤ pages.length →
      ∃ payload, (script pages)[a]? = some payload ∧ m = call.message payload) :
    (call.due pages a).andThen (Collector.owed call.id [.route m]) = call.due pages (a + 1) := by
  rcases Nat.lt_or_ge pages.length a with hover | ha
  · have hverdict : (call.due pages a).verdict ≠ none := by
      simp [due, Nat.not_le.mpr hover]
    have hlength : (script pages).length ≤ a := by
      rw [script, List.length_append]
      exact hover
    rw [Due.andThen_of_verdict hverdict, due, due, List.take_of_length_le hlength,
      List.take_of_length_le (Nat.le_succ_of_le hlength), if_neg (by omega), if_neg (by omega)]
  · obtain ⟨payload, hpayload, rfl⟩ := hm ha
    have hverdict : (call.due pages a).verdict = none := by
      simp [due, ha]
    have hmessages : (call.due pages a).messages ++ [call.message payload] =
        (call.due pages (a + 1)).messages := by
      rw [due, due, List.take_add_one, hpayload, List.map_append]
      rfl
    rw [Due.andThen_of_open hverdict]
    simp only [Collector.owed, hid, if_true]
    rcases Nat.lt_or_eq_of_le ha with hlt | rfl
    · rw [script_of_lt hlt] at hpayload
      rw [if_neg (by simp [(hpages _ (List.mem_of_getElem? hpayload)).not_terminal])]
      dsimp only
      rw [hmessages, due, if_pos (Nat.succ_le_of_lt hlt)]
    · obtain rfl : payload = .streamState .done := by
        simpa using hpayload.symm
      rw [if_pos (by simp [message, ServerMessage.isTerminal])]
      dsimp only
      rw [hmessages, due, if_neg (Nat.not_succ_le_self _)]

/-- What arrives of an answer is its next message, whatever else is done meanwhile. -/
theorem due_andThen_brought (hpages : ∀ page ∈ pages, IsPage extract page) {op : Hub.Op}
    (hturns : Undisturbed call (turns ++ [.other op]))
    (harrived : arrived call (turns ++ [.other op]) <+:
      (script pages).map call.message ++ further) :
    (call.due pages (arrived call turns).length).andThen (Hub.brought call.stream call.id op) =
      call.due pages (arrived call (turns ++ [.other op])).length := by
  rw [arrived_snoc] at harrived ⊢
  have hnothing : Hub.brought call.stream call.id op = {} → arrived call [.other op] = [] →
      (call.due pages (arrived call turns).length).andThen (Hub.brought call.stream call.id op) =
        call.due pages (arrived call turns ++ arrived call [.other op]).length := by
    intro hbrought hnone
    rw [hbrought, hnone, Due.andThen_nothing, List.append_nil]
  cases op with
  | receive s inbound =>
      cases inbound with
      | message m =>
          by_cases hown : s = call.stream ∧ m.requestId = call.id
          · obtain ⟨rfl, hid⟩ := hown
            have hone : arrived call [.other (.receive call.stream (.message m))] = [m] := by
              simp [arrived, hid]
            have hbrought : Hub.brought call.stream call.id (.receive call.stream (.message m)) =
                Collector.owed call.id [.route m] := if_pos rfl
            rw [hone] at harrived
            rw [hone, hbrought, List.length_append, List.length_singleton]
            refine due_andThen_route hpages hid fun ha => ?_
            have hget := List.prefix_iff_getElem?.mp harrived (arrived call turns).length (by simp)
            rw [List.getElem?_append_left (by simp [script]; omega), List.getElem?_map] at hget
            obtain ⟨payload, hpayload, hm⟩ := Option.map_eq_some_iff.mp hget
            exact ⟨payload, hpayload, by simpa using hm.symm⟩
          · refine hnothing ?_ (by simp [arrived, hown])
            rw [Hub.brought]
            split
            · have hid : m.requestId ≠ call.id := fun hid => hown ⟨‹_›, hid⟩
              simp [Collector.owed, hid]
            · rfl
      | failed error => exact hnothing rfl rfl
      | ended => exact hnothing rfl rfl
      | outboundFailed error => exact hnothing rfl rfl
  | forget s id =>
      by_cases hown : s = call.stream ∧ id = call.id
      · obtain ⟨rfl, rfl⟩ := hown
        obtain ⟨m, hmem, hterminal⟩ := hturns.held turns [] rfl
        have hover : pages.length < (arrived call turns).length := by
          -- before the end only pages have arrived
          by_contra hle
          obtain ⟨i, hi, rfl⟩ := List.mem_iff_getElem.mp hmem
          have hlt : i < pages.length := by omega
          have hget := List.prefix_iff_getElem?.mp
            ((List.prefix_append _ _).trans harrived) i hi
          rw [List.getElem?_append_left (by simp [script]; omega), List.getElem?_map,
            script_of_lt hlt] at hget
          obtain ⟨payload, hpayload, hm⟩ := Option.map_eq_some_iff.mp hget
          rw [← hm, (hpages _ (List.mem_of_getElem? hpayload)).not_terminal] at hterminal
          simp at hterminal
        have hverdict : (call.due pages (arrived call turns).length).verdict ≠ none := by
          simp [due, Nat.not_le.mpr hover]
        have hnone : arrived call [.other (.forget call.stream call.id)] = [] := rfl
        rw [Due.andThen_of_verdict hverdict, hnone, List.append_nil]
      · refine hnothing ?_ rfl
        rw [Hub.brought]
        split
        · have hid : id ≠ call.id := fun hid => hown ⟨‹_›, hid⟩
          simp [Collector.owed, hid]
        · rfl
  | _ => exact hnothing rfl rfl

end Call

namespace Hub

variable {h : Hub} {now : Nat} {p : PartReader}

/-! ## §3  Looks -/

/-- A finished reader neither reads nor asks. -/
theorem nextPart_of_finished (hp : p.finished = true) (h : Hub) (now : Nat) :
    h.nextPart now p = (.ended, p, h) := by
  simp [nextPart, nextPartWithin, hp]

/-- What a look does with one delivery: it stops there, or it takes an offer to go on, asks for more
and goes on. -/
theorem nextPartWithin_cases (hp : p.finished = false) (reads : Nat) (h : Hub) (now : Nat) :
    let read := (h.read p.call).2
    let offered := ∃ id, (h.read p.call).1 =
      .item (.ok (.responsePart ⟨id, .streamState .continue⟩))
    let asked := (read.askMore now p.call.stream p.call.id).2
    let out := nextPartWithin (reads + 1) h now p
    out = (.waiting, p, read) ∨
      (∃ payload, out = (.item (.ok payload), p, read)) ∨
      out = (.ended, { p with finished := true }, read) ∨
      (∃ error hub, out = (.item (.error error), { p with finished := true }, hub) ∧
        (hub = read ∨ offered ∧ hub = asked)) ∨
      offered ∧ out = nextPartWithin reads asked now p := by
  dsimp only
  rw [nextPartWithin, hp, if_neg Bool.false_ne_true]
  dsimp only
  generalize h.read p.call = found
  obtain ⟨delivery, h'⟩ := found
  rcases delivery with ⟨error | message⟩ | _ | _
  · exact .inr (.inr (.inr (.inl ⟨error, h', rfl, .inl rfl⟩)))
  · cases message with
    | response response =>
        refine .inr (.inr (.inr (.inl ?_)))
        dsimp only
        split
        · exact ⟨_, h', rfl, .inl rfl⟩
        · exact ⟨_, h', rfl, .inl rfl⟩
    | responsePart part =>
        obtain ⟨id, payload⟩ := part
        cases payload with
        | streamState state =>
            cases state with
            | done => exact .inr (.inr (.inl rfl))
            | «continue» =>
                dsimp only
                generalize h'.askMore now p.call.stream p.call.id = asked
                obtain ⟨error | u, h''⟩ := asked
                · exact .inr (.inr (.inr (.inl ⟨error, h'', rfl, .inr ⟨⟨id, rfl⟩, rfl⟩⟩)))
                · exact .inr (.inr (.inr (.inr ⟨⟨id, rfl⟩, rfl⟩)))
        | query part => exact .inr (.inl ⟨_, rfl⟩)
        | logic part => exact .inr (.inl ⟨_, rfl⟩)
  · exact .inr (.inr (.inl rfl))
  · exact .inl rfl

/-- A reader is finished once it has found the end or an error. -/
theorem finished_of_nextPart
    (hend : (h.nextPart now p).1 = .ended ∨ ∃ error, (h.nextPart now p).1 = .item (.error error)) :
    (h.nextPart now p).2.1.finished = true := by
  unfold nextPart at hend ⊢
  generalize h.backlog p.call + 2 = reads at hend ⊢
  induction reads generalizing h with
  | zero => simp [nextPartWithin] at hend
  | succ reads ih =>
      cases hp : p.finished with
      | true => simp [nextPartWithin, hp]
      | false =>
          rcases nextPartWithin_cases hp reads h now with
            hout | ⟨payload, hout⟩ | hout | ⟨error, hub, hout, -⟩ | ⟨-, hout⟩
          · simp [hout] at hend
          · simp [hout] at hend
          · rw [hout]
          · rw [hout]
          · rw [hout] at hend ⊢
            exact ih hend

/-- What reading and asking for more keep, a look for a part keeps. -/
theorem keeps_nextPart {P : Hub → Prop} (hread : ∀ h, P h → P (h.read p.call).2)
    (hask : ∀ h, P h → P (h.askMore now p.call.stream p.call.id).2) (hP : P h) :
    P (h.nextPart now p).2.2 ∧ (h.nextPart now p).2.1.call = p.call := by
  unfold nextPart
  generalize h.backlog p.call + 2 = reads
  induction reads generalizing h with
  | zero => exact ⟨hP, rfl⟩
  | succ reads ih =>
      cases hp : p.finished with
      | true => simpa [nextPartWithin, hp] using hP
      | false =>
          rcases nextPartWithin_cases hp reads h now with
            hout | ⟨payload, hout⟩ | hout | ⟨error, hub, hout, rfl | ⟨-, rfl⟩⟩ | ⟨-, hout⟩
          · rw [hout]
            exact ⟨hread h hP, rfl⟩
          · rw [hout]
            exact ⟨hread h hP, rfl⟩
          · rw [hout]
            exact ⟨hread h hP, rfl⟩
          · rw [hout]
            exact ⟨hread h hP, rfl⟩
          · rw [hout]
            exact ⟨hask _ (hread h hP), rfl⟩
          · rw [hout]
            exact ih (hask _ (hread h hP))

/-- What a look for an item does: it takes one that is ready, or looks for a part. -/
theorem nextItemWithin_cases (extract : PartPayload → Except Error (List α)) (looks : Nat) (h : Hub)
    (now : Nat) (r : ItemReader α) :
    let part := h.nextPart now r.parts
    let out := nextItemWithin extract (looks + 1) h now r
    (∃ item rest, r.ready = item :: rest ∧ out = (.item item, { r with ready := rest }, h)) ∨
      r.ready = [] ∧
        (part.1 = .waiting ∧ out = (.waiting, { r with parts := part.2.1 }, part.2.2) ∨
          part.1 = .ended ∧ out = (.ended, { r with parts := part.2.1 }, part.2.2) ∨
          (∃ error, (part.1 = .item (.error error) ∨
              ∃ payload, part.1 = .item (.ok payload) ∧ extract payload = .error error) ∧
            out = (.item (.error error), { r with parts := part.2.1 }, part.2.2)) ∨
          ∃ payload items, part.1 = .item (.ok payload) ∧ extract payload = .ok items ∧
            out = nextItemWithin extract looks part.2.2 now
              { parts := part.2.1, ready := items.map .ok }) := by
  dsimp only
  rw [nextItemWithin]
  obtain ⟨parts, ready⟩ := r
  cases ready with
  | cons item rest => exact .inl ⟨item, rest, rfl, rfl⟩
  | nil =>
      refine .inr ⟨rfl, ?_⟩
      dsimp only
      generalize h.nextPart now parts = part
      obtain ⟨found, parts', h'⟩ := part
      rcases found with ⟨error | payload⟩ | _ | _
      · exact .inr (.inr (.inl ⟨error, .inl rfl, rfl⟩))
      · dsimp only
        cases hshape : extract payload with
        | error error => exact .inr (.inr (.inl ⟨error, .inr ⟨payload, rfl, hshape⟩, rfl⟩))
        | ok items => exact .inr (.inr (.inr ⟨payload, items, rfl, hshape, rfl⟩))
      · exact .inr (.inl ⟨rfl, rfl⟩)
      · exact .inl ⟨rfl, rfl⟩

/-- What reading and asking for more keep, a look for an item keeps. -/
theorem keeps_nextItem {P : Hub → Prop} {r : ItemReader α}
    (hread : ∀ h, P h → P (h.read r.parts.call).2)
    (hask : ∀ h, P h → P (h.askMore now r.parts.call.stream r.parts.call.id).2) (hP : P h) :
    P (h.nextItem extract now r).2.2 ∧
      (h.nextItem extract now r).2.1.parts.call = r.parts.call := by
  unfold nextItem
  generalize h.backlog r.parts.call + 3 = looks
  induction looks generalizing h r with
  | zero => exact ⟨hP, rfl⟩
  | succ looks ih =>
      have hpart := keeps_nextPart hread hask hP
      rcases nextItemWithin_cases extract looks h now r with
        ⟨item, rest, -, hout⟩ | ⟨-, ⟨-, hout⟩ | ⟨-, hout⟩ | ⟨error, -, hout⟩ |
          ⟨_, items, -, -, hout⟩⟩
      · rw [hout]
        exact ⟨hP, rfl⟩
      · rw [hout]
        exact hpart
      · rw [hout]
        exact hpart
      · rw [hout]
        exact hpart
      · obtain ⟨hkept, hcall⟩ := hpart
        rw [hout, ← hcall]
        rw [← hcall] at hread hask
        exact ih (r := { parts := _, ready := _ }) hread hask hkept

/-- What every operation keeps, a look for an item keeps. -/
theorem keeps_look (extract : PartPayload → Except Error (List α)) (now : Nat) {P : Hub → Prop}
    {r : ItemReader α}
    (hlt : ∀ h, P h → r.parts.call.stream < h.streams.length)
    (hstep : ∀ h (op : Op), P h → P (h.step op)) (hP : P h) :
    P (h.nextItem extract now r).2.2 ∧
      (h.nextItem extract now r).2.1.parts.call = r.parts.call := by
  refine keeps_nextItem (fun u hu => ?_) (fun u hu => ?_) hP
  · have hcan : u.can (.read r.parts.call) = true := by simp [can, hlt u hu]
    have hread : u.step (.read r.parts.call) = (u.read r.parts.call).2 := step_of_can hcan
    rw [← hread]
    exact hstep u _ hu
  · let op : Op := .askMore now r.parts.call.stream r.parts.call.id
    have hcan : u.can op = true := by simp [can, op, hlt u hu]
    have hasked : u.step op = (u.askMore now r.parts.call.stream r.parts.call.id).2 :=
      step_of_can hcan
    rw [← hasked]
    exact hstep u _ hu

variable {s : Nat} {h' h'' : Hub} {xs ys : List Delivery} {due : Due}

/-- What does not read a mailbox is given nothing of it. -/
theorem given_of_own {op : Op} {k : Nat}
    (hown : ∀ other, op = .read other → other.stream = s → other.mailbox ≠ k) :
    h.given s k op = [] := by
  cases op with
  | read other =>
      refine if_neg ?_
      rintro ⟨-, hstream, hmailbox⟩
      exact hown other rfl hstream hmailbox
  | _ => rfl

/-! ## §4  A call that is served -/

/-- A stream that is open and whose dispatcher takes requests. -/
structure Live (h : Hub) (s : Nat) : Prop where
  isOpen : (h.stream s).isOpen = true
  held : (h.outlet s).closed = false

/-- A stream that is live was live before, and what was done did not close it. -/
theorem live_of_step (wf : h.WellFormed) (hs : s < h.streams.length) {op : Op}
    (hlive : (h.step op).Live s) : h.Live s ∧ h.cause s op = none := by
  obtain ⟨hopen, hheld⟩ := hlive
  rw [isOpen_step wf hs, Bool.and_eq_true, Option.isNone_iff_eq_none] at hopen
  refine ⟨⟨hopen.1, ?_⟩, hopen.2⟩
  by_contra hclosed
  have hdead : (h.outlet s).closed = true := by simpa using hclosed
  have hstays := (accepted_of_closed wf hdead [op]).2
  rw [outlet, dispatcher_step wf hs] at hheld
  exact Bool.false_ne_true (hheld.symm.trans hstays)

/-- A stream that is live after a look was live before it. -/
theorem live_of_nextItem {r : ItemReader α} (hcall : r.parts.call = call) (wf : h.WellFormed)
    (hs : call.stream < h.streams.length)
    (hlive : (h.nextItem extract now r).2.2.Live call.stream) : h.Live call.stream := by
  subst hcall
  let P (u : Hub) : Prop := u.WellFormed ∧ r.parts.call.stream < u.streams.length ∧
    (u.Live r.parts.call.stream → h.Live r.parts.call.stream)
  have hstep : ∀ (u : Hub) (op : Op), P u → P (u.step op) := fun u op ⟨wf, hs, hback⟩ =>
    ⟨wf.step op, Nat.lt_of_lt_of_le hs (length_step_le u op),
      fun hlive => hback (live_of_step wf hs hlive).1⟩
  have hkept : P (h.nextItem extract now r).2.2 :=
    (keeps_look extract now (fun u hu => hu.2.1) hstep ⟨wf, hs, id⟩).1
  exact hkept.2.2 hlive

/-- A call of a live stream, of which `n` deliveries were read. -/
structure Serves (h : Hub) (call : Call) (due : Due) (n : Nat) : Prop where
  wellFormed : h.WellFormed
  lt : call.stream < h.streams.length
  live : h.Live call.stream
  follows : Collector.Follows (h.stream call.stream).collector call.mailbox call.id due n

/-- A hub goes on to another, while deliveries are taken from the mailbox of a call and for each
offer among them one request to go on is left with the dispatcher. -/
structure Took (h : Hub) (call : Call) (taken : List Delivery) (h' : Hub) : Prop where
  unread : h.unread call = taken ++ h'.unread call
  dispatcher : (h'.stream call.stream).dispatcher = (h.stream call.stream).dispatcher
  buffer : (h'.outlet call.stream).buffer = (h.outlet call.stream).buffer ++ call.asks taken
  others : ∀ d, d ≠ (h.stream call.stream).dispatcher →
    h'.transmitter.dispatcher d = h.transmitter.dispatcher d

theorem Took.refl (h : Hub) (call : Call) : h.Took call [] h :=
  ⟨rfl, rfl, (List.append_nil _).symm, fun _ _ => rfl⟩

theorem Took.trans (hx : h.Took call xs h') (hy : h'.Took call ys h'') :
    h.Took call (xs ++ ys) h'' := by
  refine ⟨?_, hy.dispatcher.trans hx.dispatcher, ?_, fun d hd => ?_⟩
  · rw [hx.unread, hy.unread, List.append_assoc]
  · rw [hy.buffer, hx.buffer, Call.asks_append, List.append_assoc]
  · rw [hy.others d (by rwa [hx.dispatcher]), hx.others d hd]

theorem outlet_read (hs : call.stream < h.streams.length) :
    (h.read call).2.outlet call.stream = h.outlet call.stream := by
  rw [outlet, stream_read hs]
  rfl

/-- A read takes from the mailbox what it finds. -/
theorem unread_read (hserves : h.Serves call due n)
    (herror : ∀ error, (h.read call).1 ≠ .item (.error error)) :
    h.unread call = (h.read call).1.item?.toList ++ (h.read call).2.unread call := by
  obtain ⟨m, hm, -⟩ := hserves.follows.box
  have hread := Collector.read_eq_of_mailbox hm
  have hbefore : h.unread call = m.waiting := by
    rw [unread, List.getD_eq_getElem?_getD, hm]
    rfl
  have hafter : (h.read call).2.unread call =
      (m.get ((h.stream call.stream).collector.isFed call.mailbox)).2.waiting := by
    rw [unread, stream_read hserves.lt, hread]
    dsimp only
    rw [List.getD_eq_getElem?_getD, List.getElem?_set_self hserves.follows.lt_length]
    rfl
  rw [read_eq, hread] at herror
  rw [hbefore, hafter, read_eq, hread]
  exact Mailbox.waiting_get herror

/-- A read of what is no offer leaves the dispatcher as it was. -/
theorem took_read (hserves : h.Serves call due n)
    (herror : ∀ error, (h.read call).1 ≠ .item (.error error))
    (hasks : call.asks (h.read call).1.item?.toList = []) :
    h.Took call (h.read call).1.item?.toList (h.read call).2 := by
  refine ⟨unread_read hserves herror, ?_, ?_, fun _ _ => rfl⟩
  · rw [stream_read hserves.lt]
  · rw [hasks, List.append_nil, outlet_read hserves.lt]

/-- A read gives what is owed next. -/
theorem Serves.read (hserves : h.Serves call due n) :
    (h.read call).1 = due.nth n ∧
      (h.read call).2.Serves call due (n + (h.read call).1.item?.toList.length) := by
  obtain ⟨wf, hs, hlive, hf⟩ := hserves
  obtain ⟨hnext, hrest⟩ := hf.read_eq
  refine ⟨hnext, wf.read call, by rw [read_eq]; simpa using hs, ⟨?_, ?_⟩, ?_⟩
  · rw [stream_read hs]
    exact hlive.isOpen
  · rw [outlet_read hs]
    exact hlive.held
  · rw [stream_read hs]
    exact hrest

/-- A live stream takes the request to go on. -/
theorem Serves.askMore (hserves : h.Serves call due n) (now : Nat) :
    ∃ h', h.askMore now call.stream call.id = (.ok (), h') ∧ h'.Serves call due n ∧
      h'.unread call = h.unread call ∧
      (h'.stream call.stream).dispatcher = (h.stream call.stream).dispatcher ∧
      (h'.outlet call.stream).buffer =
        (h.outlet call.stream).buffer ++ [⟨call.id, .streamContinue⟩] ∧
      ∀ d, d ≠ (h.stream call.stream).dispatcher →
        h'.transmitter.dispatcher d = h.transmitter.dispatcher d := by
  obtain ⟨wf, hs, ⟨hopen, hheld⟩, hf⟩ := hserves
  let d := (h.stream call.stream).dispatcher
  have hd : d < h.transmitter.dispatchers.length := wf.bound _ hs
  have hopened : (h.transmitter.dispatcher d).closed = false := hheld
  have haccepts : h.transmitter.accepts d = true := by
    cases halive : h.transmitter.isOpen with
    | true => simp [Transmitter.accepts, halive, hopened]
    | false => simp [wf.transmitter.silent halive d hd] at hopened
  let request : Request := ⟨call.id, .streamContinue⟩
  let t := (h.transmitter.buffer d request).wake (h.transmitter.dispatcher d).worker now
  have hdispatch : h.transmitter.dispatch now d request = (.ok (), t) :=
    Transmitter.dispatch_of_accepts haccepts now request
  have hdispatcher : ∀ e, t.dispatcher e =
      if e = d then (h.transmitter.dispatcher d).buffered request
      else h.transmitter.dispatcher e := by
    intro e
    rw [Transmitter.dispatcher_wake]
    by_cases he : e < h.transmitter.dispatchers.length
    · exact Transmitter.dispatcher_buffer he d request
    · have hle := Nat.not_lt.mp he
      have hne : e ≠ d := fun h => he (h ▸ hd)
      rw [if_neg hne, Transmitter.dispatcher_of_le hle, Transmitter.dispatcher_of_le]
      rwa [Transmitter.length_of_shape (Transmitter.shape_buffer _ _ _)]
  have hasked : h.askMore now call.stream call.id = (.ok (), { h with transmitter := t }) := by
    unfold Hub.askMore
    simp only [hopen, if_true]
    rw [hdispatch]
  have hwf := wf.askMore now call.stream call.id
  rw [hasked] at hwf
  refine ⟨_, hasked, ⟨hwf, hs, ⟨hopen, ?_⟩, hf⟩, rfl, rfl, ?_, ?_⟩
  · show (t.dispatcher d).closed = false
    rw [hdispatcher d, if_pos rfl]
    exact hopened
  · show (t.dispatcher d).buffer = _
    rw [hdispatcher d, if_pos rfl]
    rfl
  · intro e he
    exact (hdispatcher e).trans (if_neg he)

/-! ## §5  A look finds what is next -/

/-- Of an answer of which `a` messages have come, a reader goes from the `n`th to the `n'`th. -/
structure Goes (h : Hub) (call : Call) (pages : List PartPayload) (a n n' : Nat) (h' : Hub) : Prop
    where
  le : n ≤ n'
  le_arrived : n' ≤ a
  le_length : n' ≤ pages.length + 1
  serves : h'.Serves call (call.due pages a) n'
  took : ∃ taken, call.taken pages n ++ taken = call.taken pages n' ∧ h.Took call taken h'

theorem Goes.refl (hserves : h.Serves call (call.due pages a) n) (ha : n ≤ a)
    (hlength : n ≤ pages.length + 1) : h.Goes call pages a n n h :=
  ⟨Nat.le_refl n, ha, hlength, hserves, [], List.append_nil _, Took.refl h call⟩

theorem Goes.trans {n' n'' : Nat} (hfirst : h.Goes call pages a n n' h')
    (hthen : h'.Goes call pages a n' n'' h'') : h.Goes call pages a n n'' h'' := by
  obtain ⟨xs, hxs, hx⟩ := hfirst.took
  obtain ⟨ys, hys, hy⟩ := hthen.took
  refine ⟨Nat.le_trans hfirst.le hthen.le, hthen.le_arrived, hthen.le_length, hthen.serves, ?_⟩
  refine ⟨xs ++ ys, ?_, hx.trans hy⟩
  rw [← List.append_assoc, hxs, hys]

/-- An answer of which everything that has come was read lets its reader wait. -/
theorem Serves.read_last (hserves : h.Serves call (call.due pages a) a) (ha : a ≤ pages.length) :
    ∃ h', h.read call = (.waiting, h') ∧ h.Goes call pages a a a h' := by
  obtain ⟨hnext, hrest⟩ := hserves.read
  rw [Call.due_nth_self ha] at hnext
  have htook := took_read hserves (by simp [hnext]) (by simp [hnext, Poll.item?])
  rw [hnext] at hrest htook
  refine ⟨_, Prod.ext hnext rfl, Nat.le_refl a, Nat.le_refl a, Nat.le_succ_of_le ha, hrest, ?_⟩
  exact ⟨[], List.append_nil _, htook⟩

/-- A part that is data, or the last one, is taken without asking for more. -/
theorem Serves.read_part (hserves : h.Serves call (call.due pages a) n)
    (hn : (script pages)[n]? = some payload) (hna : n < a)
    (hoffer : payload ≠ .streamState .continue) :
    ∃ h', h.read call = (.item (.ok (call.message payload)), h') ∧
      h.Goes call pages a n (n + 1) h' := by
  obtain ⟨hnext, hrest⟩ := hserves.read
  rw [Call.due_nth hn hna] at hnext
  have hasks : call.asks [.ok (call.message payload)] = [] := by
    simp [Call.asks, hoffer]
  have htook := took_read hserves (by simp [hnext]) (by rw [hnext]; exact hasks)
  rw [hnext] at hrest htook
  refine ⟨_, Prod.ext hnext rfl, Nat.le_succ n, hna, lt_of_script hn, hrest, ?_⟩
  exact ⟨_, Call.taken_succ hn, htook⟩

/-- An offer is taken, and the request to go on left with the dispatcher. -/
theorem Serves.read_offer (hserves : h.Serves call (call.due pages a) n)
    (hn : (script pages)[n]? = some (.streamState .continue)) (hna : n < a) (now : Nat) :
    ∃ h' h'', h.read call = (.item (.ok (call.message (.streamState .continue))), h') ∧
      h'.askMore now call.stream call.id = (.ok (), h'') ∧ h.Goes call pages a n (n + 1) h'' := by
  have hs := hserves.lt
  obtain ⟨hnext, hrest⟩ := hserves.read
  rw [Call.due_nth hn hna] at hnext
  have htaken := unread_read hserves (by simp [hnext])
  rw [hnext] at hrest htaken
  obtain ⟨h'', hasked, hserves'', hunread, hdispatcher, hbuffer, hothers⟩ := hrest.askMore now
  rw [stream_read hs] at hdispatcher hothers
  rw [outlet_read hs] at hbuffer
  refine ⟨_, h'', Prod.ext hnext rfl, hasked, Nat.le_succ n, hna, lt_of_script hn, hserves'', ?_⟩
  refine ⟨_, Call.taken_succ hn, ?_, hdispatcher, ?_, hothers⟩
  · rw [hunread]
    exact htaken
  · rw [hbuffer]
    simp [Call.asks]

/-- What a look for a part finds on its way from the `n`th delivery to the `n'`th. -/
def PartFound (extract : PartPayload → Except Error (List α)) (pages : List PartPayload)
    (a n n' : Nat) : Poll (Except Error PartPayload) → Prop
  | .waiting => n' = a ∧ a ≤ pages.length ∧ itemsTo extract pages n' = itemsTo extract pages n
  | .ended => n' = pages.length + 1 ∧ itemsTo extract pages n' = itemsTo extract pages n
  | .item (.ok payload) => n < n' ∧ n' ≤ pages.length ∧ ∃ items, extract payload = .ok items ∧
      itemsTo extract pages n' = itemsTo extract pages n ++ items
  | .item (.error _) => False

theorem PartFound.of_offer {n' : Nat} {found : Poll (Except Error PartPayload)}
    (hfound : PartFound extract pages a (n + 1) n' found)
    (hn : pages[n]? = some (.streamState .continue)) : PartFound extract pages a n n' found := by
  have hitems : itemsTo extract pages (n + 1) = itemsTo extract pages n := by
    rw [itemsTo_succ hn]
    exact List.append_nil _
  unfold PartFound at hfound ⊢
  rw [hitems] at hfound
  split
  · exact hfound
  · exact hfound
  · exact ⟨Nat.lt_of_succ_lt hfound.1, hfound.2⟩
  · exact hfound

/-- **A look for a part** passes the offers and gives the next part, or the end; it waits only if
everything that has come was read. -/
theorem nextPartWithin_found (hpages : ∀ page ∈ pages, IsPage extract page) (now reads : Nat)
    (hserves : h.Serves call (call.due pages a) n) (hna : n ≤ a) (hn : n ≤ pages.length)
    (hreads : min a (pages.length + 1) < n + reads) :
    let out := nextPartWithin reads h now ⟨call, false⟩
    ∃ n', h.Goes call pages a n n' out.2.2 ∧ out.2.1 = ⟨call, decide (pages.length < n')⟩ ∧
      PartFound extract pages a n n' out.1 := by
  induction reads generalizing h n with
  | zero => omega
  | succ reads ih =>
      intro out
      -- what has come may be read to its end, and then there is nothing to find
      rcases Nat.lt_or_eq_of_le hna with hlt | rfl
      · rcases Nat.lt_or_eq_of_le hn with hpage | rfl
        · obtain ⟨payload, hpayload⟩ : ∃ payload, pages[n]? = some payload :=
            ⟨pages[n], List.getElem?_eq_getElem hpage⟩
          have hscript : (script pages)[n]? = some payload := (script_of_lt hpage).trans hpayload
          cases hpages payload (List.mem_of_getElem? hpayload) with
          | offer =>
              obtain ⟨h', h'', hread, hasked, hgoes⟩ := hserves.read_offer hscript hlt now
              have hout : out = nextPartWithin reads h'' now ⟨call, false⟩ := by
                simp [out, nextPartWithin, hread, hasked, Call.message]
              obtain ⟨n', hrest, hparts, hfound⟩ := ih hgoes.serves hlt hpage (by omega)
              rw [hout]
              exact ⟨n', hgoes.trans hrest, hparts, hfound.of_offer hpayload⟩
          | @part _ items data shape =>
              obtain ⟨h', hread, hgoes⟩ := hserves.read_part hscript hlt (data .continue)
              have hout : out = (.item (.ok payload), ⟨call, false⟩, h') := by
                cases payload with
                | streamState state => exact absurd rfl (data state)
                | query part => simp [out, nextPartWithin, hread, Call.message]
                | logic part => simp [out, nextPartWithin, hread, Call.message]
              rw [hout]
              refine ⟨n + 1, hgoes, ?_, Nat.lt_succ_self n, hpage, items, shape, ?_⟩
              · simp [Nat.not_lt.mpr (Nat.succ_le_of_lt hpage)]
              · rw [itemsTo_succ hpayload, itemsOf_data data shape]
        · -- the end
          obtain ⟨h', hread, hgoes⟩ := hserves.read_part (script_length pages) hlt (by simp)
          have hout : out = (.ended, ⟨call, true⟩, h') := by
            simp [out, nextPartWithin, hread, Call.message]
          rw [hout]
          refine ⟨_, hgoes, by simp, rfl, ?_⟩
          rw [itemsTo_of_le (Nat.le_succ _), itemsTo_of_le (Nat.le_refl _)]
      · obtain ⟨h', hread, hgoes⟩ := hserves.read_last hn
        have hout : out = (.waiting, ⟨call, false⟩, h') := by
          simp [out, nextPartWithin, hread]
        rw [hout]
        exact ⟨n, hgoes, by simp [Nat.not_lt.mpr hn], rfl, hn, rfl⟩

/-- What is owed and was not read waits. -/
theorem length_le_backlog
    (hf : Collector.Follows (h.stream call.stream).collector call.mailbox call.id due n) :
    due.messages.length ≤ n + h.backlog call := by
  obtain ⟨m, hm, hholds⟩ := hf.box
  have hbacklog : h.backlog call = m.waiting.length := by
    rw [backlog, List.getD_eq_getElem?_getD, hm]
    rfl
  cases hholds with
  | told error verdict eq lt => exact Nat.le_add_right_of_le (Nat.le_of_lt lt)
  | unread tail untold le waiting behind =>
      rw [hbacklog, waiting, List.length_append, List.length_map, List.length_drop]
      omega

/-- What has come of an answer and was not read waits. -/
theorem Serves.le_backlog (hserves : h.Serves call (call.due pages a) n) :
    min a (pages.length + 1) ≤ n + h.backlog call := by
  have hmessages : (call.due pages a).messages.length = min a (pages.length + 1) := by
    simp [Call.due, script]
  rw [← hmessages]
  exact length_le_backlog hserves.follows

theorem nextPart_found (hpages : ∀ page ∈ pages, IsPage extract page) (now : Nat)
    (hserves : h.Serves call (call.due pages a) n) (hna : n ≤ a) (hn : n ≤ pages.length + 1)
    (hp : p = ⟨call, decide (pages.length < n)⟩) :
    let out := h.nextPart now p
    ∃ n', h.Goes call pages a n n' out.2.2 ∧ out.2.1 = ⟨call, decide (pages.length < n')⟩ ∧
      PartFound extract pages a n n' out.1 := by
  rcases Nat.lt_or_ge pages.length n with hover | hlength
  · have hfinished : p.finished = true := by simp [hp, hover]
    rw [nextPart_of_finished hfinished]
    exact ⟨n, Goes.refl hserves hna hn, hp, Nat.le_antisymm hn hover, rfl⟩
  · have hbacklog := hserves.le_backlog
    have hreads : min a (pages.length + 1) < n + (h.backlog call + 2) := by omega
    obtain rfl : p = ⟨call, false⟩ := by simp [hp, Nat.not_lt.mpr hlength]
    exact nextPartWithin_found hpages now _ hserves hna hlength hreads

/-- What a look for an item finds when it goes to the `n`th delivery: the owner got `prior` before,
and `ready` is for later. -/
def ItemFound (extract : PartPayload → Except Error (List α)) (pages : List PartPayload) (a n : Nat)
    (prior ready : List (Except Error α)) : Poll (Except Error α) → Prop
  | .item item => (itemsTo extract pages n).map .ok = prior ++ item :: ready
  | .waiting => n = a ∧ a ≤ pages.length ∧ ready = [] ∧ (itemsTo extract pages n).map .ok = prior
  | .ended => n = pages.length + 1 ∧ ready = [] ∧ (itemsTo extract pages n).map .ok = prior

/-- What a look finds depends on what has come and on how much the owner got before. -/
theorem ItemFound.found_eq {prior ready : List (Except Error α)} {found : Poll (Except Error α)}
    (hfound : ItemFound extract pages a n prior ready found) (hna : n ≤ a) :
    found =
      match (itemsTo extract pages a)[prior.length]? with
      | some item => .item (.ok item)
      | none => if a ≤ pages.length then .waiting else .ended := by
  cases found with
  | item item =>
      have hprefix : prior ++ item :: ready <+: (itemsTo extract pages a).map .ok :=
        hfound ▸ (itemsTo_mono hna).map Except.ok
      have hget := List.prefix_iff_getElem?.mp hprefix prior.length (by simp)
      rw [List.getElem?_map] at hget
      obtain ⟨next, hnext, hitem⟩ := Option.map_eq_some_iff.mp hget
      obtain rfl : .ok next = item := by simpa using hitem
      rw [hnext]
  | waiting =>
      obtain ⟨rfl, ha, -, rfl⟩ := hfound
      rw [List.length_map, List.getElem?_eq_none (Nat.le_refl _)]
      exact (if_pos ha).symm
  | ended =>
      obtain ⟨rfl, -, rfl⟩ := hfound
      rw [List.length_map, itemsTo_of_le (Nat.le_of_succ_le hna), itemsTo_of_le (Nat.le_succ _),
        List.getElem?_eq_none (Nat.le_refl _)]
      exact (if_neg (Nat.not_le.mpr hna)).symm

/-- **A look for an item** gives the next item, or the end; it waits only if everything that has come
was read. -/
theorem nextItemWithin_found (hpages : ∀ page ∈ pages, IsPage extract page) (now looks : Nat)
    {r : ItemReader α} {prior : List (Except Error α)}
    (hserves : h.Serves call (call.due pages a) n) (hna : n ≤ a) (hn : n ≤ pages.length + 1)
    (hparts : r.parts = ⟨call, decide (pages.length < n)⟩)
    (hprior : (itemsTo extract pages n).map .ok = prior ++ r.ready)
    (hlooks : min a (pages.length + 1) < n + looks) :
    let out := nextItemWithin extract looks h now r
    ∃ n', h.Goes call pages a n n' out.2.2 ∧ out.2.1.parts = ⟨call, decide (pages.length < n')⟩ ∧
      ItemFound extract pages a n' prior out.2.1.ready out.1 := by
  induction looks generalizing h n r with
  | zero => omega
  | succ looks ih =>
      intro out
      obtain ⟨n', hgoes, hparts', hfound⟩ := nextPart_found hpages now hserves hna hn hparts
      rcases nextItemWithin_cases extract looks h now r with
        ⟨item, rest, hready, hout⟩ | ⟨hready, ⟨hpart, hout⟩ | ⟨hpart, hout⟩ | ⟨error, hpart, hout⟩ |
          ⟨payload, items, hpart, hshape, hout⟩⟩
      · rw [show out = _ from hout]
        refine ⟨n, Goes.refl hserves hna hn, hparts, ?_⟩
        rw [hready] at hprior
        exact hprior
      · rw [hpart] at hfound
        obtain ⟨hn', ha, hitems⟩ := hfound
        rw [show out = _ from hout]
        refine ⟨n', hgoes, hparts', hn', ha, hready, ?_⟩
        rw [hitems, hprior, hready, List.append_nil]
      · rw [hpart] at hfound
        obtain ⟨hn', hitems⟩ := hfound
        rw [show out = _ from hout]
        refine ⟨n', hgoes, hparts', hn', hready, ?_⟩
        rw [hitems, hprior, hready, List.append_nil]
      · -- every page has the right shape
        rcases hpart with hpart | ⟨payload, hpart, hshape⟩
        · rw [hpart] at hfound
          exact hfound.elim
        · rw [hpart] at hfound
          obtain ⟨-, -, items, hshape', -⟩ := hfound
          rw [hshape] at hshape'
          cases hshape'
      · rw [hpart] at hfound
        obtain ⟨hlt, hn', items', hshape', hitems⟩ := hfound
        obtain rfl : items = items' := by
          rw [hshape] at hshape'
          exact Except.ok.inj hshape'
        have hprior' : (itemsTo extract pages n').map .ok = prior ++ items.map .ok := by
          rw [hitems, List.map_append, hprior, hready, List.append_nil]
        obtain ⟨n'', hrest, hparts'', hfound'⟩ := ih (r := { parts := _, ready := items.map .ok })
          hgoes.serves hgoes.le_arrived hgoes.le_length hparts' hprior' (by omega)
        rw [show out = _ from hout]
        exact ⟨n'', hgoes.trans hrest, hparts'', hfound'⟩

theorem nextItem_found (hpages : ∀ page ∈ pages, IsPage extract page) (now : Nat)
    {r : ItemReader α} {prior : List (Except Error α)}
    (hserves : h.Serves call (call.due pages a) n) (hna : n ≤ a) (hn : n ≤ pages.length + 1)
    (hparts : r.parts = ⟨call, decide (pages.length < n)⟩)
    (hprior : (itemsTo extract pages n).map .ok = prior ++ r.ready) :
    let out := h.nextItem extract now r
    ∃ n', h.Goes call pages a n n' out.2.2 ∧ out.2.1.parts = ⟨call, decide (pages.length < n')⟩ ∧
      ItemFound extract pages a n' prior out.2.1.ready out.1 := by
  have hbacklog := hserves.le_backlog
  have hcall : r.parts.call = call := by rw [hparts]
  have hlooks : min a (pages.length + 1) < n + (h.backlog r.parts.call + 3) := by
    rw [hcall]
    omega
  exact nextItemWithin_found hpages now _ hserves hna hn hparts hprior hlooks

/-- The call that a batched request has begun. -/
theorem begun_of_send (hs : s < h.streams.length) {payload : RequestPayload}
    (hsend : h.send now s payload true = (.ok call, h')) :
    call.stream = s ∧
      Collector.Follows (h'.stream s).collector call.mailbox call.id {} 0 := by
  obtain ⟨-, hstream, hid, hregister, hposted⟩ := sent_of_send hs hsend
  obtain rfl : h' = ((h.registered s).post now s ⟨⟨(h.stream s).nextId⟩, payload⟩ true).2 := by
    rw [hposted]
  have hsame : ((h.registered s).post now s ⟨⟨(h.stream s).nextId⟩, payload⟩ true).2.stream s =
      (h.registered s).stream s := rfl
  rw [hsame, stream_registered hs, if_pos rfl, hid]
  exact ⟨hstream, Collector.follows_register hregister⟩

end Hub

/-! ## §6  A reading -/

namespace Reading

variable {x : Reading α} {told : List (Except Error α)} {asked : List Request}

/-- A hub with a reader that has read nothing. -/
def start (h : Hub) (call : Call) : Reading α := { hub := h, reader := { parts := { call } } }

/-- How a reading stands when `a` messages have come of an answer and `n` of them were read: the
owner got the items of the pages that were read, less those that are ready, and one request to go on
was left for each offer. -/
structure Sound (extract : PartPayload → Except Error (List α)) (call : Call)
    (pages : List PartPayload) (a : Nat) (told : List (Except Error α)) (asked : List Request)
    (x : Reading α) (n : Nat) : Prop where
  serves : x.hub.Serves call (call.due pages a) n
  le_arrived : n ≤ a
  le_length : n ≤ pages.length + 1
  parts : x.reader.parts = ⟨call, decide (pages.length < n)⟩
  told : (itemsTo extract pages n).map .ok = told ++ x.reader.ready
  asked : asked = call.asks (call.taken pages n)

/-- The owner got the first items of what has come. -/
theorem Sound.told_initial (hsound : Sound extract call pages a told asked x n) :
    told <+: (itemsTo extract pages a).map .ok := by
  have hread : (itemsTo extract pages n).map .ok <+:
      (itemsTo extract pages a).map (.ok : α → Except Error α) :=
    (itemsTo_mono hsound.le_arrived).map _
  rw [hsound.told] at hread
  exact (List.prefix_append _ _).trans hread

/-- A look in a sound reading. -/
theorem Sound.look (hsound : Sound extract call pages a told asked x n)
    (hpages : ∀ page ∈ pages, IsPage extract page) (now : Nat) :
    ∃ n' taken, x.hub.Took call taken (x.look extract now).2.hub ∧
      x.asking extract (.look now) = call.asks taken ∧
      Sound extract call pages a (told ++ x.telling extract (.look now))
        (asked ++ x.asking extract (.look now)) (x.look extract now).2 n' ∧
      Hub.ItemFound extract pages a n' told (x.look extract now).2.reader.ready
        (x.look extract now).1 := by
  obtain ⟨n', hgoes, hparts, hfound⟩ := Hub.nextItem_found hpages now hsound.serves
    hsound.le_arrived hsound.le_length hsound.parts hsound.told
  obtain ⟨taken, htaken, htook⟩ := hgoes.took
  have hasking : x.asking extract (.look now) = call.asks taken := by
    have hbuffer := htook.buffer
    simp only [asking, hsound.parts]
    rw [show (x.look extract now).2.hub = (x.hub.nextItem extract now x.reader).2.2 from rfl,
      hbuffer, List.drop_left]
  refine ⟨n', taken, htook, hasking, ?_, hfound⟩
  refine ⟨hgoes.serves, hgoes.le_arrived, hgoes.le_length, hparts, ?_, ?_⟩
  · rw [telling, List.append_assoc]
    change Hub.ItemFound extract pages a n' told (x.look extract now).2.reader.ready
      (x.look extract now).1 at hfound
    cases hpoll : (x.look extract now).1 with
    | item item =>
        rw [hpoll] at hfound
        exact hfound
    | waiting =>
        rw [hpoll] at hfound
        obtain ⟨-, -, hready, htold⟩ := hfound
        rw [hready, htold]
        exact (List.append_nil _).symm
    | ended =>
        rw [hpoll] at hfound
        obtain ⟨-, hready, htold⟩ := hfound
        rw [hready, htold]
        exact (List.append_nil _).symm
  · rw [hasking, hsound.asked, ← Call.asks_append, htaken]

/-- Another operation in a sound reading. -/
theorem Sound.other (hsound : Sound extract call pages (arrived call turns).length told asked x n)
    (hpages : ∀ page ∈ pages, IsPage extract page) {op : Hub.Op}
    (hturns : Undisturbed call (turns ++ [.other op]))
    (harrived : arrived call (turns ++ [.other op]) <+:
      (script pages).map call.message ++ further)
    (hlive : (x.hub.step op).Live call.stream) :
    Sound extract call pages (arrived call (turns ++ [.other op])).length told asked
      (x.step extract (.other op)) n := by
  obtain ⟨⟨wf, hs, -, hf⟩, hna, hn, hparts, htold, hasked⟩ := hsound
  -- The stream is still open, so the operation only brings what arrives, and reads another mailbox.
  have hcause := (Hub.live_of_step wf hs hlive).2
  have hgiven : x.hub.given call.stream call.mailbox op = [] :=
    Hub.given_of_own fun other hop => hturns.own other (by simp [hop])
  have hfollows := Hub.follows_step wf hs hf op
  rw [Hub.adds_of_no_cause hcause, hgiven, Call.due_andThen_brought hpages hturns harrived]
    at hfollows
  have hmore : (arrived call turns).length ≤ (arrived call (turns ++ [.other op])).length := by
    rw [arrived_snoc, List.length_append]
    exact Nat.le_add_right _ _
  refine ⟨⟨wf.step op, Nat.lt_of_lt_of_le hs (Hub.length_step_le _ op), hlive, hfollows⟩, ?_, hn,
    hparts, htold, hasked⟩
  exact Nat.le_trans hna hmore

/-- What a run keeps, live or not. -/
theorem keeps_run (extract : PartPayload → Except Error (List α)) {h : Hub} (wf : h.WellFormed)
    (hs : call.stream < h.streams.length) (turns : List Turn) :
    let x := (start h call : Reading α).run extract turns
    x.hub.WellFormed ∧ call.stream < x.hub.streams.length ∧ x.reader.parts.call = call := by
  refine Run.keeps (P := fun x : Reading α => x.hub.WellFormed ∧
    call.stream < x.hub.streams.length ∧ x.reader.parts.call = call) ?_ ⟨wf, hs, rfl⟩ turns
  rintro x turn ⟨wf, hs, hcall⟩
  cases turn with
  | other op => exact ⟨wf.step op, Nat.lt_of_lt_of_le hs (Hub.length_step_le _ op), hcall⟩
  | look now =>
      obtain ⟨⟨wf', hs'⟩, hcall'⟩ := Hub.keeps_look extract now
        (P := fun u => u.WellFormed ∧ call.stream < u.streams.length) (r := x.reader)
        (fun u hu => hcall ▸ hu.2)
        (fun u op hu => ⟨hu.1.step op, Nat.lt_of_lt_of_le hu.2 (Hub.length_step_le _ op)⟩) ⟨wf, hs⟩
      exact ⟨wf', hs', hcall'.trans hcall⟩

/-- **A run.** As long as the stream is live, a reading that starts with a call is sound. -/
theorem sound_run {h : Hub} (wf : h.WellFormed) (hs : call.stream < h.streams.length)
    (hf : Collector.Follows (h.stream call.stream).collector call.mailbox call.id {} 0)
    (hpages : ∀ page ∈ pages, IsPage extract page) (hturns : Undisturbed call turns)
    (harrived : arrived call turns <+: (script pages).map call.message ++ further)
    (hlive : ((start h call : Reading α).run extract turns).hub.Live call.stream) :
    ∃ n, Sound extract call pages (arrived call turns).length
      ((start h call).told extract turns) ((start h call).asked extract turns)
      ((start h call).run extract turns) n := by
  induction turns using List.reverseRecOn with
  | nil =>
      have hdue : call.due pages 0 = {} := rfl
      refine ⟨0, ⟨wf, hs, hlive, ?_⟩, Nat.le_refl 0, Nat.zero_le _, rfl, rfl, rfl⟩
      rw [arrived, List.flatMap_nil, List.length_nil, hdue]
      exact hf
  | append_singleton turns turn ih =>
      have hbefore : arrived call turns <+: (script pages).map call.message ++ further := by
        rw [arrived_snoc] at harrived
        exact (List.prefix_append _ _).trans harrived
      -- liveness is known of the end of the run, and goes back turn by turn
      obtain ⟨wfx, hsx, hcall⟩ := keeps_run extract wf hs turns
      rw [run_snoc] at hlive
      rw [told_snoc, asked_snoc, run_snoc]
      cases turn with
      | other op =>
          have hlivex := (Hub.live_of_step wfx hsx hlive).1
          obtain ⟨n, hsound⟩ := ih hturns.init hbefore hlivex
          rw [telling, asking, List.append_nil, List.append_nil]
          exact ⟨n, hsound.other hpages hturns harrived hlive⟩
      | look now =>
          have hlivex : ((start h call).run extract turns).hub.Live call.stream :=
            Hub.live_of_nextItem hcall wfx hsx hlive
          obtain ⟨n, hsound⟩ := ih hturns.init hbefore hlivex
          obtain ⟨n', taken, -, -, hsound', -⟩ := hsound.look hpages now
          rw [arrived_snoc, show arrived call [.look now] = [] from rfl, List.append_nil]
          exact ⟨n', hsound'⟩

theorem look_of_finished (hfinished : x.reader.parts.finished = true) (hready : x.reader.ready = [])
    (now : Nat) : x.look extract now = (.ended, x) := by
  obtain ⟨h, parts, ready⟩ := x
  obtain rfl : ready = [] := hready
  rw [look, Hub.nextItem, Hub.nextItemWithin]
  dsimp only
  rw [Hub.nextPart_of_finished hfinished]

/-- **Pagination is transparent.** A streamed call is begun in any reachable hub, and its answer comes
in pages, among any other operations, on a stream that stays open with a dispatcher that stays open.
However many pages have come, the owner of the reader has got the items of the answer in order; the
next look gives the next of them, or waits if none has come, or tells the end once the last message
has come and every item was got; a look leaves with the dispatcher one request to go on for each
offer that it takes, and changes no other dispatcher; when the end is told, all items of all pages
were got, one request was left for each offer, and further looks change nothing. And whatever was
read before, a reader of parts that has told the end or an error neither reads nor asks again. -/
theorem pages_are_transparent (extract : PartPayload → Except Error (List α))
    (config : TransmitterConfig) (before : List Hub.Op) (now s : Nat) (payload : RequestPayload)
    (call : Call) (h : Hub) (hs : s < ((Hub.new config).run before).streams.length)
    (hsend : ((Hub.new config).run before).send now s payload true = (.ok call, h))
    (pages : List PartPayload) (hpages : ∀ page ∈ pages, IsPage extract page)
    (further : List ServerMessage) (turns : List Turn) (hturns : Undisturbed call turns)
    (harrived : arrived call turns <+: (script pages).map call.message ++ further)
    (hlive : ((start h call).run extract turns).hub.Live s) :
    let x := (start h call).run extract turns
    let told := (start h call).told extract turns
    let asked := (start h call).asked extract turns
    let a := (arrived call turns).length
    let items := itemsTo extract pages a
    told <+: items.map .ok ∧
      (∀ now,
        let found := (x.look extract now).1
        let y := (x.look extract now).2
        found =
            (match items[told.length]? with
            | some item => .item (.ok item)
            | none => if a ≤ pages.length then .waiting else .ended) ∧
          (∃ taken, x.hub.Took call taken y.hub ∧
            x.asking extract (.look now) = call.asks taken) ∧
          (found = .ended →
            told = (pages.flatMap (itemsOf extract)).map .ok ∧
              asked ++ x.asking extract (.look now) =
                List.replicate (pages.count (.streamState .continue))
                  ⟨call.id, .streamContinue⟩ ∧
              ∀ now', y.look extract now' = (.ended, y))) ∧
      ∀ (h : Hub) (now : Nat) (p : PartReader),
        let found := (h.nextPart now p).1
        let p' := (h.nextPart now p).2.1
        (found = .ended ∨ ∃ error, found = .item (.error error)) →
          ∀ (h' : Hub) (now' : Nat), h'.nextPart now' p' = (.ended, p', h') := by
  intro x told asked a items
  have wf := (Hub.wellFormed_new config).run before
  obtain ⟨rfl, hf⟩ := Hub.begun_of_send hs hsend
  have wfh : h.WellFormed := by
    have := wf.send hs now payload true
    rwa [hsend] at this
  have hsh : call.stream < h.streams.length := by
    have := Hub.length_send hs now payload true
    rw [hsend] at this
    exact this.symm ▸ hs
  obtain ⟨n, hsound⟩ := sound_run wfh hsh hf hpages hturns harrived hlive
  refine ⟨hsound.told_initial, fun now => ?_, fun h now p hend h' now' => ?_⟩
  · obtain ⟨n', taken, htook, hasking, hsound', hfound⟩ := hsound.look hpages now
    refine ⟨hfound.found_eq hsound'.le_arrived, ⟨taken, htook, hasking⟩, fun hended => ?_⟩
    rw [show (x.look extract now).1 = .ended from hended] at hfound
    obtain ⟨rfl, hready, htold⟩ := hfound
    have hfinished : (x.look extract now).2.reader.parts.finished = true := by
      rw [hsound'.parts]
      simp
    refine ⟨?_, ?_, look_of_finished hfinished hready⟩
    · rw [← itemsTo_of_le (Nat.le_succ pages.length)]
      exact htold.symm
    · rw [hsound'.asked, Call.asks_taken_all]
  · exact Hub.nextPart_of_finished (Hub.finished_of_nextPart hend) h' now'

/-- Three rules in two parts, with an empty part and an offer between them, and a second `done`. -/
theorem pages_are_transparent_rules :
    let rule (label : String) : Rule := ⟨label, "", ""⟩
    let part (labels : List String) : PartPayload := .logic (.rules (labels.map rule))
    let extract := AnswerKind.rules.extract
    let config : TransmitterConfig := {}
    let before : List Hub.Op := [.reserve, .attach 0 "server"]
    let call : Call := ⟨0, 0, ⟨1⟩⟩
    let h := (((Hub.new config).run before).send 0 0 (.logic .getRules) true).2
    let pages := [part ["a"], .streamState .continue, part [], part ["b", "c"]]
    let brings (payload : PartPayload) : Turn := .other (.receive 0 (.message (call.message payload)))
    let turns : List Turn :=
      [.look 0, brings (part ["a"]), brings (.streamState .continue), .look 1, .look 2,
        brings (part []), brings (part ["b", "c"]), .look 3, brings (.streamState .done),
        brings (.streamState .done), .look 4]
    let x := (start h call : Reading Answer).run extract turns
    (∀ page ∈ pages, IsPage extract page) ∧
      (start h call).told extract turns =
        ["a", "b", "c"].map (fun label => .ok (.rule (rule label))) ∧
      (x.look extract 5).1 = .ended ∧
      (start h call).asked extract turns ++ x.asking extract (.look 5) =
        [⟨⟨1⟩, .streamContinue⟩] := by
  intro rule part extract config before call h pages brings turns x
  have hpages : ∀ page ∈ pages, IsPage extract page := by
    intro page hpage
    have hpart : ∀ labels, IsPage extract (part labels) := fun labels => .part (by simp [part]) rfl
    simp only [pages, List.mem_cons, List.not_mem_nil, or_false] at hpage
    rcases hpage with rfl | rfl | rfl | rfl
    · exact hpart _
    · exact .offer
    · exact hpart _
    · exact hpart _
  have hturns : Undisturbed call turns := by
    refine ⟨?_, ?_⟩
    · intro other hmem
      simp [turns, brings] at hmem
    · intro xs ys hsplit
      have hmem : Turn.other (.forget call.stream call.id) ∈ turns := by
        rw [hsplit]
        simp
      simp [turns, brings] at hmem
  have hsend : ((Hub.new config).run before).send 0 0 (.logic .getRules) true = (.ok call, h) :=
    Prod.ext (by decide +kernel) rfl
  obtain ⟨-, hlook, -⟩ := pages_are_transparent extract config before 0 0 (.logic .getRules) call h
    (by decide +kernel) hsend pages hpages [call.message (.streamState .done)] turns hturns
    (by decide +kernel) ⟨by decide +kernel, by decide +kernel⟩
  have hended : (x.look extract 5).1 = .ended := by decide +kernel
  obtain ⟨htold, hasked, -⟩ := (hlook 5).2.2 hended
  exact ⟨hpages, htold, hended, hasked⟩

end Reading

end GraphDriver
