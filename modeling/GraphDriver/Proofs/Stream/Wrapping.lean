import GraphDriver.Proofs.Stream.Iteration
import GraphDriver.Proofs.Stream.Pending

/-!
# Numbers that start again

What becomes of the calls of a stream when its numbers start again, after `2^32` requests. No call
is entered under the number of one in flight: the registration is refused, and the call fails. But a
reader that is dropped ends the entry under its number, whoever has the number by then, and a reader
may be kept for as long as one likes. One that was kept from before the numbers started again takes
out the call of another.

* §1 calls, however many there are
* §2 a reader that is kept too long
-/

namespace GraphDriver

namespace Hub

variable {h : Hub} {s now : Nat} {payload : RequestPayload} {batched : Bool} {call : Call} {op : Op}

/-! ## §1  Calls, however many there are -/

/-- A call that begins gets a number under which no call is in flight. -/
theorem free_of_send (hs : s < h.streams.length)
    (hsend : (h.send now s payload batched).1 = .ok call) :
    (h.stream s).collector.isRegistered call.id = false := by
  obtain ⟨-, -, hid, hregister, -⟩ := sent_of_send hs (Prod.ext hsend rfl)
  rw [hid]
  exact Collector.free_of_register hregister

/-- A call that begins leaves its stream open. -/
theorem open_of_send (wf : h.WellFormed) (hs : s < h.streams.length)
    (hsend : (h.send now s payload batched).1 = .ok call) :
    ((h.step (.send now s payload batched)).stream s).isOpen = true := by
  obtain ⟨hopen, -⟩ := sent_of_send hs (Prod.ext hsend rfl)
  rw [isOpen_step wf hs, hopen, Bool.true_and, Option.isNone_iff_eq_none]
  by_contra hcause
  obtain ⟨c, hcause⟩ := Option.ne_none_iff_exists'.mp hcause
  obtain ⟨refusal, -, -, hfailed⟩ := send_of_cause wf hs hopen hcause
  cases hfailed.symm.trans hsend

/-- A call that begins adds its entry, and that is all. -/
theorem registered_of_send (wf : h.WellFormed) (hs : s < h.streams.length)
    (hsend : (h.send now s payload batched).1 = .ok call) (e : RequestId × Nat) :
    e ∈ ((h.step (.send now s payload batched)).stream s).collector.registered ↔
      e = (call.id, call.mailbox) ∨ e ∈ (h.stream s).collector.registered := by
  have hbegins : h.begins s (.send now s payload batched) = [call] := by
    simp [begins, hs, hsend, Except.toOption]
  rw [mem_registered_step wf hs (open_of_send wf hs hsend), hbegins]
  simp [ends_iff]

/-- What is given up is what is registered under the number, and nothing else. -/
theorem registered_forget (wf : h.WellFormed) (hs : s < h.streams.length) (s' : Nat)
    (id : RequestId) :
    ((h.step (.forget s' id)).stream s).isOpen = (h.stream s).isOpen ∧
      ∀ e, e ∈ ((h.step (.forget s' id)).stream s).collector.registered ↔
        e ∈ (h.stream s).collector.registered ∧ ¬ (s' = s ∧ id = e.1) := by
  have hstays := isOpen_step wf hs (.forget s' id)
  rw [show h.cause s (.forget s' id) = none from rfl, Option.isNone_none, Bool.and_true] at hstays
  refine ⟨hstays, fun e => ?_⟩
  cases hopen : (h.stream s).isOpen with
  | true =>
      rw [mem_registered_step wf hs (hstays.trans hopen), ends_forget]
      simp [begins]
  | false =>
      have hs' := Nat.lt_of_lt_of_le hs (length_step_le h (.forget s' id))
      rw [registered_of_closed wf hs hopen,
        registered_of_closed (wf.step _) hs' (hstays.trans hopen)]
      simp

/-- A request that waits for the next batch begins a call if the stream is open, its dispatcher
takes requests and the next number is free. -/
theorem send_of_free (wf : h.WellFormed) (hs : s < h.streams.length)
    (hopen : (h.stream s).isOpen = true)
    (haccepts : h.transmitter.accepts (h.stream s).dispatcher = true)
    (hfree : (h.stream s).collector.isRegistered ⟨(h.stream s).nextId⟩ = false) :
    (h.send now s payload true).1 = .ok ⟨s, h.boxes s, ⟨(h.stream s).nextId⟩⟩ := by
  have hclosed : (h.stream s).collector.closed = false := by
    simpa [hopen] using (wf.sound s hs).alive
  have hregister : ((h.stream s).collector.register ⟨(h.stream s).nextId⟩).1 =
      .ok (h.boxes s) := by
    simp [Collector.register, hclosed, hfree, boxes]
  have hposted : ((h.registered s).post now s ⟨⟨(h.stream s).nextId⟩, payload⟩ true).1 =
      .ok () := by
    rw [post, if_pos rfl, dispatcher_registered h s hs]
    show (h.transmitter.dispatch now (h.stream s).dispatcher _).1 = _
    rw [Transmitter.dispatch_of_accepts haccepts]
  rw [send_of_registered hs hopen hregister, hposted]

/-- A request that waits for the next batch does not change who takes requests. -/
theorem accepts_send (hs : s < h.streams.length)
    (hsend : (h.send now s payload true).1 = .ok call) (d : Nat) :
    (h.step (.send now s payload true)).transmitter.accepts d = h.transmitter.accepts d := by
  obtain ⟨-, -, -, -, hposted⟩ := sent_of_send hs (Prod.ext hsend rfl)
  rw [post, if_pos rfl] at hposted
  have hlast : _ = (h.send now s payload true).2.transmitter :=
    congrArg Hub.transmitter (Prod.mk.inj hposted).2
  rw [step_of_can (by simpa [can] using hs), perform, ← hlast]
  exact Transmitter.accepts_dispatch ..

theorem nextId_send (wf : h.WellFormed) (hs : s < h.streams.length)
    (hopen : (h.stream s).isOpen = true) :
    ((h.step (.send now s payload batched)).stream s).nextId = (h.stream s).nextId + 1 := by
  rw [stream_step wf hs]
  simp [effect, numbers, hopen]

theorem step_forget (hs : s < h.streams.length) (id : RequestId) :
    h.step (.forget s id) = h.forget s id :=
  step_of_can (by simpa [can] using hs)

namespace Custody

variable {x : Custody} {config : TransmitterConfig} {deeds : List Deed} {kind : CallKind}

/-- The calls that begin at the hub are those that the deed begins. -/
theorem exists_mem_begins {deed : Deed} (hops : x.ops deed = [op])
    (hbegins : call ∈ x.hub.begins s op) : ∃ kind, (kind, call) ∈ x.begins deed := by
  obtain ⟨-, now, payload, batched, rfl, -⟩ := Hub.mem_begins.mp hbegins
  cases deed with
  | call kind now' s' payload' =>
      obtain ⟨rfl, rfl, rfl, rfl⟩ := Op.send.inj (List.singleton_inj.mp hops)
      exact ⟨kind, List.mem_map_of_mem hbegins⟩
  | drop place =>
      obtain ⟨dropped, -, hdropped⟩ := List.map_eq_singleton_iff.mp hops
      cases hdropped
  | other op' haside =>
      obtain rfl := List.singleton_inj.mp hops
      simp [Op.isAside] at haside

/-- Every entry is that of a call that began, however many have. -/
theorem begun_of_mem_registered (config : TransmitterConfig) (deeds : List Deed) (s : Nat)
    (hs : s < ((new config).run deeds).hub.streams.length) {e : RequestId × Nat}
    (he : e ∈ (((new config).run deeds).hub.stream s).collector.registered) :
    ∃ kind, (kind, ⟨s, e.2, e.1⟩) ∈ (new config).begun deeds := by
  induction deeds using List.reverseRecOn with
  | nil => exact absurd hs (Nat.not_lt_zero _)
  | append_singleton deeds deed ih =>
      have wf := wellFormed_run config deeds
      rw [run_snoc] at hs he
      rw [begun_snoc]
      by_cases hold : s < ((new config).run deeds).hub.streams.length
      · have hkept : e ∈ (((new config).run deeds).hub.stream s).collector.registered →
            ∃ kind, (kind, ⟨s, e.2, e.1⟩) ∈
              (new config).begun deeds ++ ((new config).run deeds).begins deed := by
          intro he
          obtain ⟨kind, hbegun⟩ := ih hold he
          exact ⟨kind, List.mem_append_left _ hbegun⟩
        rcases ((new config).run deeds).ops_cases deed with hops | ⟨op, hops⟩
        · rw [hub_step, hops] at he
          exact hkept he
        · have hhub : (((new config).run deeds).step deed).hub =
              ((new config).run deeds).hub.step op := by
            rw [hub_step, hops]
            rfl
          rw [hhub] at hs he
          cases hopen' : ((((new config).run deeds).hub.step op).stream s).isOpen with
          | false =>
              rw [registered_of_closed (wf.step op) hs hopen'] at he
              exact absurd he List.not_mem_nil
          | true =>
              rcases (mem_registered_step wf hold hopen').mp he with ⟨call, hbegins, rfl⟩ | ⟨he, -⟩
              · obtain ⟨kind, hmem⟩ := exists_mem_begins hops hbegins
                obtain ⟨rfl, -, -⟩ := boxes_begins wf hbegins
                exact ⟨kind, List.mem_append_right _ hmem⟩
              · exact hkept he
      · rw [registered_of_new hold hs] at he
        exact absurd he List.not_mem_nil

/-- What the drop of a reader takes out is what is registered under its number. -/
theorem registered_drop (wf : x.hub.WellFormed) {s : Nat} (hs : s < x.hub.streams.length)
    {place : Nat} {dropped : Call} (hplace : x.readers[place]? = some dropped)
    (e : RequestId × Nat) :
    e ∈ ((x.step (.drop place)).hub.stream s).collector.registered ↔
      e ∈ (x.hub.stream s).collector.registered ∧
        ¬ (dropped.stream = s ∧ dropped.id = e.1) := by
  rw [hub_drop hplace]
  exact (registered_forget wf hs dropped.stream dropped.id).2 e

/-- The other calls keep their entries exactly if none of them has the number of the reader. -/
theorem drop_spares_iff (wf : x.hub.WellFormed) {s : Nat} (hs : s < x.hub.streams.length)
    {place : Nat} {dropped : Call} (hplace : x.readers[place]? = some dropped) :
    (∀ e ∈ (x.hub.stream s).collector.registered, ⟨s, e.2, e.1⟩ ≠ dropped →
        e ∈ ((x.step (.drop place)).hub.stream s).collector.registered) ↔
      (dropped.stream = s → ∀ k, (dropped.id, k) ∈ (x.hub.stream s).collector.registered →
        k = dropped.mailbox) := by
  constructor
  · intro hspared hstream k hk
    by_contra hother
    have hne : (⟨s, k, dropped.id⟩ : Call) ≠ dropped := fun heq =>
      hother (congrArg Call.mailbox heq)
    exact ((registered_drop wf hs hplace _).mp (hspared _ hk hne)).2 ⟨hstream, rfl⟩
  · rintro hapart ⟨id, k⟩ he hne
    refine (registered_drop wf hs hplace _).mpr ⟨he, ?_⟩
    rintro ⟨rfl, rfl⟩
    obtain rfl := hapart rfl k he
    exact hne rfl

/-- **Calls stay apart.** In any run over a new transmitter, however many calls it makes, and for
any stream that was opened in it: every entry of the stream is that of a call that began, and no two
of these calls are the same. A call begins under a number that is not registered, and adds its entry
to those that are there; or it fails and leaves them, unless it is refused with its batch, which
closes the stream. Nothing else but the drop of a reader takes out an entry of an open stream, save
the terminal message under its number. And the drop of a reader leaves the entries of all other
calls if and only if its number has not been given to another call in flight, as it cannot have been
before `2^32` calls were made. -/
theorem calls_stay_apart (config : TransmitterConfig) (deeds : List Deed) (s : Nat)
    (hs : s < ((new config).run deeds).hub.streams.length) :
    let x := (new config).run deeds
    let entries (x : Custody) := (x.hub.stream s).collector.registered
    ((∀ e ∈ entries x, ∃ kind, (kind, ⟨s, e.2, e.1⟩) ∈ (new config).begun deeds) ∧
        (((new config).begun deeds).map (·.2)).Nodup) ∧
      (∀ kind now payload,
        let x' := x.step (.call kind now s payload)
        match (x.hub.send now s payload kind.isBatched).1 with
        | .ok call =>
          (x.hub.stream s).collector.isRegistered call.id = false ∧
            ∀ e, e ∈ entries x' ↔ e = (call.id, call.mailbox) ∨ e ∈ entries x
        | .error _ =>
          (∀ e, e ∈ entries x' ↔ e ∈ entries x) ∨
            (x'.hub.stream s).isOpen = false ∧ kind = .single false) ∧
      (∀ op haside,
        let x' := x.step (.other op haside)
        (x'.hub.stream s).isOpen = true → ∀ e ∈ entries x, e ∉ entries x' →
          ∃ m, op = .receive s (.message m) ∧ m.isTerminal = true ∧ m.requestId = e.1) ∧
      ∀ (place : Nat) (dropped : Call), x.readers[place]? = some dropped →
        let x' := x.step (.drop place)
        let isApart := dropped.stream = s → ∀ k, (dropped.id, k) ∈ entries x → k = dropped.mailbox
        ((∀ e ∈ entries x, ⟨s, e.2, e.1⟩ ≠ dropped → e ∈ entries x') ↔ isApart) ∧
          (calls s deeds < 2 ^ 32 → isApart) := by
  intro x entries
  have wf := wellFormed_run config deeds
  refine ⟨⟨fun e he => begun_of_mem_registered config deeds s hs he, (nodup_begun config deeds).2⟩,
    ?_, ?_, ?_⟩
  · intro kind now payload x'
    cases hsend : (x.hub.send now s payload kind.isBatched).1 with
    | ok call => exact ⟨free_of_send hs hsend, registered_of_send wf hs hsend⟩
    | error error =>
        rcases registered_of_error wf hs hsend with ⟨-, hkept⟩ | ⟨-, hclosed, -, hnow, -⟩
        · exact .inl hkept
        · refine .inr ⟨hclosed, ?_⟩
          cases kind with
          | single batched => exact congrArg CallKind.single hnow
          | streamed => cases hnow
  · intro op haside x' hopen' e he hgone
    have hmem : e ∈ entries x' ↔ _ := mem_registered_step wf hs hopen'
    have hends : op.Ends s e.1 := by
      by_contra hnot
      exact hgone (hmem.mpr (.inr ⟨he, hnot⟩))
    rcases hends with ⟨m, hid, hterminal⟩ | _
    · exact ⟨m, rfl, hterminal, hid⟩
    · simp [Op.isAside] at haside
  · intro place dropped hplace x' isApart
    refine ⟨drop_spares_iff wf hs hplace, fun hfew hstream k hk => ?_⟩
    obtain ⟨kind, hbegun⟩ := begun_of_mem_registered config deeds s hs hk
    have hdropped := streamed_of_mem_readers (List.mem_of_getElem? hplace)
    have hsame := begun_inj config hfew hbegun hdropped rfl hstream rfl
    exact congrArg (fun b : CallKind × Call => b.2.mailbox) hsame

/-- Two calls that are answered in parts, of which the first is answered: its reader is dropped, and
the other call is still there. -/
theorem calls_stay_apart_late :
    let deeds : List Deed :=
      [.other .reserve rfl, .other (.attach 0 "server") rfl, .call .streamed 0 0 .commit,
        .call .streamed 0 0 .commit,
        .other (.receive 0 (.message (.responsePart ⟨⟨1⟩, .streamState .done⟩))) rfl]
    let x := (new {}).run deeds
    x.readers[0]? = some ⟨0, 0, ⟨1⟩⟩ ∧
      (⟨2⟩, 1) ∈ ((x.step (.drop 0)).hub.stream 0).collector.registered := by
  intro deeds x
  have hs : 0 < x.hub.streams.length := by decide +kernel
  have hplace : x.readers[0]? = some ⟨0, 0, ⟨1⟩⟩ := by decide +kernel
  obtain ⟨-, -, -, hdrop⟩ := calls_stay_apart {} deeds 0 hs
  obtain ⟨hspared, hapart⟩ := hdrop 0 _ hplace
  exact ⟨hplace, hspared.mpr (hapart (by decide +kernel)) (⟨2⟩, 1) (by decide +kernel) (by decide)⟩

/-! ## §2  A reader that is kept too long -/

/-- Only one reader is left, that of the first call, which is over; nothing is registered, and the
next request gets a given number. -/
structure Worn (x : Custody) (next : UInt32) : Prop where
  wellFormed : x.hub.WellFormed
  opened : 0 < x.hub.streams.length
  isOpen : (x.hub.stream 0).isOpen = true
  accepts : x.hub.transmitter.accepts (x.hub.stream 0).dispatcher = true
  nextId : (x.hub.stream 0).nextId = next
  idle : ∀ e, e ∉ (x.hub.stream 0).collector.registered
  boxes : 0 < x.hub.boxes 0
  readers : x.readers = [⟨0, 0, ⟨1⟩⟩]

variable {next : UInt32}

theorem Worn.send (hx : x.Worn next) :
    (x.hub.send 0 0 .commit true).1 = .ok ⟨0, x.hub.boxes 0, ⟨next⟩⟩ := by
  have hfree : (x.hub.stream 0).collector.isRegistered ⟨(x.hub.stream 0).nextId⟩ = false :=
    Collector.isRegistered_eq_false_iff.mpr fun e he => absurd he (hx.idle e)
  rw [← hx.nextId]
  exact send_of_free hx.wellFormed hx.opened hx.isOpen hx.accepts hfree

/-- The next call, of either kind. -/
theorem Worn.step_call (hx : x.Worn next) (hkind : kind.isBatched = true) :
    x.step (.call kind 0 0 .commit) =
      { hub := x.hub.step (.send 0 0 .commit true)
        readers := x.readers ++ kind.readers ⟨0, x.hub.boxes 0, ⟨next⟩⟩ } := by
  have hbegins : x.begins (.call kind 0 0 .commit) = [(kind, ⟨0, x.hub.boxes 0, ⟨next⟩⟩)] := by
    simp [begins, Hub.begins, hkind, hx.opened, hx.send, Except.toOption]
  simp [step, ops, hkind, hbegins, Hub.run]

/-- A call that is answered in parts, and whose reader is dropped at once. -/
def givenUp : List Deed := [.call .streamed 0 0 .commit, .drop 1]

theorem Worn.givenUp (hx : x.Worn next) : (x.run givenUp).Worn (next + 1) := by
  let sent : Hub := x.hub.step (.send 0 0 .commit true)
  have hs : 0 < sent.streams.length := Nat.lt_of_lt_of_le hx.opened (length_step_le ..)
  have wf : sent.WellFormed := hx.wellFormed.step _
  have hrun : x.run Custody.givenUp =
      { hub := sent.step (.forget 0 ⟨next⟩), readers := x.readers } := by
    show (x.step (.call .streamed 0 0 .commit)).step (.drop 1) = _
    rw [hx.step_call rfl, hx.readers]
    rfl
  rw [hrun]
  obtain ⟨hstays, hforgot⟩ := registered_forget wf hs 0 ⟨next⟩
  constructor
  case wellFormed => exact wf.step _
  case opened => exact Nat.lt_of_lt_of_le hs (length_step_le ..)
  case isOpen => exact hstays.trans (open_of_send hx.wellFormed hx.opened hx.send)
  case accepts =>
    show (sent.step (.forget 0 ⟨next⟩)).transmitter.accepts
      ((sent.step (.forget 0 ⟨next⟩)).stream 0).dispatcher = true
    rw [dispatcher_step wf hs, dispatcher_step hx.wellFormed hx.opened, step_forget hs]
    exact (accepts_send hx.opened hx.send _).trans hx.accepts
  case nextId =>
    show ((sent.step (.forget 0 ⟨next⟩)).stream 0).nextId = next + 1
    rw [stream_step wf hs, ← hx.nextId]
    exact nextId_send hx.wellFormed hx.opened hx.isOpen
  case idle =>
    intro e he
    obtain ⟨he, hother⟩ := (hforgot e).mp he
    rcases (registered_of_send hx.wellFormed hx.opened hx.send e).mp he with rfl | he
    · exact hother ⟨rfl, rfl⟩
    · exact hx.idle e he
  case boxes =>
    exact Nat.lt_of_lt_of_le hx.boxes
      (Nat.le_trans (boxes_step_le hx.wellFormed _) (boxes_step_le wf _))
  case readers => exact hx.readers

theorem Worn.rounds (hx : x.Worn next) (n : Nat) :
    (x.run (List.replicate n Custody.givenUp).flatten).Worn (next + UInt32.ofNat n) := by
  induction n with
  | zero => simpa [run] using hx
  | succ n ih =>
      rw [List.replicate_succ', List.flatten_append, List.flatten_singleton, run_append,
        UInt32.ofNat_add, ← UInt32.add_assoc]
      exact ih.givenUp

/-- The number of the first call is given again, and its reader is dropped. -/
theorem Worn.ends_another (hx : x.Worn 1) :
    let first : Call := ⟨0, 0, ⟨1⟩⟩
    let x' := x.step (.call (.single true) 0 0 .commit)
    let x'' := x'.step (.drop 0)
    ∃ call : Call, (x.hub.send 0 0 .commit true).1 = .ok call ∧ call.id = first.id ∧
      call.mailbox ≠ first.mailbox ∧ x'.readers = [first] ∧
      (call.id, call.mailbox) ∈ (x'.hub.stream 0).collector.registered ∧
      (x''.hub.stream 0).isOpen = true ∧ x''.hub.pendingCalls 0 = 0 := by
  intro first x' x''
  let sent : Hub := x.hub.step (.send 0 0 .commit true)
  have hs : 0 < sent.streams.length := Nat.lt_of_lt_of_le hx.opened (length_step_le ..)
  have hcall : x' = { hub := sent, readers := [first] } := by
    show x.step (.call (.single true) 0 0 .commit) = _
    rw [hx.step_call rfl, hx.readers]
    rfl
  have hdrop : x'' = { hub := sent.step (.forget 0 ⟨1⟩) } := by
    show x'.step (.drop 0) = _
    rw [hcall]
    rfl
  have hentry := registered_of_send hx.wellFormed hx.opened hx.send
  obtain ⟨hstays, hforgot⟩ := registered_forget (hx.wellFormed.step _) hs 0 ⟨1⟩
  refine ⟨⟨0, x.hub.boxes 0, ⟨1⟩⟩, hx.send, rfl, Nat.ne_of_gt hx.boxes, ?_, ?_, ?_, ?_⟩
  · rw [hcall]
  · rw [hcall]
    exact (hentry _).mpr (.inl rfl)
  · rw [hdrop]
    exact hstays.trans (open_of_send hx.wellFormed hx.opened hx.send)
  · rw [hdrop, pendingCalls, Collector.size, List.length_eq_zero_iff,
      List.eq_nil_iff_forall_not_mem]
    intro e he
    obtain ⟨he, hother⟩ := (hforgot e).mp he
    rcases (hentry e).mp he with rfl | he
    · exact hother ⟨rfl, rfl⟩
    · exact hx.idle e he

/-- **A reader ends the call of another.** A call is answered in parts, the last of them comes, and
its reader is kept while all other numbers are given to requests. Then a new call gets the number of
the first, and is in flight. The reader of the first call is dropped, and the new call is registered
no more: the stream is open, and no call is pending. -/
theorem reader_ends_another :
    let first : Call := ⟨0, 0, ⟨1⟩⟩
    let deeds : List Deed :=
      [.other .reserve rfl, .other (.attach 0 "server") rfl, .call .streamed 0 0 .commit,
          .other (.receive 0 (.message (.responsePart ⟨⟨1⟩, .streamState .done⟩))) rfl] ++
        (List.replicate (2 ^ 32 - 1) givenUp).flatten
    let x := (new {}).run deeds
    let x' := x.step (.call (.single true) 0 0 .commit)
    let x'' := x'.step (.drop 0)
    ∃ call : Call, (x.hub.send 0 0 .commit true).1 = .ok call ∧ call.id = first.id ∧
      call.mailbox ≠ first.mailbox ∧ x'.readers = [first] ∧
      (call.id, call.mailbox) ∈ (x'.hub.stream 0).collector.registered ∧
      (x''.hub.stream 0).isOpen = true ∧ x''.hub.pendingCalls 0 = 0 := by
  have hstart : Worn ((new {}).run [.other .reserve rfl, .other (.attach 0 "server") rfl,
      .call .streamed 0 0 .commit,
      .other (.receive 0 (.message (.responsePart ⟨⟨1⟩, .streamState .done⟩))) rfl]) 2 := by
    refine ⟨wellFormed_run _ _, ?_, ?_, ?_, ?_, ?_, ?_, ?_⟩
    case refine_5 =>
      apply List.eq_nil_iff_forall_not_mem.mp
      decide +kernel
    all_goals decide +kernel
  have hwraps : (2 : UInt32) + UInt32.ofNat (2 ^ 32 - 1) = 1 := by decide +kernel
  generalize 2 ^ 32 - 1 = n at hwraps ⊢
  have hworn := hstart.rounds n
  rw [hwraps, ← run_append] at hworn
  exact hworn.ends_another

end Custody

end Hub

end GraphDriver
