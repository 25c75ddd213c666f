import GraphDriver.Proofs.Cluster.Traffic

/-!
# Sessions of a cluster that are stranded

A session of a cluster follows its database as long as the session in use is open: what goes on to
another replica is a transaction that could not be opened over it. Once the session in use is
closed, be it by a pulse that failed or by a call that moved and found no replica, transactions are
refused at once, no server is asked, and that is how it stays.

* §1 what comes of a call at once
* §2 how a session gets closed
* §3 sessions that are stranded
-/

namespace GraphDriver.ClusterSession

open Traffic Operation

variable {session : Nat} {opened : List Nat} {x : Traffic} {stages : List Stage}
  {transactionType : TransactionType} {options : Options} {c : Connections} {s : Nat}

/-! ## §1  What comes of a call at once -/

/-- What comes of a call that is over before it has waited for anything. -/
def Traffic.atOnce? (session : Nat) (x : Traffic) (errand : Errand) :
    Option (Except Error (Option Transaction)) :=
  ((errand.program session).advance x.connections).1.result?

/-- An operation waits for somebody, or is over at once because there is no client. -/
def Asks {α : Type} (op : Operation α) (c : Connections) : Prop :=
  (op.run.advance c).1.isUnderWay = true ∨
    (op.run.advance c).1 = .ended (.error .clientClosed)

theorem Asks.bind {α β : Type} {op : Operation α} (h : Asks op c) (k : α → Operation β) :
    Asks (op >>= k) c := by
  rcases h with hwaits | hover
  · exact .inl (waits_bind ⟨hwaits, rfl⟩).1
  · have hgone := advance_error_bind (k := k) (Prod.ext hover rfl)
    exact .inr (congrArg Prod.fst hgone)

/-- What goes on with the outcome of an operation waits with it, or goes on with this error. -/
theorem Asks.outcome_bind {α β : Type} {op : Operation α} (h : Asks op c)
    {k : Except Error α → Operation β} (hk : ∀ c, Asks (k (.error .clientClosed)) c) :
    Asks (outcome op >>= k) c := by
  rcases h with hwaits | hover
  · exact .inl (waits_bind (waits_outcome ⟨hwaits, rfl⟩)).1
  · rw [Asks, advance_ok_bind (advance_outcome (Prod.ext hover rfl))]
    exact hk _

theorem Asks.onAbandon {α : Type} {op : Operation α} (h : Asks op c)
    (cleanup : Connections → Connections) : Asks (onAbandon cleanup op) c := by
  rcases h with hwaits | hover
  · exact .inl (waits_onAbandon ⟨hwaits, rfl⟩ cleanup).1
  · exact .inr (congrArg Prod.fst (advance_onAbandon (Prod.ext hover rfl)))

theorem Asks.holding {α : Type} {op : Operation α} (h : Asks op c) : Asks (holding s op) c :=
  (h.onAbandon _).outcome_bind fun _ => .inr rfl

theorem Asks.not_refused {α : Type} {op : Operation α} (h : Asks op c) :
    (op.run.advance c).1.result? ≠ some (.error .sessionClosed) := by
  rcases h with hwaits | hover
  · revert hwaits
    cases (op.run.advance c).1 with
    | waiting e abandoned next => exact fun _ => nofun
    | ended result => exact fun hwaits => Bool.noConfusion hwaits
    | givenUp => exact fun hwaits => Bool.noConfusion hwaits
  · rw [hover]
    rintro ⟨⟩

theorem asks_openStream {hub : Nat} {address : String} :
    Asks (Transaction.openStream hub address) c := by
  rw [Transaction.openStream, Asks, advance_modifyGet_bind]
  cases hopen : (c.hub hub).transmitter.isOpen with
  | false =>
      rw [Connections.onHub, Hub.reserve, Transmitter.bind, if_neg (by simp [hopen])]
      exact .inr rfl
  | true =>
      rw [Connections.onHub, Hub.reserve, Transmitter.bind, if_pos hopen]
      exact .inl rfl

/-- A transaction over a session that is open is not refused at once, unless there is no client. -/
theorem asks_openOn (hopen : (c.session s).isOpen = true) :
    Asks (Transaction.openOn s transactionType options) c := by
  rw [Transaction.openOn, Asks, advance_get_bind]
  dsimp only
  rw [if_pos hopen]
  cases hclient : c.clientIsOpen (c.session s).client with
  | false => exact .inr rfl
  | true => exact asks_openStream.bind _

/-- A call for a transaction is refused at once because the session is closed if and only if the one
in use is. -/
theorem Orderly.refuses_iff (h : Orderly session opened x stages) :
    x.atOnce? session (.transaction transactionType options) = some (.error .sessionClosed) ↔
      x.isOpen session = false := by
  have hknown := h.known h.sound.current
  constructor
  · intro hrefused
    by_contra hopen
    -- Over a session that is open the call waits for a server, or for want of a client is over with
    -- another error.
    have hretained :
        ((takeCurrent session x.connections).2.session
          (takeCurrent session x.connections).1).isOpen = true :=
      (congrArg Session.isOpen (Connections.alters_modifySession hknown _).self).trans
        (eq_true_of_ne_false hopen)
    have hasks : Asks (transaction session transactionType options) x.connections := by
      rw [transaction, Asks, advance_modifyGet_bind]
      apply Asks.holding
      apply (asks_openOn hretained).outcome_bind
      exact fun _ => .inr rfl
    exact (hasks.bind fun t => pure (some t)).not_refused hrefused
  · intro hclosed
    rw [atOnce?, advance_transaction_of_closed hknown hclosed]
    rfl

/-! ## §2  How a session gets closed -/

/-- Every call has an errand that was begun. -/
theorem begun_of_called (hx : x.Arrived session) {turns : List Turn} {errand : Errand}
    (hcalled : errand ∈ (x.after session turns).calls.map Prod.fst) :
    Scene.Turn.begins errand ∈ turns := by
  induction turns using List.reverseRecOn with
  | nil =>
      rw [show x.after session [] = x from rfl, hx.calls] at hcalled
      exact absurd hcalled List.not_mem_nil
  | append_singleton turns turn ih =>
      rw [after_snoc, Scene.errands_step] at hcalled
      rcases List.mem_append.mp hcalled with hcalled | hbegins
      · exact List.mem_append_left _ (ih hcalled)
      · apply List.mem_append_right
        cases turn with
        | begins errand' =>
            obtain rfl := List.mem_singleton.mp hbegins
            exact List.mem_singleton_self _
        | learns i reply => exact absurd hbegins List.not_mem_nil
        | leaves i => exact absurd hbegins List.not_mem_nil
        | others change => exact absurd hbegins List.not_mem_nil

theorem begun_of_whose (hx : x.Arrived session) {turns : List Turn} {turn : Turn} {errand : Errand}
    (hwhose : (x.after session turns).errand? turn = some errand) :
    Scene.Turn.begins errand ∈ turns ++ [turn] := by
  have hcalled {i : Nat}
      (hcall : (x.after session turns).calls[i]?.map Prod.fst = some errand) :
      Scene.Turn.begins errand ∈ turns := by
    apply begun_of_called hx
    rw [← List.getElem?_map] at hcall
    exact List.mem_of_getElem? hcall
  cases turn with
  | begins errand' =>
      obtain rfl := Option.some.inj hwhose
      exact List.mem_append_right _ (List.mem_singleton_self _)
  | learns i reply => exact List.mem_append_left _ (hcalled hwhose)
  | leaves i => exact List.mem_append_left _ (hcalled hwhose)
  | others change => cases hwhose

/-- If nobody has called to close a session of a cluster, a session that is closed was closed by a
pulse or by a call for a transaction. -/
theorem closed_by (hx : x.Arrived session) {turns : List Turn} (hfair : x.IsFair session turns)
    (hs : s ∈ x.opened session turns)
    (hclosed : ((x.after session turns).connections.session s).isOpen = false) :
    ∃ pre turn post errand, turns = pre ++ turn :: post ∧
      ((x.after session pre).connections.session s).isOpen = true ∧
      ((x.after session (pre ++ [turn])).connections.session s).isOpen = false ∧
      (x.after session pre).errand? turn = some errand ∧
      Scene.Turn.begins errand ∈ pre ++ [turn] := by
  induction turns using List.reverseRecOn with
  | nil =>
      obtain rfl := List.mem_singleton.mp hs
      exact Bool.noConfusion (hclosed.symm.trans hx.isOpen)
  | append_singleton turns turn ih =>
      obtain ⟨stages, horderly⟩ := orderly_after hx hfair.front
      have hmem := hs
      rw [opened_snoc] at hmem
      cases hwas : ((x.after session turns).connections.session s).isOpen with
      | true =>
          have hnext := hclosed
          rw [after_snoc] at hnext
          obtain ⟨errand, g, g', rest, hstride⟩ := horderly.closes hfair.last hmem hwas hnext
          exact ⟨turns, turn, [], errand, rfl, hwas, hclosed, hstride.whose,
            begun_of_whose hx hstride.whose⟩
      | false =>
          obtain ⟨pre, turn', post, errand, rfl, hclosing⟩ :=
            ih hfair.front (Orderly.mem_of_closed hmem hwas) hwas
          exact ⟨pre, turn', post ++ [turn], errand, by simp, hclosing⟩

/-! ## §3  Sessions that are stranded -/

/-- **A session of a cluster is stranded once the session in use is closed.** A call for a
transaction is refused at once if and only if the session in use is closed. If no call is under way
that may still move it, it is refused for ever, whatever happens. And this befalls sessions that
nobody has called to close: the one in use is closed by a pulse, or by a call for a transaction. -/
theorem closed_is_stranded (session : Nat) (x : Traffic) (turns : List Turn)
    (hx : x.Arrived session) (hfair : x.IsFair session turns) :
    let y := x.after session turns
    (∀ transactionType options,
      y.atOnce? session (.transaction transactionType options) = some (.error .sessionClosed) ↔
        y.isOpen session = false) ∧
    (y.isOpen session = false → y.NoneMoves → ∀ later, x.IsFair session (turns ++ later) →
      let z := x.after session (turns ++ later)
      z.current session = y.current session ∧ ∀ transactionType options,
        z.atOnce? session (.transaction transactionType options) = some (.error .sessionClosed)) ∧
    (y.isOpen session = false → Scene.Turn.begins Errand.close ∉ turns →
      ∃ pre turn post errand, turns = pre ++ turn :: post ∧
        ((x.after session pre).connections.session (y.current session)).isOpen = true ∧
        ((x.after session (pre ++ [turn])).connections.session (y.current session)).isOpen = false ∧
        (x.after session pre).errand? turn = some errand ∧ errand ≠ .close) := by
  intro y
  obtain ⟨stages, horderly⟩ := orderly_after hx hfair
  refine ⟨fun _ _ => horderly.refuses_iff, ?_, ?_⟩
  · intro hclosed hnone later hlater z
    obtain ⟨hcurrent, hstill, -⟩ := shut_after hx hlater hclosed hnone
    obtain ⟨stages', horderly'⟩ := orderly_after hx hlater
    exact ⟨hcurrent, fun _ _ => horderly'.refuses_iff.mpr hstill⟩
  · intro hclosed hnever
    obtain ⟨pre, turn, post, errand, rfl, hopen, hshut, hwhose, hbegun⟩ :=
      closed_by hx hfair horderly.sound.current hclosed
    refine ⟨pre, turn, post, errand, rfl, hopen, hshut, hwhose, ?_⟩
    rintro rfl
    apply hnever
    rw [List.append_cons]
    exact List.mem_append_left _ hbegun

theorem closed_is_stranded_pulsed :
    let y := lodged.after 0 failedPulse
    y.isOpen 0 = false ∧
      (∀ transactionType options,
        y.atOnce? 0 (.transaction transactionType options) = some (.error .sessionClosed)) ∧
      (∀ later, lodged.IsFair 0 (failedPulse ++ later) → ∀ transactionType options,
        (lodged.after 0 (failedPulse ++ later)).atOnce? 0 (.transaction transactionType options) =
          some (.error .sessionClosed)) ∧
      ∃ pre turn post errand, failedPulse = pre ++ turn :: post ∧
        (lodged.after 0 pre).errand? turn = some errand ∧ errand ≠ .close := by
  intro y
  have hclosed : y.isOpen 0 = false := by decide +kernel
  have hnone : y.NoneMoves := by
    unfold NoneMoves
    decide +kernel
  have hnever : Scene.Turn.begins Errand.close ∉ failedPulse := by simp [failedPulse]
  obtain ⟨hrefuses, hstays, hby⟩ :=
    closed_is_stranded 0 lodged failedPulse arrived_lodged fair_failedPulse
  refine ⟨hclosed, fun _ _ => (hrefuses _ _).mpr hclosed, ?_, ?_⟩
  · exact fun later hlater => (hstays hclosed hnone later hlater).2
  · obtain ⟨pre, turn, post, errand, hsplit, -, -, hwhose, hne⟩ := hby hclosed hnever
    exact ⟨pre, turn, post, errand, hsplit, hwhose, hne⟩

/-- No transaction can be opened, and no replica is found to move to. -/
def failedMove : List Turn :=
  .begins (.transaction .write {}) :: List.replicate 5 (.learns 0 away)

theorem unclosed_sessions_are_refused :
    let pulsed := lodged.after 0 failedPulse
    let moved := lodged.after 0 failedMove
    lodged.isOpen 0 = true ∧
      pulsed.isOpen 0 = false ∧
      pulsed.atOnce? 0 (.transaction .write {}) = some (.error .sessionClosed) ∧
      moved.calls.map (fun call => call.2.result?) = [some (.error .clusterUnavailable)] ∧
      moved.isOpen 0 = false ∧
      moved.atOnce? 0 (.transaction .write {}) = some (.error .sessionClosed) := by
  decide +kernel

end GraphDriver.ClusterSession
