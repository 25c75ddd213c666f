import GraphDriver.Proofs.Cluster.Traffic

/-!
# Closing a session of a cluster

To close a session of a cluster is to close the session at a replica that is in use at that moment.
This is final as long as no call that is under way moves to another one: then the session of the
cluster is open again. Sessions that were opened for it are left open to nobody but those who use
them, and servers are told of each that is closed, unless its pulse has closed it.

* §1 the call that closes
* §2 who has hold of what is open
* §3 what is final
-/

namespace GraphDriver.ClusterSession

open Traffic Operation

variable {session : Nat} {opened : List Nat} {x : Traffic} {stages : List Stage}
  {c : Connections} {s : Nat}

/-! ## §1  The call that closes -/

theorem closed_markClosed (hs : s < c.sessions.length) :
    ((c.markClosed s).2.session s).isOpen = false := by
  cases hopen : (c.session s).isOpen with
  | false =>
      rw [Connections.markClosed_of_closed hopen]
      exact hopen
  | true =>
      rw [Connections.markClosed_of_open hopen, (Connections.alters_modifySession hs _).self]
      rfl

/-- Closing a session marks it closed at once, and waits at most for the server to be told. -/
theorem advance_sessionClose (s : Nat) (c : Connections) :
    (∃ result, (Session.close s).run.advance c = (.ended result, (c.markClosed s).2)) ∨
      (Session.close s).run.Waits c (c.markClosed s).2 := by
  rw [Session.close, Program.Waits, advance_modifyGet_bind]
  cases (c.markClosed s).1 with
  | false => exact .inl ⟨.ok (), rfl⟩
  | true =>
      rw [if_pos rfl, advance_get_bind]
      rcases advance_call (c := (c.markClosed s).2) with hgone | hwaits
      · exact .inl ⟨_, advance_error_bind hgone⟩
      · exact .inr (waits_bind hwaits)

theorem waits_holding {α : Type} {op : Operation α} {c' : Connections} (h : op.run.Waits c c') :
    (holding s op).run.Waits c c' :=
  waits_bind (waits_outcome (waits_onAbandon h _))

/-- A call that closes a session of a cluster has marked the one in use closed when it waits or is
over. If it is over, it has let go of it. -/
theorem advance_close (session : Nat) (c : Connections) :
    let s := (takeCurrent session c).1
    let taken := (takeCurrent session c).2
    ((Errand.close.program session).advance c).2 = (taken.markClosed s).2 ∨
      ((Errand.close.program session).advance c).2 = (taken.markClosed s).2.releaseSession s := by
  intro s taken
  show ((ClusterSession.close session >>= fun _ => pure none).run.advance c).2 = _ ∨ _
  rcases advance_sessionClose s taken with ⟨result, hover⟩ | hwaits
  · have hclose : (ClusterSession.close session).run.advance c =
        (.ended result, (taken.markClosed s).2.releaseSession s) :=
      advance_holding hover
    right
    cases result with
    | error e => exact congrArg Prod.snd (advance_error_bind hclose)
    | ok u => exact congrArg Prod.snd (advance_ok_bind hclose)
  · have hclose : (ClusterSession.close session).run.Waits c (taken.markClosed s).2 :=
      waits_holding hwaits
    exact .inl (waits_bind hclose).2

/-- When a call to close a session of a cluster has begun, the session in use is closed. -/
theorem Orderly.closes_current (h : Orderly session opened x stages) :
    ((x.next session (.begins .close)).connections.session (x.current session)).isOpen = false := by
  rw [Traffic.next, Scene.step_begins]
  let taken := (takeCurrent session x.connections).2
  have hknown : x.current session < taken.sessions.length :=
    Nat.lt_of_lt_of_eq (h.known h.sound.current) (Connections.length_modifySession _).symm
  have hshut := closed_markClosed hknown
  rcases advance_close session x.connections with hstate | hstate
  · exact (congrArg (fun c => (c.session (x.current session)).isOpen) hstate).trans hshut
  · refine (congrArg (fun c => (c.session (x.current session)).isOpen) hstate).trans ?_
    have hmarked : x.current session < (taken.markClosed (x.current session)).2.sessions.length :=
      Nat.lt_of_lt_of_eq hknown Connections.markClosed_keeps.1.symm
    exact (Connections.later_releaseSession hmarked).closed _ hshut

/-- A call to close does not move. -/
theorem Traffic.NoneMoves.closing (h : x.NoneMoves) :
    (x.next session (.begins .close)).NoneMoves := by
  intro call hcall hroams
  rcases Scene.mem_calls_step hcall with hmem | hgiven | ⟨i, errand, p, hgoing, rfl⟩
  · exact h call hmem hroams
  · rw [hgiven]
    rfl
  · obtain ⟨rfl, rfl, rfl⟩ := hgoing
    cases hroams

/-! ## §2  Who has hold of what is open -/

/-- A call that is not under way has hold of nothing. -/
theorem held_of_quiet (hkeeps : Scene.Keeps (conduct session) (Stage.Has [])
      (fun _ => Stage.Has []) x stages)
    (hquiet : ∀ call ∈ x.calls, call.2.isUnderWay = false) :
    stages.flatMap Stage.held = [] := by
  rw [Scene.Keeps] at hkeeps
  generalize x.calls = calls at hkeeps hquiet
  induction hkeeps with
  | nil => rfl
  | @cons call g calls stages hcall hcalls ih =>
      have hhas : g.Has [] := by
        have hnot := hquiet call List.mem_cons_self
        obtain ⟨errand, standing⟩ := call
        cases standing with
        | ended result => exact hcall
        | waiting e abandoned next => exact Bool.noConfusion hnot
        | givenUp => exact hcall
      obtain ⟨moved, rfl⟩ := hhas
      rw [List.flatMap_cons, ih fun call hmem => hquiet call (List.mem_cons_of_mem _ hmem)]
      rfl

/-- A session that is open is in use, or kept alive at this moment, or a call is under way. -/
theorem Orderly.held_of_open (h : Orderly session opened x stages) (hs : s ∈ opened)
    (hopen : (x.connections.session s).isOpen = true) :
    s = x.current session ∨ (x.connections.session s).pulsing = true ∨
      ∃ call ∈ x.calls, call.2.isUnderWay = true := by
  by_contra hnone
  have hcurrent : (x.connections.clusterSession session).current ≠ s :=
    fun heq => hnone (.inl heq.symm)
  have hidle : (x.connections.session s).pulsing = false :=
    eq_false_of_ne_true fun hpulsing => hnone (.inr (.inl hpulsing))
  have hquiet : ∀ call ∈ x.calls, call.2.isUnderWay = false :=
    fun call hmem => eq_false_of_ne_true fun hwaits => hnone (.inr (.inr ⟨call, hmem, hwaits⟩))
  have hcounted := h.sound.counted s hs
  rw [holders, held_of_quiet h.keeps hquiet, if_neg hcurrent, hidle] at hcounted
  exact absurd (h.sound.kept s hs hopen) (by simp [hcounted])

/-- A session that another one has replaced is closed once no call is under way, whoever works with
a transaction over it. -/
theorem Orderly.closed_of_replaced (h : Orderly session opened x stages) (hs : s ∈ opened)
    (hreplaced : s ≠ x.current session) (hidle : (x.connections.session s).pulsing = false)
    (hquiet : ∀ call ∈ x.calls, call.2.isUnderWay = false) :
    (x.connections.session s).isOpen = false := by
  by_contra hopen
  rcases h.held_of_open hs (eq_true_of_ne_false hopen) with
    hcurrent | hpulsing | ⟨call, hmem, hwaits⟩
  · exact hreplaced hcurrent
  · exact Bool.noConfusion (hidle.symm.trans hpulsing)
  · exact Bool.noConfusion ((hquiet call hmem).symm.trans hwaits)

/-- Two calls move at the same time. The second one is done when the first one has its
transaction. -/
def bothMove : List Turn :=
  [.begins (.transaction .write {}), .begins (.transaction .write {}), .learns 0 away,
    .learns 1 away, .learns 0 away, .learns 0 (member ⟨⟨#[1]⟩⟩), .learns 0 (member default),
    .learns 0 (member default), .learns 1 (member ⟨⟨#[2]⟩⟩)]

/-- The session of a transaction that is open is closed, although nothing has failed over it. -/
example :
    let y := lodged.after 0 bothMove
    y.calls.map (fun call => call.2.result?) = [some (.ok (some ⟨0, 0, .write, {}⟩)), none] ∧
      ((y.connections.hub 0).stream 0).isOpen = true ∧
      y.connections.sessions.map Session.isOpen = [false, false, true] ∧
      Run.log (Scene.step (Errand.program 0)) (said 0) lodged bothMove = [default, ⟨⟨#[1]⟩⟩] := by
  decide +kernel

/-! ## §3  What is final -/

section Final

variable {before later : List Turn}

theorem begins_closing (hx : x.Arrived session)
    (hfair : x.IsFair session (before ++ [.begins .close])) :
    (x.after session (before ++ [.begins .close])).current session =
        (x.after session before).current session ∧
      (x.after session (before ++ [.begins .close])).isOpen session = false := by
  obtain ⟨stages, horderly⟩ := orderly_after hx hfair.front
  have hcurrent : ((x.after session before).next session (.begins .close)).current session =
      (x.after session before).current session := by
    apply horderly.stays hfair.last
    rintro _ ⟨⟩
    rfl
  rw [after_snoc]
  refine ⟨hcurrent, ?_⟩
  have hclosed := horderly.closes_current
  rwa [← hcurrent] at hclosed

/-- The session that was in use when the call began is closed from then on. -/
theorem closed_since (hx : x.Arrived session)
    (hfair : x.IsFair session (before ++ [.begins .close] ++ later)) :
    ((x.after session (before ++ [.begins .close] ++ later)).connections.session
      ((x.after session before).current session)).isOpen = false := by
  obtain ⟨stages, horderly⟩ := orderly_after hx hfair.front.front
  apply closed_after hx hfair (mem_opened_append _ horderly.sound.current)
  rw [after_snoc]
  exact horderly.closes_current

/-- If no call may move, closing is final. -/
theorem final_of_noneMoves (hx : x.Arrived session)
    (hfair : x.IsFair session (before ++ [.begins .close] ++ later))
    (hnone : (x.after session before).NoneMoves) :
    (x.after session (before ++ [.begins .close] ++ later)).isOpen session = false := by
  have hnone' : (x.after session (before ++ [.begins .close])).NoneMoves := by
    rw [after_snoc]
    exact hnone.closing
  exact (shut_after hx hfair (begins_closing hx hfair.front).2 hnone').2.1

/-- As long as the session of a cluster is closed, it is the session that was in use when the call
began that is in use. -/
theorem unmoved_of_final (hx : x.Arrived session)
    (hfair : x.IsFair session (before ++ [.begins .close] ++ later))
    (hfinal : ∀ front, front <+: later →
      (x.after session (before ++ [.begins .close] ++ front)).isOpen session = false) :
    (x.after session (before ++ [.begins .close] ++ later)).current session =
      (x.after session before).current session := by
  induction later using List.reverseRecOn with
  | nil =>
      rw [List.append_nil] at hfair ⊢
      exact (begins_closing hx hfair).1
  | append_singleton later turn ih =>
      have hopen := hfinal (later ++ [turn]) List.prefix_rfl
      rw [← List.append_assoc] at hfair hopen ⊢
      have hsame := ih hfair.front fun front hinit =>
        hfinal front (hinit.trans (List.prefix_append later [turn]))
      obtain ⟨stages, horderly⟩ := orderly_after hx hfair.front
      rw [after_snoc] at hopen ⊢
      rcases horderly.settles hfair.last with hstays | hmoved
      · exact hstays.trans hsame
      · exact Bool.noConfusion (hopen.symm.trans hmoved)

end Final

/-- **Closing a session of a cluster** closes it for ever if and only if no session is in use later
on but the one that was in use when the call began; so it is if no call was under way that might
move. Whatever happens, the sessions that were opened for it are open only if they are in use, or
kept alive at that moment, or a call is under way. And of each that is closed its server is told in
that turn, unless its pulse has closed it or a client of it that was closed was to tell. -/
theorem closing_is_final (session : Nat) (x : Traffic) (before after : List Turn)
    (hx : x.Arrived session) (hfair : x.IsFair session (before ++ [.begins .close] ++ after)) :
    let reached (later : List Turn) := x.after session (before ++ [.begins .close] ++ later)
    ((∀ later, later <+: after → (reached later).isOpen session = false) ↔
      ∀ later, later <+: after →
        (reached later).current session = (x.after session before).current session) ∧
    ((x.after session before).NoneMoves →
      ∀ later, later <+: after → (reached later).isOpen session = false) ∧
    (∀ s ∈ x.opened session (before ++ [.begins .close] ++ after),
      ((reached after).connections.session s).isOpen = true →
        s = (reached after).current session ∨
          ((reached after).connections.session s).pulsing = true ∨
          ∃ call ∈ (reached after).calls, call.2.isUnderWay = true) ∧
    ∀ pre turn post, before ++ [.begins .close] ++ after = pre ++ turn :: post →
      ∀ s ∈ x.opened session (pre ++ [turn]),
        let y := x.after session pre
        let z := y.next session turn
        (y.connections.session s).isOpen = true → (z.connections.session s).isOpen = false →
          y.errand? turn = some (.pulse s) ∨ (z.connections.session s).id ∈ y.said session turn ∨
            ∃ c ∈ Scene.passed (Errand.program session) y turn,
              c.clientIsOpen (z.connections.session s).client = false := by
  intro reached
  have hlater {later : List Turn} (hinit : later <+: after) :
      x.IsFair session (before ++ [.begins .close] ++ later) := by
    obtain ⟨rest, rfl⟩ := hinit
    rw [← List.append_assoc] at hfair
    exact hfair.front
  refine ⟨⟨?_, ?_⟩, ?_, ?_, ?_⟩
  · intro hfinal later hinit
    exact unmoved_of_final hx (hlater hinit) fun front hfront =>
      hfinal front (hfront.trans hinit)
  · intro hsame later hinit
    show ((reached later).connections.session ((reached later).current session)).isOpen = false
    rw [hsame later hinit]
    exact closed_since hx (hlater hinit)
  · intro hnone later hinit
    exact final_of_noneMoves hx (hlater hinit) hnone
  · intro s hs hopen
    obtain ⟨stages, horderly⟩ := orderly_after hx hfair
    exact horderly.held_of_open hs hopen
  · rintro pre turn post hsplit s hs y z hopen hclosed
    have hfront : x.IsFair session (pre ++ [turn]) := by
      rw [hsplit, List.append_cons] at hfair
      exact hfair.front
    obtain ⟨stages, horderly⟩ := orderly_after hx hfront.front
    rw [opened_snoc] at hs
    exact horderly.accounts hfront.last hs hopen hclosed

/-- A call closes the session, and its server answers. -/
theorem closing_is_final_alone :
    (∀ later, later <+: [.learns 0 (member default)] →
        (lodged.after 0 ([] ++ [.begins .close] ++ later)).isOpen 0 = false) ∧
      (∀ later, later <+: [.learns 0 (member default)] →
        (lodged.after 0 ([] ++ [.begins .close] ++ later)).current 0 = lodged.current 0) ∧
      (lodged.connections.session 0).id ∈ lodged.said 0 (.begins .close) := by
  have hbegun : lodged.IsFair 0 ([] ++ [.begins .close]) := by
    apply isFair_nil.concat
    trivial
  have hfair : lodged.IsFair 0 ([] ++ [.begins .close] ++ [.learns 0 (member default)]) := by
    apply hbegun.concat
    trivial
  have hnone : (lodged.after 0 []).NoneMoves := by
    unfold NoneMoves
    decide +kernel
  obtain ⟨hiff, hquiet, -, htold⟩ :=
    closing_is_final 0 lodged [] [.learns 0 (member default)] arrived_lodged hfair
  have hfinal := hquiet hnone
  refine ⟨hfinal, hiff.mp hfinal, ?_⟩
  have hknown : 0 ∈ lodged.opened 0 ([] ++ [.begins .close]) := List.mem_cons_self
  have hopen : ((lodged.after 0 []).connections.session 0).isOpen = true := arrived_lodged.isOpen
  have hclosed : (((lodged.after 0 []).next 0 (.begins .close)).connections.session 0).isOpen =
      false := by
    decide +kernel
  have hthere : ∀ c ∈ Scene.passed (Errand.program 0) (lodged.after 0 []) (.begins .close),
      c.clientIsOpen (((lodged.after 0 []).next 0 (.begins .close)).connections.session 0).client =
        true := by
    decide +kernel
  rcases htold [] (.begins .close) [.learns 0 (member default)] rfl 0 hknown hopen hclosed with
    hpulse | hsaid | ⟨c, hmem, hgone⟩
  · cases hpulse
  · exact hsaid
  · exact Bool.noConfusion ((hthere c hmem).symm.trans hgone)

/-- Closed by a call that finds nothing more to close, since another is about to move. -/
def overtaken : List Turn :=
  [.begins (.transaction .write {}), .learns 0 away, .begins .close, .learns 0 away,
    .learns 0 (member ⟨⟨#[1]⟩⟩)]

/-- Closed by a call after its pulse has failed. -/
def unsaid : List Turn := failedPulse ++ [.begins .close]

theorem closing_is_not_final :
    (lodged.after 0 (overtaken.take 3)).calls.map (fun call => call.2.result?) =
        [none, some (.ok none)] ∧
      (lodged.after 0 overtaken).isOpen 0 = true ∧
      (lodged.after 0 overtaken).connections.sessions.map Session.id = [default, ⟨⟨#[1]⟩⟩] ∧
      Run.log (Scene.step (Errand.program 0)) (said 0) lodged overtaken = [default] ∧
      (lodged.after 0 unsaid).calls.map (fun call => call.2.result?) =
        [some (.ok none), some (.ok none)] ∧
      (lodged.after 0 unsaid).connections.sessions.map Session.id = [default] ∧
      Run.log (Scene.step (Errand.program 0)) (said 0) lodged unsaid = [] := by
  decide +kernel

end GraphDriver.ClusterSession
