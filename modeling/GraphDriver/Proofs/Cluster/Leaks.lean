import GraphDriver.Proofs.Cluster.Affairs
import GraphDriver.Proofs.Cluster.Traffic

/-!
# No dispatcher is left over

A worker has the dispatchers that are bound to it and not closed, and no others. Which of them are
closed follows from what became of those who connected them: a call that has not come to a
transaction has closed what it connected, however it ended; and a transaction keeps its dispatcher
no longer than its stream is open.

* §1 dispatchers that are gone
* §2 what became of them
* §3 an opening that is refused, and a commit that fails
-/

namespace GraphDriver.Affairs

/-! ## §1  Dispatchers that are gone -/

/-- A dispatcher is closed, and no worker has it. -/
def IsGone (c : Connections) (line : Line) : Prop :=
  c.Closed line ∧ ∀ w, line.2 ∉ (c.hub line.1).transmitter.members w

/-- The workers have just the dispatchers that are not closed, each the ones bound to it in turn. -/
def AreRegistered (t : Transmitter) : Prop :=
  ∀ w, (t.members w).Nodup ∧ ∀ d, d ∈ t.members w ↔
    d < t.dispatchers.length ∧ d % t.workers.length = w ∧ (t.dispatcher d).closed = false

variable {c : Connections} {line : Line} {turns : List Turn} {i : Nat} {u : Undertaking}
  {standing : Standing Undertaking.Outcome} {t : Transaction}

theorem areRegistered {h : Nat} (hc : c.Sane) (hh : h < c.hubs.length) :
    AreRegistered (c.hub h).transmitter := by
  obtain ⟨wf, hturn, -, -⟩ := hc.hub h hh
  intro w
  refine ⟨wf.nodup w, fun d => ?_⟩
  rw [wf.mem_members]
  constructor
  · rintro ⟨hd, hworker, hopen⟩
    exact ⟨hd, (hturn d hd).symm.trans hworker, hopen⟩
  · rintro ⟨hd, hworker, hopen⟩
    exact ⟨hd, (hturn d hd).trans hworker, hopen⟩

/-- What is closed is registered nowhere. -/
theorem isGone_of_closed (hc : c.Sane) (hclosed : c.Closed line) : IsGone c line := by
  refine ⟨hclosed, fun w hmem => ?_⟩
  have hopen := ((areRegistered hc (Connections.lt_of_closed_line hclosed) w).2 line.2).mp hmem
  exact Bool.noConfusion (hopen.2.2.symm.trans hclosed)

/-! ## §2  What became of them -/

/-- A stream that is closed has left no dispatcher behind. -/
theorem isGone_of_stream {h s : Nat} (hc : c.Sane) (hh : h < c.hubs.length)
    (hs : s < (c.hub h).streams.length) (hclosed : ((c.hub h).stream s).isOpen = false) :
    IsGone c (c.lineOf h s) :=
  isGone_of_closed hc ((hc.hub h hh).ended s hs hclosed)

/-- A call that is over has left no dispatcher behind but that of the transaction it came to. -/
theorem isGone_of_dialled (hturns : IsHistory turns)
    (hcall : (after turns).calls[i]? = some (u, standing)) (hover : standing.isUnderWay = false)
    (hline : line ∈ dialled i turns) :
    IsGone (after turns).connections line ∨ ∃ t, standing.result? = some (.ok (some t)) ∧
      line = (after turns).connections.lineOf t.hub t.stream := by
  have horderly := orderly_after hturns
  have hgone {line : Line} (hclosed : (after turns).connections.Closed line) :
      IsGone (after turns).connections line :=
    isGone_of_closed horderly.sane hclosed
  obtain ⟨h, -, hstands⟩ := horderly.stands i u standing hcall
  cases standing with
  | waiting e abandoned next => exact Bool.noConfusion hover
  | givenUp => exact .inl (hgone (hstands.1 line hline))
  | ended outcome =>
      rcases outcome with e | _ | t
      · exact .inl (hgone (hstands.1 line hline))
      · exact .inl (hgone (hstands.1 line hline))
      · obtain ⟨⟨rfl, hkept⟩, -⟩ := hstands
        rcases hkept.closed line hline with hclosed | hline
        · exact .inl (hgone hclosed)
        · exact .inr ⟨t, rfl, hline⟩

/-- A transaction that was committed or closed, or tried to be, has left none. -/
theorem isGone_of_ended (hturns : IsHistory turns)
    (hcall : (after turns).calls[i]? = some (u, standing)) (hover : standing.isUnderWay = false)
    (hu : u = .commit t ∨ u = .closeTransaction t) :
    IsGone (after turns).connections ((after turns).connections.lineOf t.hub t.stream) := by
  have horderly := orderly_after hturns
  obtain ⟨h, -, hstands⟩ := horderly.stands i u standing hcall
  have hended : u.HasEnded (after turns).connections := by
    cases standing with
    | waiting e abandoned next => exact Bool.noConfusion hover
    | givenUp => exact hstands.2
    | ended outcome => exact hstands.2
  have hboth : (after turns).connections.TransactionOn t.hub t ∧
      (after turns).connections.Finished t := by
    rcases hu with rfl | rfl
    · exact hended
    · exact hended
  exact isGone_of_closed horderly.sane (hboth.2.closed horderly.sane hboth.1)

/-- **No dispatcher leaks.** In every state that can be reached, the workers of each hub have just
the dispatchers that are not closed: each once, and the `d`-th that was made with the worker whose
turn it was, whatever was closed before. A stream that is closed, for whatever reason, has left no
dispatcher behind; nor has a call that connected one and is over, or was given up, without having
come to a transaction; nor has a transaction after a call to commit or to close it, whatever the
outcome. -/
theorem no_dispatcher_leaks (turns : List Turn) (hturns : IsHistory turns) :
    let x := after turns
    let c := x.connections
    (∀ h < c.hubs.length, AreRegistered (c.hub h).transmitter) ∧
    (∀ h < c.hubs.length, ∀ s < (c.hub h).streams.length,
      ((c.hub h).stream s).isOpen = false → IsGone c (c.lineOf h s)) ∧
    ∀ i u standing, x.calls[i]? = some (u, standing) → standing.isUnderWay = false →
      (∀ line ∈ dialled i turns, IsGone c line ∨
        ∃ t, standing.result? = some (.ok (some t)) ∧ line = c.lineOf t.hub t.stream) ∧
      ∀ t, u = .commit t ∨ u = .closeTransaction t → IsGone c (c.lineOf t.hub t.stream) := by
  intro x c
  have hsane : c.Sane := (orderly_after hturns).sane
  refine ⟨?_, ?_, ?_⟩
  · exact fun h hh => areRegistered hsane hh
  · exact fun h hh s hs hclosed => isGone_of_stream hsane hh hs hclosed
  · intro i u standing hcall hover
    refine ⟨?_, ?_⟩
    · exact fun line hline => isGone_of_dialled hturns hcall hover hline
    · exact fun t hu => isGone_of_ended hturns hcall hover hu

/-! ## §3  An opening that is refused, and a commit that fails -/

open ClusterSession (member away)

/-- Two transactions are opened over a session: the first one comes about, the connection of the
second one is refused. The commit of the first one is answered as if it were opened again. -/
def mishaps : List Turn :=
  [.others (Deed.newClient "a" {}).perform, .begins (.openSession 0 "db" .data {}),
    .learns 0 (member default), .begins (.openTransaction 0 .write {}), .learns 1 (member default),
    .learns 1 (member default), .begins (.openTransaction 0 .read {}), .learns 2 away,
    .begins (.commit ⟨0, 0, .write, {}⟩), .learns 3 (member default)]

theorem isHistory_mishaps : IsHistory mishaps := by
  have hclient := isHistory_nil.deed (.newClient "a" {}) trivial
  have hsession := (hclient.begins (u := .openSession 0 "db" .data {}) (by decide +kernel)).learns 0
    (member default)
  have hfirst := ((hsession.begins (u := .openTransaction 0 .write {}) (by decide +kernel)).learns 1
    (member default)).learns 1 (member default)
  have hsecond := (hfirst.begins (u := .openTransaction 0 .read {}) (by decide +kernel)).learns 2
    away
  exact (hsecond.begins (u := .commit ⟨0, 0, .write, {}⟩) (by decide +kernel)).learns 3
    (member default)

theorem no_dispatcher_leaks_mishaps :
    let x := after mishaps
    x.calls.map (fun call => call.2.result?.map (·.isOk)) =
        [some true, some true, some false, some false] ∧
      dialled 1 mishaps = [(0, 0)] ∧ dialled 2 mishaps = [(0, 1)] ∧
      IsGone x.connections (0, 0) ∧ IsGone x.connections (0, 1) ∧
      AreRegistered (x.connections.hub 0).transmitter := by
  intro x
  obtain ⟨hregistered, -, hcalls⟩ := no_dispatcher_leaks mishaps isHistory_mishaps
  have hresults : x.calls.map (fun call => call.2.result?.map (·.isOk)) =
      [some true, some true, some false, some false] := by
    decide +kernel
  have hfirst : dialled 1 mishaps = [(0, 0)] := by decide +kernel
  have hsecond : dialled 2 mishaps = [(0, 1)] := by decide +kernel
  refine ⟨hresults, hfirst, hsecond, ?_, ?_, hregistered 0 (by decide +kernel)⟩
  · -- the first one is gone since it was to be committed
    have hline : x.connections.lineOf 0 0 = (0, 0) := by decide +kernel
    rw [← hline]
    exact (hcalls 3 _ _ rfl rfl).2 ⟨0, 0, .write, {}⟩ (.inl rfl)
  · -- the second one was refused
    rcases (hcalls 2 _ _ rfl rfl).1 (0, 1) (by rw [hsecond]; exact List.mem_singleton_self _) with
      hgone | ⟨t, hresult, -⟩
    · exact hgone
    · cases hresult

end GraphDriver.Affairs
