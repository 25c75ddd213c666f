import GraphDriver.Proofs.Cluster.Affairs
import GraphDriver.Proofs.Cluster.Traffic

/-!
# Nothing leaves after closing

A client that owns its hub shuts it when it is closed, and so does a cluster. That one flag is what
keeps everything quiet that was derived from either, whatever else there is to be looked at on the
way to the network: clients, sessions and transactions that are there, and those that come later.
What begins after that fails at once; what was under way gets the answers that it waits for and asks
for nothing more, but that it may still pause, or have the application work, and after a pause it
has failed.

* §1 what closes a hub
* §2 hubs that are shut
* §3 calls about a hub that is shut
* §4 after closing
* §5 closing amid work
-/

namespace GraphDriver

/-! ## §1  What closes a hub -/

/-- A deed closes a client that owns the hub, or the cluster of the hub. -/
def Deed.Closes (c : Connections) (h : Nat) : Deed → Prop
  | .closeClient i => i < c.clients.length ∧ (c.client i).ownsHub = true ∧ (c.client i).hub = h
  | .closeCluster k => k < c.clusters.length ∧ (c.cluster k).hub = h
  | _ => False

theorem Deed.Closes.shut {deed : Deed} {c : Connections} {h : Nat} (hcloses : deed.Closes c h)
    (hc : c.Sane) : (deed.perform c).Shut h := by
  cases deed with
  | closeClient i =>
      obtain ⟨hi, howns, rfl⟩ := hcloses
      exact Connections.shut_closeClient hc hi howns
  | closeCluster k =>
      obtain ⟨hk, rfl⟩ := hcloses
      exact (Connections.shut_closeCluster hc hk).1
  | _ => exact hcloses.elim

/-! ## §2  Hubs that are shut -/

namespace Hub

/-- Nothing gets out of a hub: it has no dispatcher for a new stream, and nothing is sent over any
stream, be it a request or the wish for the next page. -/
structure IsMute (h : Hub) : Prop where
  reserve : h.reserve.1 = .error .clientClosed
  send : ∀ s < h.streams.length, ∀ now payload batched,
    ∃ error, (h.send now s payload batched).1 = .error error
  askMore : ∀ now s id, ∃ error, (h.askMore now s id).1 = .error error
  /-- Nothing waits to be sent later. -/
  buffers : ∀ d, (h.transmitter.dispatcher d).buffer = []

/-- What became of a hub without a request getting into any of its queues. -/
structure OnlyDrains (h h' : Hub) : Prop where
  dispatchers : h'.transmitter.dispatchers.length = h.transmitter.dispatchers.length
  queues : ∀ d, (h'.transmitter.dispatcher d).queue.batches <:+
    (h.transmitter.dispatcher d).queue.batches

variable {h h' : Hub}

theorem isMute_of_shut (hsane : h.Sane) (hshut : h.transmitter.isOpen = false) : h.IsMute where
  reserve := by rw [reserve_of_shut hshut]
  send s hs now payload batched := by
    obtain ⟨error, hsent, -⟩ := send_of_shut hs hshut now payload batched
    exact ⟨error, hsent⟩
  askMore := askMore_of_shut hshut
  buffers d := by
    rcases Nat.lt_or_ge d h.transmitter.dispatchers.length with hd | hd
    · exact (hsane.transmitter.sound d).empty (hsane.transmitter.silent hshut d hd)
    · rw [Transmitter.dispatcher_of_le hd]
      rfl

theorem Evolves.onlyDrains (hevolves : h.Evolves h') (hsane : h.Sane)
    (hshut : h.transmitter.isOpen = false) : h.OnlyDrains h' := by
  have hlength := (hevolves.transmitter.shut hshut).2
  refine ⟨hlength, fun d => ?_⟩
  rcases Nat.lt_or_ge d h.transmitter.dispatchers.length with hd | hd
  · exact hevolves.transmitter.left d (hsane.transmitter.silent hshut d hd)
  · rw [Transmitter.dispatcher_of_le hd, Transmitter.dispatcher_of_le (hlength ▸ hd)]

end Hub

/-! ## §3  Calls about a hub that is shut -/

namespace Session

open Operation

variable {c : Connections} {h s : Nat}

/-- **A pulse** whose hub is shut is over at once, and its session is closed. -/
theorem advance_pulse_of_shut (hs : c.SessionOn h s) (hshut : c.Shut h) :
    ∃ c', (pulse s).advance c = (.ended (), c') ∧ (c'.session s).isOpen = false := by
  obtain ⟨hknown, hclient⟩ := hs
  cases hopen : (c.session s).isOpen with
  | false =>
      refine ⟨c, ?_, hopen⟩
      show (if (c.session s).isOpen then _ else _ : Program Unit).advance c = _
      rw [hopen, if_neg Bool.false_ne_true]
      rfl
  | true =>
      have hcall : (call (c.session s).client (.sessionPulse (c.session s).id)).run.advance
          ((c.modifySession s startPulse).retainSession s) =
            (.ended (.error .clientClosed), (c.modifySession s startPulse).retainSession s) :=
        advance_call_of_shut hclient hshut
      have hadvance : (pulse s).advance c =
          (if (((c.modifySession s startPulse).retainSession s).session s).pulsing then do
            modify (·.modifySession s (endPulse false))
            modify (·.releaseSession s)
          else pure () : Program Unit).advance
            ((c.modifySession s startPulse).retainSession s) := by
        show (if (c.session s).isOpen then _ else _ : Program Unit).advance c = _
        rw [hopen, if_pos rfl]
        show ((call (c.session s).client (.sessionPulse (c.session s).id)).run.bind _).advance _ = _
        rw [Program.advance_bind, hcall]
        rfl
      have hstarts := Connections.alters_startPulse hknown
      generalize (c.modifySession s startPulse).retainSession s = c₁ at hstarts hadvance
      have hpulsing : (c₁.session s).pulsing = true := by rw [hstarts.self]; rfl
      have hknown₁ : s < c₁.sessions.length := Nat.lt_of_lt_of_eq hknown hstarts.length.symm
      have hends := Connections.alters_modifySession hknown₁ (endPulse false)
      have hknown₂ : s < (c₁.modifySession s (endPulse false)).sessions.length :=
        Nat.lt_of_lt_of_eq hknown₁ hends.length.symm
      refine ⟨(c₁.modifySession s (endPulse false)).releaseSession s, ?_, ?_⟩
      · rw [hadvance, hpulsing, if_pos rfl]
        rfl
      · apply (Connections.later_releaseSession hknown₂).closed
        rw [hends.self]
        rfl

/-- **A farewell** whose hub is shut is over at once. -/
theorem advance_sayFarewell_of_shut {farewell : Farewell} (hi : c.ClientOn h farewell.client)
    (hshut : c.Shut h) :
    (sayFarewell farewell).advance c = (.ended (), c.releaseClient farewell.client) := by
  have hcall : (call farewell.client (.sessionClose farewell.session)).run.advance c =
      (.ended (.error .clientClosed), c) :=
    advance_call_of_shut hi hshut
  show ((call farewell.client (.sessionClose farewell.session)).run.bind _).advance c = _
  rw [Program.advance_bind, hcall]
  rfl

end Session

namespace Affairs

/-! ## §4  After closing -/

/-- How silent a turn is, once a hub was shut. -/
structure IsSilent (h : Nat) (turns : List Turn) (turn : Turn) : Prop where
  shut : ((after turns).next turn).connections.Shut h
  /-- Nothing can be sent over the hub, and nothing is left that was to be sent. -/
  mute : (((after turns).next turn).connections.hub h).IsMute
  /-- No request gets into an outgoing queue. -/
  drains : ((after turns).connections.hub h).OnlyDrains
    (((after turns).next turn).connections.hub h)
  /-- A call about the hub that begins, or goes on, asks no server and connects no stream. -/
  waits : ∀ i u p e, Scene.going? Undertaking.program (after turns) turn = some (i, u, p) →
    (hubs (turns ++ [turn]))[i]? = some h →
    Scene.asked? Undertaking.program (after turns) turn = some e → e.isLocal = true
  /-- What begins and would ask a server for something fails at once. -/
  begins : ∀ u, turn = .begins u → u.hub (after turns).connections = h →
    u.AsksFor (after turns).connections → ∃ error,
      ((after turns).next turn).calls = (after turns).calls ++ [(u, .ended (.error error))]
  /-- A pulse gives its session up. -/
  pulses : ∀ s, turn = .begins (.pulse s) →
    (Undertaking.pulse s).hub (after turns).connections = h →
    ((after turns).next turn).calls = (after turns).calls ++ [(.pulse s, .ended (.ok none))] ∧
      (((after turns).next turn).connections.session s).isOpen = false
  /-- A farewell is not sent. -/
  farewells : ∀ farewell, turn = .begins (.sayFarewell farewell) →
    (Undertaking.sayFarewell farewell).hub (after turns).connections = h →
    ((after turns).next turn).calls =
      (after turns).calls ++ [(.sayFarewell farewell, .ended (.ok none))]
  /-- What was to be tried again after a pause fails when the pause is over. -/
  pauses : ∀ i reply u standing millis, turn = .learns i reply →
    (after turns).calls[i]? = some (u, standing) → (hubs turns)[i]? = some h →
    standing.effect? = some (.pause millis) → ∃ error,
      ((after turns).next turn).calls[i]? = some (u, .ended (.error error))

section Silence

variable {h i : Nat} {turns : List Turn} {turn : Turn} {u : Undertaking}

/-- What nobody is told of comes to nothing. -/
theorem advance_silently {p : Program Unit} {c c' : Connections}
    (h : p.advance c = (.ended (), c')) :
    (p.bind fun _ => .done (.ok none) : Program Undertaking.Outcome).advance c =
      (.ended (.ok none), c') := by
  rw [Program.advance_bind, h]
  rfl

/-- A call that begins is over at once, if its program is. -/
theorem calls_begins {x : Affairs} {outcome : Undertaking.Outcome} {c : Connections}
    (hadvance : u.program.advance x.connections = (.ended outcome, c)) :
    (x.next (.begins u)).calls = x.calls ++ [(u, .ended outcome)] ∧
      (x.next (.begins u)).connections = c := by
  rw [next, Scene.step_begins, hadvance]
  exact ⟨rfl, rfl⟩

/-- A call that goes on after a pause in which its hub was shut has failed. -/
theorem fails_after_pause {x : Affairs} {subjects : List Nat} {lines : Nat → List Line}
    (horderly : Orderly subjects lines x) {standing : Standing Undertaking.Outcome} {millis : Nat}
    (hcall : x.calls[i]? = some (u, standing)) (hsubject : subjects[i]? = some h)
    (heffect : standing.effect? = some (.pause millis)) (hshut : x.connections.Shut h)
    {reply : (e : Effect) → e.Reply} :
    ∃ error, (x.next (.learns i reply)).calls[i]? = some (u, .ended (.error error)) := by
  obtain ⟨h', hhub, hstands⟩ := horderly.stands i u standing hcall
  obtain rfl := Option.some.inj (hhub.symm.trans hsubject)
  cases standing with
  | ended outcome => cases heffect
  | givenUp => cases heffect
  | waiting e abandoned later =>
      obtain rfl := Option.some.inj heffect
      obtain ⟨-, -, hfails⟩ := hstands
      obtain ⟨_, c, hadvance, error, rfl, -⟩ :=
        hfails rfl (reply (.pause millis)) x.connections (.refl horderly.sane) hshut
      have hgoing : Scene.going? Undertaking.program x (.learns i reply) =
          some (i, u, later (reply (.pause millis))) := by
        rw [Scene.going?, hcall]
      have hi := Nat.le_of_lt (List.getElem?_eq_some_iff.mp hcall).1
      refine ⟨error, ?_⟩
      rw [next, (Scene.step_of_going hgoing).1]
      show (x.calls.take i ++ (u, _) :: x.calls.drop (i + 1))[i]? = _
      rw [getElem?_replaced hi, if_pos rfl, hadvance]

/-- **While its hub is shut**, every turn is silent. -/
theorem isSilent_of_shut (hturns : IsHistory (turns ++ [turn]))
    (hshut : (after turns).connections.Shut h) : IsSilent h turns turn := by
  have horderly := orderly_after hturns.front
  obtain ⟨hevolves, hafter⟩ := horderly.next hturns.last
  have hh := Connections.lt_of_shut hshut
  have hhub := (horderly.sane.hub h hh)
  have hnext := hevolves.hub h hh
  have hstill : ((after turns).next turn).connections.Shut h := hevolves.shut hshut
  exact
    { shut := hstill
      mute := Hub.isMute_of_shut (hafter.sane.hub h hnext.1) hstill
      drains := hnext.2.onlyDrains hhub hshut
      waits := by
        intro i u p e hgoing hsubject hasked
        obtain ⟨-, -, h', hhub', hp⟩ := horderly.going hturns.last hgoing
        rw [hubs_snoc, hhub'] at hsubject
        obtain rfl := Option.some.inj hsubject
        obtain ⟨hgone, -, hwaits⟩ := hp.advance horderly.sane
        rw [(Scene.step_of_going hgoing).2.2] at hasked
        exact hwaits e hasked (hgone.shut hshut)
      begins := by
        rintro u rfl rfl hasks
        obtain ⟨_, c, hadvance, error, rfl, -⟩ :=
          Undertaking.refuses_program horderly.sane hturns.last hshut hasks
        exact ⟨error, (calls_begins hadvance).1⟩
      pulses := by
        rintro s rfl rfl
        obtain ⟨c, hadvance, hclosed⟩ :=
          Session.advance_pulse_of_shut (horderly.sane.sessionOn hturns.last) hshut
        obtain ⟨hcalls, rfl⟩ := calls_begins (u := .pulse s) (advance_silently hadvance)
        exact ⟨hcalls, hclosed⟩
      farewells := by
        rintro farewell rfl rfl
        have hadvance := Session.advance_sayFarewell_of_shut ⟨hturns.last, rfl⟩ hshut
        exact (calls_begins (u := .sayFarewell farewell) (advance_silently hadvance)).1
      pauses := by
        rintro i reply u standing millis rfl hcall hsubject heffect
        exact fails_after_pause horderly hcall hsubject heffect hshut }

end Silence

/-- **Nothing leaves after closing.** Once a client that owns its hub was closed, or the cluster of
the hub, every turn that comes is silent, whatever was under way then and whatever has begun since:
no call about the hub asks a server or connects a stream, no request gets into an outgoing queue,
and what needs a server fails at once or when it is tried again. A cluster that was closed stays
so. -/
theorem nothing_leaves_after_closing (before later : List Turn) (deed : Deed) (h : Nat)
    (turn : Turn) (hturns : IsHistory (before ++ [.others deed.perform] ++ later ++ [turn]))
    (hcloses : deed.Closes (after before).connections h) :
    IsSilent h (before ++ [.others deed.perform] ++ later) turn ∧
      ∀ k, deed = .closeCluster k →
        ((after (before ++ [.others deed.perform] ++ later)).connections.cluster k).isOpen =
          false := by
  have hclosing : IsHistory (before ++ [.others deed.perform]) := hturns.front.front
  have hsane := (orderly_after hclosing.front).sane
  have hafter : (after (before ++ [.others deed.perform])).connections =
      deed.perform (after before).connections := by
    rw [after_snoc]
    rfl
  have hevolves := evolves_after hturns.front
  rw [hafter] at hevolves
  refine ⟨isSilent_of_shut hturns (hevolves.shut (hcloses.shut hsane)), ?_⟩
  rintro k rfl
  have hclosed := (Connections.shut_closeCluster hsane hcloses.1).2
  have hthere := ((Connections.evolves_closeCluster hsane k).cluster k hcloses.1).1
  exact (hevolves.cluster k hthere).2.2 hclosed

/-! ## §5  Closing amid work -/

open ClusterSession (member away)

/-- A client has a session. -/
def settled : List Turn :=
  [.others (Deed.newClient "a" {}).perform, .begins (.openSession 0 "db" .data {}),
    .learns 0 (member default)]

/-- The work of the application at the primary replica of a cluster was cut short, and it waits for
an election. -/
def failingOver : List Turn :=
  [.begins (.connect ["a"] {} {}), .learns 0 (member default), .begins (.workAtPrimary 0 "db"),
    .learns 1 (member default), .learns 1 away]

theorem isHistory_settled : IsHistory settled := by
  have hclient := isHistory_nil.deed (.newClient "a" {}) trivial
  exact (hclient.begins (u := .openSession 0 "db" .data {}) (by decide +kernel)).learns 0
    (member default)

theorem isHistory_failingOver : IsHistory failingOver := by
  have hcluster := (isHistory_nil.begins (u := .connect ["a"] {} {}) trivial).learns 0
    (member default)
  exact ((hcluster.begins (u := .workAtPrimary 0 "db") (by decide +kernel)).learns 1
    (member default)).learns 1 away

/-- A transaction is refused after the client was closed, and work is not tried again after the
cluster was. -/
theorem nothing_leaves_after_closing_amid_work :
    (∃ error, ((after (settled ++ [.others (Deed.closeClient 0).perform] ++ [])).next
        (.begins (.openTransaction 0 .write {}))).calls =
      (after (settled ++ [.others (Deed.closeClient 0).perform] ++ [])).calls ++
        [(.openTransaction 0 .write {}, .ended (.error error))]) ∧
    ∃ u error, ((after (failingOver ++ [.others (Deed.closeCluster 0).perform] ++ [])).next
        (.learns 1 (member default))).calls[1]? = some (u, .ended (.error error)) := by
  constructor
  · have hclosing := isHistory_settled.deed (.closeClient 0) trivial
    have hturns : IsHistory (settled ++ [.others (Deed.closeClient 0).perform] ++ [] ++
        [.begins (.openTransaction 0 .write {})]) :=
      hclosing.begins (u := .openTransaction 0 .write {}) (by decide +kernel)
    have hcloses : (Deed.closeClient 0).Closes (after settled).connections 0 := by
      show _ ∧ _ ∧ _
      decide +kernel
    have hsilent := (nothing_leaves_after_closing settled [] (.closeClient 0) 0 _ hturns hcloses).1
    exact hsilent.begins _ rfl (by decide +kernel) trivial
  · have hclosing := isHistory_failingOver.deed (.closeCluster 0) trivial
    have hturns : IsHistory (failingOver ++ [.others (Deed.closeCluster 0).perform] ++ [] ++
        [.learns 1 (member default)]) :=
      hclosing.learns 1 (member default)
    have hcloses : (Deed.closeCluster 0).Closes (after failingOver).connections 0 := by
      show _ ∧ _
      decide +kernel
    have hsilent :=
      (nothing_leaves_after_closing failingOver [] (.closeCluster 0) 0 _ hturns hcloses).1
    have hpausing :
        ((after (failingOver ++ [.others (Deed.closeCluster 0).perform] ++ [])).calls[1]?.bind
          fun call => call.2.effect?) = some (.pause 2000) := by
      decide +kernel
    obtain ⟨⟨u, standing⟩, hcall, heffect⟩ := Option.bind_eq_some_iff.mp hpausing
    obtain ⟨error, hfailed⟩ :=
      hsilent.pauses 1 _ u standing 2000 rfl hcall (by decide +kernel) heffect
    exact ⟨u, error, hfailed⟩

end Affairs

end GraphDriver
