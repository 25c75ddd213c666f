import GraphDriver.Proofs.Client.Living

/-!
# The life of a session

A session is open, and then it is closed for good. Who may close it are those who call `close`, its
pulse if the server gives no sign of life, and the last one who lets go of it. Only the first and
the last owe the server word of it: the one tells it at once, the other leaves a farewell behind,
which is said by nobody in particular some time later. Handles of the session, calls and pulses are
interleaved at their waits, and others change whatever is not the session's. The last one to let go
of a session is taken to do so where a task can be started for its farewell.

* §1 turns that decide
* §2 a whole life
-/

namespace GraphDriver

namespace Lifecycle

open Life

/-! ## §1  Turns that decide -/

section Deciding

variable {s : Nat} {f : Farewell} {c c' : Connections} {move : Move} {said : List SessionId}
  {x : Life} {turn : Turn} {turns : List Turn}

/-- An errand that begins asks for what its program comes to first. -/
theorem asked_begins (errand : Errand) :
    x.asked? s (.begins errand) = ((errand.program s).advance x.connections).1.effect? :=
  rfl

/-- A call that closes the session tells the server at once, if it can. -/
theorem said_close (hs : s < x.connections.sessions.length) :
    x.said s (.begins .close) =
      if (x.session s).isOpen && x.clientIsOpen s then [(x.session s).id] else [] := by
  obtain ⟨standing, hgo, -, hasked⟩ := begins_close hs
  rw [Life.said, asked_begins, hgo, hasked, toList_closing]
  rfl

/-- The farewell of a session that is parting is said if there is a client for it, and then there is
nothing more to be said. -/
theorem begins_parting (h : Orderly s f x) (hparting : x.IsParting s) :
    x.said s (.begins .farewell) = (if x.clientIsOpen s then [(x.session s).id] else []) ∧
      mayTell s (x.next s (.begins .farewell)).connections = 0 := by
  obtain ⟨standing, c', hgo, -, hwhat⟩ := begins_farewell (s := s) (c := x.connections)
  rw [if_pos hparting.2] at hwhat
  obtain ⟨hbeside, hasked⟩ := hwhat
  have hnext : (x.next s (.begins .farewell)).connections = c' := by
    rw [Life.next, Scene.step_begins, hgo]
  constructor
  · rw [Life.said, asked_begins, hgo, hasked, toList_closing]
    rfl
  · rw [hnext, mayTell_beside hbeside]
    exact (h.lives.part hparting.2).2.2.2

/-- A call for a transaction over a session that is closed fails at once, and asks for nothing. -/
theorem begins_refused (hclosed : (x.session s).isOpen = false) (transactionType : TransactionType)
    (options : Options) :
    x.asked? s (.begins (.transaction transactionType options)) = none ∧
      x.next s (.begins (.transaction transactionType options)) =
        { x with calls := x.calls ++
          [(.transaction transactionType options, .ended (.error .sessionClosed))] } := by
  have hgo := begins_transaction_of_closed hclosed transactionType options
  constructor
  · rw [asked_begins, hgo]
    rfl
  · rw [Life.next, Scene.step_begins, hgo]

/-- The answer to a pulse ends it. -/
theorem learns_pulse (h : Orderly s f x) {alive : Bool}
    (hanswer : x.pulseAnswer? turn = some alive) :
    (x.next s turn).connections = pulseEnds s alive x.connections := by
  cases turn with
  | learns i reply =>
      rw [Life.pulseAnswer?] at hanswer
      split at hanswer
      · rename_i e abandoned next hcall
        obtain rfl := Option.some.inj hanswer
        have hstands := h.stands _ (List.mem_of_getElem? hcall) (reply e) x.connections
        have hgoing : Scene.going? (Errand.program s) x (.learns i reply) =
            some (i, .pulse, next (reply e)) := by
          rw [Scene.going?, hcall]
        rw [Life.next, (Scene.step_of_going hgoing).1, Scene.goneOn, hstands]
      · cases hanswer
  | begins errand => cases hanswer
  | leaves i => cases hanswer
  | others change => cases hanswer

/-- What a turn is to the session tells whether its pulse is answered in it. -/
theorem move_eq_answered_iff {alive : Bool} :
    x.move turn = .answered alive ↔ x.pulseAnswer? turn = some alive := by
  cases turn with
  | learns i reply =>
      rw [Life.move]
      cases x.pulseAnswer? (.learns i reply) with
      | some alive' =>
          constructor
          · rintro ⟨⟩
            rfl
          · rintro ⟨⟩
            rfl
      | none => constructor <;> rintro ⟨⟩
  | begins errand => constructor <;> rintro ⟨⟩
  | leaves i => constructor <;> rintro ⟨⟩
  | others change => constructor <;> rintro ⟨⟩

theorem begins_of_move {errand : Errand} (hmove : x.move turn = .begins errand) :
    turn = .begins errand := by
  cases turn with
  | begins errand' => exact congrArg Scene.Turn.begins (Move.begins.inj hmove)
  | learns i reply =>
      rw [Life.move] at hmove
      cases hanswer : x.pulseAnswer? (.learns i reply) <;> rw [hanswer] at hmove <;> cases hmove
  | leaves i => cases hmove
  | others change => cases hmove

/-- A session that is closed by a pulse that fails is not spoken of, and there is no farewell. -/
theorem fails_pulse (h : Orderly s f x) (hproper : x.IsProper s turn)
    (hopen : (x.session s).isOpen = true) (hfails : x.FailsPulse s turn) :
    x.said s turn = [] ∧ mayTell s (x.next s turn).connections = 0 := by
  have hbecomes := (h.step hproper).1
  rcases hfails with ⟨hpulsing, hanswer⟩ | ⟨rfl, hclient⟩
  · have hmove := move_eq_answered_iff.mpr hanswer
    refine ⟨hbecomes.silent ?_ ?_, ?_⟩
    · exact hmove ▸ Move.noConfusion
    · exact hmove ▸ Move.noConfusion
    · rw [learns_pulse h hanswer]
      exact mayTell_of_failed h.lives hopen hpulsing
  · have hmove : Move.begins .pulse ≠ .begins .close ∧ Move.begins .pulse ≠ .begins .farewell := by
      decide
    refine ⟨hbecomes.silent hmove.1 hmove.2, ?_⟩
    obtain ⟨standing, hgo, -, -⟩ := begins_pulse (s := s) (c := x.connections)
    have hthere : x.connections.clientIsOpen (x.connections.session s).client = false := hclient
    have hstarted : Lives s f (pulseStarts s x.connections) := h.lives.pulseStarts hopen
    have hself := session_pulseStarts h.lives.known
    have hnext : (x.next s (.begins .pulse)).connections =
        pulseEnds s false (pulseStarts s x.connections) := by
      rw [Life.next, Scene.step_begins, hgo, hthere, if_neg Bool.false_ne_true]
      exact if_pos hopen
    rw [hnext]
    refine mayTell_of_failed hstarted ?_ ?_
    · rw [hself]
      exact hopen
    · rw [hself]
      rfl

/-- The last handle of a session that does not pulse is let go of. -/
theorem drops_idle (h : Orderly s f x) (hopen : (x.session s).isOpen = true)
    (hlast : (x.session s).handles = 1) (hidle : (x.session s).pulsing = false) :
    (x.next s (.begins .drop)).IsParting s := by
  rw [Session.handles, hidle, if_neg Bool.false_ne_true] at hlast
  exact h.lives.release_last hopen hlast

/-- The last handle of a session is let go of while a pulse is under way, which holds it. -/
theorem drops_pulsing (h : Orderly s f x) (hlast : (x.session s).handles = 1)
    (hpulsing : (x.session s).pulsing = true) :
    ((x.next s (.begins .drop)).session s).isOpen = (x.session s).isOpen ∧
      ((x.next s (.begins .drop)).session s).handles = 0 := by
  have hholders : (x.session s).holders - 1 = 1 := by
    rw [Session.handles, if_pos hpulsing] at hlast
    exact hlast
  have hnext : (x.next s (.begins .drop)).session s = (x.connections.releaseSession s).session s :=
    congrArg (Connections.session · s) (congrArg Scene.connections (Scene.step_begins x .drop))
  rw [hnext]
  rcases release_cases h.lives.known with ⟨hself, -, -⟩ | ⟨-, hnone, -⟩
  · rw [hself]
    refine ⟨rfl, ?_⟩
    show (if (x.session s).pulsing then (x.session s).holders - 1 - 1 else _) = 0
    rw [if_pos hpulsing, hholders]
  · exact absurd (hholders.symm.trans hnone) (by decide)

/-- The pulse that holds a session without handles is answered with a sign of life. -/
theorem answered_alive (h : Orderly s f x) (hopen : (x.session s).isOpen = true)
    (hhandles : (x.session s).handles = 0) (halive : x.pulseAnswer? turn = some true) :
    (x.next s turn).IsParting s := by
  have hkept : 0 < (x.session s).holders := h.lives.kept hopen
  have hpulsing : (x.session s).pulsing = true := by
    refine eq_true_of_ne_false fun hidle => ?_
    rw [Session.handles, hidle, if_neg Bool.false_ne_true] at hhandles
    exact absurd hhandles (Nat.ne_of_gt hkept)
  have hlast : (x.session s).holders = 1 := by
    rw [Session.handles, if_pos hpulsing] at hhandles
    omega
  have hself : (x.connections.modifySession s (Session.endPulse true)).session s =
      Session.endPulse true (x.session s) :=
    (Connections.alters_modifySession h.lives.known _).self
  rw [IsParting, Life.session, learns_pulse h halive, pulseEnds]
  rw [if_pos (show (x.connections.session s).pulsing = true from hpulsing)]
  exact (h.lives.endPulse true).release_last (hself ▸ hopen) (hself ▸ hlast)

/-- A session without handles is so for as long as its pulse is not answered. -/
theorem lingers (h : Orderly s f x) (hfair : x.IsFair s turns) (hopen : (x.session s).isOpen = true)
    (hhandles : (x.session s).handles = 0)
    (hwaits : Run.Each (fun pre turn => (x.after s pre).pulseAnswer? turn = none) turns) :
    (x.after s turns).session s = x.session s := by
  induction turns using List.reverseRecOn with
  | nil => rfl
  | append_singleton turns turn ih =>
      have hsame := ih (Run.Each.front hfair) (Run.Each.front hwaits)
      have horderly := (h.told (Run.Each.front hfair)).2.2.2
      have hbecomes := (horderly.step (Run.Each.last hfair)).1
      rw [after_snoc, ← hsame]
      refine hbecomes.lingers horderly.lives (fun alive hmove => ?_) ?_ ?_
      · exact nomatch (move_eq_answered_iff.mp hmove).symm.trans (Run.Each.last hwaits)
      · exact (congrArg Session.isOpen hsame).trans hopen
      · exact (congrArg Session.handles hsame).trans hhandles

/-- A session is parting for as long as its farewell is not said. -/
theorem parting_after (h : Orderly s f x) (hfair : x.IsFair s turns) (hparting : x.IsParting s)
    (hwaits : ∀ turn ∈ turns, turn ≠ .begins .farewell) : (x.after s turns).IsParting s := by
  induction turns using List.reverseRecOn with
  | nil => exact hparting
  | append_singleton turns turn ih =>
      have hbefore := ih (Run.Each.front hfair)
        fun turn hmem => hwaits turn (List.mem_append_left _ hmem)
      have horderly := (h.told (Run.Each.front hfair)).2.2.2
      have hbecomes := (horderly.step (Run.Each.last hfair)).1
      rw [after_snoc]
      refine hbecomes.parting horderly.lives (fun hmove => ?_) hbefore
      exact hwaits turn (List.mem_append_right _ (List.mem_singleton.mpr rfl))
        (begins_of_move hmove)

theorem Life.Departs.parting (hdeparts : x.Departs s turns) (h : Orderly s f x)
    (hfair : x.IsFair s turns) : (x.after s turns).IsParting s := by
  cases hdeparts with
  | idle hopen hlast hidle => exact drops_idle h hopen hlast hidle
  | pulsing hopen hlast hpulsing hwaits halive =>
      rename_i between answer
      obtain ⟨hstill, hhandles⟩ := drops_pulsing h hlast hpulsing
      have hdropped : x.IsFair s ([.begins .drop] ++ (between ++ [answer])) := hfair
      obtain ⟨hdrop, hrest⟩ := isFair_split hdropped
      have horderly := (h.told hdrop).2.2.2
      have hsame := lingers horderly (Run.Each.front hrest) (hstill.trans hopen) hhandles hwaits
      have hlate := (horderly.told (Run.Each.front hrest)).2.2.2
      have hafter : x.after s (.begins .drop :: between ++ [answer]) =
          ((x.next s (.begins .drop)).after s between).next s answer :=
        after_snoc (x := x.next s (.begins .drop)) between answer
      rw [hafter]
      refine answered_alive hlate ?_ ?_ halive
      · exact (congrArg Session.isOpen hsame).trans (hstill.trans hopen)
      · exact (congrArg Session.handles hsame).trans hhandles

end Deciding

/-! ## §2  A whole life -/

section Lifetime

variable {s : Nat} {x : Life} {turns pre post : List Turn} {turn : Turn}

/-- What the server is told in a run is what it is told in a turn before which it was to be told
something, and after which it is to be told nothing. -/
theorem told_of_decisive (hx : x.IsOpened s) (hfair : x.IsFair s (pre ++ turn :: post))
    (hsome : 0 < mayTell s (x.after s pre).connections)
    (hnone : mayTell s ((x.after s pre).next s turn).connections = 0) :
    x.told s (pre ++ turn :: post) = (x.after s pre).said s turn := by
  have hsplit : pre ++ turn :: post = pre ++ [turn] ++ post := List.append_cons ..
  rw [hsplit] at hfair ⊢
  obtain ⟨hfront, hpost⟩ := isFair_split hfair
  have hpre := isFair_split hfront |>.1
  have hnext := orderly_after hx hfront
  obtain ⟨-, -, hbefore, -⟩ := hx.orderly.told hpre
  obtain ⟨-, -, hafter, -⟩ := hnext.told hpost
  rw [after_snoc] at hafter hpost
  have hopened : mayTell s x.connections = 1 := mayTell_of_open hx.isOpen
  have hnothing : x.told s pre = [] := List.length_eq_zero_iff.mp (by omega)
  have hrest : ((x.after s pre).next s turn).told s post = [] :=
    List.length_eq_zero_iff.mp (by omega)
  rw [told_append, told_snoc, after_snoc, hnothing, hrest, List.nil_append, List.append_nil]

/-- The server is told of a session by the call that closes it while it is open. -/
theorem told_of_close (hx : x.IsOpened s) (hfair : x.IsFair s (pre ++ .begins .close :: post))
    (hopen : ((x.after s pre).session s).isOpen = true)
    (hclient : (x.after s pre).clientIsOpen s = true) :
    x.told s (pre ++ .begins .close :: post) = [(x.session s).id] := by
  have horderly := orderly_after hx (isFair_split hfair).1
  have hsaid : (x.after s pre).said s (.begins .close) = [((x.after s pre).session s).id] := by
    rw [said_close horderly.lives.known, hopen, hclient]
    rfl
  have hless := ((horderly.step (hfair pre _ post rfl)).1.lives horderly.lives).2.2.2
  have hsome : mayTell s (x.after s pre).connections = 1 := mayTell_of_open hopen
  rw [hsaid, List.length_singleton, hsome] at hless
  have hnone : mayTell s ((x.after s pre).next s (.begins .close)).connections = 0 := by omega
  rw [told_of_decisive hx hfair (hsome ▸ Nat.one_pos) hnone, hsaid]
  exact congrArg (fun f : Farewell => [f.session]) horderly.lives.farewell

/-- The server is told of a session that its last handle has left by the farewell, if there is a
client then. -/
theorem told_of_parting (hx : x.IsOpened s) (hfair : x.IsFair s (pre ++ .begins .farewell :: post))
    (hparting : (x.after s pre).IsParting s) :
    x.told s (pre ++ .begins .farewell :: post) =
      if (x.after s pre).clientIsOpen s then [(x.session s).id] else [] := by
  have horderly := orderly_after hx (isFair_split hfair).1
  obtain ⟨hsaid, hnone⟩ := begins_parting horderly hparting
  have hsome : 0 < mayTell s (x.after s pre).connections := by
    rw [mayTell_of_closed hparting.1]
    exact List.count_pos_iff.mpr hparting.2
  have hid : ((x.after s pre).session s).id = (x.session s).id :=
    congrArg Farewell.session horderly.lives.farewell
  rw [told_of_decisive hx hfair hsome hnone, hsaid, hid]

/-- A session is closed once and for all, and the server is told of it at most once: by the call
that closes an open session, if there is a client to tell it, or by the farewell after the last
handle has gone, if there is one then. It is not told of a session that a failed pulse has closed.
A session that is closed is not kept alive, and gives no transactions. -/
theorem closes_for_good (hx : x.IsOpened s) (hfair : x.IsFair s turns) :
    (x.told s turns).length ≤ 1 ∧ (∀ id ∈ x.told s turns, id = (x.session s).id) ∧
    (∀ pre turn post, turns = pre ++ turn :: post →
      let y := x.after s pre
      ((y.session s).isOpen = false →
        ((x.after s turns).session s).isOpen = false ∧
        (∀ e, y.asked? s turn = some e → e.isPulse = false) ∧
        ∀ transactionType options, turn = .begins (.transaction transactionType options) →
          y.asked? s turn = none ∧
          y.next s turn = { y with calls := y.calls ++
            [(.transaction transactionType options, .ended (.error .sessionClosed))] }) ∧
      ((y.session s).isOpen = true → y.FailsPulse s turn → x.told s turns = []) ∧
      ((y.session s).isOpen = true → y.clientIsOpen s = true → turn = .begins .close →
        x.told s turns = [(x.session s).id])) ∧
    ∀ pre going between post, turns = pre ++ going ++ between ++ .begins .farewell :: post →
      (x.after s pre).Departs s going → (∀ turn ∈ between, turn ≠ .begins .farewell) →
      x.told s turns =
        if (x.after s (pre ++ going ++ between)).clientIsOpen s then [(x.session s).id]
        else [] := by
  obtain ⟨-, hids, hless, -⟩ := hx.orderly.told hfair
  have hopened : mayTell s x.connections = 1 := mayTell_of_open hx.isOpen
  refine ⟨by omega, hids, ?_, ?_⟩
  · rintro pre turn post rfl y
    obtain ⟨hpre, hrest⟩ := isFair_split hfair
    have horderly : Orderly s (x.connections.farewellOf s) y := orderly_after hx hpre
    have hproper : y.IsProper s turn := hfair pre turn post rfl
    refine ⟨fun hclosed => ⟨?_, ?_, ?_⟩, fun hopen hfails => ?_, fun hopen hclient hturn => ?_⟩
    · have hsplit : x.after s (pre ++ turn :: post) = y.after s (turn :: post) := List.foldl_append
      rw [hsplit]
      exact (horderly.told hrest).1 hclosed
    · refine fun e hasked => eq_false_of_ne_true fun hpulse => ?_
      exact absurd (((horderly.step hproper).2.2 e hasked hpulse).symm.trans hclosed)
        Bool.noConfusion
    · rintro transactionType options rfl
      exact begins_refused hclosed transactionType options
    · obtain ⟨hsaid, hnone⟩ := fails_pulse horderly hproper hopen hfails
      rw [told_of_decisive hx hfair (mayTell_of_open hopen ▸ Nat.one_pos) hnone]
      exact hsaid
    · subst hturn
      exact told_of_close hx hfair hopen hclient
  · rintro pre going between post rfl hdeparts hwaits
    obtain ⟨hbetween, -⟩ := isFair_split hfair
    obtain ⟨hgoing, hlater⟩ := isFair_split hbetween
    obtain ⟨hpre, hdeparting⟩ := isFair_split hgoing
    have hparts := hdeparts.parting (orderly_after hx hpre) hdeparting
    have hparted : (x.after s (pre ++ going)).IsParting s := by
      rwa [show x.after s (pre ++ going) = (x.after s pre).after s going from List.foldl_append]
    have hwaited := parting_after (orderly_after hx hgoing) hlater hparted hwaits
    refine told_of_parting hx hfair ?_
    rwa [show x.after s (pre ++ going ++ between) = (x.after s (pre ++ going)).after s between
      from List.foldl_append]

end Lifetime

/-! ### The last handle goes -/

/-- A client has opened a session. -/
def opened : Life :=
  let opening : Operation Nat := do
    Session.openAt (← modifyGet (Connections.newClient "a" {})) "social" .data {}
  { connections := (opening.replay (fun _ => ClusterSession.member default) {}).2.2 }

theorem isOpened_opened : opened.IsOpened 0 where
  calls := rfl
  known := by decide +kernel
  isOpen := by decide +kernel
  idle := by decide +kernel
  held := by decide +kernel
  silent := by decide +kernel

/-- The last handle goes while a pulse is under way. -/
def leaving : List Turn :=
  [.begins .drop, .learns 0 (ClusterSession.member default)]

/-- The last handle goes while a pulse is under way, and the client is closed before the answer. -/
def leavingAlone : List Turn :=
  [.begins .drop, .others (·.closeClient 0), .learns 0 (ClusterSession.member default)]

theorem isFair_pulse : opened.IsFair 0 [.begins .pulse] :=
  Life.IsFair.begins Run.each_nil .pulse (by decide +kernel)

theorem closes_for_good_leaving :
    opened.IsOpened 0 ∧ opened.IsFair 0 ([.begins .pulse] ++ leaving ++ [.begins .farewell]) ∧
      (opened.after 0 [.begins .pulse]).Departs 0 leaving ∧
      opened.told 0 ([.begins .pulse] ++ leaving ++ [.begins .farewell]) = [default] := by
  have hdrop := isFair_pulse.begins .drop (by decide +kernel)
  have hanswered := hdrop.learns 0 (ClusterSession.member default)
  have hfair := hanswered.begins .farewell trivial
  have hdeparts : (opened.after 0 [.begins .pulse]).Departs 0 leaving :=
    .pulsing (by decide +kernel) (by decide +kernel) (by decide +kernel) Run.each_nil
      (by decide +kernel)
  have htold := (closes_for_good isOpened_opened hfair).2.2.2 [.begins .pulse] leaving [] [] rfl
    hdeparts (List.forall_mem_nil _)
  refine ⟨isOpened_opened, hfair, hdeparts, htold.trans ?_⟩
  decide +kernel

/-- The client was open when the last handle went, and the pulse showed life, but there is nobody
left to tell the server. -/
theorem last_handle_goes_unheard :
    opened.IsOpened 0 ∧
      opened.IsFair 0 ([.begins .pulse] ++ leavingAlone ++ [.begins .farewell]) ∧
      (opened.after 0 [.begins .pulse]).clientIsOpen 0 = true ∧
      (opened.after 0 [.begins .pulse]).Departs 0 leavingAlone ∧
      (opened.after 0 ([.begins .pulse] ++ leavingAlone ++
        [.begins .farewell])).connections.farewells = [] ∧
      opened.told 0 ([.begins .pulse] ++ leavingAlone ++ [.begins .farewell]) = [] := by
  have hdrop := isFair_pulse.begins .drop (by decide +kernel)
  have hclosed := hdrop.others (beside_closeClient 0 0)
  have hanswered := hclosed.learns 0 (ClusterSession.member default)
  have hfair := hanswered.begins .farewell trivial
  refine ⟨isOpened_opened, hfair, by decide +kernel, ?_, by decide +kernel, by decide +kernel⟩
  exact .pulsing (by decide +kernel) (by decide +kernel) (by decide +kernel)
    (Run.Each.concat Run.each_nil rfl) (by decide +kernel)

end Lifecycle

end GraphDriver
