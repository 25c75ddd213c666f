import GraphDriver.Proofs.Cluster.Fates
import GraphDriver.Proofs.Run

/-!
# Traffic over a session of a cluster

Any number of calls for transactions, calls that close the session and pulses, interleaved at their
waits. Servers answer what they like. Others change what they like, but for the session of the
cluster and the sessions at replicas that were opened for it, of which they have no hold.

* §1 turns
* §2 what is fair
* §3 one turn
* §4 runs
* §5 what a turn does to the sessions
* §6 a session of a cluster that is closed
* §7 a cluster of one member
-/

namespace GraphDriver.ClusterSession

/-! ## §1  Turns -/

/-- Calls over a session of a cluster, and pulses, that are under way at the same time. -/
abbrev Traffic := Scene Errand (Except Error (Option Transaction))

/-- What can happen next to the traffic. -/
abbrev Turn := Scene.Turn Errand

namespace Traffic

variable (session : Nat) (x : Traffic)

abbrev next (turn : Turn) : Traffic := Scene.step (Errand.program session) x turn

abbrev after (turns : List Turn) : Traffic := Scene.run (Errand.program session) x turns

/-- The session at a replica that is in use. -/
def current : Nat := (x.connections.clusterSession session).current

def isOpen : Bool := x.connections.clusterSessionIsOpen session

/-- The errand of the call that goes on or is given up in a turn. -/
def errand? : Turn → Option Errand
  | .begins errand => some errand
  | .learns i _ | .leaves i => x.calls[i]?.map Prod.fst
  | .others _ => none

/-- The sessions of which servers are told that they are closed: by the call that goes on in a turn,
or by the farewells that are due from then on. -/
def said (turn : Turn) : List SessionId :=
  ((Scene.asked? (Errand.program session) x turn).bind Effect.closes?).toList ++
    ((x.next session turn).connections.farewells.drop x.connections.farewells.length).map
      Farewell.session

/-- The sessions at replicas that are opened in a turn for the session of the cluster. -/
def landedIn (turn : Turn) : List Nat :=
  match turn with
  | .others _ => []
  | turn => landed x.connections (x.next session turn).connections

/-- The sessions at replicas that were ever opened for the session of the cluster. -/
def opened (turns : List Turn) : List Nat :=
  x.current session ::
    Run.log (Scene.step (Errand.program session)) (landedIn session) x turns

theorem after_snoc (turns : List Turn) (turn : Turn) :
    x.after session (turns ++ [turn]) = (x.after session turns).next session turn :=
  Scene.run_snoc ..

theorem opened_snoc (turns : List Turn) (turn : Turn) :
    x.opened session (turns ++ [turn]) =
      x.opened session turns ++ landedIn session (x.after session turns) turn := by
  rw [opened, Run.log_snoc, ← List.cons_append]
  rfl

/-! ## §2  What is fair -/

/-- A session of a cluster was opened, and nobody has called it yet. -/
structure Arrived : Prop where
  calls : x.calls = []
  there : session < x.connections.clusterSessions.length
  known : x.current session < x.connections.sessions.length
  isOpen : x.isOpen session = true
  idle : (x.connections.session (x.current session)).pulsing = false
  holders : (x.connections.session (x.current session)).holders = 1

/-- Others have left the session of the cluster alone, and the sessions at replicas that were opened
for it. -/
structure LeavesAlone (opened : List Nat) (c c' : Connections) : Prop where
  there : session < c'.clusterSessions.length
  clusterSession : c'.clusterSession session = c.clusterSession session
  length : c.sessions.length ≤ c'.sessions.length
  sessions : ∀ s ∈ opened, c'.session s = c.session s

/-- Pulses are those of the sessions that were opened, one at a time for each of them. -/
def IsProper (opened : List Nat) : Turn → Prop
  | .begins (.pulse s) => s ∈ opened ∧ (x.connections.session s).pulsing = false
  | .others change => LeavesAlone session opened x.connections (change x.connections)
  | .begins (.transaction ..) | .begins .close | .learns .. | .leaves _ => True

def IsFair (turns : List Turn) : Prop :=
  ∀ pre turn post, turns = pre ++ turn :: post →
    IsProper session (x.after session pre) (x.opened session pre) turn

variable {session x}

theorem IsFair.front {turns more : List Turn} (h : x.IsFair session (turns ++ more)) :
    x.IsFair session turns :=
  Run.Each.front h

theorem isFair_nil : x.IsFair session [] := Run.each_nil

theorem IsFair.concat {turns : List Turn} {turn : Turn} (h : x.IsFair session turns)
    (hproper : IsProper session (x.after session turns) (x.opened session turns) turn) :
    x.IsFair session (turns ++ [turn]) :=
  Run.Each.concat h hproper

theorem IsFair.last {turns : List Turn} {turn : Turn} (h : x.IsFair session (turns ++ [turn])) :
    IsProper session (x.after session turns) (x.opened session turns) turn :=
  Run.Each.last h

end Traffic

/-! ## §3  One turn -/

open Traffic

variable {session : Nat} {opened : List Nat} {x : Traffic} {stages : List Stage} {turn : Turn}

/-- Every call keeps to its conduct, none has more in hand than the sessions it has hold of, and the
holders are counted right. -/
structure Orderly (session : Nat) (opened : List Nat) (x : Traffic) (stages : List Stage) :
    Prop where
  keeps : Scene.Keeps (conduct session) (Stage.Has []) (fun _ => Stage.Has []) x stages
  rests : ∀ g ∈ stages, ∃ held, g.Has held
  sound : Sound session opened (stages.flatMap Stage.held) x.connections
  pulses : ∀ s, .pulse s ∈ x.calls.map Prod.fst → s ∈ opened

/-- A call goes on in a turn, or is given up, along a path of its conduct. -/
structure Stride (session : Nat) (opened : List Nat) (x : Traffic) (turn : Turn) (errand : Errand)
    (g g' : Stage) (rest : List Nat) : Prop where
  whose : x.errand? turn = some errand
  path : (conduct session errand).Path (· ∈ Scene.passed (Errand.program session) x turn)
    g x.connections g' (x.next session turn).connections
  sound : Sound session opened (g.held ++ rest) x.connections
  pulse : ∀ s, errand = .pulse s → s ∈ opened
  rests : ∃ held, g.Has held
  tells : ∀ s held, g' = .owing s held → Scene.asked? (Errand.program session) x turn =
    some (closing (x.next session turn).connections s)

theorem rests_of_reached {standing : Standing (Except Error (Option Transaction))}
    {errand : Errand} {g g' : Stage} {c : Connections}
    (hreached : standing.Reached (conduct session errand) g c g')
    (hstands : standing.Obeys (conduct session errand) (Stage.Has []) (fun _ => Stage.Has []) g') :
    g'.held = g.held ∧ (∃ held, g'.Has held) ∧
      ∀ s held, g = .owing s held → standing.effect? = some (closing c s) := by
  cases standing with
  | waiting e abandoned next =>
      obtain ⟨moved, held, rfl, ⟨rfl, -⟩ | ⟨s, rfl, rfl⟩⟩ := hreached
      · exact ⟨rfl, ⟨held, moved, rfl⟩, fun s held heq => Stage.noConfusion heq⟩
      · refine ⟨rfl, ⟨held, moved, rfl⟩, ?_⟩
        rintro _ _ ⟨⟩
        rfl
  | ended result =>
      obtain rfl : g' = g := hreached
      obtain ⟨moved, rfl⟩ : g'.Has [] := hstands
      exact ⟨rfl, ⟨[], moved, rfl⟩, fun s held heq => Stage.noConfusion heq⟩
  | givenUp =>
      obtain rfl : g' = g := hreached
      obtain ⟨moved, rfl⟩ : g'.Has [] := hstands
      exact ⟨rfl, ⟨[], moved, rfl⟩, fun s held heq => Stage.noConfusion heq⟩

theorem errand?_of_going {i : Nat} {errand : Errand}
    {p : Program (Except Error (Option Transaction))}
    (hgoing : Scene.going? (Errand.program session) x turn = some (i, errand, p)) :
    x.errand? turn = some errand := by
  cases turn with
  | begins errand =>
      obtain ⟨rfl, rfl, rfl⟩ := hgoing
      rfl
  | learns i reply =>
      rw [Scene.going?] at hgoing
      split at hgoing
      · rename_i hcall
        obtain ⟨rfl, rfl, rfl⟩ := hgoing
        rw [errand?, hcall]
        rfl
      · cases hgoing
  | leaves i => cases hgoing
  | others change => cases hgoing

/-- Whose turn it is to pulse is a session that was opened. -/
theorem Orderly.pulse (h : Orderly session opened x stages)
    (hproper : x.IsProper session opened turn)
    {errand : Errand} (hwhose : x.errand? turn = some errand) (s : Nat) (heq : errand = .pulse s) :
    s ∈ opened := by
  subst heq
  have hcalled {i : Nat} (hcall : x.calls[i]?.map Prod.fst = some (.pulse s)) : s ∈ opened := by
    apply h.pulses s
    rw [← List.getElem?_map] at hcall
    exact List.mem_of_getElem? hcall
  cases turn with
  | begins errand =>
      obtain rfl : errand = .pulse s := Option.some.inj hwhose
      exact hproper.1
  | learns i reply => exact hcalled hwhose
  | leaves i => exact hcalled hwhose
  | others change => cases hwhose

theorem Orderly.pulses_next (h : Orderly session opened x stages)
    (hproper : x.IsProper session opened turn) (s : Nat)
    (hs : .pulse s ∈ (x.next session turn).calls.map Prod.fst) : s ∈ opened := by
  rw [Scene.errands_step] at hs
  rcases List.mem_append.mp hs with hs | hs
  · exact h.pulses s hs
  · cases turn with
    | begins errand =>
        obtain rfl := List.mem_singleton.mp hs
        exact hproper.1
    | learns i reply => exact absurd hs List.not_mem_nil
    | leaves i => exact absurd hs List.not_mem_nil
    | others change => exact absurd hs List.not_mem_nil

theorem landedIn_of_whose {errand : Errand} (hwhose : x.errand? turn = some errand) :
    landedIn session x turn = landed x.connections (x.next session turn).connections := by
  cases turn with
  | begins errand => rfl
  | learns i reply => rfl
  | leaves i => rfl
  | others change => cases hwhose

/-- A call that goes from one stage to another leaves the others with what they have hold of. -/
theorem Orderly.stride (h : Orderly session opened x stages)
    (hproper : x.IsProper session opened turn) {errand : Errand} {front back : List Stage}
    {g g₁ g' : Stage} (hwhose : x.errand? turn = some errand)
    (hstages : stages = front ++ g :: back ∨ stages = front ∧ back = [] ∧ g = .free false [])
    (hpath : (conduct session errand).Path (· ∈ Scene.passed (Errand.program session) x turn)
      g x.connections g₁ (x.next session turn).connections)
    (hheld : g'.held = g₁.held) (hrests' : ∃ held, g'.Has held)
    (htells : ∀ s held, g₁ = .owing s held → Scene.asked? (Errand.program session) x turn =
      some (closing (x.next session turn).connections s))
    (hkeeps : Scene.Keeps (conduct session) (Stage.Has []) (fun _ => Stage.Has [])
      (x.next session turn) (front ++ g' :: back)) :
    (∃ stages', Orderly session (opened ++ landedIn session x turn) (x.next session turn) stages') ∧
      ∃ errand g g' rest, Stride session opened x turn errand g g' rest := by
  have hpulse := h.pulse hproper hwhose
  -- What the other calls have hold of stays as it is along the whole path.
  let rest := front.flatMap Stage.held ++ back.flatMap Stage.held
  have hperm (g₂ : Stage) : (g₂.held ++ rest).Perm ((front ++ g₂ :: back).flatMap Stage.held) := by
    rw [List.flatMap_append, List.flatMap_cons]
    exact List.perm_append_comm_assoc ..
  have hbefore : Sound session opened (g.held ++ rest) x.connections ∧
      (∃ held, g.Has held) ∧ ∀ g₂ ∈ front ++ back, ∃ held, g₂.Has held := by
    rcases hstages with rfl | ⟨rfl, rfl, rfl⟩
    · refine ⟨h.sound.perm (hperm g).symm, h.rests g (by simp), fun g₂ hmem => h.rests g₂ ?_⟩
      rcases List.mem_append.mp hmem with hmem | hmem
      · exact List.mem_append_left _ hmem
      · exact List.mem_append_right _ (List.mem_cons_of_mem g hmem)
    · refine ⟨h.sound.perm (by simp [rest, Stage.held]), ⟨[], false, rfl⟩, fun g₂ hmem => ?_⟩
      exact h.rests g₂ (by simpa using hmem)
  obtain ⟨hsound, hrests, hothers⟩ := hbefore
  constructor
  · refine ⟨front ++ g' :: back, hkeeps, ?_, ?_, ?_⟩
    · intro g₂ hmem
      rcases List.mem_append.mp hmem with hmem | hmem
      · exact hothers g₂ (List.mem_append_left _ hmem)
      · rcases List.mem_cons.mp hmem with rfl | hmem
        · exact hrests'
        · exact hothers g₂ (List.mem_append_right _ hmem)
    · have hend := (path_sound hpath hsound hpulse).1
      rw [← hheld] at hend
      rw [landedIn_of_whose hwhose]
      exact hend.perm (hperm g')
    · exact fun s hs => List.mem_append_left _ (h.pulses_next hproper s hs)
  · exact ⟨errand, g, g₁, rest, hwhose, hpath, hsound, hpulse, hrests, htells⟩

/-- The turn of a call that goes on. -/
theorem Orderly.goes (h : Orderly session opened x stages)
    (hproper : x.IsProper session opened turn)
    {i : Nat} {errand : Errand} {p : Program (Except Error (Option Transaction))}
    (hgoing : Scene.going? (Errand.program session) x turn = some (i, errand, p)) :
    (∃ stages', Orderly session (opened ++ landedIn session x turn) (x.next session turn) stages') ∧
      ∃ errand g g' rest, Stride session opened x turn errand g g' rest := by
  have hbegins : turn = .begins errand → (errand.program session).Obeys (conduct session errand)
      (Stage.Has []) (fun _ => Stage.Has []) (.free false []) x.connections := by
    rintro rfl
    apply errand_obeys
    rintro s rfl
    exact hproper.2
  obtain ⟨front, back, g, g₁, g', hstages, hpath, hreached, hstands, hkeeps⟩ :=
    h.keeps.goes hgoing hbegins
  obtain ⟨hheld, hrests, htells⟩ := rests_of_reached hreached hstands
  refine h.stride hproper (errand?_of_going hgoing) hstages hpath hheld hrests ?_ hkeeps
  intro s held heq
  rw [(Scene.step_of_going hgoing).2.2]
  exact htells s held heq

theorem Orderly.still (h : Orderly session opened x stages) (hstill : x.next session turn = x) :
    ∃ stages', Orderly session (opened ++ landedIn session x turn) (x.next session turn)
      stages' := by
  have hlanded : landedIn session x turn = [] := by
    cases turn with
    | others change => rfl
    | begins errand => exact landed_of_length (by rw [hstill])
    | learns i reply => exact landed_of_length (by rw [hstill])
    | leaves i => exact landed_of_length (by rw [hstill])
  rw [hlanded, List.append_nil, hstill]
  exact ⟨stages, h⟩

/-- **One turn.** The traffic stays in order. Others change something, or nothing happens, or a call
goes along a path of its conduct. -/
theorem Orderly.step (h : Orderly session opened x stages)
    (hproper : x.IsProper session opened turn) :
    (∃ stages', Orderly session (opened ++ landedIn session x turn) (x.next session turn) stages') ∧
      ((∃ change, turn = .others change) ∨ x.next session turn = x ∨
        ∃ errand g g' rest, Stride session opened x turn errand g g' rest) := by
  cases hgoing : Scene.going? (Errand.program session) x turn with
  | some call =>
      obtain ⟨i, errand, p⟩ := call
      obtain ⟨horderly, hstride⟩ := h.goes hproper hgoing
      exact ⟨horderly, .inr (.inr hstride)⟩
  | none =>
      cases turn with
      | begins errand => cases hgoing
      | learns i reply =>
          have hstill := Scene.step_of_deaf hgoing
          exact ⟨h.still hstill, .inr (.inl hstill)⟩
      | leaves i =>
          -- What is done for a call that is given up leads to a stage with nothing in hand.
          rcases h.keeps.leaves (Errand.program session) i with
            hstill | ⟨errand, front, back, g, g', hwhose, hstages, ⟨moved, rfl⟩, hleads, hkeeps⟩
          · exact ⟨h.still hstill, .inr (.inl hstill)⟩
          · obtain ⟨horderly, hstride⟩ := h.stride hproper hwhose (.inl hstages) hleads.path rfl
              ⟨[], moved, rfl⟩ (fun s held heq => Stage.noConfusion heq) hkeeps
            exact ⟨horderly, .inr (.inr hstride)⟩
      | others change =>
          have hsound : Sound session opened (stages.flatMap Stage.held) (change x.connections) :=
            h.sound.of_eq hproper.there hproper.clusterSession hproper.length hproper.sessions
          refine ⟨⟨stages, h.keeps, h.rests, ?_, ?_⟩, .inl ⟨change, rfl⟩⟩
          · rw [landedIn, List.append_nil]
            exact hsound
          · exact fun s hs => List.mem_append_left _ (h.pulses s hs)

/-! ## §4  Runs -/

theorem Traffic.Arrived.orderly (h : x.Arrived session) :
    Orderly session [x.current session] x [] where
  keeps := by
    rw [Scene.Keeps, h.calls]
    exact .nil
  rests g hg := absurd hg List.not_mem_nil
  sound := by
    refine
      { there := h.there
        current := List.mem_singleton_self _
        among := fun s hs => absurd hs List.not_mem_nil
        known := ?_
        counted := ?_
        idle := ?_
        kept := ?_ }
    · rintro s (_ | ⟨_, ⟨⟩⟩)
      exact h.known
    · rintro s (_ | ⟨_, ⟨⟩⟩)
      show (x.connections.session (x.current session)).holders = _
      rw [h.holders, ClusterSession.holders, h.idle]
      exact (if_pos rfl ▸ rfl : 1 = 0 + (if (x.connections.clusterSession session).current =
        x.current session then 1 else 0) + 0)
    · rintro s (_ | ⟨_, ⟨⟩⟩)
      exact fun _ => h.idle
    · rintro s (_ | ⟨_, ⟨⟩⟩)
      exact fun _ => h.holders ▸ Nat.one_pos
  pulses s hs := by
    rw [h.calls] at hs
    exact absurd hs List.not_mem_nil

/-- **The traffic is in order** after every fair run. -/
theorem orderly_after (hx : x.Arrived session) {turns : List Turn}
    (hfair : x.IsFair session turns) :
    ∃ stages, Orderly session (x.opened session turns) (x.after session turns) stages := by
  induction turns using List.reverseRecOn with
  | nil => exact ⟨[], hx.orderly⟩
  | append_singleton turns turn ih =>
      obtain ⟨stages, horderly⟩ := ih hfair.front
      rw [opened_snoc, after_snoc]
      exact (horderly.step hfair.last).1

/-! ## §5  What a turn does to the sessions -/

theorem Orderly.known (h : Orderly session opened x stages) {s : Nat} (hs : s ∈ opened) :
    s < x.connections.sessions.length :=
  h.sound.known s hs

/-- A session that was closed stays closed. -/
theorem Orderly.stays_closed (h : Orderly session opened x stages)
    (hproper : x.IsProper session opened turn) {s : Nat} (hs : s ∈ opened)
    (hclosed : (x.connections.session s).isOpen = false) :
    ((x.next session turn).connections.session s).isOpen = false := by
  rcases (h.step hproper).2 with ⟨change, rfl⟩ | hstill | ⟨errand, g, g', rest, hstride⟩
  · exact (congrArg Session.isOpen (hproper.sessions s hs)).trans hclosed
  · rw [hstill]
    exact hclosed
  · exact (path_sound hstride.path hstride.sound hstride.pulse).2.closed s hclosed

theorem mem_opened_append {turns : List Turn} (later : List Turn) {s : Nat}
    (hs : s ∈ x.opened session turns) : s ∈ x.opened session (turns ++ later) := by
  rw [Traffic.opened, Run.log_append, ← List.cons_append]
  exact List.mem_append_left _ hs

theorem closed_after (hx : x.Arrived session) {turns later : List Turn} {s : Nat}
    (hfair : x.IsFair session (turns ++ later)) (hs : s ∈ x.opened session turns)
    (hclosed : ((x.after session turns).connections.session s).isOpen = false) :
    ((x.after session (turns ++ later)).connections.session s).isOpen = false := by
  induction later using List.reverseRecOn with
  | nil =>
      rw [List.append_nil]
      exact hclosed
  | append_singleton later turn ih =>
      rw [← List.append_assoc] at hfair ⊢
      obtain ⟨stages, horderly⟩ := orderly_after hx hfair.front
      rw [after_snoc]
      exact horderly.stays_closed hfair.last (mem_opened_append later hs) (ih hfair.front)

/-- If another session is in use after a turn, it is open. -/
theorem Orderly.settles (h : Orderly session opened x stages)
    (hproper : x.IsProper session opened turn) :
    (x.next session turn).current session = x.current session ∨
      (x.next session turn).isOpen session = true := by
  rcases (h.step hproper).2 with ⟨change, rfl⟩ | hstill | ⟨errand, g, g', rest, hstride⟩
  · exact .inl (congrArg ClusterSession.current hproper.clusterSession)
  · rw [hstill]
    exact .inl rfl
  · apply path_settles hstride.path hstride.sound hstride.pulse
    rintro s held rfl
    obtain ⟨held', moved, heq⟩ := hstride.rests
    exact Stage.noConfusion heq

/-- No other session is in use after the turn of a call that may not move. -/
theorem Orderly.stays (h : Orderly session opened x stages)
    (hproper : x.IsProper session opened turn)
    (hroams : ∀ errand, x.errand? turn = some errand → errand.roams = false) :
    (x.next session turn).current session = x.current session := by
  rcases (h.step hproper).2 with ⟨change, rfl⟩ | hstill | ⟨errand, g, g', rest, hstride⟩
  · exact congrArg ClusterSession.current hproper.clusterSession
  · rw [hstill]
  · apply congrArg ClusterSession.current
    exact path_stays hstride.path hstride.sound hstride.pulse (hroams errand hstride.whose)

/-- Sessions are closed by the calls that go on, and by those that are given up. -/
theorem Orderly.closes (h : Orderly session opened x stages)
    (hproper : x.IsProper session opened turn) {s : Nat}
    (hs : s ∈ opened ++ landedIn session x turn)
    (hopen : (x.connections.session s).isOpen = true)
    (hclosed : ((x.next session turn).connections.session s).isOpen = false) :
    ∃ errand g g' rest, Stride session opened x turn errand g g' rest := by
  rcases (h.step hproper).2 with ⟨change, rfl⟩ | hstill | hstride
  · rw [landedIn, List.append_nil] at hs
    have hsame := congrArg Session.isOpen (hproper.sessions s hs)
    exact Bool.noConfusion ((hopen.symm.trans hsame.symm).trans hclosed)
  · rw [hstill] at hclosed
    exact Bool.noConfusion (hopen.symm.trans hclosed)
  · exact hstride

/-- A session that is closed in a turn was closed by its pulse, or its server is told, or a client
of it that was closed already was to tell. -/
theorem Orderly.accounts (h : Orderly session opened x stages)
    (hproper : x.IsProper session opened turn) {s : Nat}
    (hs : s ∈ opened ++ landedIn session x turn)
    (hopen : (x.connections.session s).isOpen = true)
    (hclosed : ((x.next session turn).connections.session s).isOpen = false) :
    x.errand? turn = some (.pulse s) ∨
      ((x.next session turn).connections.session s).id ∈ x.said session turn ∨
      ∃ c ∈ Scene.passed (Errand.program session) x turn,
        c.clientIsOpen ((x.next session turn).connections.session s).client = false := by
  obtain ⟨errand, g, g', rest, hstride⟩ := h.closes hproper hs hopen hclosed
  rcases path_accounts hstride.path hstride.sound hstride.pulse hopen hclosed with
    hpulse | ⟨held, howing⟩ | ⟨more, hmore, hmem⟩ | ⟨c, hseen, hgone⟩
  · exact .inl (hstride.whose.trans (congrArg some hpulse))
  · refine .inr (.inl (List.mem_append_left _ ?_))
    rw [hstride.tells s held howing]
    exact List.mem_singleton_self _
  · refine .inr (.inl (List.mem_append_right _ ?_))
    rw [hmore, List.drop_left]
    exact List.mem_map_of_mem hmem
  · exact .inr (.inr ⟨c, hseen, hgone⟩)

/-- What was opened in a turn was not closed before. -/
theorem Orderly.mem_of_closed {s : Nat} (hs : s ∈ opened ++ landedIn session x turn)
    (hclosed : (x.connections.session s).isOpen = false) : s ∈ opened := by
  have hknown := Connections.lt_of_closed hclosed
  have hfresh : s ∉ landed x.connections (x.next session turn).connections := by
    intro hmem
    exact absurd hknown (Nat.not_lt.mpr (List.mem_range'_1.mp hmem).1)
  refine (List.mem_append.mp hs).resolve_right fun hmem => ?_
  cases turn with
  | others change => exact absurd hmem List.not_mem_nil
  | begins errand => exact hfresh hmem
  | learns i reply => exact hfresh hmem
  | leaves i => exact hfresh hmem

/-! ## §6  A session of a cluster that is closed -/

/-- A transaction is not opened over a session that is closed. -/
theorem advance_openOn_of_closed {s : Nat} {transactionType : TransactionType} {options : Options}
    {c : Connections} (hclosed : (c.session s).isOpen = false) :
    (Transaction.openOn s transactionType options).run.advance c =
      (.ended (.error .sessionClosed), c) := by
  rw [Transaction.openOn, Operation.advance_get_bind]
  dsimp only
  rw [if_neg (by simp [hclosed])]
  rfl

theorem advance_holding {α : Type} {s : Nat} {op : Operation α} {c c' : Connections}
    {result : Except Error α} (h : op.run.advance c = (.ended result, c')) :
    (holding s op).run.advance c = (.ended result, c'.releaseSession s) := by
  rw [holding, Operation.advance_ok_bind
    (Operation.advance_outcome (Operation.advance_onAbandon h)), Operation.advance_modify_bind,
    Operation.advance_ofOutcome]

/-- A call for a transaction that finds the session in use closed is over at once, and has looked
for no other one. -/
theorem advance_transaction_of_closed {transactionType : TransactionType} {options : Options}
    {c : Connections} (hknown : (c.clusterSession session).current < c.sessions.length)
    (hclosed : c.clusterSessionIsOpen session = false) :
    ((Errand.transaction transactionType options).program session).advance c =
      (.ended (.error .sessionClosed),
        (takeCurrent session c).2.releaseSession (takeCurrent session c).1) := by
  have hretained : ((takeCurrent session c).2.session (takeCurrent session c).1).isOpen = false :=
    (congrArg Session.isOpen (Connections.alters_modifySession hknown _).self).trans hclosed
  apply Operation.advance_error_bind
  rw [transaction, Operation.advance_modifyGet_bind]
  apply advance_holding
  rw [Operation.advance_ok_bind
    (Operation.advance_outcome (advance_openOn_of_closed hretained))]
  rfl

theorem Orderly.refused (h : Orderly session opened x stages) (hclosed : x.isOpen session = false)
    (transactionType : TransactionType) (options : Options) :
    x.next session (.begins (.transaction transactionType options)) =
      { connections := (takeCurrent session x.connections).2.releaseSession (x.current session)
        calls := x.calls ++
          [(.transaction transactionType options, .ended (.error .sessionClosed))] } := by
  rw [Traffic.next, Scene.step_begins,
    advance_transaction_of_closed (h.known h.sound.current) hclosed]
  rfl

/-- No call that may move to another replica is under way. -/
def Traffic.NoneMoves (x : Traffic) : Prop :=
  ∀ call ∈ x.calls, call.1.roams = true → call.2.isUnderWay = false

/-- If no call that may move is under way, one that goes on has just begun. -/
theorem Traffic.NoneMoves.begins (h : x.NoneMoves) {i : Nat} {errand : Errand}
    {p : Program (Except Error (Option Transaction))} (hroams : errand.roams = true)
    (hgoing : Scene.going? (Errand.program session) x turn = some (i, errand, p)) :
    turn = .begins errand ∧ p = errand.program session := by
  cases turn with
  | begins errand =>
      obtain ⟨rfl, rfl, rfl⟩ := hgoing
      exact ⟨rfl, rfl⟩
  | learns j reply =>
      rw [Scene.going?] at hgoing
      split at hgoing
      · rename_i hcall
        obtain ⟨rfl, rfl, rfl⟩ := hgoing
        exact Bool.noConfusion (h _ (List.mem_of_getElem? hcall) hroams)
      · cases hgoing
  | leaves j => cases hgoing
  | others change => cases hgoing

/-- If no call that may move is under way, nothing happens in the turn of one unless it begins. -/
theorem Traffic.NoneMoves.still (h : x.NoneMoves) (session : Nat) {errand : Errand}
    (hroams : errand.roams = true) (hwhose : x.errand? turn = some errand) :
    x.next session turn = x ∨ turn = .begins errand := by
  cases turn with
  | begins errand' => exact .inr (congrArg Scene.Turn.begins (Option.some.inj hwhose))
  | learns i reply =>
      cases hgoing : Scene.going? (Errand.program session) x (.learns i reply) with
      | none => exact .inl (Scene.step_of_deaf hgoing)
      | some call =>
          obtain ⟨j, errand', p⟩ := call
          obtain rfl := Option.some.inj ((errand?_of_going hgoing).symm.trans hwhose)
          exact absurd (h.begins hroams hgoing).1 nofun
  | leaves i =>
      left
      rw [Traffic.next, Scene.step_leaves]
      split
      · rename_i hcall
        rw [errand?, hcall] at hwhose
        obtain rfl := Option.some.inj hwhose
        exact Bool.noConfusion (h _ (List.mem_of_getElem? hcall) hroams)
      · rfl
  | others change => cases hwhose

/-- If the session in use is closed and no call is under way that may move it, none moves it. -/
theorem Orderly.unmoved (h : Orderly session opened x stages)
    (hproper : x.IsProper session opened turn) (hclosed : x.isOpen session = false)
    (hnone : x.NoneMoves) : (x.next session turn).current session = x.current session := by
  by_cases hroams : ∃ errand, x.errand? turn = some errand ∧ errand.roams = true
  · obtain ⟨errand, hwhose, hroams⟩ := hroams
    obtain ⟨transactionType, options, rfl⟩ := Errand.eq_transaction hroams
    rcases hnone.still session hroams hwhose with hstill | rfl
    · rw [hstill]
    · -- One that begins takes hold of the session in use and lets go of it again.
      have hheld : x.current session < (takeCurrent session x.connections).2.sessions.length :=
        Nat.lt_of_lt_of_eq (h.known h.sound.current) (Connections.length_modifySession _).symm
      rw [h.refused hclosed, Traffic.current, Connections.clusterSession,
        (Connections.releaseSession_keeps hheld).2]
      rfl
  · apply h.stays hproper
    intro errand hwhose
    exact eq_false_of_ne_true fun hmoves => hroams ⟨errand, hwhose, hmoves⟩

/-- Then none is under way after the turn either: one that begins is refused. -/
theorem Orderly.noneMoves (h : Orderly session opened x stages) (hclosed : x.isOpen session = false)
    (hnone : x.NoneMoves) : (x.next session turn).NoneMoves := by
  intro call hcall hroams
  rcases Scene.mem_calls_step hcall with hmem | hgiven | ⟨i, errand, p, hgoing, rfl⟩
  · exact hnone call hmem hroams
  · rw [hgiven]
    rfl
  · change errand.roams = true at hroams
    obtain ⟨rfl, rfl⟩ := hnone.begins hroams hgoing
    obtain ⟨transactionType, options, rfl⟩ := Errand.eq_transaction hroams
    rw [advance_transaction_of_closed (h.known h.sound.current) hclosed]
    rfl

/-- **A session of a cluster that is closed stays so**, if no call is under way that may move it. A
call for a transaction that begins then is over at once. -/
theorem Orderly.shut (h : Orderly session opened x stages)
    (hproper : x.IsProper session opened turn) (hclosed : x.isOpen session = false)
    (hnone : x.NoneMoves) :
    (x.next session turn).current session = x.current session ∧
      (x.next session turn).isOpen session = false ∧ (x.next session turn).NoneMoves := by
  have hunmoved := h.unmoved hproper hclosed hnone
  refine ⟨hunmoved, ?_, h.noneMoves hclosed hnone⟩
  have hstill := h.stays_closed hproper h.sound.current hclosed
  show ((x.next session turn).connections.session ((x.next session turn).current session)).isOpen
    = false
  rw [hunmoved]
  exact hstill

/-- **So it stays for ever.** -/
theorem shut_after (hx : x.Arrived session) {turns later : List Turn}
    (hfair : x.IsFair session (turns ++ later))
    (hclosed : (x.after session turns).isOpen session = false)
    (hnone : (x.after session turns).NoneMoves) :
    (x.after session (turns ++ later)).current session = (x.after session turns).current session ∧
      (x.after session (turns ++ later)).isOpen session = false ∧
      (x.after session (turns ++ later)).NoneMoves := by
  induction later using List.reverseRecOn with
  | nil =>
      rw [List.append_nil]
      exact ⟨rfl, hclosed, hnone⟩
  | append_singleton later turn ih =>
      rw [← List.append_assoc] at hfair ⊢
      obtain ⟨hcurrent, hstill, hnone'⟩ := ih hfair.front
      obtain ⟨stages, horderly⟩ := orderly_after hx hfair.front
      rw [after_snoc, ← hcurrent]
      exact horderly.shut hfair.last hstill hnone'

/-! ## §7  A cluster of one member -/

/-- The only member of a cluster, which is the primary replica of every database. It gives the
sessions that it opens this name, and opens transactions. -/
def member (id : SessionId) : (e : Effect) → e.Reply
  | .call _ .serversAll => .ok (.servers ["a"])
  | .call _ (.databaseReplicas database) => .ok (.replicas [⟨"a", database, 1, true, false⟩])
  | .call _ (.sessionOpen ..) => .ok (.sessionOpened id 0)
  | .call _ (.sessionClose _) => .ok .sessionClosed
  | .call _ (.sessionPulse _) => .ok (.sessionPulse true)
  | .call _ _ => .error .clusterUnavailable
  | .dial .. => .ok ()
  | .pause _ => ()
  | .receive _ call => .ok (.response { id := call.id, result := .ok .opened })
  | .work .. => .ok ""

/-- The member while it cannot be reached. -/
def away : (e : Effect) → e.Reply
  | .call .. | .dial .. | .receive .. | .work .. => .error (.unreachable "a")
  | .pause _ => ()

/-- A session of the cluster has arrived. -/
def lodged : Traffic :=
  { connections := (arriving.replay (fun _ => member default) {}).2.2 }

theorem arrived_lodged : lodged.Arrived 0 where
  calls := rfl
  there := by decide +kernel
  known := by decide +kernel
  isOpen := by decide +kernel
  idle := by decide +kernel
  holders := by decide +kernel

/-- The server is away when the session in use is to be kept alive. -/
def failedPulse : List Turn := [.begins (.pulse 0), .learns 0 away]

theorem fair_failedPulse : lodged.IsFair 0 failedPulse := by
  have hstart : lodged.IsFair 0 [.begins (.pulse 0)] :=
    isFair_nil.concat ⟨by decide +kernel, by decide +kernel⟩
  exact hstart.concat trivial

end GraphDriver.ClusterSession
