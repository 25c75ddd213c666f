import GraphDriver.Proofs.Cluster.Conduct
import Mathlib.Data.List.Count

/-!
# Who holds the sessions of a session of a cluster

A session at a replica lives as long as somebody holds it: the session of the cluster that uses it,
a call that works over it, its own pulse. Whatever the calls do at the same time, the holders are
counted right, so a session that is open is held, and one that nobody holds any more is closed.

* §1 changes of one session
* §2 later states
* §3 the holders are counted
* §4 what a change keeps
-/

namespace GraphDriver

/-! ## §1  Changes of one session -/

/-- A session that was marked closed; a pulse under way has let go of it. -/
def Session.shut (x : Session) : Session :=
  { x with
    isOpen := false
    pulseDue := none
    pulsing := false
    holders := if x.pulsing then x.holders - 1 else x.holders }

/-- A session of which somebody has let go. The last one closes it. -/
def Session.released (x : Session) : Session :=
  let y := { x with holders := x.holders - 1 }
  if y.holders = 0 ∧ y.isOpen then y.shut else y

namespace Connections

variable {c : Connections} {s s' : Nat}

theorem session_of_le (hs : c.sessions.length ≤ s) : c.session s = default := by
  simp [session, List.getD_eq_getElem?_getD, hs]

theorem lt_of_closed (hclosed : (c.session s).isOpen = false) : s < c.sessions.length := by
  by_contra hs
  rw [session_of_le (Nat.le_of_not_lt hs)] at hclosed
  exact Bool.noConfusion hclosed

@[simp] theorem length_modifySession (f : Session → Session) :
    (c.modifySession s f).sessions.length = c.sessions.length :=
  List.length_modify ..

theorem session_modifySession (hs : s < c.sessions.length) (f : Session → Session) (s' : Nat) :
    (c.modifySession s f).session s' = if s' = s then f (c.session s) else c.session s' := by
  simp only [session, modifySession, List.getD_eq_getElem?_getD, List.getElem?_modify]
  split
  · rename_i heq
    subst heq
    simp [hs]
  · rename_i hne
    rw [if_neg fun h => hne h.symm]
    simp

/-- The state with one more session, over a client that it holds. -/
theorem session_push (client : Nat) (fresh : Session) (s : Nat) :
    session { c.retainClient client with sessions := c.sessions ++ [fresh] } s =
      if s = c.sessions.length then fresh else c.session s := by
  simp only [session, List.getD_eq_getElem?_getD]
  split
  · rename_i heq
    simp [heq]
  · rename_i hne
    rcases Nat.lt_or_gt_of_ne hne with hs | hs
    · rw [List.getElem?_append_left hs]
    · rw [List.getElem?_eq_none (by simpa using Nat.succ_le_of_lt hs),
        List.getElem?_eq_none (Nat.le_of_lt hs)]

theorem clusterSession_modify {session : Nat} (h : session < c.clusterSessions.length)
    (f : ClusterSession → ClusterSession) :
    (c.modifyClusterSession session f).clusterSession session = f (c.clusterSession session) := by
  simp [clusterSession, modifyClusterSession, List.getD_eq_getElem?_getD, h]

theorem markClosed_of_open (hopen : (c.session s).isOpen = true) :
    c.markClosed s = (true, c.modifySession s Session.shut) := by
  rw [markClosed, if_pos hopen]
  rfl

theorem markClosed_of_closed (hclosed : (c.session s).isOpen = false) :
    c.markClosed s = (false, c) := by
  rw [markClosed, if_neg (by simp [hclosed])]

theorem markClosed_keeps :
    (c.markClosed s).2.sessions.length = c.sessions.length ∧
      (c.markClosed s).2.clusterSessions = c.clusterSessions := by
  unfold markClosed
  split
  · exact ⟨length_modifySession _, rfl⟩
  · exact ⟨rfl, rfl⟩

/-- Letting go of a client leaves the sessions as they are. -/
theorem calm_releaseClient (i : Nat) : ClusterSession.Calm c (c.releaseClient i) := by
  unfold releaseClient
  dsimp only
  split
  · unfold releaseHub
    dsimp only
    split <;> exact ⟨rfl, rfl, rfl⟩
  · exact ⟨rfl, rfl, rfl⟩

/-- Letting go of a session: others hold it still, or the last one closes it with a farewell, or it
was closed before. -/
theorem releaseSession_cases (hs : s < c.sessions.length) :
    let x := c.session s
    let less := c.modifySession s fun x => { x with holders := x.holders - 1 }
    (x.holders - 1 ≠ 0 ∧ c.releaseSession s = less) ∨
      (x.holders - 1 = 0 ∧ x.isOpen = true ∧ c.releaseSession s =
        { less.modifySession s Session.shut with
          farewells := c.farewells ++ [{ client := x.client, session := x.id }] }) ∨
      (x.holders - 1 = 0 ∧ x.isOpen = false ∧
        c.releaseSession s = less.releaseClient x.client) := by
  intro x less
  have hself : less.session s = { x with holders := x.holders - 1 } := by
    rw [session_modifySession hs, if_pos rfl]
  have hheld : (less.session s).holders = x.holders - 1 := by rw [hself]
  have hfell : (less.session s).isOpen = x.isOpen := by rw [hself]
  by_cases hlast : x.holders - 1 = 0
  · right
    rw [releaseSession]
    simp only []
    rw [if_pos (hheld.trans hlast)]
    cases hopen : x.isOpen with
    | true =>
        rw [markClosed_of_open (hfell.trans hopen), hself]
        exact .inl ⟨hlast, rfl, rfl⟩
    | false =>
        rw [markClosed_of_closed (hfell.trans hopen), hself]
        exact .inr ⟨hlast, rfl, rfl⟩
  · left
    rw [releaseSession]
    exact ⟨hlast, if_neg fun h => hlast (hheld.symm.trans h)⟩

theorem session_releaseSession (hs : s < c.sessions.length) (s' : Nat) :
    (c.releaseSession s).session s' =
      if s' = s then (c.session s).released else c.session s' := by
  have hless := session_modifySession hs (fun x => { x with holders := x.holders - 1 }) s'
  rcases releaseSession_cases hs with ⟨hmore, h⟩ | ⟨hlast, hopen, h⟩ | ⟨hlast, hclosed, h⟩
  · rw [h, hless]
    split
    · rw [Session.released, if_neg fun h => hmore h.1]
    · rfl
  · rw [h]
    change Connections.session (Connections.modifySession _ s Session.shut) s' = _
    rw [session_modifySession (by simpa using hs), hless, session_modifySession hs, if_pos rfl]
    split
    · rw [Session.released, if_pos ⟨hlast, hopen⟩]
    · rfl
  · rw [h, session, (calm_releaseClient _).sessions]
    refine hless.trans ?_
    split
    · rw [Session.released, if_neg fun h => by simp [hclosed] at h]
    · rfl

theorem releaseSession_keeps (hs : s < c.sessions.length) :
    (c.releaseSession s).sessions.length = c.sessions.length ∧
      (c.releaseSession s).clusterSessions = c.clusterSessions := by
  rcases releaseSession_cases hs with ⟨-, h⟩ | ⟨-, -, h⟩ | ⟨-, -, h⟩
  · rw [h]
    exact ⟨length_modifySession _, rfl⟩
  · rw [h]
    refine ⟨?_, rfl⟩
    change (Connections.modifySession _ s Session.shut).sessions.length = _
    rw [length_modifySession, length_modifySession]
  · rw [h, (calm_releaseClient _).sessions, (calm_releaseClient _).clusterSessions]
    exact ⟨length_modifySession _, rfl⟩

end Connections

/-- One session was changed, and no other. -/
structure Alters (s : Nat) (x : Session) (c c' : Connections) : Prop where
  self : c'.session s = x
  others : ∀ s', s' ≠ s → c'.session s' = c.session s'
  length : c'.sessions.length = c.sessions.length
  clusterSessions : c'.clusterSessions = c.clusterSessions

theorem Alters.trans {s : Nat} {x y : Session} {c c₁ c' : Connections} (h : Alters s x c c₁)
    (h' : Alters s y c₁ c') : Alters s y c c' where
  self := h'.self
  others s' hne := (h'.others s' hne).trans (h.others s' hne)
  length := h'.length.trans h.length
  clusterSessions := h'.clusterSessions.trans h.clusterSessions

namespace Connections

variable {c : Connections} {s : Nat}

theorem alters_modifySession (hs : s < c.sessions.length) (f : Session → Session) :
    Alters s (f (c.session s)) c (c.modifySession s f) := by
  refine ⟨?_, ?_, length_modifySession f, rfl⟩
  · rw [session_modifySession hs, if_pos rfl]
  · intro s' hne
    rw [session_modifySession hs, if_neg hne]

theorem alters_retainSession (hs : s < c.sessions.length) :
    Alters s { c.session s with holders := (c.session s).holders + 1 } c (c.retainSession s) :=
  alters_modifySession hs fun x => { x with holders := x.holders + 1 }

/-- A pulse takes hold of its session as it starts. -/
theorem alters_startPulse (hs : s < c.sessions.length) :
    Alters s { (c.session s).startPulse with holders := (c.session s).startPulse.holders + 1 } c
      ((c.modifySession s Session.startPulse).retainSession s) := by
  have hstarts := alters_modifySession hs Session.startPulse
  have hretained := alters_retainSession (hstarts.length ▸ hs)
  rw [hstarts.self] at hretained
  exact hstarts.trans hretained

theorem alters_releaseSession (hs : s < c.sessions.length) :
    Alters s (c.session s).released c (c.releaseSession s) := by
  refine ⟨?_, ?_, (releaseSession_keeps hs).1, (releaseSession_keeps hs).2⟩
  · rw [session_releaseSession hs, if_pos rfl]
  · intro s' hne
    rw [session_releaseSession hs, if_neg hne]

end Connections

/-! ## §2  Later states -/

/-- What is true of later states: sessions stay what they are, those that are closed stay closed,
and farewells are added. -/
structure Later (c c' : Connections) : Prop where
  length : c.sessions.length ≤ c'.sessions.length
  same : ∀ s < c.sessions.length,
    (c'.session s).id = (c.session s).id ∧ (c'.session s).client = (c.session s).client
  closed : ∀ s, (c.session s).isOpen = false → (c'.session s).isOpen = false
  farewells : ∃ more, c'.farewells = c.farewells ++ more

section Later

variable {s s' : Nat} {c c₁ c' : Connections} {x : Session}

theorem Later.refl (c : Connections) : Later c c where
  length := Nat.le_refl _
  same _ _ := ⟨rfl, rfl⟩
  closed _ hclosed := hclosed
  farewells := ⟨[], (List.append_nil _).symm⟩

theorem Later.trans (h : Later c c₁) (h' : Later c₁ c') : Later c c' where
  length := Nat.le_trans h.length h'.length
  same s hs := by
    obtain ⟨hid, hclient⟩ := h.same s hs
    obtain ⟨hid', hclient'⟩ := h'.same s (Nat.lt_of_lt_of_le hs h.length)
    exact ⟨hid'.trans hid, hclient'.trans hclient⟩
  closed s hclosed := h'.closed s (h.closed s hclosed)
  farewells := by
    obtain ⟨more, hmore⟩ := h.farewells
    obtain ⟨more', hmore'⟩ := h'.farewells
    exact ⟨more ++ more', by rw [hmore', hmore, List.append_assoc]⟩

theorem Later.of_sessions (hsessions : c'.sessions = c.sessions)
    (hfarewells : c'.farewells = c.farewells) : Later c c' where
  length := Nat.le_of_eq (congrArg List.length hsessions).symm
  same s _ := by
    rw [Connections.session, hsessions, Connections.session]
    exact ⟨rfl, rfl⟩
  closed s hclosed := by
    rwa [Connections.session, hsessions, ← Connections.session]
  farewells := ⟨[], hfarewells.trans (List.append_nil _).symm⟩

theorem Alters.later (h : Alters s x c c')
    (hsame : x.id = (c.session s).id ∧ x.client = (c.session s).client)
    (hclosed : (c.session s).isOpen = false → x.isOpen = false)
    (hfarewells : ∃ more, c'.farewells = c.farewells ++ more) : Later c c' where
  length := Nat.le_of_eq h.length.symm
  same s' _ := by
    by_cases heq : s' = s
    · rw [heq, h.self]
      exact hsame
    · rw [h.others s' heq]
      exact ⟨rfl, rfl⟩
  closed s' hs' := by
    by_cases heq : s' = s
    · rw [heq, h.self]
      exact hclosed (heq ▸ hs')
    · rw [h.others s' heq]
      exact hs'
  farewells := hfarewells

/-- Only the session that was changed can have been closed. -/
theorem Alters.closes (h : Alters s x c c') (hopen : (c.session s').isOpen = true)
    (hclosed : (c'.session s').isOpen = false) : s' = s ∧ x.isOpen = false := by
  by_cases heq : s' = s
  · rw [heq, h.self] at hclosed
    exact ⟨heq, hclosed⟩
  · rw [h.others s' heq, hopen] at hclosed
    exact Bool.noConfusion hclosed

end Later

namespace Connections

variable {s s' : Nat} {c : Connections}

theorem later_modifySession (hs : s < c.sessions.length) {f : Session → Session}
    (hsame : ∀ x, (f x).id = x.id ∧ (f x).client = x.client)
    (hclosed : ∀ x, x.isOpen = false → (f x).isOpen = false) : Later c (c.modifySession s f) :=
  (alters_modifySession hs f).later (hsame _) (hclosed _)
    ⟨[], (List.append_nil _).symm⟩

theorem later_retainSession (hs : s < c.sessions.length) : Later c (c.retainSession s) :=
  later_modifySession hs (fun _ => ⟨rfl, rfl⟩) fun _ hclosed => hclosed

theorem same_released (x : Session) : x.released.id = x.id ∧ x.released.client = x.client := by
  unfold Session.released
  dsimp only
  split <;> exact ⟨rfl, rfl⟩

/-- Letting go of a session leaves it open or closed as it was, or closes it with a farewell. -/
theorem farewells_releaseSession (hs : s < c.sessions.length) :
    (c.session s).released.isOpen = (c.session s).isOpen ∧
        (c.releaseSession s).farewells = c.farewells ∨
      (c.session s).released.isOpen = false ∧ (c.releaseSession s).farewells = c.farewells ++
        [{ client := (c.session s).client, session := (c.session s).id }] := by
  unfold Session.released
  dsimp only
  rcases releaseSession_cases hs with
    ⟨hmore, h⟩ | ⟨hlast, hopen, h⟩ | ⟨hlast, hclosed, h⟩
  · rw [h, if_neg fun h => hmore h.1]
    exact .inl ⟨rfl, rfl⟩
  · rw [h, if_pos ⟨hlast, hopen⟩]
    exact .inr ⟨rfl, rfl⟩
  · rw [h, if_neg fun h => by simp [hclosed] at h, (calm_releaseClient _).farewells]
    exact .inl ⟨rfl, rfl⟩

theorem later_releaseSession (hs : s < c.sessions.length) : Later c (c.releaseSession s) := by
  refine (alters_releaseSession hs).later (same_released _) ?_ ?_
  · intro hclosed
    rcases farewells_releaseSession hs with ⟨hsame, -⟩ | ⟨hreleased, -⟩
    · exact hsame.trans hclosed
    · exact hreleased
  · rcases farewells_releaseSession hs with ⟨-, h⟩ | ⟨-, h⟩
    · exact ⟨[], h.trans (List.append_nil _).symm⟩
    · exact ⟨_, h⟩

/-- A session that is closed as it is let go of has a farewell. -/
theorem releaseSession_closes (hs : s < c.sessions.length) (hopen : (c.session s').isOpen = true)
    (hclosed : ((c.releaseSession s).session s').isOpen = false) :
    (c.releaseSession s).farewells = c.farewells ++
      [{ client := ((c.releaseSession s).session s').client
         session := ((c.releaseSession s).session s').id }] := by
  have halters := alters_releaseSession hs
  obtain ⟨rfl, hreleased⟩ := halters.closes hopen hclosed
  rw [halters.self, (same_released _).1, (same_released _).2]
  rcases farewells_releaseSession hs with ⟨hsame, -⟩ | ⟨-, h⟩
  · rw [hsame, hopen] at hreleased
    exact Bool.noConfusion hreleased
  · exact h

end Connections

namespace ClusterSession

/-! ## §3  The holders are counted -/

/-- How many hold a session: the calls that have hold of it, the session of the cluster if it uses
it, and its pulse. -/
def holders (session : Nat) (held : List Nat) (c : Connections) (s : Nat) : Nat :=
  held.count s + (if (c.clusterSession session).current = s then 1 else 0) +
    (if (c.session s).pulsing then 1 else 0)

/-- The sessions that were opened for a session of a cluster. The calls have hold of some of them,
and nobody else but the session of the cluster and their pulses. -/
structure Sound (session : Nat) (opened held : List Nat) (c : Connections) : Prop where
  there : session < c.clusterSessions.length
  current : (c.clusterSession session).current ∈ opened
  among : ∀ s ∈ held, s ∈ opened
  known : ∀ s ∈ opened, s < c.sessions.length
  counted : ∀ s ∈ opened, (c.session s).holders = holders session held c s
  idle : ∀ s ∈ opened, (c.session s).isOpen = false → (c.session s).pulsing = false
  kept : ∀ s ∈ opened, (c.session s).isOpen = true → 0 < (c.session s).holders

section Counting

variable {session s : Nat} {opened held held' : List Nat} {c c' : Connections} {x : Session}

theorem Sound.lt (h : Sound session opened held c) (hs : s ∈ held) : s < c.sessions.length :=
  h.known s (h.among s hs)

theorem Sound.perm (h : Sound session opened held c) (hperm : held.Perm held') :
    Sound session opened held' c where
  there := h.there
  current := h.current
  among s hs := h.among s (hperm.mem_iff.mpr hs)
  known := h.known
  counted s hs := by
    rw [h.counted s hs, holders, holders, hperm.count_eq]
  idle := h.idle
  kept := h.kept

/-- The holders are counted by what the sessions are alone. -/
theorem Sound.of_eq (h : Sound session opened held c) (hthere : session < c'.clusterSessions.length)
    (hcluster : c'.clusterSession session = c.clusterSession session)
    (hlength : c.sessions.length ≤ c'.sessions.length)
    (hsessions : ∀ s ∈ opened, c'.session s = c.session s) : Sound session opened held c' where
  there := hthere
  current := hcluster ▸ h.current
  among := h.among
  known s hs := Nat.lt_of_lt_of_le (h.known s hs) hlength
  counted s hs := by
    rw [hsessions s hs, h.counted s hs, holders, holders, hcluster, hsessions s hs]
  idle s hs := by
    rw [hsessions s hs]
    exact h.idle s hs
  kept s hs := by
    rw [hsessions s hs]
    exact h.kept s hs

/-- A session and those that have hold of it are changed together. -/
theorem Sound.alter (h : Sound session opened held c) (hs : s ∈ opened) (halters : Alters s x c c')
    (hheld : ∀ s', s' ≠ s → held'.count s' = held.count s')
    (hcount : x.holders = held'.count s +
      (if (c.clusterSession session).current = s then 1 else 0) + (if x.pulsing then 1 else 0))
    (hidle : x.isOpen = false → x.pulsing = false) (hkept : x.isOpen = true → 0 < x.holders) :
    Sound session opened held' c' := by
  have hcluster : c'.clusterSession session = c.clusterSession session := by
    rw [Connections.clusterSession, halters.clusterSessions, Connections.clusterSession]
  refine
    { there := halters.clusterSessions ▸ h.there
      current := hcluster ▸ h.current
      among := ?_
      known := fun s' hs' => halters.length ▸ h.known s' hs'
      counted := ?_
      idle := ?_
      kept := ?_ }
  · intro s' hs'
    by_cases heq : s' = s
    · exact heq ▸ hs
    · refine h.among s' (List.count_pos_iff.mp ?_)
      rw [← hheld s' heq]
      exact List.count_pos_iff.mpr hs'
  · intro s' hs'
    rw [holders, hcluster]
    by_cases heq : s' = s
    · rw [heq, halters.self]
      exact hcount
    · rw [halters.others s' heq, h.counted s' hs', holders, hheld s' heq]
  · intro s' hs'
    by_cases heq : s' = s
    · rw [heq, halters.self]
      exact hidle
    · rw [halters.others s' heq]
      exact h.idle s' hs'
  · intro s' hs'
    by_cases heq : s' = s
    · rw [heq, halters.self]
      exact hkept
    · rw [halters.others s' heq]
      exact h.kept s' hs'

/-- Somebody takes hold of a session. -/
theorem Sound.retain (h : Sound session opened held c) (hs : s ∈ opened) :
    Sound session opened (s :: held) (c.retainSession s) := by
  refine h.alter hs (Connections.alters_retainSession (h.known s hs)) ?_ ?_ (h.idle s hs) ?_
  · intro s' hne
    exact List.count_cons_of_ne (Ne.symm hne)
  · have hcounted := h.counted s hs
    rw [holders] at hcounted
    rw [List.count_cons_self]
    dsimp only
    omega
  · exact fun _ => Nat.succ_pos _

/-- Somebody lets go of a session. -/
theorem Sound.release (h : Sound session opened (s :: held) c) :
    Sound session opened held (c.releaseSession s) := by
  have hs : s ∈ opened := h.among s List.mem_cons_self
  have hcounted := h.counted s hs
  rw [holders, List.count_cons_self] at hcounted
  have hheld (s' : Nat) (hne : s' ≠ s) : held.count s' = (s :: held).count s' :=
    (List.count_cons_of_ne (Ne.symm hne)).symm
  refine h.alter hs (Connections.alters_releaseSession (h.known s hs)) hheld ?_ ?_ ?_
  · unfold Session.released
    dsimp only
    split
    · rename_i hlast
      cases hpulsing : (c.session s).pulsing with
      | false =>
          simp only [Session.shut, hpulsing, Bool.false_eq_true, if_false] at hcounted ⊢
          omega
      | true =>
          simp only [hpulsing, if_true] at hcounted
          omega
    · dsimp only
      omega
  · unfold Session.released
    dsimp only
    split
    · exact fun _ => rfl
    · exact h.idle s hs
  · unfold Session.released
    dsimp only
    split
    · exact fun hopen => Bool.noConfusion hopen
    · rename_i hmore
      intro hopen
      exact Nat.pos_of_ne_zero fun hzero => hmore ⟨hzero, hopen⟩

/-- A session is marked closed. -/
theorem Sound.shut (h : Sound session opened held c) (hs : s ∈ opened) :
    Sound session opened held (c.markClosed s).2 := by
  cases hopen : (c.session s).isOpen with
  | false => rwa [Connections.markClosed_of_closed hopen]
  | true =>
      rw [Connections.markClosed_of_open hopen]
      refine h.alter hs (Connections.alters_modifySession (h.known s hs) _) (fun _ _ => rfl) ?_
        (fun _ => rfl) fun hopen => Bool.noConfusion hopen
      have hcounted := h.counted s hs
      rw [holders] at hcounted
      cases hpulsing : (c.session s).pulsing with
      | false =>
          simpa [Session.shut, hpulsing] using hcounted
      | true =>
          rw [hpulsing, if_pos rfl] at hcounted
          simp only [Session.shut, hpulsing, if_true, Bool.false_eq_true, if_false]
          omega

/-- A session is opened, and who opened it has hold of it. -/
theorem Sound.land (h : Sound session opened held c) (client : Nat) {fresh : Session}
    (hholders : fresh.holders = 1) (hidle : fresh.pulsing = false) :
    Sound session (opened ++ [c.sessions.length]) (c.sessions.length :: held)
      { c.retainClient client with sessions := c.sessions ++ [fresh] } := by
  have hold (s : Nat) (hs : s ∈ opened) : Connections.session
      { c.retainClient client with sessions := c.sessions ++ [fresh] } s = c.session s := by
    rw [Connections.session_push, if_neg (Nat.ne_of_lt (h.known s hs))]
  have hnew : Connections.session
      { c.retainClient client with sessions := c.sessions ++ [fresh] } c.sessions.length =
        fresh := by
    rw [Connections.session_push, if_pos rfl]
  have hcurrent : (c.clusterSession session).current ≠ c.sessions.length :=
    Nat.ne_of_lt (h.known _ h.current)
  have hheld : held.count c.sessions.length = 0 :=
    List.count_eq_zero.mpr fun hmem => Nat.lt_irrefl _ (h.known _ (h.among _ hmem))
  refine
    { there := h.there
      current := List.mem_append_left _ h.current
      among := ?_
      known := ?_
      counted := ?_
      idle := ?_
      kept := ?_ }
  · rintro s (_ | ⟨_, hs⟩)
    · exact List.mem_append_right _ (List.mem_singleton_self _)
    · exact List.mem_append_left _ (h.among s hs)
  · intro s hs
    rw [List.length_append, List.length_singleton]
    rcases List.mem_append.mp hs with hs | hs
    · exact Nat.lt_succ_of_lt (h.known s hs)
    · exact List.mem_singleton.mp hs ▸ Nat.lt_succ_self _
  · intro s hs
    rcases List.mem_append.mp hs with hs | hs
    · have hne : s ≠ c.sessions.length := Nat.ne_of_lt (h.known s hs)
      rw [hold s hs, h.counted s hs, holders, holders, hold s hs,
        List.count_cons_of_ne hne.symm]
      rfl
    · obtain rfl := List.mem_singleton.mp hs
      rw [holders, hnew, List.count_cons_self, hheld, hholders, hidle]
      exact (if_neg hcurrent ▸ rfl : 1 = 0 + 1 + (if (c.clusterSession session).current =
        c.sessions.length then 1 else 0) + 0)
  · intro s hs
    rcases List.mem_append.mp hs with hs | hs
    · rw [hold s hs]
      exact h.idle s hs
    · rw [List.mem_singleton.mp hs, hnew]
      exact fun _ => hidle
  · intro s hs
    rcases List.mem_append.mp hs with hs | hs
    · rw [hold s hs]
      exact h.kept s hs
    · rw [List.mem_singleton.mp hs, hnew, hholders]
      exact fun _ => Nat.one_pos

/-- The session of the cluster uses another session, which is held besides. Who moved it has hold of
the old one. -/
theorem Sound.use (h : Sound session opened (s :: held) c) :
    Sound session opened ((c.clusterSession session).current :: s :: held)
      ((c.retainSession s).modifyClusterSession session fun x => { x with current := s }) := by
  have hs : s ∈ opened := h.among s List.mem_cons_self
  have hretained := h.retain hs
  let used := (c.retainSession s).modifyClusterSession session fun x => { x with current := s }
  have hused : (used.clusterSession session).current = s := by
    rw [Connections.clusterSession_modify hretained.there]
  refine
    { there := ?_
      current := ?_
      among := ?_
      known := hretained.known
      counted := ?_
      idle := hretained.idle
      kept := hretained.kept }
  · simpa [Connections.modifyClusterSession] using hretained.there
  · rw [hused]
    exact hs
  · rintro s' (_ | ⟨_, hs'⟩)
    · exact h.current
    · exact h.among s' hs'
  · intro s' hs'
    refine (hretained.counted s' hs').trans ?_
    have hbefore : (c.retainSession s).clusterSession session = c.clusterSession session := rfl
    have hsame : used.session s' = (c.retainSession s).session s' := rfl
    rw [holders, holders, hused, hsame, hbefore]
    simp only [List.count_cons, beq_iff_eq]
    omega

end Counting

/-! ## §4  What a change keeps -/

section Changing

variable {session s : Nat} {errand : Errand} {opened rest : List Nat} {g g' : Stage}
  {c c₁ c' : Connections} {seen : Connections → Prop}

/-- The sessions that were opened meanwhile. -/
def landed (c c' : Connections) : List Nat :=
  List.range' c.sessions.length (c'.sessions.length - c.sessions.length)

theorem landed_of_length (h : c'.sessions.length = c.sessions.length) : landed c c' = [] := by
  simp [landed, h]

theorem landed_trans (h : c.sessions.length ≤ c₁.sessions.length)
    (h' : c₁.sessions.length ≤ c'.sessions.length) :
    landed c c' = landed c c₁ ++ landed c₁ c' := by
  have hstart : c₁.sessions.length =
      c.sessions.length + 1 * (c₁.sessions.length - c.sessions.length) := by
    omega
  have hlength : c'.sessions.length - c.sessions.length =
      (c₁.sessions.length - c.sessions.length) + (c'.sessions.length - c₁.sessions.length) := by
    omega
  rw [landed, landed, landed, hlength, ← List.range'_append, ← hstart]

/-- A pulse starts, and has hold of its session. -/
theorem Sound.pulseStarts (h : Sound session opened rest c) (hs : s ∈ opened)
    (hopen : (c.session s).isOpen = true) (hidle : (c.session s).pulsing = false) :
    Sound session opened rest ((c.modifySession s Session.startPulse).retainSession s) := by
  refine h.alter hs (Connections.alters_startPulse (h.known s hs)) (fun _ _ => rfl) ?_ ?_
    fun _ => Nat.succ_pos _
  · have hcounted := h.counted s hs
    rw [holders, hidle] at hcounted
    simp only [Session.startPulse, if_true]
    simpa using hcounted
  · exact fun hclosed => absurd (hopen.symm.trans hclosed) Bool.noConfusion

/-- A pulse ends, and the call that ends it has hold of the session in its place. -/
theorem Sound.pulseEnds (h : Sound session opened rest c) (hs : s ∈ opened)
    (hpulsing : (c.session s).pulsing = true) (alive : Bool) :
    Sound session opened (s :: rest) (c.modifySession s (Session.endPulse alive)) := by
  have hidle : (Session.endPulse alive (c.session s)).pulsing = false := by
    cases alive <;> rfl
  have hholders : (Session.endPulse alive (c.session s)).holders = (c.session s).holders := by
    cases alive <;> rfl
  refine h.alter hs (Connections.alters_modifySession (h.known s hs) _) ?_ ?_ (fun _ => hidle) ?_
  · intro s' hne
    exact List.count_cons_of_ne (Ne.symm hne)
  · have hcounted := h.counted s hs
    rw [holders, hpulsing] at hcounted
    rw [hidle, hholders, List.count_cons_self]
    simp only [if_true, Bool.false_eq_true, if_false] at hcounted ⊢
    omega
  · intro hopen
    rw [hholders]
    refine h.kept s hs ?_
    cases alive with
    | true => exact hopen
    | false => exact Bool.noConfusion hopen

/-- Whatever an errand changes, the holders are counted right. -/
theorem Change.sound (h : Change session errand g c g' c')
    (hsound : Sound session opened (g.held ++ rest) c)
    (hpulse : ∀ s, errand = .pulse s → s ∈ opened) :
    Sound session (opened ++ landed c c') (g'.held ++ rest) c' := by
  cases h with
  | calm h =>
      rw [landed_of_length (congrArg List.length h.sessions), List.append_nil]
      refine hsound.of_eq (h.clusterSessions ▸ hsound.there) ?_ (h.sessions ▸ Nat.le_refl _) ?_
      · rw [Connections.clusterSession, h.clusterSessions, Connections.clusterSession]
      · exact fun s _ => by rw [Connections.session, h.sessions, Connections.session]
  | take moved held =>
      have hlength : (takeCurrent session c).2.sessions.length = c.sessions.length :=
        Connections.length_modifySession _
      rw [landed_of_length hlength, List.append_nil]
      exact hsound.retain hsound.current
  | release moved s held =>
      have hs : s < c.sessions.length := hsound.lt List.mem_cons_self
      rw [landed_of_length (Connections.releaseSession_keeps hs).1, List.append_nil]
      exact hsound.release
  | @shut s held hs =>
      have hmem : s ∈ opened := hsound.among s (List.mem_append_left rest hs)
      have hshut := hsound.shut hmem
      rw [landed_of_length Connections.markClosed_keeps.1, List.append_nil]
      split <;> exact hshut
  | land hroams client fresh hopen hholders hidle moved held =>
      have hlanded : landed c { c.retainClient client with sessions := c.sessions ++ [fresh] } =
          [c.sessions.length] := by
        simp [landed]
      rw [hlanded]
      exact hsound.land client hholders hidle
  | move hroams s held =>
      -- The call inherits the hold that the session of the cluster had of the old one, and lets go.
      have hused := hsound.use
      have hold := hused.lt List.mem_cons_self
      have hlength : (moveTo session s c).sessions.length = c.sessions.length :=
        (Connections.releaseSession_keeps hold).1.trans (Connections.length_modifySession _)
      rw [landed_of_length hlength, List.append_nil]
      exact hused.release
  | @pulseStarts s heq c hopen hidle moved held =>
      have hs := hsound.known s (hpulse s heq)
      rw [landed_of_length (Connections.alters_startPulse hs).length, List.append_nil]
      exact hsound.pulseStarts (hpulse s heq) hopen hidle
  | @pulseEnds s heq c hpulsing alive moved held =>
      rw [landed_of_length (Connections.length_modifySession _), List.append_nil]
      exact hsound.pulseEnds (hpulse s heq) hpulsing alive

end Changing

end ClusterSession

end GraphDriver
