import GraphDriver.Proofs.Cluster.Holders
import Mathlib.Logic.Relation

/-!
# Moving once

A call that opens a transaction over a session of a cluster makes one attempt, and a second one only
if the first ended with a signal. In between it closes the session that failed it, whatever the
server answers to that, and opens another one. What is said of a call is said of the state as well:
apart from the one session that it closes and the one that it opens, nobody but others changes
anything about sessions but who holds them.

* §1 what operations lead to
* §2 attempts and the search for a replica
* §3 what others may do
* §4 the parts of a call
* §5 the course of a call
* §6 a call that moves
-/

namespace GraphDriver

/-- The request that an effect sends to a server. -/
def Effect.asks? : Effect → Option UnaryRequest
  | .call _ request => some request
  | .dial .. | .pause _ | .receive .. | .work .. => none

/-! ## §1  What operations lead to -/

namespace Operation

variable {α β : Type}

/-- An operation that begins where `P` holds has only waits of some kind. If it comes to something,
`Q` holds of that in the end; if it fails, `P` holds as before. -/
def Reaches (others : Connections → Connections → Prop) (ok : Effect → Prop)
    (P : Connections → Prop) (Q : α → Connections → Prop) (op : Operation α) : Prop :=
  ∀ c log result c', Runs others op c log result c' → P c →
    (∀ event ∈ log, ok event.effect) ∧
      match result with
      | .ok a => Q a c'
      | .error _ => P c'

/-- An operation keeps `P`, and has only waits of some kind. -/
abbrev Rests (others : Connections → Connections → Prop) (ok : Effect → Prop)
    (P : Connections → Prop) (op : Operation α) : Prop :=
  Reaches others ok P (fun _ => P) op

section Rules

variable {others : Connections → Connections → Prop} {ok : Effect → Prop}
  {P : Connections → Prop} {Q : α → Connections → Prop} {op : Operation α}

theorem Rests.kept (h : Rests others ok P op) {c c' : Connections} {log : List Event}
    {result : Except Error α} (hrun : Runs others op c log result c') (hc : P c) : P c' := by
  have hend := (h c log result c' hrun hc).2
  cases result <;> exact hend

theorem rests_of_kept
    (h : ∀ c log result c', Runs others op c log result c' → P c →
      (∀ event ∈ log, ok event.effect) ∧ P c') : Rests others ok P op := by
  intro c log result c' hrun hc
  obtain ⟨hlog, hend⟩ := h c log result c' hrun hc
  refine ⟨hlog, ?_⟩
  cases result <;> exact hend

theorem Reaches.bind {first : Operation β} {k : β → Operation α}
    (hfirst : Rests others ok P first) (hk : ∀ b, Reaches others ok P Q (k b)) :
    Reaches others ok P Q (first >>= k) := by
  intro c log result c' h hc
  rcases runs_bind.mp h with ⟨e, hrun, rfl⟩ | ⟨b, c₁, front, rest, hrun, hgo, rfl⟩
  · exact hfirst c log _ c' hrun hc
  · obtain ⟨hfront, hc₁⟩ := hfirst c front _ c₁ hrun hc
    obtain ⟨hrest, hend⟩ := hk b c₁ rest result c' hgo hc₁
    exact ⟨List.forall_mem_append.mpr ⟨hfront, hrest⟩, hend⟩

theorem reaches_throw {e : Error} : Reaches others ok P Q (throw e) := by
  intro c log result c' h hc
  obtain ⟨rfl, rfl, rfl⟩ := runs_throw.mp h
  exact ⟨List.forall_mem_nil _, hc⟩

theorem reaches_throw_bind {e : Error} {k : β → Operation α} :
    Reaches others ok P Q (throw e >>= k) :=
  reaches_throw

theorem rests_ofOutcome {outcome : Except Error α} : Rests others ok P (ofOutcome outcome) := by
  refine rests_of_kept fun c log result c' h hc => ?_
  obtain ⟨rfl, -, rfl⟩ := runs_ofOutcome.mp h
  exact ⟨List.forall_mem_nil _, hc⟩

theorem rests_pure {a : α} : Rests others ok P (pure a) :=
  have h : Rests others ok P (ofOutcome (.ok a)) := rests_ofOutcome
  h

theorem rests_expect [Described β] {expected : String} {pick : β → Option α} {received : β} :
    Rests others ok P (expect expected pick received) := by
  refine rests_of_kept fun c log result c' h hc => ?_
  obtain ⟨rfl, -, rfl⟩ := runs_expect.mp h
  exact ⟨List.forall_mem_nil _, hc⟩

theorem Rests.outcome (hop : Rests others ok P op) : Rests others ok P (outcome op) := by
  refine rests_of_kept fun c log result c' h hc => ?_
  obtain ⟨answer, hrun, -⟩ := runs_outcome.mp h
  exact ⟨(hop c log answer c' hrun hc).1, hop.kept hrun hc⟩

theorem Rests.onAbandon (hop : Rests others ok P op) (cleanup : Connections → Connections) :
    Rests others ok P (onAbandon cleanup op) :=
  fun c log result c' h => hop c log result c' (runs_onAbandon.mp h)

theorem reaches_get_bind {k : Connections → Operation α}
    (hk : ∀ c, Reaches others ok P Q (k c)) : Reaches others ok P Q (get >>= k) :=
  fun c log result c' h => hk c c log result c' (runs_get_bind.mp h)

theorem reaches_modifyGet {f : Connections → α × Connections}
    (hf : ∀ c, P c → Q (f c).1 (f c).2) : Reaches others ok P Q (modifyGet f) := by
  intro c log result c' h hc
  obtain ⟨rfl, rfl, rfl⟩ := runs_modifyGet.mp h
  exact ⟨List.forall_mem_nil _, hf c hc⟩

theorem rests_modify {f : Connections → Connections} (hf : ∀ c, P c → P (f c)) :
    Rests others ok P (modify f : Operation PUnit) :=
  reaches_modifyGet hf

/-- A wait keeps what others keep. -/
theorem rests_perform (hothers : ∀ c c', others c c' → P c → P c') {e : Effect} (he : ok e) :
    Rests others ok P (ExceptT.lift (Program.perform e)) := by
  refine rests_of_kept fun c log result c' h hc => ?_
  obtain ⟨reply, hrun, -⟩ := runs_lift.mp h
  obtain ⟨hmoved, rfl⟩ := Program.runs_perform.mp hrun
  exact ⟨List.forall_mem_singleton.mpr he, hothers c c' hmoved hc⟩

theorem rests_dial (hothers : ∀ c c', others c c' → P c → P c') {address : String}
    {hub dispatcher : Nat} (he : ok (.dial address hub dispatcher)) :
    Rests others ok P (ExceptT.mk (Program.perform (.dial address hub dispatcher))) := by
  refine rests_of_kept fun c log result c' h hc => ?_
  obtain ⟨hmoved, rfl⟩ := Program.runs_perform.mp h
  exact ⟨List.forall_mem_singleton.mpr he, hothers c c' hmoved hc⟩

theorem rests_call (hothers : ∀ c c', others c c' → P c → P c') {client : Nat}
    {request : UnaryRequest} (he : ∀ address, ok (.call address request)) :
    Rests others ok P (call client request) := by
  refine rests_of_kept fun c log result c' h hc => ?_
  rw [runs_call] at h
  split at h
  · obtain ⟨hmoved, rfl⟩ := h
    exact ⟨List.forall_mem_singleton.mpr (he _), hothers c c' hmoved hc⟩
  · obtain ⟨rfl, -, rfl⟩ := h
    exact ⟨List.forall_mem_nil _, hc⟩

end Rules

end Operation

/-! ## §2  Attempts and the search for a replica -/

namespace ClusterSession

open Operation

section Attempting

variable {others : Connections → Connections → Prop} {P : Connections → Prop}

theorem rests_openStream (hcalm : ∀ c c', Calm c c' → P c → P c')
    (hothers : ∀ c c', others c c' → P c → P c') {hub : Nat} {address : String} :
    Rests others (·.asks? = none) P (Transaction.openStream hub address) := by
  refine Reaches.bind (reaches_modifyGet fun c => hcalm _ _ (calm_onHub hub _ c)) fun reserved => ?_
  refine Reaches.bind rests_ofOutcome fun dispatcher => ?_
  have hdial (d : Nat) : Rests others (·.asks? = none) P
      (ExceptT.mk (Program.perform (.dial address hub d))) :=
    rests_dial hothers rfl
  refine Reaches.bind ((hdial dispatcher).onAbandon _).outcome fun dialled => ?_
  cases dialled with
  | ok u => exact reaches_modifyGet fun c => hcalm _ _ (calm_onHub hub _ c)
  | error e =>
      exact Reaches.bind (rests_modify fun c => hcalm _ _ (calm_modifyHub hub _ c))
        fun _ => reaches_throw

theorem rests_ask (hcalm : ∀ c c', Calm c c' → P c → P c')
    (hothers : ∀ c c', others c c' → P c → P c') {t : Transaction} {payload : RequestPayload}
    {batched : Bool} : Rests others (·.asks? = none) P (Transaction.ask t payload batched) := by
  refine reaches_get_bind fun c => ?_
  refine Reaches.bind (reaches_modifyGet fun c => hcalm _ _ (calm_onHub t.hub _ c)) fun sent => ?_
  refine Reaches.bind rests_ofOutcome fun call => ?_
  exact Reaches.bind (rests_perform hothers rfl) fun _ => rests_ofOutcome

/-- An attempt to open a transaction asks no server for a session or about one, and it leaves the
sessions as they are. -/
theorem rests_openOn (hcalm : ∀ c c', Calm c c' → P c → P c')
    (hothers : ∀ c c', others c c' → P c → P c') {s : Nat} {transactionType : TransactionType}
    {options : Options} :
    Rests others (·.asks? = none) P (Transaction.openOn s transactionType options) := by
  refine reaches_get_bind fun c => ?_
  dsimp only
  split
  · split
    · refine Reaches.bind (rests_openStream hcalm hothers) fun stream => ?_
      refine Reaches.bind (Rests.outcome (Reaches.bind ((rests_ask hcalm hothers).onAbandon _)
        fun _ => rests_expect)) fun opened => ?_
      cases opened with
      | ok u => exact rests_pure
      | error e =>
          exact Reaches.bind (rests_modify fun c => hcalm _ _ (calm_modifyHub _ _ c))
            fun _ => reaches_throw
    · exact reaches_throw_bind
  · exact reaches_throw_bind

end Attempting

section Looking

open Cluster

variable {α : Type} {others : Connections → Connections → Prop} {P : Connections → Prop}
  {Q : α → Connections → Prop} {k : Nat} {database : String}

theorem calm_clientAt {address : String} {client : Nat} {c c' : Connections}
    (h : Runs others (clientAt k address) c [] (.ok client) c') : Calm c c' := by
  obtain ⟨-, -, rfl⟩ := runs_modifyGet.mp h
  dsimp only
  split <;> exact ⟨rfl, rfl, rfl⟩

theorem rests_ensureOpen : Rests others (·.closes? = none) P (ensureOpen k) := by
  refine reaches_get_bind fun c => ?_
  split
  · exact rests_pure
  · exact reaches_throw

/-- A task that is tried at a replica, and what comes after it if it came to nothing. -/
theorem reaches_try (hcalm : ∀ c c', Calm c c' → P c → P c') {task : Nat → Operation α}
    {address : String} {next : Except Error α → Operation α} (goesOn : Except Error α → Bool)
    (hok : ∀ a, goesOn (.ok a) = false)
    (htask : ∀ client, Reaches others (·.closes? = none) P Q (task client))
    (hnext : ∀ answer, Reaches others (·.closes? = none) P Q (next answer)) :
    Reaches others (·.closes? = none) P Q
      (clientAt k address >>= fun client => outcome (task client) >>= fun answer =>
        if goesOn answer then next answer else ofOutcome answer) := by
  intro c log result c' h hc
  obtain ⟨client, c₁, front, answer, c₂, later, hclient, hrun, hgo, rfl⟩ := runs_try.mp h
  have hc₁ := hcalm c c₁ (calm_clientAt hclient) hc
  obtain ⟨hfront, hend⟩ := htask client c₁ front answer c₂ hrun hc₁
  cases answer with
  | ok a =>
      rw [hok, if_neg Bool.false_ne_true] at hgo
      obtain ⟨rfl, rfl, rfl⟩ := runs_ofOutcome.mp hgo
      exact ⟨by rwa [List.append_nil], hend⟩
  | error e =>
      split at hgo
      · obtain ⟨hlater, hend⟩ := hnext _ c₂ later result c' hgo hend
        exact ⟨List.forall_mem_append.mpr ⟨hfront, hlater⟩, hend⟩
      · obtain ⟨rfl, rfl, rfl⟩ := runs_ofOutcome.mp hgo
        exact ⟨by rwa [List.append_nil], hend⟩

theorem rests_fetchReplicas (hcalm : ∀ c c', Calm c c' → P c → P c')
    (hothers : ∀ c c', others c c' → P c → P c') :
    Rests others (·.closes? = none) P (fetchReplicas k database) := by
  have hask (client : Nat) :
      Rests others (·.closes? = none) P (askReplicas k database client) := by
    refine Reaches.bind (rests_call hothers fun _ => rfl) fun response => ?_
    refine Reaches.bind rests_expect fun replicas => ?_
    exact Reaches.bind (reaches_modifyGet fun c => hcalm c _ ⟨rfl, rfl, rfl⟩) fun _ => rests_pure
  have hmembers (members : List String) :
      Rests others (·.closes? = none) P (onMembers k (askReplicas k database) members) := by
    induction members with
    | nil => exact reaches_throw
    | cons member rest ih =>
        rw [onMembers_cons]
        exact reaches_try hcalm isUnreachable (fun _ => rfl) hask fun _ => ih
  rw [fetchReplicas_eq]
  exact Reaches.bind rests_ensureOpen fun _ => reaches_get_bind fun c => hmembers _

theorem rests_pauseBefore (hothers : ∀ c c', others c c' → P c → P c') {first : Bool} :
    Rests others (·.closes? = none) P (pauseBefore k first) := by
  cases first with
  | true => exact rests_pure
  | false =>
      refine reaches_get_bind fun c => ?_
      exact rests_perform (e := .pause _) hothers rfl

theorem rests_seekPrimary (hcalm : ∀ c c', Calm c c' → P c → P c')
    (hothers : ∀ c c', others c c' → P c → P c') :
    Rests others (·.closes? = none) P (seekPrimary k database) := by
  have hwithin (fetches : Nat) (first : Bool) :
      Rests others (·.closes? = none) P (seekPrimaryWithin k database fetches first) := by
    induction fetches generalizing first with
    | zero => exact reaches_throw
    | succ fetches ih =>
        rw [seekPrimaryWithin_succ]
        refine Reaches.bind (rests_pauseBefore hothers) fun _ => ?_
        refine Reaches.bind (rests_fetchReplicas hcalm hothers) fun found => ?_
        split
        · exact rests_pure
        · exact ih false
  exact reaches_get_bind fun c => hwithin _ true

theorem reaches_followPrimary (hcalm : ∀ c c', Calm c c' → P c → P c')
    (hothers : ∀ c c', others c c' → P c → P c') {task : Nat → Bool → Operation α} {runs : Nat}
    {first : Bool} {p : ReplicaInfo}
    (htask : ∀ client first, Reaches others (·.closes? = none) P Q (task client first)) :
    Reaches others (·.closes? = none) P Q (followPrimary k database task runs first p) := by
  induction runs generalizing first p with
  | zero => exact reaches_throw
  | succ runs ih =>
      rw [followPrimary_succ]
      refine reaches_try hcalm sendsOn (fun _ => rfl) (fun client => htask client first)
        fun answer => ?_
      refine Reaches.bind ?_ fun _ => ih
      exact Reaches.bind (rests_pauseBefore hothers) fun _ => rests_seekPrimary hcalm hothers

theorem reaches_runPrimary (hcalm : ∀ c c', Calm c c' → P c → P c')
    (hothers : ∀ c c', others c c' → P c → P c') {task : Nat → Bool → Operation α}
    (htask : ∀ client first, Reaches others (·.closes? = none) P Q (task client first)) :
    Reaches others (·.closes? = none) P Q (runPrimary k database task) := by
  rw [runPrimary_eq, openingReplica, cachedReplicas]
  refine Reaches.bind rests_ensureOpen fun _ => ?_
  refine Reaches.bind ?_ fun p => reaches_get_bind fun _ =>
    reaches_followPrimary hcalm hothers htask
  refine Reaches.bind (reaches_get_bind fun _ => rests_pure) fun cached => ?_
  split
  · exact rests_pure
  · exact rests_seekPrimary hcalm hothers

theorem reaches_runAny (hcalm : ∀ c c', Calm c c' → P c → P c')
    (hothers : ∀ c c', others c c' → P c → P c') {task : Nat → Bool → Operation α}
    (htask : ∀ client first, Reaches others (·.closes? = none) P Q (task client first)) :
    Reaches others (·.closes? = none) P Q (runAny k database task) := by
  have hreplicas (first : Bool) (replicas : List ReplicaInfo) :
      Reaches others (·.closes? = none) P Q (onReplicas k task first replicas) := by
    induction replicas generalizing first with
    | nil => exact reaches_throw
    | cons replica rest ih =>
        rw [onReplicas_cons]
        exact reaches_try hcalm isUnreachable (fun _ => rfl) (fun client => htask client first)
          fun _ => ih false
  rw [runAny, cachedReplicas]
  refine Reaches.bind rests_ensureOpen fun _ => ?_
  refine Reaches.bind (reaches_get_bind fun _ => rests_pure) fun cached => ?_
  cases cached with
  | some found => exact Reaches.bind rests_pure fun _ => hreplicas true _
  | none => exact Reaches.bind (rests_fetchReplicas hcalm hothers) fun _ => hreplicas true _

end Looking

/-! ## §3  What others may do -/

/-- The sessions are what they were but for how many hold them, and no farewell is to be said that
was not before. -/
structure Alike (c c' : Connections) : Prop where
  length : c'.sessions.length = c.sessions.length
  sessions : ∀ s, ∃ holders, c'.session s = { c.session s with holders }
  farewells : c'.farewells = c.farewells

/-- From one state to another nobody but others changed anything about sessions but who holds
them. -/
def Untouched (others : Connections → Connections → Prop) : Connections → Connections → Prop :=
  Relation.ReflTransGen fun c c' => Alike c c' ∨ others c c'

/-- Others go on beside a session of a cluster: they leave what it uses to it, they do not let go of
what they do not hold, and no session is opened again. -/
structure Aside (session : Nat) (c c' : Connections) : Prop where
  clusterSession : c'.clusterSession session = c.clusterSession session
  sound : ∀ opened held, Sound session opened held c → Sound session opened held c'
  closed : ∀ s, (c.session s).isOpen = false → (c'.session s).isOpen = false

section Meanwhile

variable {session s : Nat} {opened held : List Nat} {c c' : Connections}

theorem Alike.trans {c₁ : Connections} (h : Alike c c₁) (h' : Alike c₁ c') : Alike c c' where
  length := h'.length.trans h.length
  sessions s := by
    obtain ⟨holders, heq⟩ := h.sessions s
    obtain ⟨holders', heq'⟩ := h'.sessions s
    exact ⟨holders', by rw [heq', heq]⟩
  farewells := h'.farewells.trans h.farewells

theorem Calm.alike (h : Calm c c') : Alike c c' where
  length := congrArg List.length h.sessions
  sessions s := ⟨(c.session s).holders, by rw [Connections.session, h.sessions]; rfl⟩
  farewells := h.farewells

theorem Calm.aside (h : Calm c c') : Aside session c c' where
  clusterSession := by
    rw [Connections.clusterSession, h.clusterSessions, Connections.clusterSession]
  sound opened held hsound := by
    refine hsound.of_eq (h.clusterSessions ▸ hsound.there) ?_ (h.sessions ▸ Nat.le_refl _) ?_
    · rw [Connections.clusterSession, h.clusterSessions, Connections.clusterSession]
    · exact fun s _ => by rw [Connections.session, h.sessions, Connections.session]
  closed s hclosed := by rwa [Connections.session, h.sessions, ← Connections.session]

/-- A session that is changed alone leaves the others soundly held. -/
theorem Sound.of_alters {x : Session} (h : Sound session opened held c) (halters : Alters s x c c')
    (hs : s ∉ opened) : Sound session opened held c' := by
  refine h.of_eq (halters.clusterSessions ▸ h.there) ?_ (Nat.le_of_eq halters.length.symm) ?_
  · rw [Connections.clusterSession, halters.clusterSessions, Connections.clusterSession]
  · rintro s' hs'
    exact halters.others s' fun heq => hs (heq ▸ hs')

/-- What goes on by itself: the hubs, the clients and the clusters change, and sessions pulse. -/
inductive Background : Connections → Connections → Prop
  | calm {c c' : Connections} (h : Calm c c') : Background c c'
  | pulseStarts {s : Nat} {c : Connections} (hs : s < c.sessions.length)
      (hopen : (c.session s).isOpen = true) (hidle : (c.session s).pulsing = false) :
      Background c ((c.modifySession s Session.startPulse).retainSession s)
  | pulseEnds {s : Nat} {c : Connections} (hs : s < c.sessions.length)
      (hpulsing : (c.session s).pulsing = true) (alive : Bool) :
      Background c ((c.modifySession s (Session.endPulse alive)).releaseSession s)

/-- What goes on by itself goes on beside every session of a cluster. -/
theorem Background.aside (h : Background c c') : Aside session c c' := by
  cases h with
  | calm h => exact h.aside
  | @pulseStarts s c hs hopen hidle =>
      have halters := Connections.alters_startPulse hs
      refine ⟨?_, ?_, ?_⟩
      · rw [Connections.clusterSession, halters.clusterSessions, Connections.clusterSession]
      · intro opened held hsound
        by_cases hmem : s ∈ opened
        · exact hsound.pulseStarts hmem hopen hidle
        · exact hsound.of_alters halters hmem
      · intro s' hclosed
        by_cases heq : s' = s
        · exact absurd (hopen.symm.trans (heq ▸ hclosed)) Bool.noConfusion
        · rwa [halters.others s' heq]
  | @pulseEnds s c hs hpulsing alive =>
      have hends := Connections.alters_modifySession hs (Session.endPulse alive)
      have halters := hends.trans (Connections.alters_releaseSession (hends.length ▸ hs))
      refine ⟨?_, ?_, ?_⟩
      · rw [Connections.clusterSession, halters.clusterSessions, Connections.clusterSession]
      · intro opened held hsound
        by_cases hmem : s ∈ opened
        · exact (hsound.pulseEnds hmem hpulsing alive).release
        · exact hsound.of_alters halters hmem
      · intro s' hclosed
        refine (Connections.later_releaseSession (hends.length ▸ hs)).closed s' ?_
        by_cases heq : s' = s
        · rw [heq, hends.self]
          rw [heq] at hclosed
          cases alive
          · rfl
          · exact hclosed
        · rwa [hends.others s' heq]

theorem alike_of_alters {holders : Nat} (h : Alters s { c.session s with holders } c c')
    (hfarewells : c'.farewells = c.farewells) : Alike c c' where
  length := h.length
  sessions s' := by
    by_cases heq : s' = s
    · exact ⟨holders, heq ▸ h.self⟩
    · exact ⟨(c.session s').holders, h.others s' heq⟩
  farewells := hfarewells

theorem alike_retainSession (hs : s < c.sessions.length) : Alike c (c.retainSession s) :=
  alike_of_alters (Connections.alters_retainSession hs) rfl

/-- Letting go of a session that is closed, or that somebody else holds, closes nothing. -/
theorem alike_releaseSession (hs : s < c.sessions.length)
    (hkept : (c.session s).isOpen = false ∨ (c.session s).holders - 1 ≠ 0) :
    Alike c (c.releaseSession s) := by
  have halters := Connections.alters_releaseSession hs
  have hreleased : (c.session s).released =
      { c.session s with holders := (c.session s).holders - 1 } := by
    unfold Session.released
    refine if_neg ?_
    rintro ⟨hlast, hopen⟩
    rcases hkept with hclosed | hmore
    · exact absurd (hopen.symm.trans hclosed) Bool.noConfusion
    · exact hmore hlast
  rw [hreleased] at halters
  refine alike_of_alters halters ?_
  rcases Connections.releaseSession_cases hs with ⟨-, h⟩ | ⟨hlast, hopen, -⟩ | ⟨-, -, h⟩
  · rw [h]
    rfl
  · rcases hkept with hclosed | hmore
    · exact absurd (hopen.symm.trans hclosed) Bool.noConfusion
    · exact absurd hlast hmore
  · rw [h, (Connections.calm_releaseClient _).farewells]
    rfl

/-- The session in use is held by the session of the cluster. -/
theorem Sound.alike_release (h : Sound session opened (s :: held) c)
    (hkept : (c.session s).isOpen = false ∨ s = (c.clusterSession session).current) :
    Alike c (c.releaseSession s) := by
  have hs : s ∈ opened := h.among s List.mem_cons_self
  refine alike_releaseSession (h.known s hs) (hkept.imp_right fun heq => ?_)
  have hcounted := h.counted s hs
  rw [holders, if_pos heq.symm, List.count_cons_self] at hcounted
  omega

end Meanwhile

/-! ## §4  The parts of a call -/

/-- One attempt to open a transaction: no server is asked for a session or about one, and the
sessions are left to others. -/
structure Attempt (others : Connections → Connections → Prop) (s : Nat)
    (transactionType : TransactionType) (options : Options) (c : Connections) (log : List Event)
    (result : Except Error Transaction) (c' : Connections) : Prop where
  ran : Runs others (Transaction.openOn s transactionType options) c log result c'
  asks : ∀ event ∈ log, event.effect.asks? = none
  untouched : Untouched others c c'

/-- A session is closed, unless it was. Its server is told once if session and client were open,
whatever it answers. -/
structure Shuts (others : Connections → Connections → Prop) (s : Nat) (c : Connections)
    (log : List Event) (c' : Connections) : Prop where
  told : if (c.session s).isOpen && c.clientIsOpen (c.session s).client
    then ∃ reply, log = [⟨closing c s, reply⟩] else log = []
  shut : (c'.session s).isOpen = false
  untouched : Untouched others (c.markClosed s).2 c'

/-- One session is opened for a session of a cluster, at any replica if the options allow it and at
the primary one otherwise. No server is told to close a session, and the sessions are left to others
but for the one that was opened. -/
structure Opening (others : Connections → Connections → Prop) (x : ClusterSession) (c : Connections)
    (log : List Event) (outcome : Except Error Nat) (c' : Connections) : Prop where
  ran : Runs others
    (if x.options.allowsAnyReplica then
      Cluster.runAny x.cluster x.database fun client _ =>
        Session.openAt client x.database x.sessionType x.options
    else
      Cluster.runPrimary x.cluster x.database fun client _ =>
        Session.openAt client x.database x.sessionType x.options) c log outcome c'
  closes : ∀ event ∈ log, event.effect.closes? = none
  opened : match outcome with
    | .error _ => Untouched others c c'
    | .ok fresh => ∃ c₁ client y, Untouched others c c₁ ∧ fresh = c₁.sessions.length ∧
      y.isOpen = true ∧ y.database = x.database ∧ y.sessionType = x.sessionType ∧
      y.options = x.options ∧
      c' = { c₁.retainClient client with sessions := c₁.sessions ++ [y] }

section Parts

variable {others : Connections → Connections → Prop} {session s : Nat} {opened held : List Nat}
  {x : ClusterSession} {c c' : Connections} {log : List Event} {kept : Connections → Prop}

/-- A session of a cluster is what it was, its sessions are soundly held, and some of them are
closed. -/
def Holds (session : Nat) (opened held : List Nat) (x : ClusterSession) (shut : Nat → Prop)
    (c : Connections) : Prop :=
  Sound session opened held c ∧ c.clusterSession session = x ∧
    ∀ s, shut s → (c.session s).isOpen = false

theorem Holds.aside {shut : Nat → Prop} (h : Holds session opened held x shut c)
    (haside : Aside session c c') : Holds session opened held x shut c' := by
  obtain ⟨hsound, huses, hshut⟩ := h
  exact ⟨haside.sound _ _ hsound, haside.clusterSession.trans huses,
    fun s hs => haside.closed s (hshut s hs)⟩

/-- What holds of the session of a cluster is kept by what leaves the sessions as they are and by
what goes on beside it, and neither strays from the way on which the sessions are left to others. -/
theorem untouched_rests (haside : ∀ c c', others c c' → Aside session c c') (opened held : List Nat)
    (x : ClusterSession) (shut : Nat → Prop) (c₀ : Connections) :
    let P (c : Connections) := Holds session opened held x shut c ∧ Untouched others c₀ c
    (∀ c c', Calm c c' → P c → P c') ∧ ∀ c c', others c c' → P c → P c' := by
  intro P
  constructor
  · rintro c c' hcalm ⟨hholds, hway⟩
    exact ⟨hholds.aside hcalm.aside, hway.tail (.inl hcalm.alike)⟩
  · rintro c c' hmoved ⟨hholds, hway⟩
    exact ⟨hholds.aside (haside c c' hmoved), hway.tail (.inr hmoved)⟩

theorem attempt_of_runs (haside : ∀ c c', others c c' → Aside session c c') {shut : Nat → Prop}
    {transactionType : TransactionType} {options : Options} {result : Except Error Transaction}
    (hrun : Runs others (Transaction.openOn s transactionType options) c log result c')
    (hc : Holds session opened held x shut c) :
    Attempt others s transactionType options c log result c' ∧
      Holds session opened held x shut c' := by
  let P (c₁ : Connections) := Holds session opened held x shut c₁ ∧ Untouched others c c₁
  obtain ⟨hcalm, hothers⟩ := untouched_rests haside opened held x shut c
  have hrests : Rests others (·.asks? = none) P
      (Transaction.openOn s transactionType options) := rests_openOn hcalm hothers
  obtain ⟨hholds, hway⟩ := hrests.kept hrun ⟨hc, .refl⟩
  exact ⟨⟨hrun, (hrests _ _ _ _ hrun ⟨hc, .refl⟩).1, hway⟩, hholds⟩

/-- What was closed is closed in a state that is alike. -/
theorem Alike.closed (h : Alike c c') (hclosed : (c.session s).isOpen = false) :
    (c'.session s).isOpen = false := by
  obtain ⟨holders, heq⟩ := h.sessions s
  rw [heq]
  exact hclosed

theorem holds_markClosed (hs : s ∈ opened)
    (hc : Holds session opened held x (fun _ => False) c) :
    Holds session opened held x (· = s) (c.markClosed s).2 := by
  obtain ⟨hsound, huses, -⟩ := hc
  refine ⟨hsound.shut hs, ?_, ?_⟩
  · rw [Connections.clusterSession, Connections.markClosed_keeps.2, ← Connections.clusterSession]
    exact huses
  · rintro s rfl
    cases hopen : (c.session s).isOpen with
    | false => rwa [Connections.markClosed_of_closed hopen]
    | true =>
        rw [Connections.markClosed_of_open hopen,
          (Connections.alters_modifySession (hsound.known s hs) Session.shut).self]
        rfl

theorem holds_releaseSession {shut : Nat → Prop}
    (hc : Holds session opened (s :: held) x shut c) (hkept : shut s ∨ s = x.current) :
    Alike c (c.releaseSession s) ∧
      Holds session opened held x shut (c.releaseSession s) := by
  obtain ⟨hsound, rfl, hclosed⟩ := hc
  have halike := hsound.alike_release (hkept.imp_left (hclosed s))
  refine ⟨halike, hsound.release, ?_, fun s' hs' => halike.closed (hclosed s' hs')⟩
  rw [Connections.clusterSession,
    (Connections.releaseSession_keeps (hsound.lt List.mem_cons_self)).2, Connections.clusterSession]

theorem shuts_of_runs (haside : ∀ c c', others c c' → Aside session c c')
    {result : Except Error Unit} (hs : s ∈ opened)
    (hrun : Runs others (Session.close s) c log result c')
    (hc : Holds session opened held x (fun _ => False) c) :
    Shuts others s c log c' ∧ Holds session opened held x (· = s) c' := by
  have hmarked := holds_markClosed hs hc
  rw [Session.close, runs_modifyGet_bind] at hrun
  -- The session is marked closed before its server is told.
  cases hopen : (c.session s).isOpen with
  | false =>
      have hsame := Connections.markClosed_of_closed hopen
      rw [hsame] at hrun hmarked
      obtain ⟨rfl, -, rfl⟩ := runs_pure.mp hrun
      exact ⟨⟨by simp [hopen], hopen, hsame ▸ .refl⟩, hmarked⟩
  | true =>
      have hshut := Connections.markClosed_of_open hopen
      have hself := (Connections.alters_modifySession (hc.1.known s hs) Session.shut).self
      have hclient : (c.modifySession s Session.shut).clientIsOpen (c.session s).shut.client =
          c.clientIsOpen (c.session s).client := rfl
      rw [hshut] at hrun hmarked
      simp only [if_true, runs_get_bind, hself, runs_call_expect, hclient] at hrun
      cases hthere : c.clientIsOpen (c.session s).client with
      | false =>
          rw [hthere, if_neg Bool.false_ne_true] at hrun
          obtain ⟨rfl, -, rfl⟩ := hrun
          exact ⟨⟨by simp [hthere], hmarked.2.2 s rfl, hshut ▸ .refl⟩, hmarked⟩
      | true =>
          rw [hthere, if_pos rfl] at hrun
          obtain ⟨hmoved, reply, rfl, -⟩ := hrun
          have hend := hmarked.aside (haside _ _ hmoved)
          refine ⟨⟨?_, hend.2.2 s rfl, hshut ▸ .single (.inr hmoved)⟩, hend⟩
          rw [hopen, hthere]
          exact ⟨reply, rfl⟩

theorem opening_of_runs (haside : ∀ c c', others c c' → Aside session c c') {shut : Nat → Prop}
    {outcome : Except Error Nat} :
    Runs others (openAtReplica x.cluster x.database x.sessionType x.options) c log outcome c' →
    Holds session opened held x shut c →
    Opening others x c log outcome c' ∧
      match outcome with
      | .error _ => Holds session opened held x shut c'
      | .ok fresh => ∃ opened', Holds session opened' (fresh :: held) x shut c' := by
  intro hrun hc
  let P (c₁ : Connections) := Holds session opened held x shut c₁ ∧ Untouched others c c₁
  let Q (fresh : Nat) (c₂ : Connections) := ∃ c₁ client y, P c₁ ∧ fresh = c₁.sessions.length ∧
    (y.isOpen = true ∧ y.database = x.database ∧ y.sessionType = x.sessionType ∧
      y.options = x.options ∧ y.holders = 1 ∧ y.pulsing = false) ∧
    c₂ = { c₁.retainClient client with sessions := c₁.sessions ++ [y] }
  obtain ⟨hcalm, hothers⟩ := untouched_rests haside opened held x shut c
  have htask (client : Nat) (_ : Bool) : Reaches others (·.closes? = none) P Q
      (Session.openAt client x.database x.sessionType x.options) := by
    refine reaches_get_bind fun c => ?_
    refine Reaches.bind (rests_call hothers fun _ => rfl) fun response => ?_
    refine Reaches.bind rests_expect fun (id, duration) => ?_
    exact reaches_modifyGet fun c₁ hc₁ =>
      ⟨c₁, client, _, hc₁, rfl, ⟨rfl, rfl, rfl, rfl, rfl, rfl⟩, rfl⟩
  have hreaches : Reaches others (·.closes? = none) P Q
      (openAtReplica x.cluster x.database x.sessionType x.options) := by
    unfold openAtReplica
    split
    · exact reaches_runAny hcalm hothers htask
    · exact reaches_runPrimary hcalm hothers htask
  obtain ⟨hcloses, hend⟩ := hreaches _ _ _ _ hrun ⟨hc, .refl⟩
  cases outcome with
  | error e => exact ⟨⟨hrun, hcloses, hend.2⟩, hend.1⟩
  | ok fresh =>
      obtain ⟨c₁, client, y, ⟨⟨hsound, huses, hshut⟩, hway⟩, rfl,
        ⟨hopen, hdatabase, htype, hoptions, hholders, hidle⟩, rfl⟩ := hend
      refine ⟨⟨hrun, hcloses, c₁, client, y, hway, rfl, hopen, hdatabase, htype, hoptions, rfl⟩, ?_⟩
      refine ⟨_, hsound.land client hholders hidle, huses, fun s hs => ?_⟩
      have hclosed := hshut s hs
      rw [Connections.session_push, if_neg (Nat.ne_of_lt (Connections.lt_of_closed hclosed))]
      exact hclosed

/-- A session of a cluster that moves away from a session that is closed leaves all sessions as they
are. -/
theorem holds_moveTo {shut : Nat → Prop} (hc : Holds session opened (s :: held) x shut c)
    (hshut : shut x.current) :
    Alike c (moveTo session s c) ∧
      Holds session opened (s :: held) { x with current := s } shut (moveTo session s c) := by
  obtain ⟨hsound, rfl, hclosed⟩ := hc
  let used := (c.retainSession s).modifyClusterSession session fun x => { x with current := s }
  have hretained := alike_retainSession (hsound.lt List.mem_cons_self)
  have hused : Alike c used := ⟨hretained.length, hretained.sessions, hretained.farewells⟩
  have hthere : session < (c.retainSession s).clusterSessions.length := hsound.there
  have hholds : Holds session opened ((c.clusterSession session).current :: s :: held)
      { c.clusterSession session with current := s } shut used :=
    ⟨hsound.use, Connections.clusterSession_modify hthere _,
      fun s' hs' => hused.closed (hclosed s' hs')⟩
  obtain ⟨hreleased, hend⟩ := holds_releaseSession hholds (.inl hshut)
  exact ⟨hused.trans hreleased, hend⟩

end Parts

/-! ## §5  The course of a call -/

/-- An outcome that sends a call on: that the replica is not the primary one, or is not there. -/
def IsSignal {α : Type} (outcome : Except Error α) : Prop :=
  outcome = .error .notPrimary ∨ ∃ address, outcome = .error (.unreachable address)

theorem isSignal_iff {α : Type} {outcome : Except Error α} :
    IsSignal outcome ↔ Cluster.sendsOn outcome = true := by
  unfold IsSignal
  rcases outcome with (e | a)
  · cases e <;> simp [Cluster.sendsOn, Error.isReplicaFailure]
  · simp [Cluster.sendsOn]

/-- How a call goes that opens a transaction over the session `session` of a cluster, which is as
`x` says when the call begins. -/
inductive Course (others : Connections → Connections → Prop) (session : Nat)
    (transactionType : TransactionType) (options : Options) (x : ClusterSession)
    (c : Connections) : List Event → Except Error Transaction → Connections → Prop
  /-- The first attempt is the only one. -/
  | stays {log : List Event} {result : Except Error Transaction} {c₁ c' : Connections}
      (first : Attempt others x.current transactionType options (c.retainSession x.current) log
        result c₁)
      (answered : ¬IsSignal result)
      (untouched : Untouched others c c')
      (uses : c'.clusterSession session = x) :
      Course others session transactionType options x c log result c'
  /-- No other session can be opened. -/
  | strands {first told sought : List Event} {signal : Except Error Transaction} {e : Error}
      {c₁ c₂ c₃ c' : Connections}
      (attempt : Attempt others x.current transactionType options (c.retainSession x.current) first
        signal c₁)
      (sent : IsSignal signal)
      (shuts : Shuts others x.current c₁ told c₂)
      (opening : Opening others x c₂ sought (.error e) c₃)
      (untouched : Untouched others c₃ c')
      (uses : c'.clusterSession session = x)
      (shut : (c'.session x.current).isOpen = false) :
      Course others session transactionType options x c (first ++ (told ++ sought)) (.error e) c'
  /-- Another session is opened and used, and the second attempt is the last one. -/
  | moves {first told sought second : List Event} {signal result : Except Error Transaction}
      {fresh : Nat} {c₁ c₂ c₃ c₄ c' : Connections}
      (attempt : Attempt others x.current transactionType options (c.retainSession x.current) first
        signal c₁)
      (sent : IsSignal signal)
      (shuts : Shuts others x.current c₁ told c₂)
      (opening : Opening others x c₂ sought (.ok fresh) c₃)
      (again : Attempt others fresh transactionType options (moveTo session fresh c₃) second result
        c₄)
      (untouched : Untouched others c₃ c')
      (uses : c'.clusterSession session = { x with current := fresh })
      (shut : (c'.session x.current).isOpen = false) :
      Course others session transactionType options x c (first ++ (told ++ (sought ++ second)))
        result c'

section Going

variable {others : Connections → Connections → Prop} {session : Nat} {opened held : List Nat}
  {x : ClusterSession} {c c' : Connections} {log : List Event}
  {transactionType : TransactionType} {options : Options} {result : Except Error Transaction}

theorem transaction_eq :
    transaction session transactionType options =
      modifyGet (takeCurrent session) >>= fun stale => holding stale
        (outcome (Transaction.openOn stale transactionType options) >>= fun answer =>
          if Cluster.sendsOn answer then
            reopen session stale >>= fun fresh =>
              holding fresh (Transaction.openOn fresh transactionType options)
          else ofOutcome answer) := by
  rw [transaction]
  refine congrArg (modifyGet (takeCurrent session) >>= ·) (funext fun stale => ?_)
  refine congrArg (holding stale) ?_
  refine congrArg (outcome (Transaction.openOn stale transactionType options) >>= ·)
    (funext fun answer => ?_)
  cases answer <;> rfl

theorem runs_transaction :
    Runs others (transaction session transactionType options) c log result c' ↔
      ∃ answer c₁ c₄ first rest,
        Runs others (Transaction.openOn (c.clusterSession session).current transactionType options)
          (c.retainSession (c.clusterSession session).current) first answer c₁ ∧
        Runs others
          (if Cluster.sendsOn answer then
            reopen session (c.clusterSession session).current >>= fun fresh =>
              holding fresh (Transaction.openOn fresh transactionType options)
          else ofOutcome answer) c₁ rest result c₄ ∧
        log = first ++ rest ∧ c' = c₄.releaseSession (c.clusterSession session).current := by
  rw [transaction_eq, runs_modifyGet_bind, runs_holding]
  simp only [takeCurrent, runs_outcome_bind]
  constructor
  · rintro ⟨c₄, ⟨answer, c₁, first, rest, hfirst, hrest, rfl⟩, rfl⟩
    exact ⟨answer, c₁, c₄, first, rest, hfirst, hrest, rfl, rfl⟩
  · rintro ⟨answer, c₁, c₄, first, rest, hfirst, hrest, rfl, rfl⟩
    exact ⟨c₄, ⟨answer, c₁, first, rest, hfirst, hrest, rfl⟩, rfl⟩

/-- A session that fails a call is closed, and another one is looked for. -/
theorem runs_reopen {s : Nat} {outcome : Except Error Nat} :
    Runs others (reopen session s) c log outcome c' →
    ∃ answer c₁ c₂ told sought,
      Runs others (Session.close s) c told answer c₁ ∧
      Runs others (openAtReplica (c₁.clusterSession session).cluster
        (c₁.clusterSession session).database (c₁.clusterSession session).sessionType
        (c₁.clusterSession session).options) c₁ sought outcome c₂ ∧
      log = told ++ sought ∧
      c' = match outcome with
        | .ok fresh => moveTo session fresh c₂
        | .error _ => c₂ := by
  intro h
  rw [reopen, runs_outcome_bind] at h
  obtain ⟨answer, c₁, told, rest, hclose, hgo, rfl⟩ := h
  rw [runs_get_bind] at hgo
  rcases runs_bind.mp hgo with ⟨e, hopen, rfl⟩ | ⟨fresh, c₂, sought, _, hopen, hmove, rfl⟩
  · exact ⟨answer, c₁, c', told, rest, hclose, hopen, rfl, rfl⟩
  · rw [runs_modify_bind, runs_pure] at hmove
    obtain ⟨rfl, rfl, rfl⟩ := hmove
    refine ⟨answer, c₁, c₂, told, sought, hclose, hopen, ?_, rfl⟩
    rw [List.append_nil]

/-- What happens after a call has closed the session that failed it. -/
theorem course_of_reopen (haside : ∀ c c', others c c' → Aside session c c')
    {signal : Except Error Transaction} {first rest : List Event} {c₁ c₄ : Connections}
    (attempt : Attempt others x.current transactionType options (c.retainSession x.current) first
      signal c₁)
    (sent : IsSignal signal) (hcurrent : x.current ∈ opened)
    (hc₁ : Holds session opened (x.current :: held) x (fun _ => False) c₁)
    (hrun : Runs others
      (reopen session x.current >>= fun fresh =>
        holding fresh (Transaction.openOn fresh transactionType options)) c₁ rest result c₄) :
    Course others session transactionType options x c (first ++ rest) result
      (c₄.releaseSession x.current) := by
  rcases runs_bind.mp hrun with
    ⟨e, hreopen, rfl⟩ | ⟨fresh, c₅, moving, second, hreopen, hagain, rfl⟩
  · obtain ⟨_, c₂, c₃, told, sought, hclose, hopen, rfl, rfl⟩ := runs_reopen hreopen
    obtain ⟨hshuts, hc₂⟩ := shuts_of_runs haside hcurrent hclose hc₁
    rw [hc₂.2.1] at hopen
    obtain ⟨hopening, hc₃⟩ := opening_of_runs haside hopen hc₂
    obtain ⟨halike, hend⟩ := holds_releaseSession hc₃ (.inl rfl)
    exact .strands attempt sent hshuts hopening (.single (.inl halike)) hend.2.1
      (hend.2.2 _ rfl)
  · obtain ⟨_, c₂, c₃, told, sought, hclose, hopen, rfl, rfl⟩ := runs_reopen hreopen
    obtain ⟨hshuts, hc₂⟩ := shuts_of_runs haside hcurrent hclose hc₁
    rw [hc₂.2.1] at hopen
    obtain ⟨hopening, opened', hc₃⟩ := opening_of_runs haside hopen hc₂
    obtain ⟨hmoved, hc₅⟩ := holds_moveTo hc₃ rfl
    obtain ⟨c₆, hsecond, rfl⟩ := runs_holding.mp hagain
    obtain ⟨hattempt, hc₆⟩ := attempt_of_runs haside hsecond hc₅
    -- The call lets go of the session that is used now, and of the one that it has closed.
    obtain ⟨hreleased, hc₇⟩ := holds_releaseSession hc₆ (.inr rfl)
    obtain ⟨hreleased', hend⟩ := holds_releaseSession hc₇ (.inl rfl)
    have hway : Untouched others c₃ ((c₆.releaseSession fresh).releaseSession x.current) :=
      .trans (.head (.inl hmoved) hattempt.untouched) (.single (.inl (hreleased.trans hreleased')))
    rw [List.append_assoc]
    exact .moves attempt sent hshuts hopening hattempt hway hend.2.1 (hend.2.2 _ rfl)

/-- **A call moves at most once.** Over a session of a cluster whose sessions are soundly held, with
others going on beside it, a call to open a transaction comes to an end whatever it is answered. If
its first attempt ends without a signal, that is the result, and the call has opened and closed no
session. Otherwise the session in use is closed, its server is told so at most once, and one other
session is looked for. If there is none, that is the error; if there is one, it is the session in
use from then on, and the second attempt, over it, gives the result. -/
theorem moves_at_most_once (haside : ∀ c c', others c c' → Aside session c c')
    (hquiet : ∀ c, others c c) (hsound : Sound session opened held c)
    (transactionType : TransactionType) (options : Options) :
    (∀ answer, ∃ log result c',
      Runs others (transaction session transactionType options) c log result c' ∧
        IsAnswered answer 0 log) ∧
    ∀ log result c', Runs others (transaction session transactionType options) c log result c' →
      Course others session transactionType options (c.clusterSession session) c log result c' := by
  refine ⟨fun answer => exists_run hquiet _ answer c, fun log result c' hrun => ?_⟩
  obtain ⟨answer, c₁, c₄, first, rest, hfirst, hrest, rfl, rfl⟩ := runs_transaction.mp hrun
  have hretained := alike_retainSession (hsound.known _ hsound.current)
  have hc₀ : Holds session opened ((c.clusterSession session).current :: held)
      (c.clusterSession session) (fun _ => False)
      (c.retainSession (c.clusterSession session).current) :=
    ⟨hsound.retain hsound.current, rfl, fun _ => False.elim⟩
  obtain ⟨hattempt, hc₁⟩ := attempt_of_runs haside hfirst hc₀
  split at hrest
  · rename_i hsends
    exact course_of_reopen haside hattempt (isSignal_iff.mpr hsends) hsound.current hc₁ hrest
  · rename_i hstays
    obtain ⟨rfl, rfl, rfl⟩ := runs_ofOutcome.mp hrest
    obtain ⟨hreleased, hend⟩ := holds_releaseSession hc₁ (.inr rfl)
    rw [List.append_nil]
    refine .stays hattempt (fun hsignal => hstays (isSignal_iff.mp hsignal)) ?_ hend.2.1
    exact .tail (.head (.inl hretained) hattempt.untouched) (.inl hreleased)

end Going

/-! ## §6  A call that moves

A cluster of one member, which refuses the first connection for a transaction, and tells a client
that wants to close a session that it is not the primary replica. The call moves, to another session
at the same member, and what it was told about the session that it closed is forgotten. -/

def reluctant : Nat → (e : Effect) → e.Reply
  | _, .call _ .serversAll => .ok (.servers ["a"])
  | _, .call _ (.databaseReplicas _) => .ok (.replicas [⟨"a", "social", 1, true, false⟩])
  | _, .call _ (.sessionOpen _ _ _) => .ok (.sessionOpened default 0)
  | _, .call _ _ => .error .notPrimary
  | waits, .dial address _ _ => if waits = 0 then .error (.unreachable address) else .ok ()
  | _, .pause _ => ()
  | _, .receive _ _ => .ok (.response ⟨⟨1⟩, .ok .opened⟩)
  | _, .work _ _ => .ok ""

theorem moves_at_most_once_moved :
    let arrived := (arriving.replay reluctant {}).2.2
    (∀ c c', Background c c' → Aside 0 c c') ∧ (∀ c, Background c c) ∧ Sound 0 [0] [] arrived ∧
      ∃ log t c', Course Background 0 .read {} (arrived.clusterSession 0) arrived log (.ok t) c' ∧
        (arrived.clusterSession 0).current = 0 ∧ (c'.clusterSession 0).current = 1 ∧
        log.filterMap (·.effect.asks?) =
          [.sessionClose default, .sessionOpen "social" .data {}] := by
  intro arrived
  have haside (c c' : Connections) (h : Background c c') : Aside 0 c c' := h.aside
  have hquiet (c : Connections) : Background c c := .calm ⟨rfl, rfl, rfl⟩
  have hsound : Sound 0 [0] [] arrived :=
    { there := by decide +kernel
      current := by decide +kernel
      among := List.forall_mem_nil _
      known := by decide +kernel
      counted := by decide +kernel
      idle := by decide +kernel
      kept := by decide +kernel }
  let moved := (transaction 0 .read {}).replay reluctant arrived
  have hrun : Runs Background (transaction 0 .read {}) arrived moved.1 moved.2.1 moved.2.2 :=
    runs_replay hquiet _ reluctant arrived
  have hresult : moved.2.1 = .ok ⟨0, 0, .read, {}⟩ := by decide +kernel
  rw [hresult] at hrun
  have hcourse := (moves_at_most_once haside hquiet hsound .read {}).2 _ _ _ hrun
  exact ⟨haside, hquiet, hsound, _, _, _, hcourse, by decide +kernel, by decide +kernel,
    by decide +kernel⟩

end ClusterSession

end GraphDriver
