import GraphDriver.Proofs.Client.Interleaving
import GraphDriver.Proofs.Cluster.Signals

/-!
# The conduct of a session of a cluster

What the calls on a session of a cluster do to the sessions at its replicas, and what a pulse does
to one of them. A call takes hold of the session in use and lets go of it in the end; whoever closes
a session owes its server word of it; a session that is opened is at once the one in use. All else
that a call does, be it opening a transaction or looking for a replica, leaves the sessions as they
are.

* §1 errands and stages
* §2 what leaves the sessions as they are
* §3 opening a transaction
* §4 looking for a replica
* §5 errands
-/

namespace GraphDriver

/-- The session that an effect tells a server to close. -/
def Effect.closes? : Effect → Option SessionId
  | .call _ (.sessionClose id) => some id
  | _ => none

namespace ClusterSession

open Operation

/-! ## §1  Errands and stages -/

/-- What is asked of a session of a cluster, and a pulse of a session at a replica. -/
inductive Errand where
  | transaction (transactionType : TransactionType) (options : Options)
  | close
  | pulse (s : Nat)
deriving DecidableEq

/-- Whether an errand may move to another replica. -/
def Errand.roams : Errand → Bool
  | .transaction .. => true
  | .close | .pulse _ => false

theorem Errand.eq_transaction {errand : Errand} (hroams : errand.roams = true) :
    ∃ transactionType options, errand = .transaction transactionType options := by
  cases errand with
  | transaction transactionType options => exact ⟨transactionType, options, rfl⟩
  | close => cases hroams
  | pulse s => cases hroams

/-- What an errand does. It comes to a transaction, or to nothing. -/
def Errand.program (session : Nat) : Errand → Program (Except Error (Option Transaction))
  | .transaction transactionType options =>
    (ClusterSession.transaction session transactionType options >>= fun t => pure (some t)).run
  | .close => (ClusterSession.close session >>= fun _ => pure none).run
  | .pulse s => (Session.pulse s).bind fun _ => .done (.ok none)

/-- The sessions of which a call has hold, and what else it has in hand. -/
inductive Stage where
  | free (moved : Bool) (held : List Nat)
  /-- It has closed a session, and the server is to be told. -/
  | owing (s : Nat) (held : List Nat)
  /-- It has opened a session that is not in use yet. -/
  | landed (s : Nat) (held : List Nat)

def Stage.held : Stage → List Nat
  | .free _ held | .owing _ held => held
  | .landed s held => s :: held

/-- A call has hold of these sessions and nothing else in hand. -/
def Stage.Has (held : List Nat) (g : Stage) : Prop := ∃ moved, g = .free moved held

/-- The sessions stay as they are, and there are no farewells. -/
structure Calm (c c' : Connections) : Prop where
  sessions : c'.sessions = c.sessions
  clusterSessions : c'.clusterSessions = c.clusterSessions
  farewells : c'.farewells = c.farewells

/-- The changes that an errand may make. A call that has moved closes no session any more. -/
inductive Change (session : Nat) (errand : Errand) :
    Stage → Connections → Stage → Connections → Prop
  | calm {moved : Bool} {held : List Nat} {c c' : Connections} (h : Calm c c') :
      Change session errand (.free moved held) c (.free moved held) c'
  | take (moved : Bool) (held : List Nat) (c : Connections) :
      Change session errand (.free moved held) c (.free moved ((takeCurrent session c).1 :: held))
        (takeCurrent session c).2
  | release (moved : Bool) (s : Nat) (held : List Nat) (c : Connections) :
      Change session errand (.free moved (s :: held)) c (.free moved held) (c.releaseSession s)
  | shut {s : Nat} {held : List Nat} (hs : s ∈ held) (c : Connections) :
      Change session errand (.free false held) c
        (if (c.markClosed s).1 then .owing s held else .free false held) (c.markClosed s).2
  | land (hroams : errand.roams = true) (client : Nat) (fresh : Session)
      (hopen : fresh.isOpen = true) (hholders : fresh.holders = 1) (hidle : fresh.pulsing = false)
      (moved : Bool) (held : List Nat) (c : Connections) :
      Change session errand (.free moved held) c (.landed c.sessions.length held)
        { c.retainClient client with sessions := c.sessions ++ [fresh] }
  | move (hroams : errand.roams = true) (s : Nat) (held : List Nat) (c : Connections) :
      Change session errand (.landed s held) c (.free true (s :: held)) (moveTo session s c)
  | pulseStarts {s : Nat} (hpulse : errand = .pulse s) {c : Connections}
      (hopen : (c.session s).isOpen = true) (hidle : (c.session s).pulsing = false)
      (moved : Bool) (held : List Nat) :
      Change session errand (.free moved held) c (.free moved held)
        ((c.modifySession s Session.startPulse).retainSession s)
  /-- The hold that a pulse had is now that of the call that ends it. -/
  | pulseEnds {s : Nat} (hpulse : errand = .pulse s) {c : Connections}
      (hpulsing : (c.session s).pulsing = true) (alive moved : Bool) (held : List Nat) :
      Change session errand (.free moved held) c (.free moved (s :: held))
        (c.modifySession s (Session.endPulse alive))

/-- The request that closes a session at its server. -/
def closing (c : Connections) (s : Nat) : Effect :=
  .call (c.client (c.session s).client).address (.sessionClose (c.session s).id)

/-- How an errand goes about with sessions. Whoever owes a server word of a session tells it, or
notices that the client of the session is closed; nobody else tells a server to close a session. -/
def conduct (session : Nat) (errand : Errand) : Conduct Stage where
  change := Change session errand
  notice g c g' := ∃ s held, g = .owing s held ∧ g' = .free false held ∧
    c.clientIsOpen (c.session s).client = false
  wait g c e g' := ∃ moved held, g' = .free moved held ∧
    (g = .free moved held ∧ e.closes? = none ∨ ∃ s, g = .owing s held ∧ e = closing c s)

/-! ## §2  What leaves the sessions as they are -/

section Rules

variable {α β : Type} (session : Nat) (errand : Errand)

/-- The stage in which an operation ends that came to what is arrived at, or failed. -/
def arrival (arrive : α → Bool → List Nat → Stage) (moved : Bool) (held : List Nat) :
    Except Error α → Stage
  | .ok a => arrive a moved held
  | .error _ => .free moved held

/-- From whatever a call has hold of, an operation arrives somewhere, or it fails and has left the
sessions as they were. -/
def Arrives (arrive : α → Bool → List Nat → Stage) (op : Operation α) : Prop :=
  ∀ moved held, Passes (conduct session errand) (Stage.Has held) (.free moved held)
    (arrival arrive moved held) op

/-- An operation leaves the sessions as they are. -/
abbrev Idle (op : Operation α) : Prop := Arrives session errand (fun _ => .free) op

variable {session errand} {arrive : α → Bool → List Nat → Stage} {op : Operation α}

theorem Calm.leads {c c' : Connections} (h : Calm c c') (moved : Bool) (held : List Nat) :
    (conduct session errand).Leads (.free moved held) c (.free moved held) c' :=
  .one (.calm h)

theorem Arrives.bind {first : Operation β} {k : β → Operation α}
    (hfirst : Idle session errand first) (hk : ∀ b, Arrives session errand arrive (k b)) :
    Arrives session errand arrive (first >>= k) :=
  fun moved held => (hfirst moved held).bind (fun _ => rfl) fun b => hk b moved held

theorem arrives_throw {e : Error} : Arrives session errand arrive (throw e : Operation α) :=
  fun _ _ => passes_throw rfl

theorem arrives_throw_bind {e : Error} {k : β → Operation α} :
    Arrives session errand arrive (throw e >>= k) :=
  fun _ _ => passes_throw_bind rfl

theorem idle_pure {a : α} : Idle session errand (pure a) := fun _ _ => passes_pure rfl

theorem idle_ofOutcome {outcome : Except Error α} : Idle session errand (ofOutcome outcome) := by
  intro moved held
  refine passes_ofOutcome ?_
  cases outcome <;> rfl

theorem idle_expect [Described β] {expected : String} {pick : β → Option α} {received : β} :
    Idle session errand (expect expected pick received) := by
  intro moved held
  refine passes_expect fun result => ?_
  cases result <;> rfl

theorem Idle.outcome (hop : Idle session errand op) : Idle session errand (outcome op) := by
  intro moved held
  refine (hop moved held).outcome ?_
  rintro (e | a) <;> rfl

theorem arrives_get_bind {k : Connections → Operation α}
    (hk : ∀ c, Arrives session errand arrive (k c)) : Arrives session errand arrive (get >>= k) :=
  fun moved held => passes_get_bind fun c => hk c moved held

theorem idle_modifyGet {f : Connections → α × Connections} (hf : ∀ c, Calm c (f c).2) :
    Idle session errand (modifyGet f) :=
  fun moved held => passes_modifyGet fun c => (hf c).leads moved held

theorem idle_modify {f : Connections → Connections} (hf : ∀ c, Calm c (f c)) :
    Idle session errand (modify f) :=
  idle_modifyGet hf

theorem Idle.onAbandon {cleanup : Connections → Connections} (hop : Idle session errand op)
    (hcleanup : ∀ c, Calm c (cleanup c)) : Idle session errand (onAbandon cleanup op) := by
  intro moved held
  refine (hop moved held).onAbandon ?_
  rintro _ c ⟨moved', rfl⟩
  exact ⟨_, (hcleanup c).leads moved' held, moved', rfl⟩

theorem waits_free {e : Effect} (he : e.closes? = none) (moved : Bool) (held : List Nat)
    (c : Connections) : (conduct session errand).wait (.free moved held) c e (.free moved held) :=
  ⟨moved, held, rfl, .inl ⟨rfl, he⟩⟩

theorem idle_perform {e : Effect} (he : e.closes? = none) :
    Idle session errand (ExceptT.lift (Program.perform e)) := by
  intro moved held
  refine Passes.congr (passes_perform (waits_free he moved held) ?_) ?_
  · exact ⟨moved, rfl⟩
  · rintro (error | reply) <;> rfl

theorem idle_pause {millis : Nat} : Idle session errand (pause millis) := idle_perform rfl

theorem idle_dial {address : String} {hub dispatcher : Nat} :
    Idle session errand (ExceptT.mk (Program.perform (.dial address hub dispatcher))) := by
  intro moved held c
  refine ⟨_, waits_free rfl moved held c, fun c₁ => ⟨_, .refl _ c₁, moved, rfl⟩, ?_⟩
  rintro (error | u) c₁ <;> rfl

/-- Asking a server for anything but to close a session. -/
theorem idle_call {client : Nat} {request : UnaryRequest}
    (hrequest : ∀ address, (Effect.call address request).closes? = none) :
    Idle session errand (call client request) := by
  refine arrives_get_bind fun c => ?_
  split
  · intro moved held c₁
    refine ⟨_, waits_free (hrequest _) moved held c₁, fun c₂ => ⟨_, .refl _ c₂, moved, rfl⟩, ?_⟩
    rintro (error | response) c₂ <;> rfl
  · exact arrives_throw

end Rules

/-! ## §3  Opening a transaction -/

section Opening

variable {session : Nat} {errand : Errand}

theorem calm_onHub {α : Type} (hub : Nat) (f : Hub → α × Hub) (c : Connections) :
    Calm c (c.onHub hub f).2 :=
  ⟨rfl, rfl, rfl⟩

theorem calm_modifyHub (hub : Nat) (f : Hub → Hub) (c : Connections) : Calm c (c.modifyHub hub f) :=
  ⟨rfl, rfl, rfl⟩

theorem idle_openStream {hub : Nat} {address : String} :
    Idle session errand (Transaction.openStream hub address) := by
  refine Arrives.bind (idle_modifyGet (calm_onHub hub _)) fun reserved => ?_
  refine Arrives.bind idle_ofOutcome fun dispatcher => ?_
  refine Arrives.bind (idle_dial.onAbandon (calm_modifyHub hub _)).outcome fun dialled => ?_
  cases dialled with
  | ok u => exact idle_modifyGet (calm_onHub hub _)
  | error e => exact Arrives.bind (idle_modify (calm_modifyHub hub _)) fun _ => arrives_throw

theorem idle_ask {t : Transaction} {payload : RequestPayload} {batched : Bool} :
    Idle session errand (Transaction.ask t payload batched) := by
  refine arrives_get_bind fun c => ?_
  refine Arrives.bind (idle_modifyGet (calm_onHub t.hub _)) fun sent => ?_
  refine Arrives.bind idle_ofOutcome fun call => ?_
  exact Arrives.bind (idle_perform rfl) fun _ => idle_ofOutcome

/-- Opening a transaction leaves the sessions as they are. -/
theorem idle_openOn {current : Nat} {transactionType : TransactionType} {options : Options} :
    Idle session errand (Transaction.openOn current transactionType options) := by
  refine arrives_get_bind fun c => ?_
  dsimp only
  split
  · split
    · refine Arrives.bind idle_openStream fun stream => ?_
      refine Arrives.bind (Idle.outcome (Arrives.bind (idle_ask.onAbandon (calm_modifyHub _ _))
        fun _ => idle_expect)) fun opened => ?_
      cases opened with
      | ok u => exact idle_pure
      | error e => exact Arrives.bind (idle_modify (calm_modifyHub _ _)) fun _ => arrives_throw
    · exact arrives_throw_bind
  · exact arrives_throw_bind

end Opening

/-! ## §4  Looking for a replica -/

section Looking

open Cluster

variable {α : Type} {session : Nat} {errand : Errand} {k : Nat} {database : String}
  {arrive : α → Bool → List Nat → Stage}

theorem idle_ensureOpen : Idle session errand (ensureOpen k) := by
  refine arrives_get_bind fun c => ?_
  split
  · exact idle_pure
  · exact arrives_throw

theorem idle_clientAt {address : String} : Idle session errand (clientAt k address) := by
  refine idle_modifyGet fun c => ?_
  dsimp only
  split <;> exact ⟨rfl, rfl, rfl⟩

/-- A task that is tried at a replica, and what comes after it if it did not arrive. -/
theorem arrives_try {task : Nat → Operation α} {address : String}
    {next : Except Error α → Operation α} (goesOn : Except Error α → Bool)
    (hok : ∀ a, goesOn (.ok a) = false)
    (htask : ∀ client, Arrives session errand arrive (task client))
    (hnext : ∀ answer, Arrives session errand arrive (next answer)) :
    Arrives session errand arrive
      (clientAt k address >>= fun client => outcome (task client) >>= fun answer =>
        if goesOn answer then next answer else ofOutcome answer) := by
  refine Arrives.bind idle_clientAt fun client moved held => ?_
  let tried : Except Error (Except Error α) → Stage
    | .ok answer => arrival arrive moved held answer
    | .error _ => .free moved held
  have houtcome : Passes (conduct session errand) (Stage.Has held) (.free moved held) tried
      (outcome (task client)) :=
    (htask client moved held).outcome fun _ => rfl
  refine houtcome.bind (fun _ => rfl) fun answer => ?_
  rcases answer with (e | a)
  · split
    · exact hnext (.error e) moved held
    · exact passes_throw rfl
  · rw [hok]
    exact passes_pure rfl

theorem arrives_onMembers {task : Nat → Operation α} {members : List String}
    (htask : ∀ client, Arrives session errand arrive (task client)) :
    Arrives session errand arrive (onMembers k task members) := by
  induction members with
  | nil => exact arrives_throw
  | cons member rest ih =>
      rw [onMembers_cons]
      exact arrives_try isUnreachable (fun _ => rfl) htask fun _ => ih

theorem idle_fetchReplicas : Idle session errand (fetchReplicas k database) := by
  rw [fetchReplicas_eq]
  refine Arrives.bind idle_ensureOpen fun _ => arrives_get_bind fun c => ?_
  refine arrives_onMembers fun client => ?_
  refine Arrives.bind (idle_call fun _ => rfl) fun response => ?_
  refine Arrives.bind idle_expect fun replicas => ?_
  exact Arrives.bind (idle_modifyGet fun c => ⟨rfl, rfl, rfl⟩) fun _ => idle_pure

theorem idle_pauseBefore {first : Bool} : Idle session errand (pauseBefore k first) := by
  cases first with
  | true => exact idle_pure
  | false => exact arrives_get_bind fun c => idle_pause

theorem idle_seekPrimaryWithin {fetches : Nat} {first : Bool} :
    Idle session errand (seekPrimaryWithin k database fetches first) := by
  induction fetches generalizing first with
  | zero => exact arrives_throw
  | succ fetches ih =>
      rw [seekPrimaryWithin_succ]
      refine Arrives.bind idle_pauseBefore fun _ => Arrives.bind idle_fetchReplicas fun found => ?_
      split
      · exact idle_pure
      · exact ih

theorem idle_seekPrimary : Idle session errand (seekPrimary k database) :=
  arrives_get_bind fun _ => idle_seekPrimaryWithin

theorem arrives_followPrimary {task : Nat → Bool → Operation α} {runs : Nat} {first : Bool}
    {p : ReplicaInfo} (htask : ∀ client first, Arrives session errand arrive (task client first)) :
    Arrives session errand arrive (followPrimary k database task runs first p) := by
  induction runs generalizing first p with
  | zero => exact arrives_throw
  | succ runs ih =>
      rw [followPrimary_succ]
      refine arrives_try sendsOn (fun _ => rfl) (fun client => htask client first) fun answer => ?_
      refine Arrives.bind ?_ fun _ => ih
      exact Arrives.bind idle_pauseBefore fun _ => idle_seekPrimary

/-- Work on the primary replica arrives where the task does. -/
theorem arrives_runPrimary {task : Nat → Bool → Operation α}
    (htask : ∀ client first, Arrives session errand arrive (task client first)) :
    Arrives session errand arrive (runPrimary k database task) := by
  rw [runPrimary_eq, openingReplica, cachedReplicas]
  refine Arrives.bind idle_ensureOpen fun _ => ?_
  refine Arrives.bind ?_ fun p => arrives_get_bind fun _ => arrives_followPrimary htask
  refine Arrives.bind (arrives_get_bind fun _ => idle_pure) fun cached => ?_
  split
  · exact idle_pure
  · exact idle_seekPrimary

theorem arrives_onReplicas {task : Nat → Bool → Operation α} {first : Bool}
    {replicas : List ReplicaInfo}
    (htask : ∀ client first, Arrives session errand arrive (task client first)) :
    Arrives session errand arrive (onReplicas k task first replicas) := by
  induction replicas generalizing first with
  | nil => exact arrives_throw
  | cons replica rest ih =>
      rw [onReplicas_cons]
      exact arrives_try isUnreachable (fun _ => rfl) (fun client => htask client first) fun _ => ih

/-- Work on any replica arrives where the task does. -/
theorem arrives_runAny {task : Nat → Bool → Operation α}
    (htask : ∀ client first, Arrives session errand arrive (task client first)) :
    Arrives session errand arrive (runAny k database task) := by
  rw [runAny, cachedReplicas]
  refine Arrives.bind idle_ensureOpen fun _ => ?_
  refine Arrives.bind (arrives_get_bind fun _ => idle_pure) fun cached => ?_
  cases cached with
  | some found => exact Arrives.bind idle_pure fun _ => arrives_onReplicas htask
  | none => exact Arrives.bind idle_fetchReplicas fun _ => arrives_onReplicas htask

/-- A session that is opened at a replica has landed. -/
theorem lands_openAtReplica (hroams : errand.roams = true) {sessionType : SessionType}
    {options : Options} :
    Arrives session errand (fun s _ held => .landed s held)
      (openAtReplica k database sessionType options) := by
  have htask (client : Nat) (_ : Bool) : Arrives session errand (fun s _ held => .landed s held)
      (Session.openAt client database sessionType options) := by
    refine arrives_get_bind fun c => ?_
    refine Arrives.bind (idle_call fun _ => rfl) fun response => ?_
    refine Arrives.bind idle_expect fun (id, duration) => ?_
    exact fun moved held => passes_modifyGet fun c =>
      .one (.land hroams client _ rfl rfl rfl moved held c)
  unfold openAtReplica
  split
  · exact arrives_runAny htask
  · exact arrives_runPrimary htask

end Looking

/-! ## §5  Errands -/

section Errands

variable {α : Type} {session : Nat} {errand : Errand} {s : Nat} {moved : Bool} {held : List Nat}

/-- From a stage on, an operation ends with hold of some sessions and nothing else in hand; where it
is given up, it has hold of others. -/
def Ends (session : Nat) (errand : Errand) (given held : List Nat) (g : Stage)
    (op : Operation α) : Prop :=
  ∀ c, op.run.Obeys (conduct session errand) (Stage.Has given) (fun _ => Stage.Has held) g c

theorem Ends.bind {β : Type} {given : List Nat} {g : Stage} {post : Except Error β → Stage}
    {first : Operation β} {k : β → Operation α}
    (hfirst : Passes (conduct session errand) (Stage.Has given) g post first)
    (herror : ∀ e, Stage.Has held (post (.error e)))
    (hk : ∀ b, Ends session errand given held (post (.ok b)) (k b)) :
    Ends session errand given held g (first >>= k) := by
  intro c
  refine obeys_bind (hfirst c) ?_ ?_
  · rintro e _ rfl
    exact herror e
  · rintro b _ c₁ rfl
    exact hk b c₁

theorem ends_pure {given : List Nat} {a : α} :
    Ends session errand given held (.free moved held) (pure a) :=
  fun _ => ⟨moved, rfl⟩

theorem ends_throw {given : List Nat} {e : Error} :
    Ends session errand given held (.free moved held) (throw e : Operation α) :=
  fun _ => ⟨moved, rfl⟩

/-- Whoever owes the server of a session word of it asks its client to tell it so. -/
theorem obeys_tell (c : Connections) :
    (call (c.session s).client (.sessionClose (c.session s).id)).run.Obeys (conduct session errand)
      (Stage.Has held) (fun _ g => g = .free false held) (.owing s held) c := by
  rw [call]
  cases hopen : c.clientIsOpen (c.session s).client with
  | false =>
      refine obeys_notice_bind ⟨s, held, rfl, rfl, hopen⟩ ?_
      rw [hopen]
      rfl
  | true =>
      refine obeys_get_bind ?_
      rw [if_pos hopen]
      exact ⟨_, ⟨false, held, rfl, .inr ⟨s, rfl, rfl⟩⟩, fun c₁ => ⟨_, .refl _ c₁, false, rfl⟩,
        fun reply c₁ => rfl⟩

/-- Closing a session that is held. -/
theorem passes_close (hs : s ∈ held) :
    Passes (conduct session errand) (Stage.Has held) (.free false held) (fun _ => .free false held)
      (Session.close s) := by
  let shut : Except Error Bool → Stage
    | .ok true => .owing s held
    | .ok false | .error _ => .free false held
  have hshut : Passes (conduct session errand) (Stage.Has held) (.free false held) shut
      (modifyGet (Connections.markClosed s)) := by
    refine passes_modifyGet fun c => .one ?_
    have hchange : Change session errand _ _ _ _ := .shut hs c
    cases hwas : (c.markClosed s).1 with
    | false => rwa [hwas] at hchange
    | true => rwa [hwas] at hchange
  refine hshut.bind (fun _ => rfl) fun wasOpen => ?_
  cases wasOpen with
  | false => exact passes_pure rfl
  | true =>
      intro c
      refine obeys_get_bind (obeys_bind (obeys_tell c) (fun _ _ hg => hg) ?_)
      rintro response _ c₁ rfl
      exact passes_expect (fun _ => rfl) c₁

theorem leads_release (c : Connections) :
    (conduct session errand).Leads (.free moved (s :: held)) c (.free moved held)
      (c.releaseSession s) :=
  .one (.release moved s held c)

/-- What is done over a session that is held lets go of it in the end, and where it is given up. -/
theorem ends_holding {g : Stage} {op : Operation α}
    (hop : Ends session errand (s :: held) (s :: held) g op) :
    Ends session errand held held g (holding s op) := by
  intro c
  have habandon : (onAbandon (·.releaseSession s) op).run.Obeys (conduct session errand)
      (Stage.Has held) (fun _ => Stage.Has (s :: held)) g c := by
    refine (hop c).onAbandon ?_
    rintro _ c₁ ⟨moved, rfl⟩
    exact ⟨_, leads_release c₁, moved, rfl⟩
  let ended : Except Error (Except Error α) → Stage → Prop
    | .ok _ => Stage.Has (s :: held)
    | .error _ => Stage.Has held
  have houtcome : (outcome (onAbandon (·.releaseSession s) op)).run.Obeys (conduct session errand)
      (Stage.Has held) ended g c :=
    habandon.bind fun _ _ _ hg => hg
  refine obeys_bind houtcome (fun _ _ hg => hg) ?_
  rintro result _ c₁ ⟨moved, rfl⟩
  have hend : Passes (conduct session errand) (Stage.Has held) (.free moved (s :: held))
      (fun _ => .free moved held)
      (modify (·.releaseSession s) >>= fun _ => ofOutcome result : Operation α) :=
    passes_modify_bind leads_release (passes_ofOutcome rfl)
  refine (hend c₁).mono (fun _ hg => hg) ?_
  rintro _ _ rfl
  exact ⟨moved, rfl⟩

/-- A call that moves closes the session that failed it, and has hold of the new one besides. -/
theorem passes_reopen (hroams : errand.roams = true) (hs : s ∈ held) :
    Passes (conduct session errand) (Stage.Has held) (.free false held)
      (arrival (fun fresh _ held => .free true (fresh :: held)) false held) (reopen session s) := by
  have hclose : Passes (conduct session errand) (Stage.Has held) (.free false held)
      (fun _ => .free false held) (outcome (Session.close s)) :=
    (passes_close hs).outcome fun _ => rfl
  refine hclose.bind (fun _ => rfl) fun _ => passes_get_bind fun c => ?_
  refine (lands_openAtReplica hroams false held).bind (fun _ => rfl) fun fresh => ?_
  exact passes_modify_bind (fun c => .one (.move hroams fresh held c)) (passes_pure rfl)

/-- A call has hold of the session in use from its first step on. -/
theorem ends_take {k : Nat → Operation α}
    (hk : ∀ s, Ends session errand [] [] (.free false [s]) (k s)) :
    Ends session errand [] [] (.free false []) (modifyGet (takeCurrent session) >>= k) := by
  let took (taken : Except Error Nat) : Stage := .free false taken.toOption.toList
  have htake : Passes (conduct session errand) (Stage.Has []) (.free false []) took
      (modifyGet (takeCurrent session)) :=
    passes_modifyGet fun c => .one (.take false [] c)
  exact Ends.bind htake (fun _ => ⟨false, rfl⟩) hk

/-- A call for a transaction has let go of every session in the end. -/
theorem ends_transaction (hroams : errand.roams = true) {transactionType : TransactionType}
    {options : Options} :
    Ends session errand [] [] (.free false [])
      (ClusterSession.transaction session transactionType options) := by
  refine ends_take fun stale => ends_holding ?_
  have hattempt (moved : Bool) (held : List Nat) (s : Nat) :
      Passes (conduct session errand) (Stage.Has held) (.free moved held)
        (fun _ => .free moved held) (Transaction.openOn s transactionType options) := by
    refine (idle_openOn moved held).congr ?_
    rintro (e | t) <;> rfl
  have hfirst : Passes (conduct session errand) (Stage.Has [stale]) (.free false [stale])
      (fun _ => .free false [stale]) (outcome (Transaction.openOn stale transactionType options)) :=
    (hattempt false [stale] stale).outcome fun _ => rfl
  refine Ends.bind hfirst (fun _ => ⟨false, rfl⟩) fun answer => ?_
  cases answer with
  | ok t => exact ends_pure
  | error e =>
      dsimp only
      split
      · -- The call has hold of both sessions until it is over.
        refine Ends.bind (passes_reopen hroams (List.mem_singleton_self stale))
          (fun _ => ⟨false, rfl⟩) fun fresh => ends_holding fun c => ?_
        refine (hattempt true [fresh, stale] fresh c).mono (fun _ hg => hg) ?_
        rintro _ _ rfl
        exact ⟨true, rfl⟩
      · exact ends_throw

/-- So has a call that closes the session in use. -/
theorem ends_close : Ends session errand [] [] (.free false []) (ClusterSession.close session) := by
  refine ends_take fun current => ends_holding fun c => ?_
  refine (passes_close (List.mem_singleton_self current) c).mono (fun _ hg => hg) ?_
  rintro _ _ rfl
  exact ⟨false, rfl⟩

/-- A pulse has hold of its session as long as it lasts. -/
theorem obeys_pulse {c : Connections} (hidle : (c.session s).pulsing = false) :
    (Session.pulse s).Obeys (conduct session (.pulse s)) (Stage.Has []) (fun _ => Stage.Has [])
      (.free false []) c := by
  refine Program.obeys_get_bind ?_
  dsimp only
  split
  · rename_i hopen
    refine Program.obeys_modify_bind (.one (.pulseStarts rfl hopen hidle false [])) ?_
    refine Program.Obeys.bind (idle_call (fun _ => rfl) false [] _) ?_
    intro answer g c₁ hg
    obtain rfl : g = .free false [] := by
      cases answer <;> exact hg
    refine Program.obeys_get_bind ?_
    split
    · rename_i hpulsing
      refine Program.obeys_modify_bind
        (.one (.pulseEnds rfl hpulsing (Session.isAlive answer) false [])) ?_
      exact Program.obeys_modify (leads_release _) ⟨false, rfl⟩
    · exact ⟨false, rfl⟩
  · exact ⟨false, rfl⟩

/-- **Every errand keeps to its conduct.** In the end it has let go of every session. -/
theorem errand_obeys (session : Nat) (errand : Errand) {c : Connections}
    (hidle : ∀ s, errand = .pulse s → (c.session s).pulsing = false) :
    (errand.program session).Obeys (conduct session errand) (Stage.Has []) (fun _ => Stage.Has [])
      (.free false []) c := by
  cases errand with
  | transaction transactionType options =>
      refine obeys_bind (ends_transaction rfl c) (fun _ _ hg => hg) ?_
      rintro t _ c₁ ⟨moved, rfl⟩
      exact ends_pure c₁
  | close =>
      refine obeys_bind (ends_close c) (fun _ _ hg => hg) ?_
      rintro u _ c₁ ⟨moved, rfl⟩
      exact ends_pure c₁
  | pulse s =>
      refine (obeys_pulse (hidle s rfl)).bind ?_
      rintro _ _ c₁ ⟨moved, rfl⟩
      exact ⟨moved, rfl⟩

end Errands

end ClusterSession

end GraphDriver
