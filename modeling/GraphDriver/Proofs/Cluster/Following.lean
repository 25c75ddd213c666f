import GraphDriver.Proofs.Cluster.Discovery

/-!
# Following the primary replica

A task that needs the primary replica of a database is run at the replica that leads according to
what is remembered. An outcome that says that this replica is not the primary any more, or is not
there, sends the task on: the primary replica is searched for, after a pause if nobody was there,
and the task runs at the one that was found. Every other outcome is the end. A run and the search
after it are one turn; the turns are as many as the configuration allows.

* §1 turns
* §2 trails of turns
* §3 from the first turn to the last
-/

namespace GraphDriver.Cluster

open Operation (Runs outcome ofOutcome pause)

variable {α : Type} {k : Nat} {members : List String} {config : FailoverConfig} {database : String}
  {known : Option DatabaseReplicas} {c c' : Connections} {log : List Event}
  {task : Nat → Bool → Operation α} {result : Except Error α}

/-! ## §1  Turns -/

/-- Whether an outcome sends a task on to another replica. -/
def sendsOn : Except Error α → Bool
  | .error e => e.isReplicaFailure
  | .ok _ => false

/-- That nobody is there sends a task on. -/
theorem isUnreachable_eq_false {outcome : Except Error α} (h : sendsOn outcome = false) :
    isUnreachable outcome = false := by
  rcases outcome with (e | a)
  · cases e <;> first | rfl | cases h
  · rfl

/-- A run of a task at a replica, and the search that came after it. -/
structure Turn (α : Type) where
  replica : ReplicaInfo
  client : Nat
  /-- Whether the task was told that it runs for the first time. -/
  first : Bool
  before : Connections
  log : List Event
  outcome : Except Error α
  after : Connections
  /-- The fetches of the search for the replica of the next turn. -/
  next : List Fetch

/-- The waits of a turn: those of the task, a pause if nobody was there, those of the search. -/
def Turn.events (wait : Nat) (t : Turn α) : List Event :=
  t.log ++ (if isUnreachable t.outcome then [⟨.pause wait, ()⟩] else []) ++
    searchLog wait true t.next

/-- How a task that ran some times goes on after a search: with the error of the search, with the
replica that was found, or not at all if it has run as often as it may. -/
def GoesOn (limit ran : Nat) (found : Except Error ReplicaInfo) (later : List (Turn α))
    (result : Except Error α) : Prop :=
  match found with
  | .error e => later = [] ∧ result = .error e
  | .ok p =>
    if ran < limit then later.head?.map (·.replica) = some p
    else later = [] ∧ result = .error .clusterUnavailable

/-- A turn among those before it and those after it. -/
structure Turn.Fits (k : Nat) (database : String) (task : Nat → Bool → Operation α)
    (members : List String) (config : FailoverConfig) (limit : Nat) (first : Bool)
    (known : Option DatabaseReplicas) (earlier : List (Turn α)) (t : Turn α)
    (later : List (Turn α)) (result : Except Error α) : Prop where
  /-- The task was run with a client for the address of the replica. -/
  ran : Runs (Undisturbed k) (task t.client t.first) t.before t.log t.outcome t.after
  serves : Serves t.before t.replica.address t.client
  /-- The replica leads those that were last reported, and these are what the cluster remembers. -/
  led : ∃ d, remembered known (earlier.flatMap (·.next)) = some d ∧
    (t.before.cluster k).replicas.get? database = some d ∧ d.IsLedBy t.replica
  /-- Only the first turn is told to be the first. -/
  first_eq : t.first = (first && earlier.isEmpty)
  /-- An outcome that does not send the task on is the result, and nothing happens after it. -/
  settled : sendsOn t.outcome = false → t.next = [] ∧ later = [] ∧ result = t.outcome
  /-- One that does is followed by a search, and then it goes on as the search says. -/
  sent : sendsOn t.outcome = true → ∃ found,
    IsSearch database members config.fetchReplicasMaxRetries.toNat t.next found ∧
      GoesOn limit (earlier.length + 1) found later result

/-! ## §2  Trails of turns -/

/-- The turns of a task from a replica on, up to its result. -/
structure IsTrail (k : Nat) (database : String) (task : Nat → Bool → Operation α)
    (members : List String) (config : FailoverConfig) (limit : Nat) (first : Bool)
    (known : Option DatabaseReplicas) (p : ReplicaInfo) (turns : List (Turn α))
    (result : Except Error α) : Prop where
  begins : GoesOn limit 0 (.ok p) turns result
  bounded : turns.length ≤ limit
  fits : ∀ earlier t later, turns = earlier ++ t :: later →
    t.Fits k database task members config limit first known earlier later result

theorem remembered_append {fetches later : List Fetch} :
    remembered known (fetches ++ later) = remembered (remembered known fetches) later :=
  List.foldl_append

theorem goesOn_succ {limit ran : Nat} {found : Except Error ReplicaInfo} {later : List (Turn α)} :
    GoesOn (limit + 1) (ran + 1) found later result ↔ GoesOn limit ran found later result := by
  unfold GoesOn
  simp only [Nat.add_lt_add_iff_right]

namespace IsTrail

variable {limit : Nat} {first : Bool} {p : ReplicaInfo} {t : Turn α} {turns : List (Turn α)}

theorem spent :
    IsTrail k database task members config 0 first known p [] (.error .clusterUnavailable) where
  begins := ⟨rfl, rfl⟩
  bounded := Nat.le_refl 0
  fits earlier t later h := by simp at h

/-- The last turn of a trail. -/
theorem last (hp : t.replica = p)
    (hfits : t.Fits k database task members config (limit + 1) first known [] [] result) :
    IsTrail k database task members config (limit + 1) first known p [t] result where
  begins := congrArg some hp
  bounded := Nat.succ_le_succ (Nat.zero_le limit)
  fits earlier t' later h := by
    obtain ⟨rfl, rfl, rfl⟩ : earlier = [] ∧ t' = t ∧ later = [] := by
      cases earlier with
      | nil => simpa [eq_comm] using h
      | cons u rest => simp at h
    exact hfits

/-- A turn before those of a trail. -/
theorem more {q : ReplicaInfo} (hp : t.replica = p)
    (h : IsTrail k database task members config limit false (remembered known t.next) q turns
      result)
    (hfits : GoesOn (limit + 1) 1 (.ok q) turns result →
      t.Fits k database task members config (limit + 1) first known [] turns result) :
    IsTrail k database task members config (limit + 1) first known p (t :: turns) result where
  begins := congrArg some hp
  bounded := Nat.succ_le_succ h.bounded
  fits earlier t' later heq := by
    cases earlier with
    | nil =>
        cases heq
        exact hfits (goesOn_succ.mpr h.begins)
    | cons u earlier =>
        cases heq
        have hold := h.fits earlier t' later rfl
        refine { hold with led := ?_, first_eq := ?_, sent := ?_ }
        · rw [List.flatMap_cons, remembered_append]
          exact hold.led
        · simpa using hold.first_eq
        · intro hsends
          obtain ⟨found, hsearch, hgo⟩ := hold.sent hsends
          exact ⟨found, hsearch, goesOn_succ.mpr hgo⟩

end IsTrail

/-! ## §3  From the first turn to the last -/

/-- A task that leaves a cluster alone if others do. -/
def LeavesAlone (k : Nat) (task : Nat → Bool → Operation α) : Prop :=
  ∀ client first c log outcome c', Runs (Undisturbed k) (task client first) c log outcome c' →
    Undisturbed k c c'

/-- What comes between an outcome that sends the task on and its next run. -/
def seekNext (k : Nat) (database : String) (outcome : Except Error α) : Operation ReplicaInfo := do
  pauseBefore k (!isUnreachable outcome)
  seekPrimary k database

theorem followPrimary_succ {runs : Nat} {first : Bool} {p : ReplicaInfo} :
    followPrimary k database task (runs + 1) first p =
      clientAt k p.address >>= fun client => outcome (task client first) >>= fun answer =>
        if sendsOn answer then
          seekNext k database answer >>= fun next =>
            followPrimary k database task runs false next
        else ofOutcome answer := by
  rw [followPrimary]
  refine try_congr fun answer => ?_
  rcases answer with (e | a)
  · cases e <;> rfl
  · rfl

/-- A run of the task with a client for the replica that leads is a turn, if what comes after it is
as the outcome says. -/
theorem Stands.turned (hquiet : LeavesAlone k task)
    (hstands : Stands k members config database known c) {p : ReplicaInfo}
    (hp : ∃ d, known = some d ∧ d.primary = some p) {client : Nat} {first : Bool}
    {c₁ c₂ : Connections} {outcome : Except Error α}
    (hclient : Runs (Undisturbed k) (clientAt k p.address) c [] (.ok client) c₁)
    (hrun : Runs (Undisturbed k) (task client first) c₁ log outcome c₂) :
    Stands k members config database known c₂ ∧
      ∀ limit next later result,
        (sendsOn outcome = false → next = [] ∧ later = [] ∧ result = outcome) →
        (sendsOn outcome = true → ∃ found,
          IsSearch database members config.fetchReplicasMaxRetries.toNat next found ∧
            GoesOn limit 1 found later result) →
        Turn.Fits k database task members config limit first known []
          ⟨p, client, first, c₁, log, outcome, c₂, next⟩ later result := by
  obtain ⟨hbefore, hserves⟩ := hstands.at_client hclient
  obtain ⟨d, hd, hprimary⟩ := hp
  refine ⟨hbefore.of_undisturbed (hquiet _ _ _ _ _ _ hrun), ?_⟩
  intro limit next later result settled sent
  refine { ran := hrun, serves := hserves, led := ?_, first_eq := ?_, settled, sent }
  · exact ⟨d, hd, hbefore.known_eq.trans hd, DatabaseReplicas.isLedBy_of_primary hprimary⟩
  · simp

/-- The search for the next replica, and the pause before it. -/
theorem Stands.sought (hstands : Stands k members config database known c)
    {outcome : Except Error α} {found : Except Error ReplicaInfo}
    (h : Runs (Undisturbed k) (seekNext k database outcome) c log found c') :
    ∃ made, IsSearch database members config.fetchReplicasMaxRetries.toNat made found ∧
      log = (if isUnreachable outcome then
          [⟨.pause config.waitForPrimarySelection.millis, ()⟩] else []) ++
        searchLog config.waitForPrimarySelection.millis true made ∧
      Stands k members config database (remembered known made) c' := by
  rcases Operation.runs_bind.mp h with ⟨e, hpause, -⟩ | ⟨_, c₁, _, _, hpause, hseek, rfl⟩
  · cases (hstands.paused hpause).1
  · obtain ⟨-, rfl, hready⟩ := hstands.paused hpause
    obtain ⟨made, hsearch, rfl, hend⟩ := hready.searched hseek
    refine ⟨made, hsearch, ?_, hend⟩
    cases isUnreachable outcome <;> rfl

/-- The runs of a task from a replica on are a trail, if that replica leads according to what is
remembered. -/
theorem Stands.followed (hquiet : LeavesAlone k task)
    (hstands : Stands k members config database known c) {limit : Nat} {first : Bool}
    {p : ReplicaInfo} (hp : ∃ d, known = some d ∧ d.primary = some p)
    (h : Runs (Undisturbed k) (followPrimary k database task limit first p) c log result c') :
    ∃ turns, IsTrail k database task members config limit first known p turns result ∧
      log = turns.flatMap (·.events config.waitForPrimarySelection.millis) ∧
      Stands k members config database (remembered known (turns.flatMap (·.next))) c' := by
  -- on the runs that are left: each search hands on a replica that leads what it remembered
  induction limit generalizing known c log first p with
  | zero =>
      obtain ⟨rfl, rfl, rfl⟩ := Operation.runs_throw.mp h
      exact ⟨[], .spent, rfl, hstands⟩
  | succ limit ih =>
      rw [followPrimary_succ, runs_try] at h
      obtain ⟨client, c₁, front, outcome, c₂, later, hclient, hrun, hgo, rfl⟩ := h
      obtain ⟨hafter, hfits⟩ := hstands.turned hquiet hp hclient hrun
      split at hgo
      · rename_i hsends
        rcases Operation.runs_bind.mp hgo with
          ⟨e, hseek, rfl⟩ | ⟨q, c₃, _, rest, hseek, hmore, rfl⟩
        · obtain ⟨made, hsearch, rfl, hend⟩ := hafter.sought hseek
          refine ⟨[⟨p, client, first, c₁, front, outcome, c₂, made⟩], .last rfl ?_, ?_, ?_⟩
          · exact hfits _ _ _ _ (by simp [hsends]) fun _ => ⟨.error e, hsearch, rfl, rfl⟩
          · simp [Turn.events]
          · simpa using hend
        · obtain ⟨made, hsearch, rfl, hnext⟩ := hafter.sought hseek
          obtain ⟨turns, htrail, rfl, hend⟩ := ih hnext hsearch.primary_remembered hmore
          refine ⟨⟨p, client, first, c₁, front, outcome, c₂, made⟩ :: turns,
            .more rfl htrail fun hgoes => ?_, ?_, ?_⟩
          · exact hfits _ _ _ _ (by simp [hsends]) fun _ => ⟨.ok q, hsearch, hgoes⟩
          · simp [Turn.events]
          · simpa [remembered_append] using hend
      · rename_i hstays
        obtain ⟨rfl, rfl, rfl⟩ := Operation.runs_ofOutcome.mp hgo
        have hthere := isUnreachable_eq_false (Bool.eq_false_iff.mpr hstays)
        refine ⟨[⟨p, client, first, c₁, front, result, c', []⟩], .last rfl ?_, ?_, hafter⟩
        · exact hfits _ _ _ _ (fun _ => ⟨rfl, rfl, rfl⟩) fun h => absurd h hstays
        · simp [Turn.events, searchLog, hthere]

/-- What becomes of a task on the primary replica of a database, from the state in which it starts
to the one in which it ends: the search that comes before it, if there is one, and its turns. -/
structure Follows (k : Nat) (database : String) (task : Nat → Bool → Operation α)
    (c c' : Connections) (opening : List Fetch) (turns : List (Turn α)) (log : List Event)
    (result : Except Error α) : Prop where
  /-- There are no other waits than those of the search and of the turns. -/
  log_eq : log =
    searchLog (c.cluster k).config.waitForPrimarySelection.millis true opening ++
      turns.flatMap (·.events (c.cluster k).config.waitForPrimarySelection.millis)
  /-- The task starts with the replica that leads according to what is remembered; if none does,
  with one that is searched for. -/
  opens :
    match ((c.cluster k).replicas.get? database).bind (·.primary) with
    | some p =>
      opening = [] ∧ GoesOn (c.cluster k).config.primaryTaskMaxRetries.toNat 0 (.ok p) turns result
    | none => ∃ found,
      IsSearch database (c.cluster k).members
          (c.cluster k).config.fetchReplicasMaxRetries.toNat opening found ∧
        GoesOn (c.cluster k).config.primaryTaskMaxRetries.toNat 0 found turns result
  /-- The task runs no more often than the configuration allows. -/
  bounded : turns.length ≤ (c.cluster k).config.primaryTaskMaxRetries.toNat
  /-- Every turn fits among those before it and those after it. -/
  fits : ∀ earlier t later, turns = earlier ++ t :: later →
    t.Fits k database task (c.cluster k).members (c.cluster k).config
      (c.cluster k).config.primaryTaskMaxRetries.toNat true
      (remembered ((c.cluster k).replicas.get? database) opening) earlier later result
  /-- What was reported last stays remembered. -/
  kept : (c'.cluster k).replicas.get? database =
    remembered ((c.cluster k).replicas.get? database) (opening ++ turns.flatMap (·.next))

/-- A cluster that is open stands as it is. -/
theorem IsKept.stands (hkept : IsKept k c) (hopen : (c.cluster k).isOpen = true)
    (database : String) :
    Stands k (c.cluster k).members (c.cluster k).config database
      ((c.cluster k).replicas.get? database) c :=
  ⟨hkept, hopen, rfl, rfl, rfl⟩

/-- The replica with which a task starts. -/
def openingReplica (k : Nat) (database : String) : Operation ReplicaInfo := do
  match (← cachedReplicas k database).bind (·.primary) with
  | some primary => return primary
  | none => seekPrimary k database

theorem runPrimary_eq :
    runPrimary k database task =
      ensureOpen k >>= fun _ => openingReplica k database >>= fun p => get >>= fun c =>
        followPrimary k database task (c.cluster k).config.primaryTaskMaxRetries.toNat true p := by
  rw [runPrimary, openingReplica]
  simp only [bind_assoc]
  refine congrArg (ensureOpen k >>= ·) (funext fun _ => ?_)
  refine congrArg (cachedReplicas k database >>= ·) (funext fun cached => ?_)
  generalize cached.bind (·.primary) = primary
  cases primary <;> rfl

theorem Stands.opened (hstands : Stands k members config database known c)
    {found : Except Error ReplicaInfo}
    (h : Runs (Undisturbed k) (openingReplica k database) c log found c') :
    ∃ opening, log = searchLog config.waitForPrimarySelection.millis true opening ∧
      Stands k members config database (remembered known opening) c' ∧
      match known.bind (·.primary) with
      | some p => opening = [] ∧ found = .ok p
      | none => IsSearch database members config.fetchReplicasMaxRetries.toNat opening found := by
  rw [openingReplica, cachedReplicas, bind_assoc, Operation.runs_get_bind, pure_bind,
    hstands.known_eq] at h
  split at h
  · obtain ⟨rfl, rfl, rfl⟩ := Operation.runs_pure.mp h
    exact ⟨[], rfl, hstands, rfl, rfl⟩
  · obtain ⟨opening, hsearch, rfl, hend⟩ := hstands.searched h
    exact ⟨opening, rfl, hend, hsearch⟩

/-- What every run of a task on the primary replica of an open cluster comes to. -/
theorem IsKept.follows (hkept : IsKept k c) (hopen : (c.cluster k).isOpen = true)
    (hquiet : LeavesAlone k task)
    (h : Runs (Undisturbed k) (runPrimary k database task) c log result c') :
    ∃ opening turns, Follows k database task c c' opening turns log result := by
  have hstands := hkept.stands hopen database
  rw [runPrimary_eq, runs_ensureOpen_bind, if_pos hopen] at h
  rcases Operation.runs_bind.mp h with ⟨e, hopening, rfl⟩ | ⟨p, c₁, _, rest, hopening, hrun, rfl⟩
  · obtain ⟨opening, rfl, hend, hfound⟩ := hstands.opened hopening
    refine ⟨opening, [], by simp, ?_, Nat.zero_le _, by simp, by simpa using hend.known_eq⟩
    split at hfound
    · cases hfound.2
    · exact ⟨_, hfound, rfl, rfl⟩
  · obtain ⟨opening, rfl, hready, hfound⟩ := hstands.opened hopening
    rw [Operation.runs_get_bind, hready.config_eq] at hrun
    have hp : ∃ d, remembered ((c.cluster k).replicas.get? database) opening = some d ∧
        d.primary = some p := by
      split at hfound
      · rename_i q hq
        obtain ⟨rfl, heq⟩ := hfound
        cases heq
        exact Option.bind_eq_some_iff.mp hq
      · exact hfound.primary_remembered
    obtain ⟨turns, htrail, rfl, hend⟩ := hready.followed hquiet hp hrun
    refine ⟨opening, turns, rfl, ?_, htrail.bounded, htrail.fits, ?_⟩
    · split at hfound
      · obtain ⟨rfl, heq⟩ := hfound
        cases heq
        exact ⟨rfl, htrail.begins⟩
      · exact ⟨.ok p, hfound, htrail.begins⟩
    · rw [remembered_append]
      exact hend.known_eq

/-- **A task on the primary replica follows it within its bounds.** However the waits of the task
and of the searches are answered, the task comes to an end. If the cluster is closed, it was not
even started. Otherwise it ran turn by turn: each turn with a client for the replica that leads
according to the last report, and only the first one told to be the first. The first outcome that
does not send the task on is the result, and after it nothing is run, asked or waited for. One that
does is followed by a search, with a pause before it exactly if nobody was there; if the search
fails its error is the result at once, and if the task has run as often as it may the cluster is
unavailable. A search asks the members in their order, makes as many fetches as it may until one
fails or tells of a primary replica, and pauses between them; a fetch that fails leaves what is
remembered as it is. -/
theorem primary_is_followed (hkept : (c.cluster k).isOpen = true → IsKept k c)
    (hquiet : LeavesAlone k task) (database : String) :
    (∀ answer, ∃ log result c',
      Runs (Undisturbed k) (runPrimary k database task) c log result c' ∧
        IsAnswered answer 0 log) ∧
    ∀ log result c', Runs (Undisturbed k) (runPrimary k database task) c log result c' →
      if (c.cluster k).isOpen then
        ∃ opening turns, Follows k database task c c' opening turns log result
      else log = [] ∧ result = .error .clientClosed ∧ c' = c := by
  refine ⟨fun answer => Operation.exists_run (Undisturbed.refl k) _ answer c, ?_⟩
  intro log result c' h
  split
  · rename_i hopen
    exact (hkept hopen).follows hopen hquiet h
  · rename_i hshut
    rwa [runPrimary_eq, runs_ensureOpen_bind, if_neg hshut] at h

/-! A cluster of two members. The first cannot be reached. The second tells that the first is the
primary replica, and once the task found nobody there, that it is itself. -/

/-- Work of the application. -/
def working (client : Nat) (first : Bool) : Operation String :=
  ExceptT.mk (Program.perform (.work client first))

def divided : Connections :=
  { hubs := [{ hub := { transmitter := .new {} } }]
    clusters := [{ members := ["a", "b"], clients := .empty, hub := 0, config := {} }] }

def election : Nat → (e : Effect) → e.Reply
  | 0, .call _ _ | 4, .call _ _ => .error (.unreachable "a")
  | 1, .call _ _ => .ok (.replicas [⟨"a", "db", 1, true, false⟩, ⟨"b", "db", 0, false, true⟩])
  | _, .call _ _ => .ok (.replicas [⟨"a", "db", 1, true, false⟩, ⟨"b", "db", 2, true, false⟩])
  | 2, .work _ _ => .error (.unreachable "a")
  | _, .work _ _ => .ok "done"
  | _, .dial _ _ _ => .ok ()
  | _, .pause _ => ()
  | _, .receive _ _ => default

theorem leavesAlone_working : LeavesAlone k working := by
  intro client first c log outcome c' h
  exact (Program.runs_perform.mp h).1

theorem primary_is_followed_elected :
    let run := (runPrimary 0 "db" working).replay election divided
    run.1.map (·.effect) =
        [.call "a" (.databaseReplicas "db"), .call "b" (.databaseReplicas "db"), .work 0 true,
          .pause 2000, .call "a" (.databaseReplicas "db"), .call "b" (.databaseReplicas "db"),
          .work 1 false] ∧
      run.2.1 = .ok "done" ∧
      ∃ opening turns, Follows 0 "db" working divided run.2.2 opening turns run.1 run.2.1 := by
  have hkept : IsKept 0 divided := ⟨by decide, rfl, fun _ _ h => by cases h⟩
  refine ⟨by decide +kernel, by decide +kernel, ?_⟩
  exact (primary_is_followed (fun _ => hkept) leavesAlone_working "db").2 _ _ _
    (Operation.runs_replay (Undisturbed.refl 0) _ election divided)

end GraphDriver.Cluster
