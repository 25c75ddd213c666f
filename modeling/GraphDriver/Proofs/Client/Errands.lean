import GraphDriver.Proofs.Cluster.Reopening
import GraphDriver.Proofs.Cluster.Traffic

/-!
# Errands over a session

What is asked of a session, and what goes on with it by itself: calls for transactions, the call
that closes it, its pulse, the farewell that its last holder leaves behind, and the handles that come
and go. An errand goes on as far as it can whenever it begins or learns what it has waited for. What
that makes of the session, and what the server is told of it, is one of a few things.

* §1 errands
* §2 what leaves a session alone
* §3 errands that begin
* §4 one turn
-/

namespace GraphDriver

/-! ## §1  Errands -/

namespace Connections

/-- The farewell of a session. -/
def farewellOf (c : Connections) (s : Nat) : Farewell :=
  { client := (c.session s).client, session := (c.session s).id }

/-- Takes one farewell of those that are to be said, if it is among them. -/
def takeFarewell (f : Farewell) (c : Connections) : Bool × Connections :=
  if f ∈ c.farewells then (true, { c with farewells := c.farewells.erase f }) else (false, c)

end Connections

/-- How many handles of a session there are. Its pulse holds it besides. -/
def Session.handles (x : Session) : Nat := if x.pulsing then x.holders - 1 else x.holders

/-- Whether what is learned is a sign of life. -/
def Effect.showsLife : (e : Effect) → e.Reply → Bool
  | .call _ _, reply => Session.isAlive reply
  | .dial _ _ _, _ | .pause _, _ | .receive _ _, _ | .work _ _, _ => false

/-- Whether an effect is a pulse of a session. -/
def Effect.isPulse : Effect → Bool
  | .call _ (.sessionPulse _) => true
  | _ => false

namespace Lifecycle

open Operation

/-- What is asked of a session, and what goes on with it by itself. -/
inductive Errand where
  | transaction (transactionType : TransactionType) (options : Options)
  | close
  | pulse
  /-- The farewell of the session is said, if it is to be said. -/
  | farewell
  /-- There is one more handle of the session. -/
  | share
  /-- There is one handle less. -/
  | drop
deriving DecidableEq

/-- What a call over a session comes to: a transaction, or nothing. -/
abbrev Outcome := Except Error (Option Transaction)

def Errand.program (s : Nat) : Errand → Program Outcome
  | .transaction transactionType options =>
    (Transaction.openOn s transactionType options >>= fun t => pure (some t)).run
  | .close => (Session.close s >>= fun _ => pure none).run
  | .pulse => (Session.pulse s).bind fun _ => .done (.ok none)
  | .farewell => do
    let f := (← get).farewellOf s
    if ← modifyGet (Connections.takeFarewell f) then Session.sayFarewell f
    return .ok none
  | .share => do
    modify (·.retainSession s)
    return .ok none
  | .drop => do
    modify (·.releaseSession s)
    return .ok none

/-! ## §2  What leaves a session alone -/

/-- A session is as it was, and so is what is to be said of it. -/
structure Beside (s : Nat) (c c' : Connections) : Prop where
  known : c.sessions.length ≤ c'.sessions.length
  session : c'.session s = c.session s
  farewells : c'.farewells.count (c.farewellOf s) = c.farewells.count (c.farewellOf s)

section Leaving

variable {s : Nat} {c c₁ c' : Connections}

theorem Beside.farewellOf (h : Beside s c c') : c'.farewellOf s = c.farewellOf s := by
  rw [Connections.farewellOf, h.session, Connections.farewellOf]

theorem Beside.refl (s : Nat) (c : Connections) : Beside s c c := ⟨Nat.le_refl _, rfl, rfl⟩

theorem Beside.trans (h : Beside s c c₁) (h' : Beside s c₁ c') : Beside s c c' where
  known := Nat.le_trans h.known h'.known
  session := h'.session.trans h.session
  farewells := by
    have hcount := h'.farewells
    rw [h.farewellOf] at hcount
    exact hcount.trans h.farewells

theorem beside_of_calm (h : ClusterSession.Calm c c') : Beside s c c' where
  known := h.sessions ▸ Nat.le_refl _
  session := by rw [Connections.session, h.sessions, Connections.session]
  farewells := by rw [h.farewells]

/-- Closing a client leaves every session alone. -/
theorem beside_closeClient (s i : Nat) (c : Connections) : Beside s c (c.closeClient i) := by
  refine beside_of_calm ?_
  unfold Connections.closeClient
  dsimp only
  split
  · split <;> exact ⟨rfl, rfl, rfl⟩
  · exact ⟨rfl, rfl, rfl⟩

/-- A call that leaves the session alone, and waits for no answer to a request of its own. -/
def aside (s : Nat) : Conduct Unit where
  change _ c _ c' := Beside s c c'
  notice _ _ _ := False
  wait _ _ e _ := e.asks? = none

/-- An operation that leaves the session alone, in every state. -/
abbrev Spares {α : Type} (s : Nat) (op : Operation α) : Prop :=
  Passes (aside s) (fun _ => True) () (fun _ => ()) op

theorem leads_calm (h : ClusterSession.Calm c c') : (aside s).Leads () c () c' :=
  .one (beside_of_calm h)

theorem path_beside {seen : Connections → Prop} {g g' : Unit}
    (h : (aside s).Path seen g c g' c') : Beside s c c' := by
  induction h with
  | refl g c => exact .refl s c
  | change h later ih => exact Beside.trans h ih
  | notice h hseen later ih => exact h.elim

variable {α β : Type} {op : Operation α}

theorem Spares.bind {k : α → Operation β} (hop : Spares s op) (hk : ∀ a, Spares s (k a)) :
    Spares s (op >>= k) :=
  Passes.bind hop (fun _ => rfl) hk

theorem Spares.outcome (hop : Spares s op) : Spares s (outcome op) :=
  Passes.outcome hop fun _ => rfl

theorem Spares.onAbandon {cleanup : Connections → Connections} (hop : Spares s op)
    (hcleanup : ∀ c, ClusterSession.Calm c (cleanup c)) : Spares s (onAbandon cleanup op) :=
  Passes.onAbandon hop fun _ c _ => ⟨(), leads_calm (hcleanup c), trivial⟩

theorem spares_modifyGet {f : Connections → α × Connections}
    (hf : ∀ c, ClusterSession.Calm c (f c).2) : Spares s (modifyGet f) :=
  passes_modifyGet fun c => leads_calm (hf c)

theorem spares_modify {f : Connections → Connections} (hf : ∀ c, ClusterSession.Calm c (f c)) :
    Spares s (modify f : Operation Unit) :=
  spares_modifyGet hf

theorem spares_ofOutcome {outcome : Except Error α} : Spares s (ofOutcome outcome) :=
  passes_ofOutcome rfl

theorem spares_dial {address : String} {hub dispatcher : Nat} :
    Spares s (ExceptT.mk (Program.perform (.dial address hub dispatcher))) :=
  fun _ => ⟨(), rfl, fun c₁ => ⟨(), .refl () c₁, trivial⟩, fun _ _ => rfl⟩

theorem spares_openStream {hub : Nat} {address : String} :
    Spares s (Transaction.openStream hub address) := by
  refine Spares.bind (spares_modifyGet (ClusterSession.calm_onHub hub _)) fun reserved => ?_
  refine Spares.bind spares_ofOutcome fun dispatcher => ?_
  refine Spares.bind (spares_dial.onAbandon (ClusterSession.calm_modifyHub hub _)).outcome
    fun dialled => ?_
  cases dialled with
  | ok u => exact spares_modifyGet (ClusterSession.calm_onHub hub _)
  | error e =>
      exact Spares.bind (spares_modify (ClusterSession.calm_modifyHub hub _))
        fun _ => passes_throw rfl

theorem spares_ask {t : Transaction} {payload : RequestPayload} {batched : Bool} :
    Spares s (Transaction.ask t payload batched) := by
  refine passes_get_bind fun c => ?_
  refine Spares.bind (spares_modifyGet (ClusterSession.calm_onHub t.hub _)) fun sent => ?_
  refine Spares.bind spares_ofOutcome fun call => ?_
  exact Spares.bind (passes_perform (fun _ => rfl) trivial) fun _ => spares_ofOutcome

/-- Opening a transaction leaves the session alone. -/
theorem spares_openOn {transactionType : TransactionType} {options : Options} :
    Spares s (Transaction.openOn s transactionType options) := by
  refine passes_get_bind fun c => ?_
  dsimp only
  split
  · split
    · refine Spares.bind spares_openStream fun stream => ?_
      refine Spares.bind (Spares.outcome (Spares.bind
        (spares_ask.onAbandon (ClusterSession.calm_modifyHub _ _))
        fun _ => passes_expect fun _ => rfl)) fun opened => ?_
      cases opened with
      | ok u => exact passes_pure rfl
      | error e =>
          exact Spares.bind (spares_modify (ClusterSession.calm_modifyHub _ _))
            fun _ => passes_throw rfl
    · exact passes_throw_bind rfl
  · exact passes_throw_bind rfl

end Leaving

/-! ## §3  Errands that begin -/

/-- A pulse that is under way ends with an answer. -/
def pulseEnds (s : Nat) (alive : Bool) (c : Connections) : Connections :=
  if (c.session s).pulsing then (c.modifySession s (Session.endPulse alive)).releaseSession s else c

/-- A pulse begins. -/
def pulseStarts (s : Nat) (c : Connections) : Connections :=
  (c.modifySession s Session.startPulse).retainSession s

/-- What a call does from where it stands: one for a transaction leaves the session alone, a pulse
ends, and the others are over and have nothing more to do with the session. -/
def Stands (s : Nat) : Errand × Standing Outcome → Prop
  | (.transaction .., standing) =>
    standing.Obeys (aside s) (fun _ => True) (fun _ _ => True) ()
  | (.pulse, .waiting e _ next) => ∀ reply c,
    (next reply).advance c = (.ended (.ok none), pulseEnds s (e.showsLife reply) c)
  | (_, .waiting _ abandoned next) => (∀ c, Beside s c (abandoned c)) ∧ ∀ reply c,
    ∃ result c', (next reply).advance c = (.ended result, c') ∧ Beside s c c'
  | (_, .ended _) | (_, .givenUp) => True

section Beginning

variable {s : Nat} {c : Connections}

theorem session_pulseStarts (hs : s < c.sessions.length) :
    (pulseStarts s c).session s =
      { (c.session s).startPulse with holders := (c.session s).startPulse.holders + 1 } :=
  (Connections.alters_startPulse hs).self

/-- Asking a server: a client that is closed asks nobody. -/
theorem advance_ask {α : Type} {i : Nat} {request : UnaryRequest}
    {k : Except Error UnaryResponse → Program α} :
    ((call i request).run.bind k).advance c =
      if c.clientIsOpen i then (.waiting (.call (c.client i).address request) id k, c)
      else (k (.error .clientClosed)).advance c := by
  show ((if c.clientIsOpen i then _ else _ : Operation UnaryResponse).run.bind k).advance c = _
  split <;> rfl

theorem advance_ask_bind {α : Type} {i : Nat} {request : UnaryRequest}
    {k : UnaryResponse → Operation α} :
    (call i request >>= k).run.advance c =
      if c.clientIsOpen i then
        (.waiting (.call (c.client i).address request) id (ExceptT.bindCont k), c)
      else (.ended (.error .clientClosed), c) :=
  advance_ask

theorem begins_close (hs : s < c.sessions.length) :
    ∃ standing, (Errand.close.program s).advance c = (standing, (c.markClosed s).2) ∧
      Stands s (.close, standing) ∧
      standing.effect? = if (c.session s).isOpen && c.clientIsOpen (c.session s).client
        then some (ClusterSession.closing c s) else none := by
  rw [Errand.program, Session.close, bind_assoc, advance_modifyGet_bind]
  cases hopen : (c.session s).isOpen with
  | false =>
      rw [Connections.markClosed_of_closed hopen]
      exact ⟨_, rfl, trivial, rfl⟩
  | true =>
      have hself := (Connections.alters_modifySession hs Session.shut).self
      have hclient : (c.modifySession s Session.shut).clientIsOpen (c.session s).shut.client =
          c.clientIsOpen (c.session s).client := rfl
      rw [Connections.markClosed_of_open hopen, if_pos rfl, bind_assoc, advance_get_bind, hself,
        bind_assoc, advance_ask_bind, hclient]
      cases hthere : c.clientIsOpen (c.session s).client with
      | false => exact ⟨_, rfl, trivial, rfl⟩
      | true =>
          refine ⟨_, rfl, ⟨fun c => .refl s c, fun reply c => ?_⟩, rfl⟩
          cases reply with
          | error e => exact ⟨_, _, rfl, .refl s c⟩
          | ok response => cases response <;> exact ⟨_, _, rfl, .refl s c⟩

theorem begins_pulse :
    ∃ standing, (Errand.pulse.program s).advance c =
        (standing, if (c.session s).isOpen then
          if c.clientIsOpen (c.session s).client then pulseStarts s c
          else pulseEnds s false (pulseStarts s c)
        else c) ∧
      Stands s (.pulse, standing) ∧
      standing.effect? = if (c.session s).isOpen && c.clientIsOpen (c.session s).client
        then some (.call (c.client (c.session s).client).address (.sessionPulse (c.session s).id))
        else none := by
  -- what the pulse does with an answer, and with none: it may have been called off meanwhile
  let hear (answer : Except Error UnaryResponse) : Program Unit := do
    if ((← get).session s).pulsing then
      modify (·.modifySession s (Session.endPulse (Session.isAlive answer)))
      modify (·.releaseSession s)
  have hhear (answer : Except Error UnaryResponse) (c : Connections) :
      ((hear answer).bind fun _ => .done (.ok none : Outcome)).advance c =
        (.ended (.ok none), pulseEnds s (Session.isAlive answer) c) := by
    have hgo : ((hear answer).bind fun _ => .done (.ok none : Outcome)).advance c =
        ((if (c.session s).pulsing then do
            modify (·.modifySession s (Session.endPulse (Session.isAlive answer)))
            modify (·.releaseSession s)
          else pure () : Program Unit).bind fun _ => .done (.ok none : Outcome)).advance c :=
      rfl
    rw [hgo, pulseEnds]
    cases (c.session s).pulsing <;> rfl
  have hgo : (Errand.pulse.program s).advance c =
      ((if (c.session s).isOpen then do
          modify (pulseStarts s)
          hear (← (call (c.session s).client (.sessionPulse (c.session s).id)).run)
        else pure () : Program Unit).bind fun _ => .done (.ok none : Outcome)).advance c :=
    rfl
  rw [hgo]
  cases hopen : (c.session s).isOpen with
  | false => exact ⟨_, rfl, trivial, rfl⟩
  | true =>
      have hstarts {k : Unit → Program Outcome} {p : Program Unit} :
          ((modify (pulseStarts s) >>= fun _ => p : Program Unit).bind k).advance c =
            (p.bind k).advance (pulseStarts s c) :=
        rfl
      have hclient : (pulseStarts s c).clientIsOpen (c.session s).client =
          c.clientIsOpen (c.session s).client := rfl
      rw [if_pos rfl, hstarts, Program.bind_eq, Program.bind_assoc, advance_ask, hclient]
      cases hthere : c.clientIsOpen (c.session s).client with
      | false => exact ⟨_, hhear _ _, trivial, rfl⟩
      | true => exact ⟨_, rfl, fun reply c => hhear reply c, rfl⟩

/-- A farewell that is to be said is taken, and said if there is a client for it. -/
theorem begins_farewell :
    ∃ standing c', (Errand.farewell.program s).advance c = (standing, c') ∧
      Stands s (.farewell, standing) ∧
      if c.farewellOf s ∈ c.farewells then
        Beside s { c with farewells := c.farewells.erase (c.farewellOf s) } c' ∧
          standing.effect? = if c.clientIsOpen (c.session s).client
            then some (ClusterSession.closing c s) else none
      else c' = c ∧ standing.effect? = none := by
  let f := c.farewellOf s
  have hgo : (Errand.farewell.program s).advance c =
      ((if (c.takeFarewell f).1 then Session.sayFarewell f else pure () : Program Unit).bind
        fun _ => .done (.ok none : Outcome)).advance (c.takeFarewell f).2 := by
    have hbranch : (Errand.farewell.program s).advance c =
        (if (c.takeFarewell f).1 then
          (Session.sayFarewell f).bind fun _ => .done (.ok none : Outcome)
        else .done (.ok none)).advance (c.takeFarewell f).2 :=
      rfl
    rw [hbranch]
    split <;> rfl
  rw [hgo, Connections.takeFarewell]
  by_cases hmem : c.farewellOf s ∈ c.farewells
  · simp only [if_pos hmem]
    rw [if_pos (show f ∈ c.farewells from hmem)]
    let taken : Connections := { c with farewells := c.farewells.erase f }
    have hclient : taken.clientIsOpen f.client = c.clientIsOpen (c.session s).client := rfl
    have hreleased (c : Connections) : Beside s c (c.releaseClient f.client) :=
      beside_of_calm (Connections.calm_releaseClient f.client)
    have hasked : ((Session.sayFarewell f).bind fun _ => .done (.ok none : Outcome)).advance taken =
        if c.clientIsOpen (c.session s).client then
          (.waiting (ClusterSession.closing c s) id fun _ =>
            (modify (·.releaseClient f.client) : Program Unit).bind fun _ => .done (.ok none),
            taken)
        else (.ended (.ok none), taken.releaseClient f.client) := by
      rw [Session.sayFarewell, Program.bind_eq, Program.bind_assoc, advance_ask, hclient]
      rfl
    rw [if_pos rfl, hasked]
    cases hthere : c.clientIsOpen (c.session s).client with
    | false => exact ⟨_, _, rfl, trivial, hreleased taken, rfl⟩
    | true =>
        exact ⟨_, _, rfl, ⟨.refl s, fun reply c => ⟨_, _, rfl, hreleased c⟩⟩, .refl s taken, rfl⟩
  · simp only [if_neg hmem]
    rw [if_neg (show f ∉ c.farewells from hmem)]
    exact ⟨_, _, rfl, trivial, rfl, rfl⟩

/-- A call for a transaction leaves the session alone, and asks nothing about it. -/
theorem begins_transaction (c : Connections) (transactionType : TransactionType)
    (options : Options) :
    (Errand.transaction transactionType options |>.program s).Obeys (aside s) (fun _ => True)
      (fun _ _ => True) () c := by
  refine obeys_bind (spares_openOn c) (fun _ _ _ => trivial) ?_
  rintro t _ c₁ -
  exact trivial

/-- Over a session that is closed it fails at once. -/
theorem begins_transaction_of_closed (hclosed : (c.session s).isOpen = false)
    (transactionType : TransactionType) (options : Options) :
    ((Errand.transaction transactionType options).program s).advance c =
      (.ended (.error .sessionClosed), c) :=
  advance_error_bind (ClusterSession.advance_openOn_of_closed hclosed)

end Beginning

/-! ## §4  One turn -/

/-- What a turn is to a session: an errand begins, or the pulse that is under way is answered. -/
inductive Move where
  | begins (errand : Errand)
  | answered (alive : Bool)
  | other
deriving DecidableEq

/-- What becomes of the state in one turn, and what the server is told of the session. -/
inductive Becomes (s : Nat) (c : Connections) : Move → List SessionId → Connections → Prop
  | beside (move : Move) {c' : Connections} (h : Beside s c c') : Becomes s c move [] c'
  /-- The session is closed by a call. -/
  | shut (hopen : (c.session s).isOpen = true) (hhandle : 0 < (c.session s).handles) :
      Becomes s c (.begins .close)
        (if c.clientIsOpen (c.session s).client then [(c.session s).id] else [])
        (c.modifySession s Session.shut)
  | starts (hopen : (c.session s).isOpen = true) (hidle : (c.session s).pulsing = false) :
      Becomes s c (.begins .pulse) [] (pulseStarts s c)
  /-- A pulse finds no client to ask. -/
  | fails (hopen : (c.session s).isOpen = true) (hidle : (c.session s).pulsing = false) :
      Becomes s c (.begins .pulse) []
        (((pulseStarts s c).modifySession s (Session.endPulse false)).releaseSession s)
  | ends (hpulsing : (c.session s).pulsing = true) (alive : Bool) :
      Becomes s c (.answered alive) []
        ((c.modifySession s (Session.endPulse alive)).releaseSession s)
  /-- The farewell is taken. -/
  | parts (hmem : c.farewellOf s ∈ c.farewells) {c' : Connections}
      (h : Beside s { c with farewells := c.farewells.erase (c.farewellOf s) } c') :
      Becomes s c (.begins .farewell)
        (if c.clientIsOpen (c.session s).client then [(c.session s).id] else []) c'
  | shares (hhandle : 0 < (c.session s).handles) :
      Becomes s c (.begins .share) [] (c.retainSession s)
  | drops (hhandle : 0 < (c.session s).handles) :
      Becomes s c (.begins .drop) [] (c.releaseSession s)

/-- What comes of a call that goes on from a state: how it stands then, what the session became, and
that it was open if it is to pulse. -/
def Goes (s : Nat) (c : Connections) (move : Move) (errand : Errand)
    (r : Standing Outcome × Connections) : Prop :=
  Becomes s c move (r.1.effect?.bind Effect.closes?).toList r.2 ∧ Stands s (errand, r.1) ∧
    ∀ e, r.1.effect? = some e → e.isPulse = true → (c.session s).isOpen = true

/-- When an errand may begin: there is one pulse at a time, and calls need a handle. -/
def Errand.MayBegin (x : Session) : Errand → Prop
  | .pulse => x.pulsing = false
  | .farewell => True
  | .transaction .. | .close | .share | .drop => 0 < x.handles

instance (x : Session) : (errand : Errand) → Decidable (errand.MayBegin x)
  | .pulse => inferInstanceAs (Decidable (x.pulsing = false))
  | .farewell => inferInstanceAs (Decidable True)
  | .transaction .. | .close | .share | .drop => inferInstanceAs (Decidable (0 < x.handles))

section Going

variable {s : Nat} {c : Connections}

theorem closes?_of_asks? {e : Effect} (h : e.asks? = none) :
    e.closes? = none ∧ e.isPulse = false := by
  cases e with
  | call address request => cases h
  | dial address hub dispatcher => exact ⟨rfl, rfl⟩
  | pause millis => exact ⟨rfl, rfl⟩
  | receive hub call => exact ⟨rfl, rfl⟩
  | work client first => exact ⟨rfl, rfl⟩

/-- A call for a transaction goes on. -/
theorem goes_of_obeys {p : Program Outcome} (move : Move) {transactionType : TransactionType}
    {options : Options} (h : p.Obeys (aside s) (fun _ => True) (fun _ _ => True) () c) :
    Goes s c move (.transaction transactionType options) (p.advance c) := by
  obtain ⟨g₁, g', hpath, hreached, hstands⟩ := h.advance
  have hasks (e : Effect) (he : (p.advance c).1.effect? = some e) : e.asks? = none := by
    revert hreached he
    cases (p.advance c).1 with
    | waiting e' abandoned next =>
        rintro hwait ⟨⟩
        exact hwait
    | ended result => exact fun _ he => nomatch he
    | givenUp => exact fun _ he => nomatch he
  refine ⟨?_, hstands, fun e he hpulse => ?_⟩
  · have hsilent : ((p.advance c).1.effect?.bind Effect.closes?).toList = [] := by
      cases he : (p.advance c).1.effect? with
      | none => rfl
      | some e =>
          rw [Option.bind_some, (closes?_of_asks? (hasks e he)).1]
          rfl
    rw [hsilent]
    exact .beside move (path_beside hpath)
  · rw [(closes?_of_asks? (hasks e he)).2] at hpulse
    exact Bool.noConfusion hpulse

/-- What a call is told to say of the session that it has closed, or taken the farewell of. -/
theorem toList_closing (b : Bool) :
    ((if b then some (ClusterSession.closing c s) else none).bind Effect.closes?).toList =
      if b then [(c.session s).id] else [] := by
  cases b <;> rfl

theorem goes_close (hs : s < c.sessions.length) (hmay : Errand.close.MayBegin (c.session s)) :
    Goes s c (.begins .close) .close ((Errand.close.program s).advance c) := by
  obtain ⟨standing, hgo, hstands, hasked⟩ := begins_close hs
  rw [hgo]
  refine ⟨?_, hstands, ?_⟩
  · rw [hasked, toList_closing]
    cases hopen : (c.session s).isOpen with
    | false =>
        rw [Connections.markClosed_of_closed hopen]
        exact .beside _ (.refl s c)
    | true =>
        rw [Connections.markClosed_of_open hopen, Bool.true_and]
        exact .shut hopen hmay
  · intro e he hpulse
    rw [hasked] at he
    split at he
    · cases he
      cases hpulse
    · cases he

theorem goes_pulse (hs : s < c.sessions.length) (hmay : Errand.pulse.MayBegin (c.session s)) :
    Goes s c (.begins .pulse) .pulse ((Errand.pulse.program s).advance c) := by
  obtain ⟨standing, hgo, hstands, hasked⟩ := begins_pulse (s := s) (c := c)
  rw [hgo]
  have hsilent : (standing.effect?.bind Effect.closes?).toList = [] := by
    rw [hasked]
    split <;> rfl
  refine ⟨?_, hstands, ?_⟩
  · show Becomes s c _ (standing.effect?.bind Effect.closes?).toList _
    rw [hsilent]
    cases hopen : (c.session s).isOpen with
    | false => exact .beside _ (.refl s c)
    | true =>
        rw [if_pos rfl]
        split
        · exact .starts hopen hmay
        · have hstarted : ((pulseStarts s c).session s).pulsing = true := by
            rw [session_pulseStarts hs]
            rfl
          rw [pulseEnds, if_pos hstarted]
          exact .fails hopen hmay
  · intro e he _
    rw [hasked] at he
    cases hopen : (c.session s).isOpen with
    | false =>
        rw [hopen, Bool.false_and] at he
        cases he
    | true => rfl

theorem goes_farewell :
    Goes s c (.begins .farewell) .farewell ((Errand.farewell.program s).advance c) := by
  obtain ⟨standing, c', hgo, hstands, hwhat⟩ := begins_farewell (s := s) (c := c)
  rw [hgo]
  by_cases hmem : c.farewellOf s ∈ c.farewells
  · rw [if_pos hmem] at hwhat
    obtain ⟨hbeside, hasked⟩ := hwhat
    refine ⟨?_, hstands, ?_⟩
    · rw [hasked, toList_closing]
      exact .parts hmem hbeside
    · intro e he hpulse
      rw [hasked] at he
      split at he
      · cases he
        cases hpulse
      · cases he
  · rw [if_neg hmem] at hwhat
    obtain ⟨rfl, hasked⟩ := hwhat
    refine ⟨?_, hstands, ?_⟩
    · rw [hasked]
      exact .beside _ (.refl s c')
    · intro e he
      rw [hasked] at he
      cases he

/-- An errand goes on as far as it can when it begins. -/
theorem goes_begins (hs : s < c.sessions.length) {errand : Errand}
    (hmay : errand.MayBegin (c.session s)) :
    Goes s c (.begins errand) errand ((errand.program s).advance c) := by
  cases errand with
  | transaction transactionType options =>
      exact goes_of_obeys _ (begins_transaction c transactionType options)
  | close => exact goes_close hs hmay
  | pulse => exact goes_pulse hs hmay
  | farewell => exact goes_farewell
  | share => exact ⟨.shares hmay, trivial, fun e he => nomatch he⟩
  | drop => exact ⟨.drops hmay, trivial, fun e he => nomatch he⟩

/-- A call that learns an answer goes on as it stands. -/
theorem goes_learns {errand : Errand} {e : Effect} {abandoned : Connections → Connections}
    {next : e.Reply → Program Outcome} (hstands : Stands s (errand, .waiting e abandoned next))
    (reply : e.Reply) (c : Connections) {move : Move}
    (hmove : errand = .pulse → move = .answered (e.showsLife reply)) :
    Goes s c move errand ((next reply).advance c) := by
  have hover {errand : Errand}
      (h : ∃ result c', (next reply).advance c = (.ended result, c') ∧ Beside s c c')
      (hended : ∀ result, Stands s (errand, .ended result)) :
      Goes s c move errand ((next reply).advance c) := by
    obtain ⟨result, c', hgo, hbeside⟩ := h
    rw [hgo]
    exact ⟨.beside move hbeside, hended result, fun e he => nomatch he⟩
  cases errand with
  | transaction transactionType options => exact goes_of_obeys move (hstands.2 reply c)
  | pulse =>
      rw [hstands reply c, hmove rfl]
      refine ⟨?_, trivial, fun e he => nomatch he⟩
      show Becomes s c _ [] (pulseEnds s _ c)
      rw [pulseEnds]
      split
      · rename_i hpulsing
        exact .ends hpulsing _
      · exact .beside _ (.refl s c)
  | close => exact hover (hstands.2 reply c) fun _ => trivial
  | farewell => exact hover (hstands.2 reply c) fun _ => trivial
  | share => exact hover (hstands.2 reply c) fun _ => trivial
  | drop => exact hover (hstands.2 reply c) fun _ => trivial

end Going

end Lifecycle

end GraphDriver
