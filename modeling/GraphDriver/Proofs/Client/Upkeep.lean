import GraphDriver.Client.Databases
import GraphDriver.Proofs.Client.Reliance

/-!
# What the operations of a client uphold

A call that connects a dispatcher has it closed again, unless it comes to a transaction that keeps
it: when the connection is refused, when the opening is not answered as it should be, when it is
given up on the way. Everything else that is done over a client is quiet. Where the hub is shut,
each operation that needs a server refuses.

* §1 dispatchers that were connected
* §2 transactions
* §3 sessions
* §4 servers and databases
-/

namespace GraphDriver

/-! ## §1  Dispatchers that were connected -/

namespace Connections

/-- The dispatcher is closed. -/
def Closed (c : Connections) (line : Line) : Prop :=
  ((c.hub line.1).transmitter.dispatcher line.2).closed = true

/-- The stream of a transaction is closed. -/
def Finished (c : Connections) (t : Transaction) : Prop :=
  ((c.hub t.hub).stream t.stream).isOpen = false

/-- The dispatcher of a stream. -/
def lineOf (c : Connections) (h s : Nat) : Line := (h, ((c.hub h).stream s).dispatcher)

variable {c c' : Connections} {h s : Nat} {t : Transaction} {line : Line}

theorem lt_of_closed_line (hclosed : c.Closed line) : line.1 < c.hubs.length := by
  by_contra hh
  rw [Closed, hub, List.getD_eq_default _ _ (Nat.not_lt.mp hh)] at hclosed
  have hnone : ((default : SharedHub).hub.transmitter.dispatcher line.2) = default :=
    Transmitter.dispatcher_of_le (Nat.zero_le _)
  rw [hnone] at hclosed
  exact absurd hclosed (by decide)

theorem Evolves.closed (h₁ : c.Evolves c') (hclosed : c.Closed line) : c'.Closed line :=
  (h₁.hub _ (lt_of_closed_line hclosed)).2.transmitter.closed _ hclosed

theorem Evolves.lineOf_eq (h₁ : c.Evolves c') (hh : h < c.hubs.length)
    (hs : s < (c.hub h).streams.length) : c'.lineOf h s = c.lineOf h s :=
  congrArg (Prod.mk h) ((h₁.hub h hh).2.dispatcher s hs)

theorem Evolves.finished (h₁ : c.Evolves c') (ht : c.TransactionOn h t) (hdone : c.Finished t) :
    c'.Finished t := by
  obtain ⟨rfl, hh, hs⟩ := ht
  exact (h₁.hub _ hh).2.closed _ hs hdone

/-- A transaction that is over has its dispatcher closed. -/
theorem Finished.closed (hdone : c.Finished t) (hc : c.Sane) (ht : c.TransactionOn h t) :
    c.Closed (c.lineOf t.hub t.stream) := by
  obtain ⟨rfl, hh, hs⟩ := ht
  exact (hc.hub _ hh).ended _ hs hdone

end Connections

/-- All of some dispatchers are closed. -/
def AllClosed (lines : List Line) (c : Connections) : Prop := ∀ line ∈ lines, c.Closed line

/-- All of some dispatchers are closed, but for that of a stream. -/
structure Kept (h s : Nat) (lines : List Line) (c : Connections) : Prop where
  hub : h < c.hubs.length
  stream : s < (c.hub h).streams.length
  closed : ∀ line ∈ lines, c.Closed line ∨ line = c.lineOf h s

section Accounting

variable {h s : Nat} {lines : List Line} {line : Line} {c c' : Connections} {t : Transaction}

theorem lasting_allClosed : Lasting AllClosed :=
  fun _ _ _ hevolves hall line hline => hevolves.closed (hall line hline)

theorem lasting_kept : Lasting (Kept h s) := by
  intro lines c c' hevolves hkept
  refine ⟨(hevolves.hub h hkept.hub).1, ?_, ?_⟩
  · exact Nat.lt_of_lt_of_le hkept.stream (hevolves.hub h hkept.hub).2.length_le
  · intro line hline
    rw [hevolves.lineOf_eq hkept.hub hkept.stream]
    exact (hkept.closed line hline).imp_left hevolves.closed

theorem AllClosed.append (hall : AllClosed lines c) (hline : c.Closed line) :
    AllClosed (lines ++ [line]) c := by
  intro line' hmem
  rcases List.mem_append.mp hmem with hmem | hmem
  · exact hall line' hmem
  · exact List.mem_singleton.mp hmem ▸ hline

/-- When the stream is closed too, nothing is kept. -/
theorem Kept.allClosed (hkept : Kept h s lines c) (hc : c.Sane)
    (hclosed : ((c.hub h).stream s).isOpen = false) : AllClosed lines c := by
  intro line hline
  rcases hkept.closed line hline with hdone | rfl
  · exact hdone
  · exact (hc.hub h hkept.hub).ended s hkept.stream hclosed

/-- Closing a transaction closes what it keeps. -/
theorem Kept.closing (hkept : Kept t.hub t.stream lines c) (hc : c.Sane) :
    AllClosed lines (c.closeTransaction t) := by
  have hevolves := Connections.evolves_closeTransaction hc t
  refine (lasting_kept lines c _ hevolves hkept).allClosed hevolves.sane ?_
  exact Connections.closed_closeTransaction ⟨rfl, hkept.hub, hkept.stream⟩

end Accounting

/-! ## §2  Transactions -/

namespace Transaction

open Operation

variable {h s : Nat} {t : Transaction} {c : Connections} {ds : List Line} {address : String}
  {payload : RequestPayload} {batched : Bool} {transactionType : TransactionType}
  {options : Options}

/-- A dispatcher that was given back is closed. -/
theorem allClosed_giveBack (hc : c.Sane) {d : Nat} (hh : h < c.hubs.length)
    (hd : d < (c.hub h).transmitter.dispatchers.length) (hds : AllClosed ds c) :
    c.Evolves (c.modifyHub h (·.release d)) ∧
      AllClosed (ds ++ [(h, d)]) (c.modifyHub h (·.release d)) := by
  have hevolves : c.Evolves (c.modifyHub h (·.release d)) :=
    Connections.evolves_modifyHub hc h fun hh => Hub.evolves_release (hc.hub h hh) d
  refine ⟨hevolves, AllClosed.append (lasting_allClosed ds c _ hevolves hds) ?_⟩
  rw [Connections.Closed, Connections.hub_modifyHub hh]
  exact Hub.closed_release (hc.hub h hh) hd

/-- What becomes of a stream that is opened: its dispatcher is kept, or closed again. -/
def OpenedStream (h : Nat) : Except Error Nat → List Line → Connections → Prop
  | .ok s => Kept h s
  | .error _ => AllClosed

theorem kept_attach (hc : c.Sane) {d : Nat} (hh : h < c.hubs.length)
    (hd : d < (c.hub h).transmitter.dispatchers.length) (hds : AllClosed ds c) (address : String) :
    c.Evolves (c.onHub h (·.attach d address)).2 ∧
      Kept h (c.onHub h (·.attach d address)).1 (ds ++ [(h, d)])
        (c.onHub h (·.attach d address)).2 := by
  have hevolves : c.Evolves (c.onHub h (·.attach d address)).2 :=
    Connections.evolves_onHub hc h fun hh => Hub.evolves_attach (hc.hub h hh) hd address
  have hhub : (c.onHub h (·.attach d address)).2.hub h = ((c.hub h).attach d address).2 :=
    Connections.hub_modifyHub hh _
  refine ⟨hevolves, (hevolves.hub h hh).1, ?_, ?_⟩
  · rw [hhub]
    exact length_lt_concat (c.hub h).streams _
  · intro line hline
    rcases List.mem_append.mp hline with hline | hline
    · exact .inl (hevolves.closed (hds line hline))
    · right
      rw [List.mem_singleton.mp hline, Connections.lineOf, hhub]
      show (h, d) = (h, (((c.hub h).attach d address).2.stream (c.hub h).streams.length).dispatcher)
      rw [Hub.stream_attach, if_pos rfl]

/-- **Connecting a stream.** The dispatcher that was taken for it is given back if the connection is
refused, and if the call is given up meanwhile. -/
theorem upholds_openStream (hc : c.Sane) (hh : h < c.hubs.length) (hds : AllClosed ds c) :
    (openStream h address).Upholds h AllClosed (OpenedStream h) ds c := by
  have hreserve : c.Evolves (c.onHub h Hub.reserve).2 :=
    Connections.evolves_onHub hc h fun hh => Hub.evolves_reserve (hc.hub h hh)
  have hhub : (c.onHub h Hub.reserve).2.hub h = (c.hub h).reserve.2 :=
    Connections.hub_modifyHub hh _
  refine upholds_modifyGet_bind hreserve ?_
  cases hreserved : (c.onHub h Hub.reserve).1 with
  | error e => exact lasting_allClosed ds c _ hreserve hds
  | ok d =>
      obtain ⟨hopen, hd⟩ := Hub.reserve_ok (hc.hub h hh) hreserved
      rw [← hhub] at hopen hd
      generalize (c.onHub h Hub.reserve).2 = c₀ at *
      -- the dispatcher is there from now on, whatever becomes of it
      have hthere : ∀ c₁, c₀.Evolves c₁ → h < c₁.hubs.length ∧
          d < (c₁.hub h).transmitter.dispatchers.length ∧ AllClosed ds c₁ := by
        intro c₁ hc₁
        obtain ⟨hlt, hevolves⟩ := hc₁.hub h (hreserve.hub h hh).1
        exact ⟨hlt, Nat.lt_of_lt_of_le hd hevolves.transmitter.length_le,
          lasting_allClosed ds c c₁ (hreserve.trans hc₁) hds⟩
      have hback : ∀ c₁, c₀.Evolves c₁ → c₁.Evolves (c₁.modifyHub h (·.release d)) ∧
          AllClosed (ds ++ [(h, d)]) (c₁.modifyHub h (·.release d)) := by
        intro c₁ hc₁
        obtain ⟨hlt, hd₁, hds₁⟩ := hthere c₁ hc₁
        exact allClosed_giveBack hc₁.sane hlt hd₁ hds₁
      refine ⟨?_, hback, ?_, ?_⟩
      · intro hshut
        rw [Connections.Shut, hopen] at hshut
        exact Bool.noConfusion hshut
      · rintro (e | u) c₁ hc₁
        · exact hback c₁ hc₁
        · obtain ⟨hlt, hd₁, hds₁⟩ := hthere c₁ hc₁
          exact kept_attach hc₁.sane hlt hd₁ hds₁ address
      · exact fun he => Bool.noConfusion he

section Sending

variable {α : Type} {good : α → Connections → Prop} {next : Call → Operation α}

/-- What is sent goes out over an open hub. -/
theorem quiet_send_bind (hc : c.Sane) (ht : c.TransactionOn h t)
    (hnext : ∀ call c', c.Evolves c' → ¬c'.Shut h → Quiet h good (next call) c') :
    Quiet h good (get >>= fun c =>
      modifyGet (·.onHub t.hub (·.send c.now t.stream payload batched)) >>= fun sent =>
        ofOutcome sent >>= next) c := by
  obtain ⟨rfl, hh, hs⟩ := ht
  have hsend : c.Evolves (c.onHub t.hub (·.send c.now t.stream payload batched)).2 :=
    Connections.evolves_onHub hc t.hub fun hh =>
      Hub.evolves_send (hc.hub t.hub hh) hs c.now payload batched
  have hhub : (c.onHub t.hub (·.send c.now t.stream payload batched)).2.hub t.hub =
      ((c.hub t.hub).send c.now t.stream payload batched).2 :=
    Connections.hub_modifyHub hh _
  refine quiet_get_bind (quiet_modifyGet_bind hsend ?_)
  cases hsent : (c.onHub t.hub (·.send c.now t.stream payload batched)).1 with
  | error e => exact quiet_throw_bind
  | ok call =>
      refine hnext call _ hsend fun hshut => ?_
      rw [Connections.Shut, hhub, Hub.isOpen_of_send hs hsent] at hshut
      exact Bool.noConfusion hshut

/-- Where the hub is shut, nothing is sent. -/
theorem refuses_send_bind (ht : c.TransactionOn h t) (hshut : c.Shut h) :
    (get >>= fun c =>
      modifyGet (·.onHub t.hub (·.send c.now t.stream payload batched)) >>= fun sent =>
        ofOutcome sent >>= next : Operation α).Refuses c := by
  obtain ⟨rfl, hh, hs⟩ := ht
  obtain ⟨e, hsent, he⟩ := Hub.send_of_shut hs hshut c.now payload batched
  refine refuses_get_bind (refuses_modifyGet_bind ?_)
  rw [show (c.onHub t.hub (·.send c.now t.stream payload batched)).1 = .error e from hsent]
  exact refuses_throw_bind he

end Sending

/-- A question waits for its answer, if it was sent. -/
theorem quiet_ask (hc : c.Sane) (ht : c.TransactionOn h t) :
    Quiet h (fun _ _ => True) (ask t payload batched) c := by
  refine quiet_send_bind hc ht fun call c' hc' hopen => ?_
  obtain rfl := ht.1
  have hwait : Quiet t.hub (fun _ _ => True)
      (ExceptT.lift (Program.perform (.receive t.hub call))) c' :=
    quiet_perform (fun hshut => absurd hshut hopen) rfl rfl
  exact hwait.bind hc'.sane fun _ _ _ _ => quiet_ofOutcome fun _ _ => trivial

theorem refuses_ask (ht : c.TransactionOn h t) (hshut : c.Shut h) :
    (ask t payload batched).Refuses c :=
  refuses_send_bind ht hshut

/-- What becomes of a transaction that is opened: its dispatcher is kept, or closed again. -/
def Opened (h : Nat) : Except Error Transaction → List Line → Connections → Prop
  | .ok t => fun ds c => t.hub = h ∧ Kept h t.stream ds c
  | .error _ => AllClosed

theorem lasting_opened (result : Except Error Transaction) : Lasting (Opened h result) := by
  cases result with
  | error e => exact lasting_allClosed
  | ok t => exact fun ds c c' hevolves hopened =>
      ⟨hopened.1, lasting_kept ds c c' hevolves hopened.2⟩

/-- **Opening a transaction.** Unless it was opened, the dispatcher that was connected for it is
closed: the transport may refuse the connection, the server may answer with an error or with
something else, or the call may be given up. -/
theorem upholds_openOn (hc : c.Sane) (hs : c.SessionOn h s) (hds : AllClosed ds c) :
    (openOn s transactionType options).Upholds h AllClosed (Opened h) ds c := by
  obtain ⟨-, hclient, hhub⟩ := hs
  have hh : h < c.hubs.length := hhub ▸ (hc.client _ hclient).1
  refine upholds_get_bind ?_
  dsimp only
  split
  · split
    · rw [hhub]
      refine upholds_bind (upholds_openStream hc hh hds) hc ?_ ?_
      · exact fun e ds' c' _ hall => hall
      · intro stream ds' c' hc' hkept
        generalize ht : (⟨h, stream, transactionType, options⟩ : Transaction) = t
        have hhere : t.hub = h := ht ▸ rfl
        have hkept : Kept t.hub t.stream ds' c' := ht ▸ hkept
        -- where the call is given up, the transaction is closed
        have hask : (onAbandon (·.closeTransaction t) (ask t (.open (c.session s).id transactionType
            options (c.session s).networkLatencyMillis) false)).Upholds h AllClosed
            (fun _ => Kept t.hub t.stream) ds' c' := by
          have hquiet : Quiet h (fun _ _ => True) (ask t (.open (c.session s).id transactionType
              options (c.session s).networkLatencyMillis) false) c' :=
            quiet_ask hc'.sane ⟨hhere, hhere ▸ hkept.hub, hhere ▸ hkept.stream⟩
          refine ((hquiet.upholds hc'.sane lasting_kept hkept).mono hc'.sane
            (fun _ _ _ hout => hout) (fun _ _ _ _ hpost => hpost.1) fun _ hf => hf).onAbandon
            hc'.sane fun ds'' c'' hc'' hkept' => ?_
          exact ⟨Connections.evolves_closeTransaction hc''.sane t, hkept'.closing hc''.sane⟩
        refine upholds_outcome_bind
          (?_ : Operation.Upholds h AllClosed (fun _ => Kept t.hub t.stream) _ ds' c')
          hc'.sane ?_ ?_
        · refine upholds_bind hask hc'.sane (fun _ _ _ _ hkept' => hkept') ?_
          exact fun _ _ _ _ hkept' => upholds_expect fun _ => hkept'
        · rintro (e | u) ds'' c'' hc'' hkept'
          · exact upholds_modify_bind (Connections.evolves_closeTransaction hc''.sane t)
              (hkept'.closing hc''.sane)
          · exact ⟨hhere, hhere ▸ hkept'⟩
        · exact fun e c'' _ _ he => refuses_modify_bind (refuses_throw he)
    · exact hds
  · exact hds

theorem refuses_openOn (hs : c.SessionOn h s) (hshut : c.Shut h) :
    (openOn s transactionType options).Refuses c := by
  refine refuses_get_bind ?_
  dsimp only
  rw [clientIsOpen_of_shut hs.2 hshut]
  split
  · exact refuses_throw_bind rfl
  · exact refuses_throw_bind rfl

/-- **Committing.** However it ends, the transaction is over. -/
theorem upholds_commit (hc : c.Sane) (ht : c.TransactionOn h t) :
    (commit t).Upholds h (fun ds' c' => ds' = ds ∧ c'.Finished t)
      (fun _ ds' c' => ds' = ds ∧ c'.Finished t) ds c := by
  have hclose : ∀ c', c.Evolves c' →
      c'.Evolves (c'.closeTransaction t) ∧ (c'.closeTransaction t).Finished t := by
    intro c' hc'
    obtain ⟨rfl, hh, hs⟩ := hc'.transactionOn ht
    exact ⟨Connections.evolves_closeTransaction hc'.sane t,
      Connections.closed_closeTransaction ⟨rfl, hh, hs⟩⟩
  have hquiet : Quiet h (fun _ _ => True) (ask t .commit false) c := quiet_ask hc ht
  refine upholds_outcome_bind (Program.Upholds.onAbandon (hquiet ds) hc ?_) hc ?_ ?_
  · exact fun ds' c' hc' hds => ⟨(hclose c' hc').1, hds, (hclose c' hc').2⟩
  · rintro answer ds' c' hc' ⟨rfl, -⟩
    obtain ⟨hevolves, hdone⟩ := hclose c' hc'
    refine upholds_modify_bind hevolves ?_
    cases answer with
    | error e => exact ⟨rfl, hdone⟩
    | ok received =>
        rw [show ofOutcome (.ok received) = pure received from rfl, pure_bind]
        exact upholds_expect fun _ => ⟨rfl, hdone⟩
  · exact fun e c' _ _ he => refuses_modify_bind (refuses_throw_bind he)

theorem refuses_commit (ht : c.TransactionOn h t) (hshut : c.Shut h) : (commit t).Refuses c := by
  refine ((refuses_ask ht hshut).onAbandon _).outcome_bind fun e c' _ he => ?_
  exact refuses_modify_bind (refuses_throw_bind he)

/-! ### Questions -/

/-- An operation needs the server of a transaction. -/
abbrev Asks {α : Type} (t : Transaction) (op : Operation α) : Prop :=
  Needs (fun h c => c.TransactionOn h t) (fun _ _ _ => True) op

section Asking

variable {α : Type}

theorem asks_ask : Asks t (ask t payload batched) :=
  ⟨quiet_ask, fun _ => refuses_ask⟩

theorem quiet_checked {cast : Concept → Except Error α} {found : Option Concept} :
    Quiet h (fun _ _ => True) (checked cast found) c := by
  cases found with
  | none => exact quiet_pure trivial
  | some concept =>
      show Quiet h _ (ofOutcome (cast concept) >>= fun _ => pure (some concept)) c
      cases cast concept with
      | error e => exact quiet_throw_bind
      | ok a =>
          show Quiet h _ (pure (some concept)) c
          exact quiet_pure trivial

theorem asks_checked {op : Operation (Option Concept)} (hop : Asks t op)
    (cast : Concept → Except Error α) : Asks t (op >>= checked cast) :=
  hop.bind fun _ _ _ => quiet_checked

/-- A request that is answered in parts is sent, and its answer is not waited for. -/
theorem asks_askMany {kind : AnswerKind} : Asks t (askMany t kind payload) where
  quiet hc ht := quiet_send_bind hc ht fun _ _ _ _ => quiet_pure trivial
  refuses _ ht hshut := refuses_send_bind ht hshut

end Asking

/-- What can be asked over a transaction while it is open. -/
inductive Question where
  | rollback
  | define (query : String) (options : Options)
  | undefine (query : String) (options : Options)
  | delete (query : String) (options : Options)
  | matchAggregate (query : String) (options : Options)
  | matchQuery (query : String) (options : Options)
  | insert (query : String) (options : Options)
  | update (query : String) (options : Options)
  | matchGroup (query : String) (options : Options)
  | matchGroupAggregate (query : String) (options : Options)
  | getThingType (label : String)
  | getThing (iid : Iid)
  | getEntityType (label : String)
  | getRelationType (label : String)
  | getAttributeType (label : String)
  | getEntity (iid : Iid)
  | getRelation (iid : Iid)
  | getAttribute (iid : Iid)
  | putEntityType (label : String)
  | putRelationType (label : String)
  | putAttributeType (label : String) (valueType : ValueType)
  | getRule (label : String)
  | putRule (label condition conclusion : String)
  | getRules

/-- Asks something, whatever the answer. -/
def Question.run (t : Transaction) : Question → Operation Unit
  | .rollback => Transaction.rollback t
  | .define query options => Transaction.define t query options
  | .undefine query options => Transaction.undefine t query options
  | .delete query options => Transaction.delete t query options
  | .matchAggregate query options => discarding (Transaction.matchAggregate t query options)
  | .matchQuery query options => discarding (Transaction.matchQuery t query options)
  | .insert query options => discarding (Transaction.insert t query options)
  | .update query options => discarding (Transaction.update t query options)
  | .matchGroup query options => discarding (Transaction.matchGroup t query options)
  | .matchGroupAggregate query options =>
    discarding (Transaction.matchGroupAggregate t query options)
  | .getThingType label => discarding (Transaction.getThingType t label)
  | .getThing iid => discarding (Transaction.getThing t iid)
  | .getEntityType label => discarding (Transaction.getEntityType t label)
  | .getRelationType label => discarding (Transaction.getRelationType t label)
  | .getAttributeType label => discarding (Transaction.getAttributeType t label)
  | .getEntity iid => discarding (Transaction.getEntity t iid)
  | .getRelation iid => discarding (Transaction.getRelation t iid)
  | .getAttribute iid => discarding (Transaction.getAttribute t iid)
  | .putEntityType label => discarding (Transaction.putEntityType t label)
  | .putRelationType label => discarding (Transaction.putRelationType t label)
  | .putAttributeType label valueType => discarding (Transaction.putAttributeType t label valueType)
  | .getRule label => discarding (Transaction.getRule t label)
  | .putRule label condition conclusion =>
    discarding (Transaction.putRule t label condition conclusion)
  | .getRules => discarding (Transaction.getRules t)
where
  discarding {α : Type} (op : Operation α) : Operation Unit := op >>= fun _ => pure ()

/-- **Every question** is quiet, and is refused where the hub is shut. -/
theorem asks_question (question : Question) : Asks t (question.run t) := by
  have hquery {query : QueryRequest} {options : Options} : Asks t (querySingle t query options) :=
    asks_ask.expect
  have hconcepts {request : ConceptManagerRequest} : Asks t (askConcepts t request) :=
    asks_ask.expect
  have hrules {request : LogicRequest} : Asks t (askRules t request) := asks_ask.expect
  have hthingType {label : String} : Asks t (getThingType t label) := hconcepts.expect
  have hthing {iid : Iid} : Asks t (getThing t iid) := hconcepts.expect
  have hput {request : ConceptManagerRequest} : Asks t (putType t request) := hconcepts.expect
  cases question with
  | rollback => exact asks_ask.expect
  | define query options => exact hquery.expect
  | undefine query options => exact hquery.expect
  | delete query options => exact hquery.expect
  | matchAggregate query options => exact hquery.expect.discarding
  | matchQuery query options => exact asks_askMany.discarding
  | insert query options => exact asks_askMany.discarding
  | update query options => exact asks_askMany.discarding
  | matchGroup query options => exact asks_askMany.discarding
  | matchGroupAggregate query options => exact asks_askMany.discarding
  | getThingType label => exact hthingType.discarding
  | getThing iid => exact hthing.discarding
  | getEntityType label => exact (asks_checked hthingType _).discarding
  | getRelationType label => exact (asks_checked hthingType _).discarding
  | getAttributeType label => exact (asks_checked hthingType _).discarding
  | getEntity iid => exact (asks_checked hthing _).discarding
  | getRelation iid => exact (asks_checked hthing _).discarding
  | getAttribute iid => exact (asks_checked hthing _).discarding
  | putEntityType label => exact hput.discarding
  | putRelationType label => exact hput.discarding
  | putAttributeType label valueType => exact hput.discarding
  | getRule label => exact hrules.expect.discarding
  | putRule label condition conclusion => exact hrules.expect.discarding
  | getRules => exact asks_askMany.discarding

end Transaction

/-! ## §3  Sessions -/

namespace Session

open Operation

variable {h i s : Nat} {c : Connections} {ds : List Line} {database : String}
  {sessionType : SessionType} {options : Options}

/-- A session is opened over its client. -/
theorem quiet_openAt (hc : c.Sane) (hi : c.ClientOn h i) :
    Quiet h (fun s c' => c'.SessionOn h s) (openAt i database sessionType options) c := by
  refine quiet_get_bind ((quiet_call hc hi).bind hc fun response c₁ hc₁ _ => ?_)
  refine quiet_expect.bind hc₁.sane ?_
  rintro ⟨id, duration⟩ c₂ hc₂ -
  have hi₂ := hc₂.clientOn (hc₁.clientOn hi)
  have hretain := Connections.evolves_retainClient hc₂.sane i
  have hi₃ := hretain.clientOn hi₂
  refine quiet_modifyGet (hretain.trans (Connections.evolves_addSession hretain.sane hi₃.1)) ?_
  exact Connections.sessionOn_addSession hi₃

/-- Opening a session needs the server of its client. -/
theorem needs_openAt : Needs (fun h c => c.ClientOn h i) (fun h s c => c.SessionOn h s)
    (openAt i database sessionType options) where
  quiet hc hi := quiet_openAt hc hi
  refuses _ hi hshut := refuses_get_bind ((refuses_call hi hshut).bind _)

/-- Whoever closes a session tells its server. -/
theorem quiet_close (hc : c.Sane) (hs : c.SessionOn h s) :
    Quiet h (fun _ _ => True) (close s) c := by
  have hmark := Connections.evolves_markClosed hc s
  refine quiet_modifyGet_bind hmark ?_
  split
  · exact quiet_get_bind (needs_call.expect.quiet hmark.sane (hmark.sessionOn hs).2)
  · exact quiet_pure trivial

theorem refuses_close (hc : c.Sane) (hs : c.SessionOn h s) (hshut : c.Shut h)
    (hopen : (c.session s).isOpen = true) : (close s).Refuses c := by
  have hmark := Connections.evolves_markClosed hc s
  refine refuses_modifyGet_bind ?_
  rw [if_pos (by rw [Connections.markClosed, if_pos hopen])]
  exact refuses_get_bind ((refuses_call (hmark.sessionOn hs).2 (hmark.shut hshut)).bind _)

/-- A pulse asks the server of the session that it keeps alive. -/
theorem upholds_pulse {fails : Unit → Prop} (hc : c.Sane) (hs : c.SessionOn h s) :
    (pulse s).Upholds h fails (fun ds' _ => ds' = ds) (fun _ ds' _ => ds' = ds) ds c := by
  have hpulse : ∀ c' : Connections, c'.Sane →
      c'.Evolves ((c'.modifySession s startPulse).retainSession s) := by
    intro c' hc'
    have hstart := Connections.evolves_modifySession hc' s (f := startPulse) fun _ => rfl
    exact hstart.trans (Connections.evolves_retainSession hstart.sane s)
  have hend : ∀ (c' : Connections) (alive : Bool), c'.Sane →
      c'.Evolves (c'.modifySession s (endPulse alive)) := by
    intro c' alive hc'
    refine Connections.evolves_modifySession hc' s fun x => ?_
    cases alive <;> rfl
  show (if (c.session s).isOpen then _ else _ : Program Unit).Upholds ..
  split
  · have hstart := hpulse c hc
    refine ⟨hstart, ?_⟩
    show ((call (c.session s).client (.sessionPulse (c.session s).id)).run.bind _).Upholds ..
    refine (upholds_call (fun _ => False) (hstart.clientOn hs.2) ds).bind hstart.sane ?_
      fun _ _ _ _ hf => hf.elim
    rintro answer ds' c₁ hc₁ hds
    show (if (c₁.session s).pulsing then _ else _ : Program Unit).Upholds ..
    split
    · have hended := hend c₁ (isAlive answer) hc₁.sane
      exact ⟨hended, Connections.evolves_releaseSession hended.sane s, hds⟩
    · exact hds
  · exact rfl

/-- A farewell is told by the client of its session. -/
theorem upholds_sayFarewell {farewell : Farewell} {fails : Unit → Prop} (hc : c.Sane)
    (hi : c.ClientOn h farewell.client) :
    (sayFarewell farewell).Upholds h fails (fun ds' _ => ds' = ds) (fun _ ds' _ => ds' = ds) ds
      c := by
  refine (upholds_call (fun _ => False) hi ds).bind hc ?_ fun _ _ _ _ hf => hf.elim
  exact fun answer ds' c₁ hc₁ hds => ⟨Connections.evolves_releaseClient hc₁.sane _, hds⟩

end Session

/-! ## §4  Servers and databases -/

namespace Client

open Operation

variable {i : Nat} {name : String}

/-- What can be asked of the server of a client. -/
inductive Question where
  | servers
  | createDatabase (name : String)
  | containsDatabase (name : String)
  | deleteDatabase (name : String)
  | databases
  | findDatabase (name : String)

/-- Asks something, whatever the answer. -/
def Question.run (client : Nat) : Question → Operation Unit
  | .servers => discarding (Client.servers client)
  | .createDatabase name => Client.createDatabase client name
  | .containsDatabase name => discarding (Client.containsDatabase client name)
  | .deleteDatabase name => Client.deleteDatabase client name
  | .databases => discarding (Client.databases client)
  | .findDatabase name => discarding (Client.findDatabase client name)
where
  discarding {α : Type} (op : Operation α) : Operation Unit := op >>= fun _ => pure ()

/-- An operation needs the server of a client. -/
abbrev Asks {α : Type} (i : Nat) (op : Operation α) : Prop :=
  Needs (fun h c => c.ClientOn h i) (fun _ _ _ => True) op

theorem asks_createDatabase : Asks i (createDatabase i name) := needs_call.expect

theorem asks_containsDatabase : Asks i (containsDatabase i name) := needs_call.expect

theorem asks_deleteDatabase : Asks i (deleteDatabase i name) := needs_call.expect

theorem asks_databases : Asks i (databases i) := needs_call.expect

theorem asks_findDatabase : Asks i (findDatabase i name) := by
  refine asks_containsDatabase.bind fun found _ _ => ?_
  cases found with
  | true => exact quiet_pure trivial
  | false => exact quiet_throw

/-- **Every question** is quiet, and is refused where the hub is shut. -/
theorem asks_question (question : Question) : Asks i (question.run i) := by
  cases question with
  | servers => exact needs_call.expect.discarding
  | createDatabase name => exact asks_createDatabase
  | containsDatabase name => exact asks_containsDatabase.discarding
  | deleteDatabase name => exact asks_deleteDatabase
  | databases => exact asks_databases.discarding
  | findDatabase name => exact asks_findDatabase.discarding

end Client

end GraphDriver
