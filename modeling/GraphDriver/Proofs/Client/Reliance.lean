import GraphDriver.Proofs.Client.Evolution
import GraphDriver.Proofs.Client.Interleaving

/-!
# What calls can rely on

Calls that share the connections rely on each other: whatever a call finds when its wait is over
has evolved from what it left, and whatever it changes evolves in turn. A call is about one hub. It
waits for a server only while that hub is open, and which dispatchers it has connected is kept in
mind, so that it can be told what became of them.

* §1 waits
* §2 programs that uphold something
* §3 how a call stands
* §4 operations
* §5 operations that refuse
* §6 quiet operations
* §7 operations that need a server
-/

namespace GraphDriver

variable {α β : Type}

/-! ## §1  Waits -/

/-- A dispatcher, named by its hub and its place there. -/
abbrev Line := Nat × Nat

namespace Effect

/-- The dispatcher for whose stream a connection is awaited. -/
def dials : Effect → List Line
  | .dial _ hub dispatcher => [(hub, dispatcher)]
  | .call .. | .pause _ | .receive .. | .work .. => []

/-- Whether a wait is for nothing that a server does. -/
def isLocal : Effect → Bool
  | .pause _ | .work .. => true
  | .call .. | .dial .. | .receive .. => false

def isPause : Effect → Bool
  | .pause _ => true
  | .call .. | .dial .. | .receive .. | .work .. => false

end Effect

/-! ## §2  Programs that uphold something -/

namespace Program

/-- A program comes at once to a result of some kind. -/
def Ends (result : α → Prop) (p : Program α) (c : Connections) : Prop :=
  ∃ a c', p.advance c = (.ended a, c') ∧ result a

/-- A program about the hub `h` relies on the connections to evolve while it waits, and changes them
only as they can evolve. Where it is given up `out` holds, and where it ends `post` does, of the
dispatchers that it has connected. While the hub is shut it waits for no server, and after a pause
it is over at once. -/
def Upholds (h : Nat) (fails : α → Prop) (out : List Line → Connections → Prop)
    (post : α → List Line → Connections → Prop) : Program α → List Line → Connections → Prop
  | .done a, ds, c => post a ds c
  | .read next, ds, c => (next c).Upholds h fails out post ds c
  | .write c' next, ds, c => c.Evolves c' ∧ next.Upholds h fails out post ds c'
  | .await e abandoned next, ds, c =>
    (c.Shut h → e.isLocal = true) ∧
    (∀ c₁, c.Evolves c₁ → c₁.Evolves (abandoned c₁) ∧ out (ds ++ e.dials) (abandoned c₁)) ∧
    (∀ reply c₁, c.Evolves c₁ → (next reply).Upholds h fails out post (ds ++ e.dials) c₁) ∧
    (e.isPause = true → ∀ reply c₁, c.Evolves c₁ → c₁.Shut h → (next reply).Ends fails c₁)

end Program

/-! ## §3  How a call stands -/

/-- The dispatcher that a call is about to connect. -/
def Standing.dials (standing : Standing α) : List Line :=
  (standing.effect?.map Effect.dials).getD []

/-- How a call stands that upholds something. -/
def Standing.Upholds (h : Nat) (fails : α → Prop) (out : List Line → Connections → Prop)
    (post : α → List Line → Connections → Prop) :
    Standing α → List Line → Connections → Prop
  | .ended a, ds, c => post a ds c
  | .waiting e abandoned next, ds, c =>
    (∀ c₁, c.Evolves c₁ → c₁.Evolves (abandoned c₁) ∧ out ds (abandoned c₁)) ∧
    (∀ reply c₁, c.Evolves c₁ → (next reply).Upholds h fails out post ds c₁) ∧
    (e.isPause = true → ∀ reply c₁, c.Evolves c₁ → c₁.Shut h → (next reply).Ends fails c₁)
  | .givenUp, ds, c => out ds c

/-- What holds of some dispatchers goes on to hold. -/
def Lasting (out : List Line → Connections → Prop) : Prop :=
  ∀ ds c c', c.Evolves c' → out ds c → out ds c'

variable {h : Nat} {fails fails' : α → Prop} {out out' : List Line → Connections → Prop}
  {post post' : α → List Line → Connections → Prop} {ds : List Line} {c c' : Connections}

/-- A call stands as it did while others go on. -/
theorem Standing.Upholds.later {standing : Standing α}
    (hstands : standing.Upholds h fails out post ds c) (hcc' : c.Evolves c')
    (hout : Lasting out) (hpost : ∀ a, Lasting (post a)) :
    standing.Upholds h fails out post ds c' := by
  cases standing with
  | ended a => exact hpost a ds c c' hcc' hstands
  | waiting e abandoned next =>
      obtain ⟨hleave, hnext, hpause⟩ := hstands
      refine ⟨?_, ?_, ?_⟩
      · exact fun c₁ hc₁ => hleave c₁ (hcc'.trans hc₁)
      · exact fun reply c₁ hc₁ => hnext reply c₁ (hcc'.trans hc₁)
      · exact fun he reply c₁ hc₁ => hpause he reply c₁ (hcc'.trans hc₁)
  | givenUp => exact hout ds c c' hcc' hstands

namespace Program

variable {p : Program α} {k : α → Program β}

/-- A program goes on to its first wait, and the connections evolve. -/
theorem Upholds.advance (hp : p.Upholds h fails out post ds c) (hc : c.Sane) :
    c.Evolves (p.advance c).2 ∧
      (p.advance c).1.Upholds h fails out post (ds ++ (p.advance c).1.dials) (p.advance c).2 ∧
      ∀ e, (p.advance c).1.effect? = some e → (p.advance c).2.Shut h → e.isLocal = true := by
  induction p generalizing c with
  | done a =>
      refine ⟨.refl hc, ?_, ?_⟩
      · show post a (ds ++ []) c
        rw [List.append_nil]
        exact hp
      · intro e he
        exact absurd he (Option.some_ne_none e).symm
  | read next ih => exact ih c hp hc
  | write c' next ih =>
      obtain ⟨hevolves, hnext⟩ := hp
      obtain ⟨hafter, hstands, hwait⟩ := ih hnext hevolves.sane
      exact ⟨hevolves.trans hafter, hstands, hwait⟩
  | await e abandoned next ih =>
      obtain ⟨hlocal, hleave, hnext, hpause⟩ := hp
      refine ⟨.refl hc, ⟨hleave, hnext, hpause⟩, ?_⟩
      intro e' he'
      obtain rfl := Option.some.inj he'
      exact hlocal

theorem Ends.bind {result : α → Prop} {result' : β → Prop} (hp : p.Ends result c)
    (hk : ∀ a c', p.advance c = (.ended a, c') → result a → (k a).Ends result' c') :
    (p.bind k).Ends result' c := by
  obtain ⟨a, c', hadvance, ha⟩ := hp
  obtain ⟨b, c'', hadvance', hb⟩ := hk a c' hadvance ha
  refine ⟨b, c'', ?_, hb⟩
  rw [advance_bind, hadvance]
  exact hadvance'

theorem Ends.mono {result result' : α → Prop} (hp : p.Ends result c)
    (himp : ∀ a, result a → result' a) : p.Ends result' c := by
  obtain ⟨a, c', hadvance, ha⟩ := hp
  exact ⟨a, c', hadvance, himp a ha⟩

theorem Ends.onAbandon {result : α → Prop} (hp : p.Ends result c)
    (cleanup : Connections → Connections) : (p.onAbandon cleanup).Ends result c := by
  obtain ⟨a, c', hadvance, ha⟩ := hp
  refine ⟨a, c', ?_, ha⟩
  rw [advance_onAbandon, hadvance]

/-- What is upheld may be weakened, with what has come about since. -/
theorem Upholds.mono (hp : p.Upholds h fails out post ds c) (hc : c.Sane)
    (hout : ∀ ds c', c.Evolves c' → out ds c' → out' ds c')
    (hpost : ∀ a ds c', c.Evolves c' → post a ds c' → post' a ds c')
    (hfails : ∀ a, fails a → fails' a) : p.Upholds h fails' out' post' ds c := by
  induction p generalizing c ds with
  | done a => exact hpost a ds c (.refl hc) hp
  | read next ih => exact ih c hp hc hout hpost
  | write c' next ih =>
      obtain ⟨hevolves, hnext⟩ := hp
      refine ⟨hevolves, ih hnext hevolves.sane ?_ ?_⟩
      · exact fun ds c₁ hc₁ => hout ds c₁ (hevolves.trans hc₁)
      · exact fun a ds c₁ hc₁ => hpost a ds c₁ (hevolves.trans hc₁)
  | await e abandoned next ih =>
      obtain ⟨hlocal, hleave, hnext, hpause⟩ := hp
      refine ⟨hlocal, ?_, ?_, ?_⟩
      · intro c₁ hc₁
        obtain ⟨hevolves, hthere⟩ := hleave c₁ hc₁
        exact ⟨hevolves, hout _ _ (hc₁.trans hevolves) hthere⟩
      · intro reply c₁ hc₁
        refine ih reply (hnext reply c₁ hc₁) hc₁.sane ?_ ?_
        · exact fun ds c₂ hc₂ => hout ds c₂ (hc₁.trans hc₂)
        · exact fun a ds c₂ hc₂ => hpost a ds c₂ (hc₁.trans hc₂)
      · exact fun he reply c₁ hc₁ hshut => (hpause he reply c₁ hc₁ hshut).mono hfails

/-- A program that goes on upholds what its parts do. -/
theorem Upholds.bind {fails' : β → Prop} {post' : β → List Line → Connections → Prop}
    (hp : p.Upholds h fails out post ds c) (hc : c.Sane)
    (hk : ∀ a ds c', c.Evolves c' → post a ds c' → (k a).Upholds h fails' out post' ds c')
    (hends : ∀ a c', c.Evolves c' → c'.Shut h → fails a → (k a).Ends fails' c') :
    (p.bind k).Upholds h fails' out post' ds c := by
  induction p generalizing c ds with
  | done a => exact hk a ds c (.refl hc) hp
  | read next ih => exact ih c hp hc hk hends
  | write c' next ih =>
      obtain ⟨hevolves, hnext⟩ := hp
      refine ⟨hevolves, ih hnext hevolves.sane ?_ ?_⟩
      · exact fun a ds c₁ hc₁ => hk a ds c₁ (hevolves.trans hc₁)
      · exact fun a c₁ hc₁ => hends a c₁ (hevolves.trans hc₁)
  | await e abandoned next ih =>
      obtain ⟨hlocal, hleave, hnext, hpause⟩ := hp
      refine ⟨hlocal, hleave, ?_, ?_⟩
      · intro reply c₁ hc₁
        refine ih reply (hnext reply c₁ hc₁) hc₁.sane ?_ ?_
        · exact fun a ds c₂ hc₂ => hk a ds c₂ (hc₁.trans hc₂)
        · exact fun a c₂ hc₂ => hends a c₂ (hc₁.trans hc₂)
      · intro he reply c₁ hc₁ hshut
        refine (hpause he reply c₁ hc₁ hshut).bind fun a c₂ hadvance ha => ?_
        have hafter := ((hnext reply c₁ hc₁).advance hc₁.sane).1
        rw [hadvance] at hafter
        exact hends a c₂ (hc₁.trans hafter) (hafter.shut hshut) ha

/-- What is done where a program is given up comes after what it leaves by itself. -/
theorem Upholds.onAbandon {cleanup : Connections → Connections}
    (hp : p.Upholds h fails out post ds c) (hc : c.Sane)
    (hcleanup : ∀ ds c', c.Evolves c' → out ds c' →
      c'.Evolves (cleanup c') ∧ out' ds (cleanup c')) :
    (p.onAbandon cleanup).Upholds h fails out' post ds c := by
  induction p generalizing c ds with
  | done a => exact hp
  | read next ih => exact ih c hp hc hcleanup
  | write c' next ih =>
      obtain ⟨hevolves, hnext⟩ := hp
      exact ⟨hevolves, ih hnext hevolves.sane fun ds c₁ hc₁ => hcleanup ds c₁ (hevolves.trans hc₁)⟩
  | await e abandoned next ih =>
      obtain ⟨hlocal, hleave, hnext, hpause⟩ := hp
      refine ⟨hlocal, ?_, ?_, ?_⟩
      · intro c₁ hc₁
        obtain ⟨hevolves, hthere⟩ := hleave c₁ hc₁
        obtain ⟨hclean, hthere'⟩ := hcleanup _ _ (hc₁.trans hevolves) hthere
        exact ⟨hevolves.trans hclean, hthere'⟩
      · intro reply c₁ hc₁
        exact ih reply (hnext reply c₁ hc₁) hc₁.sane
          fun ds c₂ hc₂ => hcleanup ds c₂ (hc₁.trans hc₂)
      · exact fun he reply c₁ hc₁ hshut => (hpause he reply c₁ hc₁ hshut).onAbandon cleanup

end Program

/-! ## §4  Operations -/

/-- An outcome is an error, and not one for which another replica would be tried. -/
def Failed (outcome : Except Error α) : Prop :=
  ∃ e, outcome = .error e ∧ e.isReplicaFailure = false

namespace Operation

/-- An operation upholds something as a program; its failures are its errors. -/
abbrev Upholds (h : Nat) (out : List Line → Connections → Prop)
    (post : Except Error α → List Line → Connections → Prop) (op : Operation α) (ds : List Line)
    (c : Connections) : Prop :=
  op.run.Upholds h Failed out post ds c

/-- An operation fails at once. -/
def Refuses (op : Operation α) (c : Connections) : Prop := op.run.Ends Failed c

section Rules

variable {mid : Except Error α → List Line → Connections → Prop}
  {post : Except Error β → List Line → Connections → Prop} {op : Operation α}

theorem upholds_bind {k : α → Operation β} (hop : op.Upholds h out mid ds c) (hc : c.Sane)
    (herror : ∀ e ds c', c.Evolves c' → mid (.error e) ds c' → post (.error e) ds c')
    (hk : ∀ a ds c', c.Evolves c' → mid (.ok a) ds c' → (k a).Upholds h out post ds c') :
    (op >>= k).Upholds h out post ds c := by
  refine Program.Upholds.bind (k := ExceptT.bindCont k) hop hc ?_ ?_
  · rintro (e | a) ds c' hc' hmid
    · exact herror e ds c' hc' hmid
    · exact hk a ds c' hc' hmid
  · rintro _ c' - - ⟨e, rfl, he⟩
    exact ⟨.error e, c', rfl, e, rfl, he⟩

theorem run_outcome_bind {k : Except Error α → Operation β} :
    (outcome op >>= k).run = op.run.bind fun result => (k result).run :=
  Program.bind_assoc op.run _ _

/-- An operation that is run for its outcome: after a pause of it what comes next has to fail. -/
theorem upholds_outcome_bind {k : Except Error α → Operation β} (hop : op.Upholds h out mid ds c)
    (hc : c.Sane)
    (hk : ∀ result ds c', c.Evolves c' → mid result ds c' → (k result).Upholds h out post ds c')
    (hends : ∀ e c', c.Evolves c' → c'.Shut h → e.isReplicaFailure = false →
      (k (.error e)).Refuses c') :
    (outcome op >>= k).Upholds h out post ds c := by
  rw [Upholds, run_outcome_bind]
  refine Program.Upholds.bind hop hc hk ?_
  rintro _ c' hc' hshut ⟨e, rfl, he⟩
  exact hends e c' hc' hshut he

theorem upholds_get_bind {k : Connections → Operation α} (hk : (k c).Upholds h out mid ds c) :
    (get >>= k : Operation α).Upholds h out mid ds c :=
  hk

theorem upholds_modifyGet_bind {f : Connections → β × Connections} {k : β → Operation α}
    (hf : c.Evolves (f c).2) (hk : (k (f c).1).Upholds h out mid ds (f c).2) :
    (modifyGet f >>= k : Operation α).Upholds h out mid ds c :=
  ⟨hf, hk⟩

theorem upholds_modify_bind {f : Connections → Connections} {k : Unit → Operation α}
    (hf : c.Evolves (f c)) (hk : (k ()).Upholds h out mid ds (f c)) :
    (modify f >>= k : Operation α).Upholds h out mid ds c :=
  ⟨hf, hk⟩

theorem upholds_ofOutcome {outcome : Except Error α} (hpost : mid outcome ds c) :
    (ofOutcome outcome).Upholds h out mid ds c := by
  cases outcome with
  | ok a => exact hpost
  | error e => exact hpost

theorem upholds_expect [Described β] {expected : String} {pick : β → Option α} {received : β}
    (hpost : ∀ result, mid result ds c) :
    (expect expected pick received).Upholds h out mid ds c := by
  unfold expect
  cases pick received with
  | some a => exact hpost _
  | none => exact hpost _

end Rules

/-! ## §5  Operations that refuse -/

section Refusing

variable {op : Operation α}

theorem refuses_throw {e : Error} (he : e.isReplicaFailure = false) :
    (throw e : Operation α).Refuses c :=
  ⟨.error e, c, rfl, e, rfl, he⟩

theorem refuses_throw_bind {e : Error} {k : β → Operation α} (he : e.isReplicaFailure = false) :
    (throw e >>= k : Operation α).Refuses c :=
  ⟨.error e, c, rfl, e, rfl, he⟩

/-- Nothing comes after a refusal. -/
theorem Refuses.bind (hop : op.Refuses c) (k : α → Operation β) : (op >>= k).Refuses c := by
  obtain ⟨_, c', hadvance, e, rfl, he⟩ := hop
  exact ⟨.error e, c', advance_error_bind hadvance, e, rfl, he⟩

/-- A refusal is an outcome like others. -/
theorem Refuses.outcome_bind {k : Except Error α → Operation β} (hop : op.Refuses c)
    (hk : ∀ e c', op.run.advance c = (.ended (.error e), c') → e.isReplicaFailure = false →
      (k (.error e)).Refuses c') : (outcome op >>= k).Refuses c := by
  obtain ⟨_, c', hadvance, e, rfl, he⟩ := hop
  obtain ⟨result, c'', hadvance', hresult⟩ := hk e c' hadvance he
  refine ⟨result, c'', ?_, hresult⟩
  rw [advance_ok_bind (advance_outcome hadvance), hadvance']

theorem Refuses.onAbandon (hop : op.Refuses c) (cleanup : Connections → Connections) :
    (onAbandon cleanup op).Refuses c :=
  Program.Ends.onAbandon hop cleanup

theorem refuses_get_bind {k : Connections → Operation α} (hk : (k c).Refuses c) :
    (get >>= k : Operation α).Refuses c :=
  hk

theorem refuses_modifyGet_bind {f : Connections → β × Connections} {k : β → Operation α}
    (hk : (k (f c).1).Refuses (f c).2) : (modifyGet f >>= k : Operation α).Refuses c :=
  hk

theorem refuses_modify_bind {f : Connections → Connections} {k : Unit → Operation α}
    (hk : (k ()).Refuses (f c)) : (modify f >>= k : Operation α).Refuses c :=
  hk

theorem refuses_ofOutcome {e : Error} (he : e.isReplicaFailure = false) :
    (ofOutcome (.error e) : Operation α).Refuses c :=
  refuses_throw he

end Refusing

/-! ## §6  Quiet operations -/

/-- An operation connects no dispatcher, and what it comes to is good. -/
def Quiet (h : Nat) (good : α → Connections → Prop) (op : Operation α) (c : Connections) : Prop :=
  ∀ ds, op.Upholds h (fun ds' _ => ds' = ds)
    (fun result ds' c' => ds' = ds ∧ ∀ a, result = .ok a → good a c') ds c

section Quietly

variable {good : α → Connections → Prop} {better : β → Connections → Prop} {op : Operation α}

/-- What lasts is not changed by an operation that is quiet. -/
theorem Quiet.upholds (hop : Quiet h good op c) (hc : c.Sane) (hout : Lasting out)
    (hds : out ds c) :
    op.Upholds h out (fun result ds' c' => out ds' c' ∧ ∀ a, result = .ok a → good a c') ds c := by
  refine (hop ds).mono hc ?_ ?_ fun _ hfailed => hfailed
  · rintro ds' c' hc' rfl
    exact hout ds' c c' hc' hds
  · rintro result ds' c' hc' ⟨rfl, hgood⟩
    exact ⟨hout ds' c c' hc' hds, hgood⟩

theorem quiet_pure {a : α} (ha : good a c) : Quiet h good (pure a) c := by
  intro ds
  refine ⟨rfl, ?_⟩
  rintro _ ⟨⟩
  exact ha

theorem quiet_throw {e : Error} : Quiet h good (throw e : Operation α) c := by
  intro ds
  refine ⟨rfl, ?_⟩
  rintro _ ⟨⟩

theorem quiet_throw_bind {e : Error} {k : β → Operation α} :
    Quiet h good (throw e >>= k : Operation α) c := by
  intro ds
  refine ⟨rfl, ?_⟩
  rintro _ ⟨⟩

theorem quiet_ofOutcome {outcome : Except Error α} (hgood : ∀ a, outcome = .ok a → good a c) :
    Quiet h good (ofOutcome outcome) c :=
  fun _ => upholds_ofOutcome ⟨rfl, hgood⟩

theorem quiet_expect [Described β] {expected : String} {pick : β → Option α} {received : β} :
    Quiet h (fun _ _ => True) (expect expected pick received) c :=
  fun _ => upholds_expect fun _ => ⟨rfl, fun _ _ => trivial⟩

theorem Quiet.bind {k : α → Operation β} (hop : Quiet h good op c) (hc : c.Sane)
    (hk : ∀ a c', c.Evolves c' → good a c' → Quiet h better (k a) c') :
    Quiet h better (op >>= k) c := by
  intro ds
  refine upholds_bind (hop ds) hc ?_ ?_
  · rintro e ds' c' - ⟨hds, -⟩
    exact ⟨hds, by rintro _ ⟨⟩⟩
  · rintro a _ c' hc' ⟨rfl, hgood⟩
    exact hk a c' hc' (hgood a rfl) _

theorem Quiet.outcome_bind {k : Except Error α → Operation β} (hop : Quiet h good op c)
    (hc : c.Sane)
    (hk : ∀ result c', c.Evolves c' → (∀ a, result = .ok a → good a c') →
      Quiet h better (k result) c')
    (hends : ∀ e c', c.Evolves c' → c'.Shut h → e.isReplicaFailure = false →
      (k (.error e)).Refuses c') :
    Quiet h better (outcome op >>= k) c := by
  intro ds
  refine upholds_outcome_bind (hop ds) hc ?_ hends
  rintro result _ c' hc' ⟨rfl, hgood⟩
  exact hk result c' hc' hgood _

theorem Quiet.onAbandon {cleanup : Connections → Connections} (hop : Quiet h good op c)
    (hc : c.Sane) (hcleanup : ∀ c : Connections, c.Sane → c.Evolves (cleanup c)) :
    Quiet h good (onAbandon cleanup op) c :=
  fun ds => (hop ds).onAbandon hc fun _ c' hc' hds => ⟨hcleanup c' hc'.sane, hds⟩

theorem quiet_get_bind {k : Connections → Operation α} (hk : Quiet h good (k c) c) :
    Quiet h good (get >>= k) c :=
  hk

theorem quiet_modifyGet_bind {f : Connections → β × Connections} {k : β → Operation α}
    (hf : c.Evolves (f c).2) (hk : Quiet h good (k (f c).1) (f c).2) :
    Quiet h good (modifyGet f >>= k) c :=
  fun ds => ⟨hf, hk ds⟩

theorem quiet_modifyGet {f : Connections → α × Connections} (hf : c.Evolves (f c).2)
    (hgood : good (f c).1 (f c).2) : Quiet h good (modifyGet f) c := by
  intro ds
  refine ⟨hf, rfl, ?_⟩
  rintro _ ⟨⟩
  exact hgood

theorem quiet_modify_bind {f : Connections → Connections} {k : Unit → Operation α}
    (hf : c.Evolves (f c)) (hk : Quiet h good (k ()) (f c)) :
    Quiet h good (modify f >>= k) c :=
  fun ds => ⟨hf, hk ds⟩

/-- A wait that connects nothing and is no pause. -/
theorem quiet_perform {e : Effect} (hlocal : c.Shut h → e.isLocal = true)
    (hpause : e.isPause = false) (hdials : e.dials = []) :
    Quiet h (fun _ _ => True) (ExceptT.lift (Program.perform e)) c := by
  intro ds
  have hds : ds ++ e.dials = ds := by rw [hdials, List.append_nil]
  refine ⟨hlocal, ?_, ?_, ?_⟩
  · exact fun c₁ hc₁ => ⟨.refl hc₁.sane, hds⟩
  · exact fun reply c₁ _ => ⟨hds, fun _ _ => trivial⟩
  · rw [hpause]
    exact fun he => absurd he Bool.false_ne_true

/-- Work of the application with a client. -/
theorem quiet_work {client : Nat} {first : Bool} :
    Quiet h (fun _ _ => True) (ExceptT.mk (Program.perform (.work client first))) c := by
  intro ds
  have hds : ds ++ (Effect.work client first).dials = ds := List.append_nil ds
  refine ⟨fun _ => rfl, ?_, ?_, ?_⟩
  · exact fun c₁ hc₁ => ⟨.refl hc₁.sane, hds⟩
  · exact fun reply c₁ _ => ⟨hds, fun _ _ => trivial⟩
  · exact fun he => absurd he Bool.false_ne_true

/-- After a pause what comes next has to fail if the hub was shut meanwhile. -/
theorem quiet_pause_bind {millis : Nat} {k : Unit → Operation α}
    (hk : ∀ c', c.Evolves c' → Quiet h good (k ()) c')
    (hends : ∀ c', c.Evolves c' → c'.Shut h → (k ()).Refuses c') :
    Quiet h good (pause millis >>= k) c := by
  intro ds
  have hds : ds ++ (Effect.pause millis).dials = ds := List.append_nil ds
  refine ⟨fun _ => rfl, ?_, ?_, ?_⟩
  · exact fun c₁ hc₁ => ⟨.refl hc₁.sane, hds⟩
  · intro reply c₁ hc₁
    rw [hds]
    exact hk c₁ hc₁ ds
  · exact fun _ reply c₁ hc₁ hshut => hends c₁ hc₁ hshut

end Quietly

/-! ### Asking a server -/

section Asking

variable {i : Nat} {request : UnaryRequest}

theorem clientIsOpen_of_shut (hi : c.ClientOn h i) (hshut : c.Shut h) :
    c.clientIsOpen i = false := by
  rw [Connections.clientIsOpen, hi.2, show (c.hub h).transmitter.isOpen = false from hshut,
    Bool.and_false]

/-- A client asks its server only while its hub is open. -/
theorem upholds_call (fails : Except Error UnaryResponse → Prop) (hi : c.ClientOn h i)
    (ds : List Line) :
    (call i request).run.Upholds h fails (fun ds' _ => ds' = ds) (fun _ ds' _ => ds' = ds) ds
      c := by
  rw [call]
  show (if c.clientIsOpen i then _ else _ : Operation UnaryResponse).run.Upholds ..
  split
  · rename_i hopen
    have hds : ds ++ (Effect.call (c.client i).address request).dials = ds := List.append_nil ds
    refine ⟨?_, ?_, ?_, ?_⟩
    · intro hshut
      rw [clientIsOpen_of_shut hi hshut] at hopen
      exact absurd hopen Bool.false_ne_true
    · exact fun c₁ hc₁ => ⟨.refl hc₁.sane, hds⟩
    · exact fun reply c₁ _ => hds
    · exact fun he => absurd he Bool.false_ne_true
  · exact rfl

theorem quiet_call (hc : c.Sane) (hi : c.ClientOn h i) :
    Quiet h (fun _ _ => True) (call i request) c := by
  intro ds
  refine (upholds_call Failed hi ds).mono hc (fun _ _ _ hds => hds) ?_ fun _ hfailed => hfailed
  exact fun _ _ _ _ hds => ⟨hds, fun _ _ => trivial⟩

/-- Where the hub is shut, no server is asked. -/
theorem advance_call_of_shut (hi : c.ClientOn h i) (hshut : c.Shut h) :
    (call i request).run.advance c = (.ended (.error .clientClosed), c) := by
  rw [call, advance_get_bind, clientIsOpen_of_shut hi hshut, if_neg Bool.false_ne_true]
  rfl

theorem refuses_call (hi : c.ClientOn h i) (hshut : c.Shut h) : (call i request).Refuses c :=
  ⟨_, _, advance_call_of_shut hi hshut, .clientClosed, rfl, rfl⟩

end Asking

/-! ## §7  Operations that need a server -/

/-- Over what is there, an operation is quiet and comes to something good; where the hub is shut, it
refuses. -/
structure Needs (on : Nat → Connections → Prop) (good : Nat → α → Connections → Prop)
    (op : Operation α) : Prop where
  quiet : ∀ {h c}, c.Sane → on h c → Quiet h (good h) op c
  refuses : ∀ {h c}, c.Sane → on h c → c.Shut h → op.Refuses c

section Needing

variable {on : Nat → Connections → Prop} {good : Nat → α → Connections → Prop}
  {better : Nat → β → Connections → Prop} {op : Operation α}

theorem Needs.bind (hop : Needs on good op) {k : α → Operation β}
    (hk : ∀ {h c} a, c.Sane → good h a c → Quiet h (better h) (k a) c) :
    Needs on better (op >>= k) where
  quiet hc hon := (hop.quiet hc hon).bind hc fun a _ hc' hgood => hk a hc'.sane hgood
  refuses hc hon hshut := (hop.refuses hc hon hshut).bind k

theorem Needs.expect [Described α] (hop : Needs on good op) {expected : String}
    {pick : α → Option β} : Needs on (fun _ _ _ => True) (op >>= Operation.expect expected pick) :=
  hop.bind fun _ _ _ => quiet_expect

/-- The answer is not looked at. -/
theorem Needs.discarding (hop : Needs on good op) :
    Needs on (fun _ _ _ => True) (op >>= fun _ => pure ()) :=
  hop.bind fun _ _ _ => quiet_pure trivial

theorem needs_call {i : Nat} {request : UnaryRequest} :
    Needs (fun h c => c.ClientOn h i) (fun _ _ _ => True) (call i request) :=
  ⟨quiet_call, fun _ => refuses_call⟩

end Needing

end Operation

end GraphDriver
