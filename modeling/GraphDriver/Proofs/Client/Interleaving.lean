import GraphDriver.Proofs.Client.Runs
import Mathlib.Data.List.Forall2
import Mathlib.Data.List.Induction

/-!
# Interleavings

Calls that are under way at the same time. A call goes on up to its next wait at once, and while it
waits the others change the state. What a call does to the state is described by a conduct: the
changes it may make and the waits it may enter, as it goes through stages of which only the proofs
know.

* §1 how a call stands
* §2 conduct
* §3 programs that keep to a conduct
* §4 operations that keep to a conduct
* §5 scenes
* §6 one turn of a scene
-/

namespace GraphDriver

variable {α β : Type}

/-! ## §1  How a call stands -/

/-- How a call stands: it is over, it waits, or it was given up at a wait. -/
inductive Standing (α : Type) where
  | ended (a : α)
  | waiting (e : Effect) (abandoned : Connections → Connections) (next : e.Reply → Program α)
  | givenUp

namespace Standing

def isUnderWay : Standing α → Bool
  | .waiting .. => true
  | .ended _ | .givenUp => false

/-- What a call waits for. -/
def effect? : Standing α → Option Effect
  | .waiting e _ _ => some e
  | .ended _ | .givenUp => none

def result? : Standing α → Option α
  | .ended a => some a
  | .waiting .. | .givenUp => none

end Standing

namespace Program

/-- Goes on with a program up to its first wait. -/
def advance : Program α → Connections → Standing α × Connections
  | .done a, c => (.ended a, c)
  | .read next, c => (next c).advance c
  | .write c next, _ => next.advance c
  | .await e abandoned next, c => (.waiting e abandoned next, c)

/-- The states through which a program goes up to its first wait. -/
def passed : Program α → Connections → List Connections
  | .done _, c => [c]
  | .read next, c => (next c).passed c
  | .write c' next, c => c :: next.passed c'
  | .await _ _ _, c => [c]

theorem mem_passed (p : Program α) (c : Connections) : c ∈ p.passed c := by
  induction p with
  | done a => exact List.mem_singleton_self c
  | read next ih => exact ih c
  | write c' next ih => exact List.mem_cons_self
  | await e abandoned next ih => exact List.mem_singleton_self c

/-- A program that is over goes on with what comes after it; one that waits, waits. -/
theorem advance_bind (p : Program α) (k : α → Program β) (c : Connections) :
    (p.bind k).advance c =
      match p.advance c with
      | (.ended a, c') => (k a).advance c'
      | (.waiting e abandoned next, c') => (.waiting e abandoned fun r => (next r).bind k, c')
      | (.givenUp, c') => (.givenUp, c') := by
  induction p generalizing c with
  | done a => rfl
  | read next ih => exact ih c c
  | write c' next ih => exact ih c'
  | await e abandoned next ih => rfl

theorem advance_onAbandon (p : Program α) (cleanup : Connections → Connections) (c : Connections) :
    (p.onAbandon cleanup).advance c =
      match p.advance c with
      | (.ended a, c') => (.ended a, c')
      | (.waiting e abandoned next, c') =>
        (.waiting e (fun c => cleanup (abandoned c)) fun r => (next r).onAbandon cleanup, c')
      | (.givenUp, c') => (.givenUp, c') := by
  induction p generalizing c with
  | done a => rfl
  | read next ih => exact ih c c
  | write c' next ih => exact ih c'
  | await e abandoned next ih => rfl

/-- A program goes on up to a wait, in which it leaves the state `c'`. -/
def Waits (p : Program α) (c c' : Connections) : Prop :=
  (p.advance c).1.isUnderWay = true ∧ (p.advance c).2 = c'

theorem Waits.bind {p : Program α} {c c' : Connections} (h : p.Waits c c') (k : α → Program β) :
    (p.bind k).Waits c c' := by
  rw [Waits, advance_bind]
  revert h
  rw [Waits]
  rcases p.advance c with ⟨standing, c₁⟩
  cases standing with
  | waiting e abandoned next => exact id
  | ended a => exact fun h => Bool.noConfusion h.1
  | givenUp => exact fun h => Bool.noConfusion h.1

theorem Waits.onAbandon {p : Program α} {c c' : Connections} (h : p.Waits c c')
    (cleanup : Connections → Connections) : (p.onAbandon cleanup).Waits c c' := by
  rw [Waits, advance_onAbandon]
  revert h
  rw [Waits]
  rcases p.advance c with ⟨standing, c₁⟩
  cases standing with
  | waiting e abandoned next => exact id
  | ended a => exact fun h => Bool.noConfusion h.1
  | givenUp => exact fun h => Bool.noConfusion h.1

end Program

namespace Operation

variable {op : Operation α} {k : α → Operation β} {c c' : Connections}
  {result : Except Error α}

theorem advance_get_bind {k : Connections → Operation α} :
    (get >>= k : Operation α).run.advance c = (k c).run.advance c :=
  rfl

theorem advance_modifyGet_bind {f : Connections → α × Connections} :
    (modifyGet f >>= k).run.advance c = (k (f c).1).run.advance (f c).2 :=
  rfl

theorem advance_modify_bind {f : Connections → Connections} {k : Unit → Operation α} :
    (modify f >>= k).run.advance c = (k ()).run.advance (f c) :=
  rfl

theorem advance_error_bind {e : Error} (h : op.run.advance c = (.ended (.error e), c')) :
    (op >>= k).run.advance c = (.ended (.error e), c') := by
  refine (Program.advance_bind op.run (ExceptT.bindCont k) c).trans ?_
  rw [h]
  rfl

theorem advance_ok_bind {a : α} (h : op.run.advance c = (.ended (.ok a), c')) :
    (op >>= k).run.advance c = (k a).run.advance c' := by
  refine (Program.advance_bind op.run (ExceptT.bindCont k) c).trans ?_
  rw [h]
  rfl

theorem advance_outcome (h : op.run.advance c = (.ended result, c')) :
    (outcome op).run.advance c = (.ended (.ok result), c') := by
  refine (Program.advance_bind op.run (fun r => .done (Except.ok r)) c).trans ?_
  rw [h]
  rfl

theorem advance_ofOutcome : (ofOutcome result).run.advance c = (.ended result, c) := by
  cases result <;> rfl

theorem advance_onAbandon {cleanup : Connections → Connections}
    (h : op.run.advance c = (.ended result, c')) :
    (onAbandon cleanup op).run.advance c = (.ended result, c') := by
  refine (Program.advance_onAbandon op.run cleanup c).trans ?_
  rw [h]

theorem waits_bind (h : op.run.Waits c c') : (op >>= k).run.Waits c c' :=
  h.bind (ExceptT.bindCont k)

theorem waits_outcome (h : op.run.Waits c c') : (outcome op).run.Waits c c' :=
  h.bind fun r => .done (Except.ok r)

/-- Asking a server: it has to be waited for, or there is no client. -/
theorem advance_call {client : Nat} {request : UnaryRequest} :
    (call client request).run.advance c = (.ended (.error .clientClosed), c) ∨
      (call client request).run.Waits c c := by
  rw [call, Program.Waits, advance_get_bind]
  cases c.clientIsOpen client with
  | false => exact .inl rfl
  | true => exact .inr ⟨rfl, rfl⟩

theorem waits_onAbandon (h : op.run.Waits c c') (cleanup : Connections → Connections) :
    (onAbandon cleanup op).run.Waits c c' :=
  h.onAbandon cleanup

end Operation

/-! ## §2  Conduct -/

/-- What a call may do in a stage, and the stage that comes next. -/
structure Conduct (γ : Type) where
  change : γ → Connections → γ → Connections → Prop
  /-- What is noticed without a change. -/
  notice : γ → Connections → γ → Prop
  wait : γ → Connections → Effect → γ → Prop

variable {γ : Type} {D : Conduct γ}

namespace Conduct

/-- Changes one after the other. -/
inductive Leads (D : Conduct γ) : γ → Connections → γ → Connections → Prop
  | refl (g : γ) (c : Connections) : Leads D g c g c
  | change {g g₁ g' : γ} {c c₁ c' : Connections} (h : D.change g c g₁ c₁)
      (later : Leads D g₁ c₁ g' c') : Leads D g c g' c'

/-- Changes one after the other, with what is noticed in some states between them. -/
inductive Path (D : Conduct γ) (seen : Connections → Prop) :
    γ → Connections → γ → Connections → Prop
  | refl (g : γ) (c : Connections) : Path D seen g c g c
  | change {g g₁ g' : γ} {c c₁ c' : Connections} (h : D.change g c g₁ c₁)
      (later : Path D seen g₁ c₁ g' c') : Path D seen g c g' c'
  | notice {g g₁ g' : γ} {c c' : Connections} (h : D.notice g c g₁) (hseen : seen c)
      (later : Path D seen g₁ c g' c') : Path D seen g c g' c'

variable {seen seen' : Connections → Prop} {g g₁ g' : γ} {c c₁ c' : Connections}

theorem Leads.one (h : D.change g c g' c') : D.Leads g c g' c' := .change h (.refl g' c')

theorem Leads.trans (h : D.Leads g c g₁ c₁) (h' : D.Leads g₁ c₁ g' c') : D.Leads g c g' c' := by
  induction h with
  | refl g c => exact h'
  | change h later ih => exact .change h (ih h')

theorem Leads.path (h : D.Leads g c g' c') : D.Path seen g c g' c' := by
  induction h with
  | refl g c => exact .refl g c
  | change h later ih => exact .change h ih

theorem Path.trans (h : D.Path seen g c g₁ c₁) (h' : D.Path seen g₁ c₁ g' c') :
    D.Path seen g c g' c' := by
  induction h with
  | refl g c => exact h'
  | change h later ih => exact .change h (ih h')
  | notice h hseen later ih => exact .notice h hseen (ih h')

theorem Path.mono (h : D.Path seen g c g' c') (himp : ∀ c, seen c → seen' c) :
    D.Path seen' g c g' c' := by
  induction h with
  | refl g c => exact .refl g c
  | change h later ih => exact .change h ih
  | notice h hseen later ih => exact .notice h (himp _ hseen) ih

end Conduct

/-! ## §3  Programs that keep to a conduct -/

/-- A program keeps to a conduct from a stage on: it ends in a stage that suits its result, and
whoever gives it up at a wait leaves by a stage that is a way out. -/
def Program.Obeys (D : Conduct γ) (out : γ → Prop) (post : α → γ → Prop) :
    Program α → γ → Connections → Prop
  | .done a, g, _ => post a g
  | .read next, g, c => ∃ g', (g' = g ∨ D.notice g c g') ∧ (next c).Obeys D out post g' c
  | .write c' next, g, c => ∃ g', D.Leads g c g' c' ∧ next.Obeys D out post g' c'
  | .await e abandoned next, g, c => ∃ g', D.wait g c e g' ∧
      (∀ c₁, ∃ g₁, D.Leads g' c₁ g₁ (abandoned c₁) ∧ out g₁) ∧
      ∀ reply c₁, (next reply).Obeys D out post g' c₁

/-- A call keeps to a conduct, as it stands. -/
def Standing.Obeys (D : Conduct γ) (out : γ → Prop) (post : α → γ → Prop) :
    Standing α → γ → Prop
  | .ended a, g => post a g
  | .waiting _ abandoned next, g =>
      (∀ c, ∃ g', D.Leads g c g' (abandoned c) ∧ out g') ∧
      ∀ reply c, (next reply).Obeys D out post g c
  | .givenUp, g => out g

/-- How a call comes to stand as it does in a state. -/
def Standing.Reached (D : Conduct γ) : Standing α → γ → Connections → γ → Prop
  | .waiting e _ _, g, c, g' => D.wait g c e g'
  | .ended _, g, _, g' | .givenUp, g, _, g' => g' = g

namespace Program

variable {out out' : γ → Prop} {post post' : α → γ → Prop} {p : Program α} {g : γ}
  {c : Connections}

/-- A program that keeps to a conduct goes on to its first wait by a path of it. -/
theorem Obeys.advance (h : p.Obeys D out post g c) :
    ∃ g₁ g', D.Path (· ∈ p.passed c) g c g₁ (p.advance c).2 ∧
      (p.advance c).1.Reached D g₁ (p.advance c).2 g' ∧ (p.advance c).1.Obeys D out post g' := by
  induction p generalizing g c with
  | done a => exact ⟨g, g, .refl g c, rfl, h⟩
  | read next ih =>
      obtain ⟨g₀, hg₀, h⟩ := h
      obtain ⟨g₁, g', hpath, hreached, hstands⟩ := ih c h
      refine ⟨g₁, g', ?_, hreached, hstands⟩
      rcases hg₀ with rfl | hnotice
      · exact hpath
      · exact .notice hnotice (mem_passed (next c) c) hpath
  | write c' next ih =>
      obtain ⟨g₀, hleads, h⟩ := h
      obtain ⟨g₁, g', hpath, hreached, hstands⟩ := ih h
      exact ⟨g₁, g', hleads.path.trans (hpath.mono fun _ => List.mem_cons_of_mem c), hreached,
        hstands⟩
  | await e abandoned next ih =>
      obtain ⟨g', hwait, hleave, hnext⟩ := h
      exact ⟨g, g', .refl g c, hwait, hleave, hnext⟩

theorem Obeys.mono (h : p.Obeys D out post g c) (hout : ∀ g, out g → out' g)
    (hpost : ∀ a g, post a g → post' a g) : p.Obeys D out' post' g c := by
  induction p generalizing g c with
  | done a => exact hpost a g h
  | read next ih =>
      obtain ⟨g', hg', h⟩ := h
      exact ⟨g', hg', ih c h⟩
  | write c' next ih =>
      obtain ⟨g', hleads, h⟩ := h
      exact ⟨g', hleads, ih h⟩
  | await e abandoned next ih =>
      obtain ⟨g', hwait, hleave, hnext⟩ := h
      refine ⟨g', hwait, fun c₁ => ?_, fun reply c₁ => ih reply (hnext reply c₁)⟩
      obtain ⟨g₁, hleads, hg₁⟩ := hleave c₁
      exact ⟨g₁, hleads, hout g₁ hg₁⟩

/-- A program that goes on keeps to a conduct as its parts do. -/
theorem Obeys.bind {k : α → Program β} {post' : β → γ → Prop} (h : p.Obeys D out post g c)
    (hk : ∀ a g c, post a g → (k a).Obeys D out post' g c) :
    (p.bind k).Obeys D out post' g c := by
  induction p generalizing g c with
  | done a => exact hk a g c h
  | read next ih =>
      obtain ⟨g', hg', h⟩ := h
      exact ⟨g', hg', ih c h⟩
  | write c' next ih =>
      obtain ⟨g', hleads, h⟩ := h
      exact ⟨g', hleads, ih h⟩
  | await e abandoned next ih =>
      obtain ⟨g', hwait, hleave, hnext⟩ := h
      exact ⟨g', hwait, hleave, fun reply c₁ => ih reply (hnext reply c₁)⟩

theorem obeys_get_bind {k : Connections → Program α} (hk : (k c).Obeys D out post g c) :
    (get >>= k : Program α).Obeys D out post g c :=
  ⟨g, .inl rfl, hk⟩

theorem obeys_modify_bind {f : Connections → Connections} {k : Unit → Program α} {g' : γ}
    (hf : D.Leads g c g' (f c)) (hk : (k ()).Obeys D out post g' (f c)) :
    (modify f >>= k : Program α).Obeys D out post g c :=
  ⟨g, .inl rfl, g', hf, hk⟩

theorem obeys_modify {f : Connections → Connections} {how : Unit → γ → Prop} {g' : γ}
    (hf : D.Leads g c g' (f c)) (hpost : how () g') :
    (modify f : Program Unit).Obeys D out how g c :=
  ⟨g, .inl rfl, g', hf, hpost⟩

/-- What is to be done if a program is given up leads on to another way out. -/
theorem Obeys.onAbandon {cleanup : Connections → Connections} (h : p.Obeys D out post g c)
    (hout : ∀ g c, out g → ∃ g', D.Leads g c g' (cleanup c) ∧ out' g') :
    (p.onAbandon cleanup).Obeys D out' post g c := by
  induction p generalizing g c with
  | done a => exact h
  | read next ih =>
      obtain ⟨g', hg', h⟩ := h
      exact ⟨g', hg', ih c h⟩
  | write c' next ih =>
      obtain ⟨g', hleads, h⟩ := h
      exact ⟨g', hleads, ih h⟩
  | await e abandoned next ih =>
      obtain ⟨g', hwait, hleave, hnext⟩ := h
      refine ⟨g', hwait, fun c₁ => ?_, fun reply c₁ => ih reply (hnext reply c₁)⟩
      obtain ⟨g₁, hleads, hg₁⟩ := hleave c₁
      obtain ⟨g₂, hleads', hg₂⟩ := hout g₁ (abandoned c₁) hg₁
      exact ⟨g₂, hleads.trans hleads', hg₂⟩

end Program

/-! ## §4  Operations that keep to a conduct -/

namespace Operation

variable {out out' : γ → Prop} {g : γ}

theorem obeys_bind {how : Except Error α → γ → Prop} {how' : Except Error β → γ → Prop}
    {op : Operation α} {k : α → Operation β} {c : Connections} (hop : op.run.Obeys D out how g c)
    (herror : ∀ e g, how (.error e) g → how' (.error e) g)
    (hk : ∀ a g c, how (.ok a) g → (k a).run.Obeys D out how' g c) :
    (op >>= k).run.Obeys D out how' g c := by
  refine Program.Obeys.bind (k := ExceptT.bindCont k) hop ?_
  rintro (e | a) g₁ c₁ hg₁
  · exact herror e g₁ hg₁
  · exact hk a g₁ c₁ hg₁

theorem obeys_get_bind {how : Except Error α → γ → Prop} {k : Connections → Operation α}
    {c : Connections} (hk : (k c).run.Obeys D out how g c) :
    (get >>= k : Operation α).run.Obeys D out how g c :=
  ⟨g, .inl rfl, hk⟩

theorem obeys_notice_bind {how : Except Error α → γ → Prop} {k : Connections → Operation α}
    {c : Connections} {g' : γ} (hnotice : D.notice g c g')
    (hk : (k c).run.Obeys D out how g' c) :
    (get >>= k : Operation α).run.Obeys D out how g c :=
  ⟨g', .inr hnotice, hk⟩

/-- From one stage on, an operation keeps to a conduct in every state; its result tells the stage in
which it ends. -/
def Passes (D : Conduct γ) (out : γ → Prop) (g : γ) (post : Except Error α → γ)
    (op : Operation α) : Prop :=
  ∀ c, op.run.Obeys D out (fun result g' => g' = post result) g c

variable {post : Except Error α → γ} {post' : Except Error β → γ} {op : Operation α}

theorem Passes.congr {same : Except Error α → γ} (hop : Passes D out g post op)
    (h : ∀ result, post result = same result) : Passes D out g same op := by
  rwa [← funext h]

theorem Passes.bind {k : α → Operation β} (hop : Passes D out g post op)
    (herror : ∀ e, post (.error e) = post' (.error e))
    (hk : ∀ a, Passes D out (post (.ok a)) post' (k a)) : Passes D out g post' (op >>= k) := by
  intro c
  refine obeys_bind (hop c) ?_ ?_
  · rintro e _ rfl
    exact herror e
  · rintro a _ c₁ rfl
    exact hk a c₁

theorem passes_pure {a : α} (h : post (.ok a) = g) : Passes D out g post (pure a) :=
  fun _ => h.symm

theorem passes_throw {e : Error} (h : post (.error e) = g) : Passes D out g post (throw e) :=
  fun _ => h.symm

theorem passes_throw_bind {e : Error} {k : β → Operation α} (h : post (.error e) = g) :
    Passes D out g post (throw e >>= k) :=
  fun _ => h.symm

theorem passes_ofOutcome {outcome : Except Error α} (h : post outcome = g) :
    Passes D out g post (ofOutcome outcome) := by
  cases outcome with
  | ok a => exact passes_pure h
  | error e => exact passes_throw h

theorem passes_expect [Described β] {expected : String} {pick : β → Option α} {received : β}
    (h : ∀ result, post result = g) : Passes D out g post (expect expected pick received) := by
  unfold expect
  cases pick received with
  | some a => exact passes_pure (h _)
  | none => exact passes_throw (h _)

/-- What runs for its outcome does not fail. -/
theorem Passes.outcome {whole : Except Error (Except Error α) → γ} (hop : Passes D out g post op)
    (h : ∀ result, post result = whole (.ok result)) : Passes D out g whole (outcome op) := by
  refine fun c => (hop c).bind ?_
  rintro result _ c₁ rfl
  exact h result

theorem passes_get_bind {k : Connections → Operation α} (hk : ∀ c, Passes D out g post (k c)) :
    Passes D out g post (get >>= k) :=
  fun c => ⟨g, .inl rfl, hk c c⟩

theorem passes_modifyGet {f : Connections → α × Connections}
    (hf : ∀ c, D.Leads g c (post (.ok (f c).1)) (f c).2) :
    Passes D out g post (modifyGet f) :=
  fun c => ⟨g, .inl rfl, _, hf c, rfl⟩

theorem passes_modify_bind {f : Connections → Connections} {k : Unit → Operation α} {g' : γ}
    (hf : ∀ c, D.Leads g c g' (f c)) (hk : Passes D out g' post (k ())) :
    Passes D out g post (modify f >>= k) :=
  fun c => ⟨g, .inl rfl, g', hf c, hk (f c)⟩

theorem Passes.onAbandon {cleanup : Connections → Connections} (hop : Passes D out g post op)
    (hout : ∀ g c, out g → ∃ g', D.Leads g c g' (cleanup c) ∧ out' g') :
    Passes D out' g post (onAbandon cleanup op) :=
  fun c => (hop c).onAbandon hout

/-- A wait that leaves the stage as it is, with nothing to be done if it is given up. -/
theorem passes_perform {e : Effect} (hwait : ∀ c, D.wait g c e g) (hout : out g) :
    Passes D out g (fun _ => g) (ExceptT.lift (Program.perform e)) :=
  fun c => ⟨g, hwait c, fun c₁ => ⟨g, .refl g c₁, hout⟩, fun _ _ => rfl⟩

end Operation

/-! ## §5  Scenes -/

/-- Calls that were begun one after the other, for errands, and the state that they share. -/
structure Scene (ε α : Type) where
  connections : Connections
  calls : List (ε × Standing α) := []

namespace Scene

/-- What can happen next. A call that goes on may learn any answer to what it waits for. -/
inductive Turn (ε : Type) where
  | begins (errand : ε)
  | learns (i : Nat) (reply : (e : Effect) → e.Reply)
  | leaves (i : Nat)
  /-- Others change the state. -/
  | others (change : Connections → Connections)

variable {ε : Type} (program : ε → Program α)

/-- Which call goes on in a turn, and with which program. -/
def going? (x : Scene ε α) : Turn ε → Option (Nat × ε × Program α)
  | .begins errand => some (x.calls.length, errand, program errand)
  | .learns i reply =>
    match x.calls[i]? with
    | some (errand, .waiting e _ next) => some (i, errand, next (reply e))
    | _ => none
  | .leaves _ | .others _ => none

/-- The state after a call went on as far as it could. -/
def goneOn (x : Scene ε α) (i : Nat) (errand : ε) (p : Program α) : Scene ε α :=
  let (standing, connections) := p.advance x.connections
  { connections, calls := x.calls.take i ++ (errand, standing) :: x.calls.drop (i + 1) }

def step (x : Scene ε α) (turn : Turn ε) : Scene ε α :=
  match x.going? program turn with
  | some (i, errand, p) => x.goneOn i errand p
  | none =>
    match turn with
    | .leaves i =>
      match x.calls[i]? with
      | some (errand, .waiting _ abandoned _) =>
        { connections := abandoned x.connections
          calls := x.calls.take i ++ (errand, .givenUp) :: x.calls.drop (i + 1) }
      | _ => x
    | .others change => { x with connections := change x.connections }
    | .begins _ | .learns _ _ => x

def run (x : Scene ε α) (turns : List (Turn ε)) : Scene ε α := turns.foldl (step program) x

/-- What a call waits for that went on in a turn. -/
def asked? (x : Scene ε α) (turn : Turn ε) : Option Effect :=
  (x.going? program turn).bind fun (_, _, p) => (p.advance x.connections).1.effect?

/-- The states through which a call goes in a turn. -/
def passed (x : Scene ε α) (turn : Turn ε) : List Connections :=
  match x.going? program turn with
  | some (_, _, p) => p.passed x.connections
  | none => []

theorem run_snoc (x : Scene ε α) (turns : List (Turn ε)) (turn : Turn ε) :
    x.run program (turns ++ [turn]) = (x.run program turns).step program turn := by
  simp [run]

variable {program} {γ : Type} {D : ε → Conduct γ} {out : γ → Prop} {post : α → γ → Prop}
  {x : Scene ε α} {stages : List γ} {start : γ}

/-! ## §6  One turn of a scene -/

/-- Every call keeps to the conduct of its errand, as it stands. -/
def Keeps (D : ε → Conduct γ) (out : γ → Prop) (post : α → γ → Prop) (x : Scene ε α)
    (stages : List γ) : Prop :=
  List.Forall₂ (fun call g => call.2.Obeys (D call.1) out post g) x.calls stages

theorem forall₂_split {δ : Type} {R : α → δ → Prop} {front back : List α} {a : α} {bs : List δ}
    (h : List.Forall₂ R (front ++ a :: back) bs) :
    ∃ front' b back', bs = front' ++ b :: back' ∧
      List.Forall₂ R front front' ∧ R a b ∧ List.Forall₂ R back back' := by
  induction front generalizing bs with
  | nil =>
      obtain _ | ⟨hab, hback⟩ := h
      exact ⟨[], _, _, rfl, .nil, hab, hback⟩
  | cons first front ih =>
      obtain _ | ⟨hfirst, hrest⟩ := h
      obtain ⟨front', b, back', rfl, hfront, hab, hback⟩ := ih hrest
      exact ⟨_ :: front', b, back', rfl, .cons hfirst hfront, hab, hback⟩

/-- The calls before one of them, that one, and those behind it. -/
theorem calls_eq {i : Nat} {call : ε × Standing α} (hcall : x.calls[i]? = some call) :
    x.calls = x.calls.take i ++ call :: x.calls.drop (i + 1) := by
  obtain ⟨hi, rfl⟩ := List.getElem?_eq_some_iff.mp hcall
  rw [List.getElem_cons_drop, List.take_append_drop]

theorem step_of_going {turn : Turn ε} {i : Nat} {errand : ε} {p : Program α}
    (hgoing : x.going? program turn = some (i, errand, p)) :
    x.step program turn = x.goneOn i errand p ∧
      x.passed program turn = p.passed x.connections ∧
      x.asked? program turn = (p.advance x.connections).1.effect? := by
  refine ⟨?_, ?_, ?_⟩
  · unfold step
    rw [hgoing]
  · unfold passed
    rw [hgoing]
  · unfold asked?
    rw [hgoing]
    rfl

theorem step_leaves (x : Scene ε α) (i : Nat) :
    x.step program (.leaves i) =
      match x.calls[i]? with
      | some (errand, .waiting _ abandoned _) =>
        { connections := abandoned x.connections
          calls := x.calls.take i ++ (errand, .givenUp) :: x.calls.drop (i + 1) }
      | _ => x :=
  rfl

/-- A call that begins goes on as far as it can. -/
theorem step_begins (x : Scene ε α) (errand : ε) :
    x.step program (.begins errand) =
      { connections := ((program errand).advance x.connections).2
        calls := x.calls ++ [(errand, ((program errand).advance x.connections).1)] } := by
  show x.goneOn x.calls.length errand (program errand) = _
  simp [goneOn]

/-- After a turn the calls stand as before, but for the one that goes on or is given up. -/
theorem mem_calls_step {x : Scene ε α} {turn : Turn ε} {call : ε × Standing α}
    (hcall : call ∈ (x.step program turn).calls) :
    call ∈ x.calls ∨ call.2 = .givenUp ∨ ∃ i errand p,
      x.going? program turn = some (i, errand, p) ∧
        call = (errand, (p.advance x.connections).1) := by
  have hreplaced {i : Nat} {call' : ε × Standing α}
      (hmem : call ∈ x.calls.take i ++ call' :: x.calls.drop (i + 1)) :
      call ∈ x.calls ∨ call = call' := by
    rcases List.mem_append.mp hmem with hmem | hmem
    · exact .inl (List.mem_of_mem_take hmem)
    · rcases List.mem_cons.mp hmem with heq | hmem
      · exact .inr heq
      · exact .inl (List.mem_of_mem_drop hmem)
  unfold step at hcall
  split at hcall
  · rename_i i errand p hgoing
    rcases hreplaced hcall with hmem | heq
    · exact .inl hmem
    · exact .inr (.inr ⟨i, errand, p, hgoing, heq⟩)
  · split at hcall
    · split at hcall
      · rcases hreplaced hcall with hmem | rfl
        · exact .inl hmem
        · exact .inr (.inl rfl)
      · exact .inl hcall
    · exact .inl hcall
    · exact .inl hcall
    · exact .inl hcall

/-- The errands of a scene are those of the calls that were begun. -/
theorem errands_step (x : Scene ε α) (turn : Turn ε) :
    (x.step program turn).calls.map Prod.fst = x.calls.map Prod.fst ++
      match turn with
      | .begins errand => [errand]
      | .learns .. | .leaves _ | .others _ => [] := by
  have hsame {i : Nat} {errand : ε} {standing standing' : Standing α}
      (hcall : x.calls[i]? = some (errand, standing)) :
      (x.calls.take i ++ (errand, standing') :: x.calls.drop (i + 1)).map Prod.fst =
        x.calls.map Prod.fst ++ [] := by
    nth_rewrite 3 [calls_eq hcall]
    simp
  cases turn with
  | begins errand =>
      rw [step_begins]
      simp
  | learns i reply =>
      rw [step, going?]
      split
      · rename_i hgoing
        split at hgoing
        · rename_i hcall
          obtain ⟨rfl, rfl, rfl⟩ := hgoing
          exact hsame hcall
        · cases hgoing
      · exact (List.append_nil _).symm
  | leaves i =>
      rw [step_leaves]
      split
      · rename_i hcall
        exact hsame hcall
      · exact (List.append_nil _).symm
  | others change => exact (List.append_nil _).symm

/-- A call that goes on leaves the others in their stages; one that begins does so in the first
stage. -/
theorem Keeps.goes (hx : x.Keeps D out post stages) {turn : Turn ε} {i : Nat} {errand : ε}
    {p : Program α} (hgoing : x.going? program turn = some (i, errand, p))
    (hbegins : turn = .begins errand →
      (program errand).Obeys (D errand) out post start x.connections) :
    ∃ front back g g₁ g',
      (stages = front ++ g :: back ∨ stages = front ∧ back = [] ∧ g = start) ∧
      (D errand).Path (· ∈ x.passed program turn) g x.connections g₁
        (x.step program turn).connections ∧
      (p.advance x.connections).1.Reached (D errand) g₁ (x.step program turn).connections g' ∧
      (p.advance x.connections).1.Obeys (D errand) out post g' ∧
      (x.step program turn).Keeps D out post (front ++ g' :: back) := by
  obtain ⟨hstep, hpassed, -⟩ := step_of_going hgoing
  rw [hstep, hpassed]
  cases turn with
  | begins errand =>
      obtain ⟨rfl, rfl, rfl⟩ := hgoing
      obtain ⟨g₁, g', hpath, hreached, hstands⟩ := (hbegins rfl).advance
      refine ⟨stages, [], start, g₁, g', .inr ⟨rfl, rfl, rfl⟩, hpath, hreached, hstands, ?_⟩
      have hcalls : (x.goneOn x.calls.length errand (program errand)).calls =
          x.calls ++ [(errand, ((program errand).advance x.connections).1)] := by
        simp [goneOn]
      rw [Keeps, hcalls]
      exact List.rel_append hx (.cons hstands .nil)
  | learns j reply =>
      rw [going?] at hgoing
      split at hgoing
      · rename_i errand' e abandoned next hcall
        obtain ⟨rfl, rfl, rfl⟩ := hgoing
        rw [Keeps, calls_eq hcall] at hx
        obtain ⟨front, g, back, rfl, hfront, ⟨-, hnext⟩, hback⟩ := forall₂_split hx
        obtain ⟨g₁, g', hpath, hreached, hstands⟩ := (hnext (reply e) x.connections).advance
        exact ⟨front, back, g, g₁, g', .inl rfl, hpath, hreached, hstands,
          List.rel_append hfront (.cons hstands hback)⟩
      · cases hgoing
  | leaves j => cases hgoing
  | others change => cases hgoing

variable (program) in
/-- A call that is given up leaves the others in their stages. -/
theorem Keeps.leaves (hx : x.Keeps D out post stages) (i : Nat) :
    x.step program (.leaves i) = x ∨
      ∃ errand front back g g', x.calls[i]?.map Prod.fst = some errand ∧
        stages = front ++ g :: back ∧ out g' ∧
        (D errand).Leads g x.connections g' (x.step program (.leaves i)).connections ∧
        (x.step program (.leaves i)).Keeps D out post (front ++ g' :: back) := by
  rw [step_leaves]
  split
  · rename_i errand e abandoned next hcall
    rw [Keeps, calls_eq hcall] at hx
    obtain ⟨front, g, back, rfl, hfront, ⟨hleave, -⟩, hback⟩ := forall₂_split hx
    obtain ⟨g', hleads, hg'⟩ := hleave x.connections
    exact .inr ⟨errand, front, back, g, g', congrArg (Option.map Prod.fst) hcall, rfl, hg', hleads,
      List.rel_append hfront (.cons hg' hback)⟩
  · exact .inl rfl

/-- An answer to a call that does not wait for one changes nothing. -/
theorem step_of_deaf {i : Nat} {reply : (e : Effect) → e.Reply}
    (hdeaf : x.going? program (.learns i reply) = none) :
    x.step program (.learns i reply) = x := by
  unfold step
  rw [hdeaf]

end Scene

end GraphDriver
