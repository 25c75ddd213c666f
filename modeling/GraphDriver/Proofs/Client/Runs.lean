import GraphDriver.Client.Program

/-!
# Runs of operations

What an operation can come to. Between two waits it looks at the state and changes it at once; at a
wait it learns any answer at all, and meanwhile others change the state as far as they are allowed
to. A run is one way through: its waits with what was learned, its result, and the state it leaves.

* §1 runs of programs
* §2 runs of operations
* §3 waits of operations
* §4 what operations keep
* §5 replays
-/

namespace GraphDriver

/-- A wait that is over: what was waited for, and what was learned. -/
structure Event where
  effect : Effect
  reply : effect.Reply

variable {α β : Type} {others : Connections → Connections → Prop}

/-! ## §1  Runs of programs -/

namespace Program

/-- The runs of a program from a state, if others may change the state in some ways while it
waits. -/
inductive Runs (others : Connections → Connections → Prop) :
    Program α → Connections → List Event → α → Connections → Prop
  | done (a : α) (c : Connections) : Runs others (.done a) c [] a c
  | read {next : Connections → Program α} {c c' : Connections} {log : List Event} {a : α}
      (h : Runs others (next c) c log a c') : Runs others (.read next) c log a c'
  | write {c₀ c c' : Connections} {next : Program α} {log : List Event} {a : α}
      (h : Runs others next c log a c') : Runs others (.write c next) c₀ log a c'
  | await {e : Effect} {abandoned : Connections → Connections} {next : e.Reply → Program α}
      {c c₁ c' : Connections} {reply : e.Reply} {log : List Event} {a : α} (hmoved : others c c₁)
      (h : Runs others (next reply) c₁ log a c') :
      Runs others (.await e abandoned next) c (⟨e, reply⟩ :: log) a c'

variable {c c' : Connections} {log : List Event} {a : α} {b : β}

theorem runs_done {a b : α} :
    Runs others (.done a) c log b c' ↔ log = [] ∧ b = a ∧ c' = c := by
  constructor
  · intro h
    cases h
    exact ⟨rfl, rfl, rfl⟩
  · rintro ⟨rfl, rfl, rfl⟩
    exact .done _ _

theorem runs_read {next : Connections → Program α} :
    Runs others (.read next) c log a c' ↔ Runs others (next c) c log a c' := by
  constructor
  · intro h
    cases h with
    | read h => exact h
  · exact .read

theorem runs_write {c₀ : Connections} {next : Program α} :
    Runs others (.write c next) c₀ log a c' ↔ Runs others next c log a c' := by
  constructor
  · intro h
    cases h with
    | write h => exact h
  · exact .write

theorem runs_await {e : Effect} {abandoned : Connections → Connections}
    {next : e.Reply → Program α} :
    Runs others (.await e abandoned next) c log a c' ↔
      ∃ c₁ reply rest, others c c₁ ∧ Runs others (next reply) c₁ rest a c' ∧
        log = ⟨e, reply⟩ :: rest := by
  constructor
  · intro h
    cases h with
    | await hmoved h => exact ⟨_, _, _, hmoved, h, rfl⟩
  · rintro ⟨c₁, reply, rest, hmoved, h, rfl⟩
    exact .await hmoved h

theorem runs_perform {e : Effect} {reply : e.Reply} :
    Runs others (perform e) c log reply c' ↔ others c c' ∧ log = [⟨e, reply⟩] := by
  rw [perform, runs_await]
  constructor
  · rintro ⟨c₁, _, _, hmoved, h, rfl⟩
    obtain ⟨rfl, rfl, rfl⟩ := runs_done.mp h
    exact ⟨hmoved, rfl⟩
  · rintro ⟨hmoved, rfl⟩
    exact ⟨c', reply, [], hmoved, .done _ _, rfl⟩

/-- A program that goes on runs, and then what it goes on with. -/
theorem runs_bind {p : Program α} {k : α → Program β} :
    Runs others (p.bind k) c log b c' ↔
      ∃ a c₁ front rest, Runs others p c front a c₁ ∧ Runs others (k a) c₁ rest b c' ∧
        log = front ++ rest := by
  induction p generalizing c log with
  | done a =>
      simp only [bind, runs_done]
      constructor
      · intro h
        exact ⟨a, c, [], log, ⟨rfl, rfl, rfl⟩, h, rfl⟩
      · rintro ⟨_, _, _, _, ⟨rfl, rfl, rfl⟩, h, rfl⟩
        exact h
  | read next ih => simp only [bind, runs_read, ih]
  | write c₁ next ih => simp only [bind, runs_write, ih]
  | await e abandoned next ih =>
      simp only [bind, runs_await, ih]
      constructor
      · rintro ⟨c₁, reply, _, hmoved, ⟨a, c₂, front, rest, h, hk, rfl⟩, rfl⟩
        exact ⟨a, c₂, _, rest, ⟨c₁, reply, front, hmoved, h, rfl⟩, hk, rfl⟩
      · rintro ⟨a, c₂, _, rest, ⟨c₁, reply, front, hmoved, h, rfl⟩, hk, rfl⟩
        exact ⟨c₁, reply, _, hmoved, ⟨a, c₂, front, rest, h, hk, rfl⟩, rfl⟩

/-- What is to be done if a program is given up is of no concern to its runs. -/
theorem runs_onAbandon {p : Program α} {cleanup : Connections → Connections} :
    Runs others (p.onAbandon cleanup) c log a c' ↔ Runs others p c log a c' := by
  induction p generalizing c log with
  | done a => rfl
  | read next ih => simp only [onAbandon, runs_read, ih]
  | write c₁ next ih => simp only [onAbandon, runs_write, ih]
  | await e abandoned next ih => simp only [onAbandon, runs_await, ih]

end Program

namespace Operation

/-! ## §2  Runs of operations -/

/-- The runs of an operation; the result may be an error. -/
def Runs (others : Connections → Connections → Prop) (op : Operation α) (c : Connections)
    (log : List Event) (result : Except Error α) (c' : Connections) : Prop :=
  Program.Runs others op.run c log result c'

variable {c c' : Connections} {log : List Event} {result : Except Error α}

@[simp] theorem runs_pure {a : α} :
    Runs others (pure a) c log result c' ↔ log = [] ∧ result = .ok a ∧ c' = c :=
  Program.runs_done

@[simp] theorem runs_throw {e : Error} :
    Runs others (throw e) c log result c' ↔ log = [] ∧ result = .error e ∧ c' = c :=
  Program.runs_done

/-- An operation that fails ends; one that succeeds goes on. -/
theorem runs_bind {op : Operation α} {k : α → Operation β} {result : Except Error β} :
    Runs others (op >>= k) c log result c' ↔
      (∃ e, Runs others op c log (.error e) c' ∧ result = .error e) ∨
        ∃ a c₁ front rest, Runs others op c front (.ok a) c₁ ∧
          Runs others (k a) c₁ rest result c' ∧ log = front ++ rest := by
  have hbind : Runs others (op >>= k) c log result c' ↔
      Program.Runs others (op.run.bind (ExceptT.bindCont k)) c log result c' := Iff.rfl
  rw [hbind, Program.runs_bind]
  constructor
  · rintro ⟨outcome, c₁, front, rest, h, hk, rfl⟩
    cases outcome with
    | error e =>
        obtain ⟨rfl, rfl, rfl⟩ := Program.runs_done.mp hk
        exact .inl ⟨e, by rwa [List.append_nil], rfl⟩
    | ok a => exact .inr ⟨a, c₁, front, rest, h, hk, rfl⟩
  · rintro (⟨e, h, rfl⟩ | ⟨a, c₁, front, rest, h, hk, rfl⟩)
    · exact ⟨.error e, c', log, [], h, .done _ _, (List.append_nil log).symm⟩
    · exact ⟨.ok a, c₁, front, rest, h, hk, rfl⟩

/-- A program that is lifted does not fail. -/
theorem runs_lift {p : Program α} :
    Runs others (ExceptT.lift p) c log result c' ↔
      ∃ a, Program.Runs others p c log a c' ∧ result = .ok a := by
  have hbind : Runs others (ExceptT.lift p) c log result c' ↔
      Program.Runs others (p.bind fun a => .done (.ok a)) c log result c' := Iff.rfl
  rw [hbind, Program.runs_bind]
  constructor
  · rintro ⟨a, c₁, front, rest, h, hk, rfl⟩
    obtain ⟨rfl, rfl, rfl⟩ := Program.runs_done.mp hk
    exact ⟨a, by rwa [List.append_nil], rfl⟩
  · rintro ⟨a, h, rfl⟩
    exact ⟨a, c', log, [], h, .done _ _, (List.append_nil log).symm⟩

/-- What runs for its outcome does not fail. -/
@[simp] theorem runs_outcome {op : Operation α} {result : Except Error (Except Error α)} :
    Runs others (outcome op) c log result c' ↔
      ∃ answer, Runs others op c log answer c' ∧ result = .ok answer :=
  runs_lift

/-- An operation that comes to something has done so in both its parts. -/
theorem runs_bind_ok {op : Operation α} {k : α → Operation β} {b : β} :
    Runs others (op >>= k) c log (.ok b) c' ↔
      ∃ a c₁ front rest, Runs others op c front (.ok a) c₁ ∧
        Runs others (k a) c₁ rest (.ok b) c' ∧ log = front ++ rest := by
  rw [runs_bind]
  constructor
  · rintro (⟨e, -, heq⟩ | h)
    · cases heq
    · exact h
  · exact .inr

theorem runs_outcome_bind {op : Operation α} {k : Except Error α → Operation β}
    {result : Except Error β} :
    Runs others (outcome op >>= k) c log result c' ↔
      ∃ answer c₁ front rest, Runs others op c front answer c₁ ∧
        Runs others (k answer) c₁ rest result c' ∧ log = front ++ rest := by
  rw [runs_bind]
  constructor
  · rintro (⟨e, h, -⟩ | ⟨answer, c₁, front, rest, h, hk, heq⟩)
    · obtain ⟨_, -, heq⟩ := runs_outcome.mp h
      cases heq
    · obtain ⟨_, hop, ⟨⟩⟩ := runs_outcome.mp h
      exact ⟨answer, c₁, front, rest, hop, hk, heq⟩
  · rintro ⟨answer, c₁, front, rest, hop, hk, heq⟩
    exact .inr ⟨answer, c₁, front, rest, runs_outcome.mpr ⟨answer, hop, rfl⟩, hk, heq⟩

@[simp] theorem runs_ofOutcome {outcome : Except Error α} :
    Runs others (ofOutcome outcome) c log result c' ↔ log = [] ∧ result = outcome ∧ c' = c := by
  cases outcome with
  | ok a => exact runs_pure
  | error e => exact runs_throw

/-- What goes on with an outcome goes on at once, unless it is an error. -/
theorem runs_ofOutcome_bind {outcome : Except Error β} {k : β → Operation α} :
    Runs others (ofOutcome outcome >>= k) c log result c' ↔
      match outcome with
      | .ok b => Runs others (k b) c log result c'
      | .error e => log = [] ∧ result = .error e ∧ c' = c := by
  cases outcome with
  | ok b => exact Iff.rfl
  | error e => exact runs_throw

/-- Nothing comes after a failure. -/
theorem runs_throw_bind {e : Error} {k : β → Operation α} :
    Runs others (throw e >>= k) c log result c' ↔ log = [] ∧ result = .error e ∧ c' = c :=
  Program.runs_done

@[simp] theorem runs_modifyGet {f : Connections → α × Connections} :
    Runs others (modifyGet f) c log result c' ↔
      log = [] ∧ result = .ok (f c).1 ∧ c' = (f c).2 :=
  Program.runs_read.trans (Program.runs_write.trans Program.runs_done)

/-- What goes on with the state goes on at once. -/
theorem runs_get_bind {k : Connections → Operation α} :
    Runs others (get >>= k) c log result c' ↔ Runs others (k c) c log result c' :=
  Program.runs_read

theorem runs_modifyGet_bind {f : Connections → β × Connections} {k : β → Operation α} :
    Runs others (modifyGet f >>= k) c log result c' ↔
      Runs others (k (f c).1) (f c).2 log result c' :=
  Program.runs_read.trans Program.runs_write

theorem runs_modify_bind {f : Connections → Connections} {k : Unit → Operation α} :
    Runs others (modify f >>= k) c log result c' ↔ Runs others (k ()) (f c) log result c' :=
  runs_modifyGet_bind

@[simp] theorem runs_onAbandon {op : Operation α} {cleanup : Connections → Connections} :
    Runs others (onAbandon cleanup op) c log result c' ↔ Runs others op c log result c' :=
  Program.runs_onAbandon

/-- What becomes of an answer of which something is expected. -/
def taken [Described α] (expected : String) (pick : α → Option β) (received : α) :
    Except Error β :=
  match pick received with
  | some b => .ok b
  | none => .error (.protocol (.unexpected expected (describe received)))

@[simp] theorem runs_expect [Described α] {expected : String} {pick : α → Option β} {received : α}
    {result : Except Error β} :
    Runs others (expect expected pick received) c log result c' ↔
      log = [] ∧ result = taken expected pick received ∧ c' = c := by
  unfold expect taken
  cases pick received with
  | some b => exact runs_pure
  | none => exact runs_throw

/-! ## §3  Waits of operations -/

/-- What waits goes on with what it learned. -/
theorem runs_perform_bind {e : Effect} {k : e.Reply → Operation α} :
    Runs others (ExceptT.lift (Program.perform e) >>= k) c log result c' ↔
      ∃ c₁ reply rest, others c c₁ ∧ Runs others (k reply) c₁ rest result c' ∧
        log = ⟨e, reply⟩ :: rest :=
  Program.runs_await

theorem runs_pause {millis : Nat} {result : Except Error Unit} :
    Runs others (pause millis) c log result c' ↔
      others c c' ∧ log = [⟨.pause millis, ()⟩] ∧ result = .ok () := by
  rw [pause, runs_lift]
  constructor
  · rintro ⟨_, h, rfl⟩
    obtain ⟨hmoved, rfl⟩ := Program.runs_perform.mp h
    exact ⟨hmoved, rfl, rfl⟩
  · rintro ⟨hmoved, rfl, rfl⟩
    exact ⟨(), Program.runs_perform.mpr ⟨hmoved, rfl⟩, rfl⟩

/-- A client that is closed asks nobody; one that is open asks its server, and the answer is what
the server said. -/
theorem runs_call {client : Nat} {request : UnaryRequest} {result : Except Error UnaryResponse} :
    Runs others (call client request) c log result c' ↔
      if c.clientIsOpen client then
        others c c' ∧ log = [⟨.call (c.client client).address request, result⟩]
      else log = [] ∧ result = .error .clientClosed ∧ c' = c := by
  have hasked : Runs others
      (ExceptT.mk (Program.perform (.call (c.client client).address request))) c log result c' ↔
        others c c' ∧ log = [⟨.call (c.client client).address request, result⟩] :=
    Program.runs_perform
  rw [call, runs_get_bind]
  split
  · exact hasked
  · exact runs_throw

/-- A question of which something is expected: what is learned is what the answer is taken for. -/
theorem runs_call_expect {client : Nat} {request : UnaryRequest} {expected : String}
    {pick : UnaryResponse → Option β} {result : Except Error β} :
    Runs others (call client request >>= expect expected pick) c log result c' ↔
      if c.clientIsOpen client then
        others c c' ∧ ∃ reply : Except Error UnaryResponse,
          log = [⟨.call (c.client client).address request, reply⟩] ∧
            result = reply.bind (taken expected pick)
      else log = [] ∧ result = .error .clientClosed ∧ c' = c := by
  rw [runs_bind]
  simp only [runs_call, runs_expect]
  split
  · constructor
    · rintro (⟨e, ⟨hmoved, rfl⟩, rfl⟩ | ⟨response, _, _, _, ⟨hmoved, rfl⟩, ⟨rfl, rfl, rfl⟩, rfl⟩)
      · exact ⟨hmoved, .error e, rfl, rfl⟩
      · exact ⟨hmoved, .ok response, rfl, rfl⟩
    · rintro ⟨hmoved, reply, rfl, rfl⟩
      cases reply with
      | error e => exact .inl ⟨e, ⟨hmoved, rfl⟩, rfl⟩
      | ok response =>
          exact .inr ⟨response, c', _, [], ⟨hmoved, rfl⟩, ⟨rfl, rfl, rfl⟩, rfl⟩
  · constructor
    · rintro (⟨e, ⟨rfl, hshut, rfl⟩, rfl⟩ | ⟨response, _, _, _, ⟨-, hshut, -⟩, -, -⟩)
      · cases hshut
        exact ⟨rfl, rfl, rfl⟩
      · cases hshut
    · rintro ⟨rfl, rfl, rfl⟩
      exact .inl ⟨.clientClosed, ⟨rfl, rfl, rfl⟩, rfl⟩

/-! ## §4  What operations keep -/

/-- What holds of the state when an operation begins holds when it ends. -/
def Keeps (others : Connections → Connections → Prop) (P : Connections → Prop)
    (op : Operation α) : Prop :=
  ∀ c log result c', Runs others op c log result c' → P c → P c'

variable {P : Connections → Prop}

theorem Keeps.bind {op : Operation α} {k : α → Operation β} (hop : Keeps others P op)
    (hk : ∀ a, Keeps others P (k a)) : Keeps others P (op >>= k) := by
  intro c log result c' h hc
  rcases runs_bind.mp h with ⟨e, hrun, -⟩ | ⟨a, c₁, front, rest, hrun, hrest, -⟩
  · exact hop c log _ c' hrun hc
  · exact hk a c₁ rest result c' hrest (hop c front _ c₁ hrun hc)

theorem Keeps.outcome {op : Operation α} (hop : Keeps others P op) :
    Keeps others P (outcome op) := by
  intro c log result c' h
  obtain ⟨answer, hrun, -⟩ := runs_outcome.mp h
  exact hop c log answer c' hrun

theorem Keeps.onAbandon {op : Operation α} (hop : Keeps others P op)
    (cleanup : Connections → Connections) : Keeps others P (onAbandon cleanup op) :=
  fun c log result c' h => hop c log result c' (runs_onAbandon.mp h)

theorem keeps_ofOutcome (outcome : Except Error α) : Keeps others P (ofOutcome outcome) := by
  intro c log result c' h hc
  obtain ⟨-, -, rfl⟩ := runs_ofOutcome.mp h
  exact hc

theorem keeps_pure {a : α} : Keeps others P (pure a) :=
  keeps_ofOutcome (.ok a)

theorem keeps_throw {e : Error} : Keeps others P (throw e : Operation α) :=
  keeps_ofOutcome (.error e)

/-- Nothing comes after a failure. -/
theorem keeps_throw_bind {e : Error} {k : α → Operation β} : Keeps others P (throw e >>= k) :=
  keeps_throw

theorem keeps_get_bind {k : Connections → Operation α} (hk : ∀ c, Keeps others P (k c)) :
    Keeps others P (get >>= k) :=
  fun c log result c' h => hk c c log result c' (runs_get_bind.mp h)

theorem keeps_modifyGet {f : Connections → α × Connections} (hf : ∀ c, P c → P (f c).2) :
    Keeps others P (modifyGet f) := by
  intro c log result c' h
  obtain ⟨-, -, rfl⟩ := runs_modifyGet.mp h
  exact hf c

theorem keeps_expect [Described α] {expected : String} {pick : α → Option β} {received : α} :
    Keeps others P (expect expected pick received) := by
  intro c log result c' h hc
  obtain ⟨-, -, rfl⟩ := runs_expect.mp h
  exact hc

/-- A wait keeps what others keep. -/
theorem keeps_perform (hothers : ∀ c c', others c c' → P c → P c') {e : Effect} :
    Keeps others P (ExceptT.lift (Program.perform e)) := by
  intro c log result c' h
  obtain ⟨reply, hrun, -⟩ := runs_lift.mp h
  exact hothers c c' (Program.runs_perform.mp hrun).1

theorem keeps_call (hothers : ∀ c c', others c c' → P c → P c') {client : Nat}
    {request : UnaryRequest} : Keeps others P (call client request) := by
  intro c log result c' h hc
  rw [runs_call] at h
  split at h
  · exact hothers c c' h.1 hc
  · obtain ⟨-, -, rfl⟩ := h
    exact hc

end Operation

/-! ## §5  Replays -/

/-- The run of a program that nobody else disturbs, with the answers to its waits, numbered from the
first. -/
def Program.replay (answer : Nat → (e : Effect) → e.Reply) :
    Program α → (waits : Nat) → Connections → List Event × α × Connections
  | .done a, _, c => ([], a, c)
  | .read next, waits, c => (next c).replay answer waits c
  | .write c next, waits, _ => next.replay answer waits c
  | .await e _ next, waits, c =>
    let later := (next (answer waits e)).replay answer (waits + 1) c
    (⟨e, answer waits e⟩ :: later.1, later.2)

/-- Whatever a program is answered, it comes to an end. -/
theorem Program.runs_replay (hquiet : ∀ c, others c c) (answer : Nat → (e : Effect) → e.Reply)
    (p : Program α) (waits : Nat) (c : Connections) :
    Runs others p c (p.replay answer waits c).1 (p.replay answer waits c).2.1
      (p.replay answer waits c).2.2 := by
  induction p generalizing waits c with
  | done a => exact .done a c
  | read next ih => exact .read (ih c waits c)
  | write c₁ next ih => exact .write (ih waits c₁)
  | await e abandoned next ih => exact .await (hquiet c) (ih (answer waits e) (waits + 1) c)

/-- Waits that were answered from a script, by their number. -/
def IsAnswered (answer : Nat → (e : Effect) → e.Reply) : (waits : Nat) → List Event → Prop
  | _, [] => True
  | waits, event :: later =>
    event.reply = answer waits event.effect ∧ IsAnswered answer (waits + 1) later

theorem Program.isAnswered_replay (answer : Nat → (e : Effect) → e.Reply) (p : Program α)
    (waits : Nat) (c : Connections) : IsAnswered answer waits (p.replay answer waits c).1 := by
  induction p generalizing waits c with
  | done a => trivial
  | read next ih => exact ih c waits c
  | write c₁ next ih => exact ih waits c₁
  | await e abandoned next ih => exact ⟨rfl, ih (answer waits e) (waits + 1) c⟩

/-- The undisturbed run of an operation. -/
def Operation.replay (op : Operation α) (answer : Nat → (e : Effect) → e.Reply)
    (c : Connections) : List Event × Except Error α × Connections :=
  op.run.replay answer 0 c

theorem Operation.runs_replay (hquiet : ∀ c, others c c) (op : Operation α)
    (answer : Nat → (e : Effect) → e.Reply) (c : Connections) :
    Runs others op c (op.replay answer c).1 (op.replay answer c).2.1 (op.replay answer c).2.2 :=
  Program.runs_replay hquiet answer op.run 0 c

/-- Every script has a run, if others need not change anything. -/
theorem Operation.exists_run (hquiet : ∀ c, others c c) (op : Operation α)
    (answer : Nat → (e : Effect) → e.Reply) (c : Connections) :
    ∃ log result c', Runs others op c log result c' ∧ IsAnswered answer 0 log :=
  ⟨_, _, _, op.runs_replay hquiet answer c, Program.isAnswered_replay answer op.run 0 c⟩

end GraphDriver
