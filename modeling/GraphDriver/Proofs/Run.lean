/-!
# Runs

A machine is a step function on its states, and a run folds it over a list of operations. The log of
a run gathers what its steps show, and what each step keeps, each run keeps.
-/

namespace GraphDriver.Run

variable {σ ω β : Type}

/-- What the steps of a run show, in order. -/
def log (step : σ → ω → σ) (shown : σ → ω → List β) : σ → List ω → List β
  | _, [] => []
  | s, op :: ops => shown s op ++ log step shown (step s op) ops

section Log

variable {step : σ → ω → σ} {shown : σ → ω → List β}

theorem log_append (s : σ) (xs ys : List ω) :
    log step shown s (xs ++ ys) =
      log step shown s xs ++ log step shown (xs.foldl step s) ys := by
  induction xs generalizing s with
  | nil => rfl
  | cons op xs ih =>
      rw [List.cons_append, log, ih, log, List.foldl_cons, List.append_assoc]

theorem log_snoc (s : σ) (xs : List ω) (op : ω) :
    log step shown s (xs ++ [op]) = log step shown s xs ++ shown (xs.foldl step s) op := by
  rw [log_append]
  simp [log]

theorem log_map {ι : Type} (f : ι → ω) (s : σ) (xs : List ι) :
    log step shown s (xs.map f) =
      log (fun s x => step s (f x)) (fun s x => shown s (f x)) s xs := by
  induction xs generalizing s with
  | nil => rfl
  | cons x xs ih => rw [List.map_cons, log, log, ih]

/-- A fold that appends what each step shows to a list beside the state is a run and its log. -/
theorem foldl_eq_log (f : σ → ω → σ × List β) (s : σ) (shown : List β) (ops : List ω) :
    ops.foldl (fun (s, shown) op => ((f s op).1, shown ++ (f s op).2)) (s, shown) =
      (ops.foldl (fun s op => (f s op).1) s,
        shown ++ log (fun s op => (f s op).1) (fun s op => (f s op).2) s ops) := by
  induction ops generalizing s shown with
  | nil => simp [log]
  | cons op ops ih =>
      rw [List.foldl_cons, ih, log, List.foldl_cons, List.append_assoc]

end Log

/-- What every step keeps, every run keeps. -/
theorem keeps {step : σ → ω → σ} {P : σ → Prop} (hstep : ∀ s op, P s → P (step s op))
    {s : σ} (hs : P s) (ops : List ω) : P (ops.foldl step s) := by
  induction ops generalizing s with
  | nil => exact hs
  | cons op ops ih => exact ih (hstep s op hs)

/-! ## Each operation of a run -/

/-- What holds of each operation of a run, given those before it. -/
def Each (P : List ω → ω → Prop) (ops : List ω) : Prop :=
  ∀ pre op post, ops = pre ++ op :: post → P pre op

section Each

variable {P : List ω → ω → Prop} {ops : List ω} {op : ω}

theorem each_nil : Each P [] := by
  intro pre op post h
  cases pre <;> cases h

theorem Each.front {more : List ω} (h : Each P (ops ++ more)) : Each P ops := by
  rintro pre op post rfl
  exact h pre op (post ++ more) (List.append_assoc pre (op :: post) more)

theorem Each.last (h : Each P (ops ++ [op])) : P ops op := h ops op [] rfl

theorem Each.concat (h : Each P ops) (hop : P ops op) : Each P (ops ++ [op]) := by
  intro pre op' post heq
  rcases post.eq_nil_or_concat with rfl | ⟨post, last, rfl⟩
  · obtain ⟨rfl, ⟨⟩⟩ := List.append_inj' heq rfl
    exact hop
  · have hsplit : ops ++ [op] = (pre ++ op' :: post) ++ [last] := by
      rw [heq, List.concat_eq_append, List.append_assoc, List.cons_append]
    exact h pre op' post (List.append_inj' hsplit rfl).1

end Each

end GraphDriver.Run
