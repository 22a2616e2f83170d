/-
Computations that carry a state along and may refuse. A refusal keeps the state that was reached, so
that what has been sent stays sent.
-/
import RigControl.Error

namespace RigControl

/-- A computation over a state, which ends with an answer or an error. -/
def Action (σ α : Type) := σ → Outcome α × σ

namespace Action

variable {σ τ α β : Type}

/-- Runs a computation from a state. -/
def run (x : Action σ α) (s : σ) : Outcome α × σ := x s

instance : Monad (Action σ) where
  pure a := fun s => (.ok a, s)
  bind x f := fun s =>
    match x s with
    | (.ok a, t) => f a t
    | (.error e, t) => (.error e, t)

/-- An outcome that leaves the state alone. -/
def ofOutcome (o : Outcome α) : Action σ α := fun s => (o, s)

instance : MonadLift Outcome (Action σ) := ⟨ofOutcome⟩

def fail (e : Error) : Action σ α := ofOutcome (.error e)

def current : Action σ σ := fun s => (.ok s, s)

/-- Changes the state. -/
def update (f : σ → σ) : Action σ Unit := fun s => (.ok (), f s)

/-- The outcome of a computation as an answer, if it comes to one. -/
def attempt (x : Action σ α) : Action σ (Outcome α) := fun s =>
  match x s with
  | (.error (.halt why), t) => (.error (.halt why), t)
  | (o, t) => (.ok o, t)

/-- Runs a computation on a part of a larger state. -/
def on (part : τ → σ) (put : τ → σ → τ) (x : Action σ α) : Action τ α := fun t =>
  let (r, s) := x (part t)
  (r, put t s)

@[simp] theorem run_pure (a : α) (s : σ) : (pure a : Action σ α).run s = (.ok a, s) := rfl

theorem run_bind_ok {x : Action σ α} {f : α → Action σ β} {s t : σ} {a : α}
    (h : x.run s = (.ok a, t)) : (x >>= f).run s = (f a).run t := by
  simp only [run] at h ⊢
  simp only [bind, h]

theorem run_bind_error {x : Action σ α} {f : α → Action σ β} {s t : σ} {e : Error}
    (h : x.run s = (.error e, t)) : (x >>= f).run s = (.error e, t) := by
  simp only [run] at h ⊢
  simp only [bind, h]

theorem run_attempt {x : Action σ α} {s t : σ} {o : Outcome α} (h : x.run s = (o, t)) (ho : o.Ends) :
    x.attempt.run s = (.ok o, t) := by
  simp only [run] at h
  simp only [run, attempt, h]
  split
  · rename_i why _ heq
    cases heq
    exact absurd rfl (ho why)
  · rename_i heq
    cases heq
    rfl

/-- What comes to no outcome does not come back to who attempts it. -/
theorem run_attempt_halt {x : Action σ α} {s t : σ} {why : Halt}
    (h : x.run s = (.error (.halt why), t)) : x.attempt.run s = (.error (.halt why), t) := by
  simp only [run] at h
  simp only [run, attempt, h]

theorem of_run_attempt_ok {x : Action σ α} {s t : σ} {o : Outcome α}
    (h : x.attempt.run s = (.ok o, t)) : x.run s = (o, t) ∧ o.Ends := by
  rcases (x.run s).1.ends_or_halts with hends | ⟨why, hhalt⟩
  · have hrun : x.attempt.run s = (.ok (x.run s).1, (x.run s).2) := run_attempt rfl hends
    rw [hrun] at h
    cases h
    exact ⟨rfl, hends⟩
  · have hrun : x.attempt.run s = (.error (.halt why), (x.run s).2) :=
      run_attempt_halt (Prod.ext hhalt rfl)
    rw [hrun] at h
    cases h

theorem of_run_attempt_error {x : Action σ α} {s t : σ} {e : Error}
    (h : x.attempt.run s = (.error e, t)) : ∃ why, e = .halt why ∧ x.run s = (.error e, t) := by
  rcases (x.run s).1.ends_or_halts with hends | ⟨why, hhalt⟩
  · have hrun : x.attempt.run s = (.ok (x.run s).1, (x.run s).2) := run_attempt rfl hends
    rw [hrun] at h
    cases h
  · have hrun : x.attempt.run s = (.error (.halt why), (x.run s).2) :=
      run_attempt_halt (Prod.ext hhalt rfl)
    rw [hrun] at h
    cases h
    exact ⟨why, rfl, Prod.ext hhalt rfl⟩

/-- Actions that come to the same go on alike. -/
theorem run_bind_congr {x y : Action σ α} {f : α → Action σ β} {s t : σ} (h : x.run s = y.run t) :
    (x >>= f).run s = (y >>= f).run t := by
  simp only [run] at h ⊢
  simp only [bind, h]

end Action

end RigControl
