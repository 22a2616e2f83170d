/-
Refusals: the errors by which a caller is told that a request is no good. They are due before anything
is sent. Whatever goes wrong later is the link's doing or the rig's.
-/
import RigControl.Proofs.Outcome

namespace RigControl

/-- Whether an error says that the request itself is no good. -/
def Error.isRefusal : Error → Bool
  | invalidParameter _ | unsupported _ | invalidOperation _ => true
  | timeout | transport _ | connectionLost | notConnected | protocol _ | io _ | halt _ => false

namespace Outcome

variable {α β : Type}

/-- Whatever goes wrong is not the caller's fault. -/
def NeverRefuses (o : Outcome α) : Prop :=
  ∀ e, o = .error e → e.isRefusal = false

variable {o : Outcome α} {f : α → Outcome β}

@[simp] theorem neverRefuses_ok {a : α} : NeverRefuses (.ok a) := nofun

@[simp] theorem neverRefuses_pure {a : α} : NeverRefuses (pure a) := nofun

@[simp] theorem neverRefuses_error {e : Error} :
    NeverRefuses (.error e : Outcome α) ↔ e.isRefusal = false :=
  ⟨fun h => h e rfl, fun h _ he => by cases he; exact h⟩

@[simp] theorem neverRefuses_throw {e : Error} :
    NeverRefuses (throw e : Outcome α) ↔ e.isRefusal = false := neverRefuses_error

namespace NeverRefuses

theorem bind (ho : NeverRefuses o) (hf : ∀ a, o = .ok a → NeverRefuses (f a)) :
    NeverRefuses (o >>= f) := by
  intro e he
  rcases bind_eq_error.1 he with h | ⟨a, ha, h⟩
  · exact ho e h
  · exact hf a ha e h

theorem map {g : α → β} (ho : NeverRefuses o) : NeverRefuses (o.map g) :=
  fun e he => ho e (map_eq_error.1 he)

theorem mapError {ε : Type} {x : Except ε α} {g : ε → Error} (hg : ∀ e, (g e).isRefusal = false) :
    NeverRefuses (x.mapError g) := by
  intro e he
  obtain ⟨e', -, rfl⟩ := mapError_eq_error.1 he
  exact hg e'

end NeverRefuses

end Outcome

end RigControl
