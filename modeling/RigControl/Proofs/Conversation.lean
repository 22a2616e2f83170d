/-
What a conversation guarantees, whatever the rig answers and whenever the link fails.

A history lists the requests of one run with what was known about the rig at each of them
(`Dialogue.history`), and nothing else touches the link (`history_replay`). `Dialogue.wp` computes
what has to be known before a conversation so that a condition on history, outcome and knowledge holds
after every way it can go; `wp_run` applies that to a run over a session.
-/
import RigControl.Proofs.Outcome
import RigControl.Rig.Dialogue

namespace RigControl

/-- What passes between a session and its rig. -/
inductive Event where
  /-- A request, with what was known when it was made, and its reply. -/
  | exchange (known : Tracking) (request : Request) (reply : Outcome (List UInt8))
  /-- The link was to be taken down. -/
  | hangUp (result : Outcome Unit)
deriving DecidableEq

namespace Event

/-- The error that the link or the rig has caused. -/
def failure? : Event → Option Error
  | exchange _ _ (.error e) | hangUp (.error e) => some e
  | exchange _ _ (.ok _) | hangUp (.ok _) => none

/-- What an event does to the engine. -/
def replay {σ : Type} [Link σ] (engine : Engine σ) : Event → Engine σ
  | exchange _ r _ => ((Engine.transact r).run engine).2
  | hangUp _ =>
    if engine.port.isConnected then ((Engine.onPort Port.close).run engine).2 else engine

end Event

namespace Dialogue

variable {σ α β γ : Type}

/-! ## Histories -/

/-- The events of a conversation held over a session. -/
def history [Link σ] : Dialogue α → Session σ → List Event
  | done _, _ => []
  | look next, s => (next s.known).history s
  | note k next, s => next.history { s with known := k }
  | exchange r next, s =>
    match (Session.transact r).run s with
    | (.ok reply, t) => .exchange s.known r (.ok reply) :: (next reply).history t
    | (.error e, _) => [.exchange s.known r (.error e)]
  | hangUp next, s =>
    match Session.close.run s with
    | (.ok (), t) => .hangUp (.ok ()) :: next.history t
    | (.error e, _) => [.hangUp (.error e)]

/-! ## Weakest preconditions -/

/-- A condition on history, outcome and what is known at the end. -/
abbrev Post (α : Type) := List Event → Outcome α → Tracking → Prop

/-- The weakest precondition of a conversation, by its structure. A request may fail in any way or
have any reply. -/
@[simp] def wp : Dialogue α → Post α → Tracking → Prop
  | done r, Q => Q [] r
  | look next, Q => fun k => (next k).wp Q k
  | note k next, Q => fun _ => next.wp Q k
  | exchange r next, Q => fun k =>
    (∀ e, Q [.exchange k r (.error e)] (.error e) k) ∧
    ∀ reply, (next reply).wp (fun h => Q (.exchange k r (.ok reply) :: h)) k
  | hangUp next, Q => fun k =>
    (∀ e, Q [.hangUp (.error e)] (.error e) k) ∧ next.wp (fun h => Q (.hangUp (.ok ()) :: h)) k

/-- What the rest of a conversation asks of its first part. An error ends both. -/
def Post.before (f : α → Dialogue β) (Q : Post β) : Post α := fun h r k =>
  match r with
  | .ok a => (f a).wp (fun h' => Q (h ++ h')) k
  | .error e => Q h (.error e) k

section

variable {Q : Post β} {f : α → Dialogue β} {h : List Event} {k k' : Tracking} {e : Error}
  {r : Request} {d : Descriptor} {v : Vfo}

@[simp] theorem Post.before_ok {a : α} :
    Post.before f Q h (.ok a) k = (f a).wp (fun h' => Q (h ++ h')) k := rfl

@[simp] theorem Post.before_error : Post.before f Q h (.error e) k = Q h (.error e) k := rfl

theorem wp_bind_aux (x : Dialogue α) (f : α → Dialogue β) (Q : Post β) (k : Tracking) :
    (x.bind f).wp Q k = x.wp (Q.before f) k := by
  -- The condition grows by an event at each request, so it is general in the induction.
  induction x generalizing Q k with
  | done r => cases r <;> rfl
  | look next ih => exact ih k Q k
  | note k' next ih => exact ih Q k'
  | exchange r next ih =>
    simp only [Dialogue.bind, wp, ih]
    rfl
  | hangUp next ih =>
    simp only [Dialogue.bind, wp, ih]
    rfl

@[simp] theorem wp_bind {x : Dialogue α} : (x >>= f).wp Q k = x.wp (Q.before f) k :=
  wp_bind_aux x f Q k

/-- A value needs no conversation. -/
theorem pure_then {a : α} : (pure a >>= f) = f a := rfl

@[simp] theorem wp_lift {o : Outcome β} : (liftM o : Dialogue β).wp Q k ↔
    (∀ b, o = .ok b → Q [] (.ok b) k) ∧ ∀ e, o = .error e → Q [] (.error e) k := by
  show Q [] o k ↔ _
  cases o <;> simp

@[simp] theorem wp_known {Q : Post Tracking} : known.wp Q k = Q [] (.ok k) k := rfl

@[simp] theorem wp_learn {Q : Post Unit} : (learn k').wp Q k = Q [] (.ok ()) k' := rfl

@[simp] theorem wp_ask {Q : Post (List UInt8)} : (ask r).wp Q k ↔
    (∀ e, Q [.exchange k r (.error e)] (.error e) k) ∧
      ∀ reply, Q [.exchange k r (.ok reply)] (.ok reply) k := Iff.rfl

@[simp] theorem wp_tell {Q : Post Unit} : (tell r).wp Q k ↔
    (∀ e, Q [.exchange k r (.error e)] (.error e) k) ∧
      ∀ reply, Q [.exchange k r (.ok reply)] (.ok ()) k := Iff.rfl

@[simp] theorem wp_selected {Q : Post Unit} : (selected d v).wp Q k ↔
    (∀ k', k.select d v = .ok k' → Q [] (.ok ()) k') ∧
      ∀ e, k.select d v = .error e → Q [] (.error e) k := by
  simp [selected]

end

/-- A weaker condition is easier to meet. -/
theorem wp_mono {x : Dialogue α} {P Q : Post α} (hPQ : ∀ h r k, P h r k → Q h r k) {k : Tracking}
    (hx : x.wp P k) : x.wp Q k := by
  induction x generalizing P Q k with
  | done r => exact hPQ _ _ _ hx
  | look next ih => exact ih k hPQ hx
  | note k' next ih => exact ih hPQ hx
  | exchange r next ih =>
    obtain ⟨he, hr⟩ := hx
    exact ⟨fun e => hPQ _ _ _ (he e), fun reply => ih reply (fun h => hPQ _) (hr reply)⟩
  | hangUp next ih =>
    obtain ⟨he, hr⟩ := hx
    exact ⟨fun e => hPQ _ _ _ (he e), ih (fun h => hPQ _) hr⟩

/-! ## Runs over a session -/

section

variable [Link σ] {s t : Session σ}

/-- A request changes nothing but the engine. -/
theorem transact_frame {r : Request} {o : Outcome (List UInt8)}
    (h : (Session.transact r).run s = (o, t)) :
    t = { s with engine := (Event.exchange s.known r o).replay s.engine } := by
  obtain ⟨-, rfl⟩ := Prod.mk.inj h
  rfl

/-- Taking the link down changes nothing but the engine. -/
theorem close_frame {o : Outcome Unit} (h : Session.close.run s = (o, t)) :
    t = { s with engine := (Event.hangUp o).replay s.engine } := by
  simp only [Action.run, Session.close] at h
  by_cases hc : s.isConnected = true
  · have hp : s.engine.port.isConnected = true := hc
    simp only [hc, if_true] at h
    obtain ⟨-, rfl⟩ := Prod.mk.inj h
    simp only [Event.replay, hp, if_true]
    rfl
  · have hp : ¬ s.engine.port.isConnected = true := hc
    simp only [hc, Bool.false_eq_true, if_false] at h
    obtain ⟨-, rfl⟩ := Prod.mk.inj h
    simp only [Event.replay, hp, Bool.false_eq_true, if_false]

/-- A request leaves what is known alone. -/
theorem transact_known {r : Request} {o : Outcome (List UInt8)}
    (h : (Session.transact r).run s = (o, t)) : t.known = s.known := by
  rw [transact_frame h]

/-- Taking the link down leaves what is known alone. -/
theorem close_known {o : Outcome Unit} (h : Session.close.run s = (o, t)) : t.known = s.known := by
  rw [close_frame h]

theorem run_exchange_ok {r : Request} {next : List UInt8 → Dialogue α} {reply : List UInt8}
    (h : (Session.transact r).run s = (.ok reply, t)) :
    (exchange r next).run.run s = (next reply).run.run t :=
  Action.run_bind_ok h

theorem run_exchange_error {r : Request} {next : List UInt8 → Dialogue α} {e : Error}
    (h : (Session.transact r).run s = (.error e, t)) :
    (exchange r next).run.run s = (.error e, t) :=
  Action.run_bind_error h

theorem run_hangUp_ok {next : Dialogue α} (h : Session.close.run s = (.ok (), t)) :
    (hangUp next).run.run s = next.run.run t :=
  Action.run_bind_ok h

theorem run_hangUp_error {next : Dialogue α} {e : Error}
    (h : Session.close.run s = (.error e, t)) : (hangUp next).run.run s = (.error e, t) :=
  Action.run_bind_error h

/-- **A run meets every condition that its weakest precondition promises**, whatever the link
does. -/
theorem wp_run {x : Dialogue α} {Q : Post α} (h : x.wp Q s.known) :
    Q (x.history s) (x.run.run s).1 (x.run.run s).2.known := by
  -- Each event leads to a state that knows the same, where the rest of the promise applies.
  induction x generalizing Q s with
  | done r => exact h
  | look next ih => exact ih s.known h
  | note k next ih => exact ih (s := { s with known := k }) h
  | exchange r next ih =>
    obtain ⟨he, hr⟩ := h
    rw [history]
    match hrun : (Session.transact r).run s with
    | (.ok reply, t) =>
      rw [run_exchange_ok hrun]
      rw [← transact_known hrun] at hr ⊢
      exact ih reply (hr reply)
    | (.error e, t) =>
      rw [run_exchange_error hrun, transact_known hrun]
      exact he e
  | hangUp next ih =>
    obtain ⟨he, hr⟩ := h
    rw [history]
    match hrun : Session.close.run s with
    | (.ok (), t) =>
      rw [run_hangUp_ok hrun]
      rw [← close_known hrun] at hr
      exact ih hr
    | (.error e, t) =>
      rw [run_hangUp_error hrun, close_known hrun]
      exact he e

/-- **The history of a run holds all its traffic**: what the run does to the engine is what the
events do to it in turn. The model and the choices of the user stay. -/
theorem run_eq_replay {x : Dialogue α} : (x.run.run s).2 =
    { s with
      engine := (x.history s).foldl Event.replay s.engine
      known := (x.run.run s).2.known } := by
  induction x generalizing s with
  | done r => rfl
  | look next ih => exact ih s.known
  | note k next ih => exact ih (s := { s with known := k })
  | exchange r next ih =>
    rw [history]
    match hrun : (Session.transact r).run s with
    | (.ok reply, t) =>
      rw [run_exchange_ok hrun, ih reply, transact_frame hrun]
      rfl
    | (.error e, t) =>
      rw [run_exchange_error hrun, transact_frame hrun]
      rfl
  | hangUp next ih =>
    rw [history]
    match hrun : Session.close.run s with
    | (.ok (), t) =>
      rw [run_hangUp_ok hrun, ih, close_frame hrun]
      rfl
    | (.error e, t) =>
      rw [run_hangUp_error hrun, close_frame hrun]
      rfl

theorem transact_outcome {r : Request} {o : Outcome (List UInt8)}
    (h : (Session.transact r).run s = (o, t)) : ((Engine.transact r).run s.engine).1 = o :=
  (Prod.mk.inj h).1

/-- The reply in an event is what the engine made of the request, after the events before it. -/
theorem outcome_of_history {x : Dialogue α} {i : Nat} {k : Tracking} {q : Request}
    {o : Outcome (List UInt8)} (h : (x.history s)[i]? = some (.exchange k q o)) :
    ((Engine.transact q).run (((x.history s).take i).foldl Event.replay s.engine)).1 = o := by
  induction x generalizing s i with
  | done r => cases h
  | look next ih => exact ih s.known h
  | note k' next ih => exact ih (s := { s with known := k' }) h
  | exchange r next ih =>
    rw [history] at h ⊢
    match hrun : (Session.transact r).run s with
    | (.ok reply, t) =>
      rw [hrun] at h
      cases i with
      | zero =>
        cases h
        exact transact_outcome hrun
      | succ i =>
        have hrest := ih reply h
        rw [transact_frame hrun] at hrest
        rw [List.take_succ_cons, List.foldl_cons, transact_frame hrun]
        exact hrest
    | (.error e, t) =>
      rw [hrun] at h
      cases i with
      | zero =>
        cases h
        exact transact_outcome hrun
      | succ i => cases h
  | hangUp next ih =>
    rw [history] at h ⊢
    match hrun : Session.close.run s with
    | (.ok (), t) =>
      rw [hrun] at h
      cases i with
      | zero => cases h
      | succ i =>
        have hrest := ih h
        rw [close_frame hrun] at hrest
        rw [List.take_succ_cons, List.foldl_cons, close_frame hrun]
        exact hrest
    | (.error e, t) =>
      rw [hrun] at h
      cases i <;> cases h

end

end Dialogue

end RigControl
