/-
The phase of an engine. A transaction goes through several phases and there are many ways out of it;
whichever it takes, it ends in the phase `done` if there is an answer and in `failed` if there is an
error. So the phase always says how the last transaction has ended, and an engine is idle only before
its first one (`phase_tells_ending`).

An engine that is busy stays so until an error marks it as failed, and nothing goes on after an error
(`Action.MarksFailure`). Success is marked in one place, at the end. What comes to no outcome leaves the
engine busy.
-/
import RigControl.Proofs.Errors

namespace RigControl

variable {σ α β : Type}

namespace Phase

/-- The phase that says whether the last transaction has ended with an answer, if there was one. -/
def after : Option Bool → Phase
  | none => .idle
  | some true => .done
  | some false => .failed

/-- A transaction is under way. -/
def isBusy : Phase → Bool
  | building | sending | awaiting | decoding => true
  | idle | done | failed => false

/-- What an error makes of the phase. Without an outcome the transaction is still under way. -/
def Marks (phase : Phase) : Error → Prop
  | .halt _ => phase.isBusy = true
  | _ => phase = .failed

/-- What an outcome makes of the phase. -/
def Tells (phase : Phase) : Outcome α → Prop
  | .ok _ => phase = .done
  | .error e => phase.Marks e

theorem onError_marks {phase : Phase} (hbusy : phase.isBusy = true) (err : Error) :
    (phase.onError err).Marks err := by
  cases err with
  | halt => exact hbusy
  | _ => rfl

theorem Marks.failed {phase : Phase} {err : Error} (h : phase.Marks err)
    (hends : ∀ why, err ≠ .halt why) : phase = .failed := by
  cases err with
  | halt why => exact absurd rfl (hends why)
  | _ => exact h

theorem Tells.after {phase : Phase} {o : Outcome α} (h : phase.Tells o) (hends : o.Ends) :
    phase = .after (some o.isOk) := by
  cases o with
  | ok a => exact h
  | error err =>
    refine Marks.failed h fun why herr => hends why ?_
    rw [herr]

end Phase

/-! ## Errors -/

/-- The computation leaves the phase alone. -/
def Action.KeepsPhase (x : Action (Engine σ) α) : Prop :=
  ∀ e, (x.run e).2.phase = e.phase

theorem Action.KeepsPhase.of_run {x : Action (Engine σ) α} (hx : x.KeepsPhase) {e f : Engine σ}
    {o : Outcome α} (h : x.run e = (o, f)) : f.phase = e.phase := by
  have hphase := hx e
  rwa [h] at hphase

/-- A busy engine stays busy, and an error of the computation is marked. -/
structure Action.MarksFailure (x : Action (Engine σ) α) : Prop where
  busy : ∀ {e a f}, e.phase.isBusy = true → x.run e = (.ok a, f) → f.phase.isBusy = true
  marked : ∀ {e err f}, e.phase.isBusy = true → x.run e = (.error err, f) → f.phase.Marks err

namespace Action.MarksFailure

/-- What never fails has nothing to mark. -/
theorem of_ok {x : Action (Engine σ) α} (h : ∀ e err, (x.run e).1 ≠ .error err)
    (hbusy : ∀ e, e.phase.isBusy = true → (x.run e).2.phase.isBusy = true) : x.MarksFailure where
  busy hb hrun := by
    have := hbusy _ hb
    rwa [hrun] at this
  marked _ hrun := absurd (congrArg Prod.fst hrun) (h _ _)

theorem bind {x : Action (Engine σ) α} {f : α → Action (Engine σ) β} (hx : x.MarksFailure)
    (hf : ∀ e a t, x.run e = (.ok a, t) → (f a).MarksFailure) : (x >>= f).MarksFailure where
  busy {e b t} hb h := by
    match hrun : x.run e with
    | (.ok a, u) =>
      rw [run_bind_ok hrun] at h
      exact (hf e a u hrun).busy (hx.busy hb hrun) h
    | (.error err, u) =>
      rw [run_bind_error hrun] at h
      cases h
  marked {e err t} hb h := by
    match hrun : x.run e with
    | (.ok a, u) =>
      rw [run_bind_ok hrun] at h
      exact (hf e a u hrun).marked (hx.busy hb hrun) h
    | (.error err', u) =>
      rw [run_bind_error hrun] at h
      cases h
      exact hx.marked hb hrun

theorem pure (a : α) : (Pure.pure a : Action (Engine σ) α).MarksFailure :=
  of_ok (fun _ _ => nofun) fun _ => id

theorem current : (Action.current : Action (Engine σ) (Engine σ)).MarksFailure :=
  of_ok (fun _ _ => nofun) fun _ => id

/-- Nothing but the want of an outcome comes through an attempt as an error. -/
theorem attempt {x : Action (Engine σ) α} (hx : x.KeepsPhase) : x.attempt.MarksFailure where
  busy {e o f} hb h := by
    obtain ⟨hrun, -⟩ := of_run_attempt_ok h
    rwa [hx.of_run hrun]
  marked {e err f} hb h := by
    obtain ⟨why, rfl, hrun⟩ := of_run_attempt_error h
    show f.phase.isBusy = true
    rwa [hx.of_run hrun]

end Action.MarksFailure

namespace Engine

theorem enter_marks {phase : Phase} (hbusy : phase.isBusy = true) :
    (enter phase : Action (Engine σ) Unit).MarksFailure :=
  .of_ok (fun _ _ => nofun) fun _ _ => hbusy

theorem abort_marks {err : Error} (hends : ∀ why, err ≠ .halt why) :
    (abort err : Action (Engine σ) α).MarksFailure where
  busy _ h := by cases h
  marked _ h := by
    cases h
    cases err with
    | halt why => exact absurd rfl (hends why)
    | _ => rfl

/-- The error of a computation that does nothing to the phase is marked afterwards. -/
theorem orAbort_marks {x : Action (Engine σ) α} (hx : x.KeepsPhase) : (orAbort x).MarksFailure := by
  refine .bind (.attempt hx) fun e o t h => ?_
  cases o with
  | ok a => exact .pure a
  | error err => exact abort_marks fun why herr => (Action.of_run_attempt_ok h).2 why (by rw [herr])

/-- Success is marked at the end, so that the phase says which of the two it was. -/
theorem phase_of_marked {x : Action (Engine σ) α} (hx : x.MarksFailure) {e : Engine σ}
    (hbusy : e.phase.isBusy = true) :
    let run := (do let a ← x; enter .done; return a : Action (Engine σ) α).run e
    run.2.phase.Tells run.1 := by
  match h : x.run e with
  | (.ok a, f) =>
    rw [Action.run_bind_ok h]
    rfl
  | (.error err, f) =>
    rw [Action.run_bind_error h]
    exact hx.marked hbusy h

variable [Link σ]

theorem listen_marks (r : Request) : (listen r : Action (Engine σ) _).MarksFailure := by
  refine .bind .current fun _ e _ _ => .bind (.attempt fun _ => rfl) fun _ o _ h => ?_
  split
  · exact .pure _
  · exact .pure _
  · exact .pure _
  · exact abort_marks fun why herr => (Action.of_run_attempt_ok h).2 why (by rw [herr])

theorem sendOnce_marks (r : Request) : (sendOnce r : Action (Engine σ) _).MarksFailure := by
  refine .bind (enter_marks rfl) fun _ _ _ _ => .bind (orAbort_marks fun _ => rfl) fun _ _ _ _ => ?_
  split
  · exact .pure _
  · exact .bind (enter_marks rfl) fun _ _ _ _ => listen_marks r

theorem exchange_marks (r : Request) (n : Nat) : (exchange r n : Action (Engine σ) _).MarksFailure := by
  -- Over the repeats that are left. Only the last attempt turns silence into an error.
  induction n with
  | zero =>
    refine .bind (sendOnce_marks r) fun _ reply? _ _ => ?_
    cases reply? with
    | none => exact abort_marks nofun
    | some reply => exact .pure reply
  | succ n ih =>
    refine .bind (sendOnce_marks r) fun _ reply? _ _ => ?_
    cases reply? with
    | none => exact ih
    | some reply => exact .pure reply

/-! ## Transactions -/

/-- An exchange makes the engine busy itself. -/
theorem exchange_sending (r : Request) (n : Nat) (e : Engine σ) :
    (exchange r n).run e = (exchange r n).run { e with phase := .sending } := by
  cases n
  · rfl
  · rfl

theorem transact_phase (r : Request) (e : Engine σ) :
    ((transact r).run e).2.phase.Tells ((transact r).run e).1 := by
  have hrun : (transact r).run e =
      (do let a ← exchange r e.repeats; enter .done; return a : Action (Engine σ) _).run
        { e with phase := .sending } :=
    Action.run_bind_congr (exchange_sending r e.repeats e)
  rw [hrun]
  exact phase_of_marked (exchange_marks r e.repeats) rfl

/-- A request that cannot be built leaves no other trace than the phase. -/
theorem query_unbuilt (err : Error) (decode : List UInt8 → Outcome α) (e : Engine σ) :
    (query (.error err) decode).run e = (.error err, { e with phase := Phase.building.onError err }) := by
  cases err with
  | _ => rfl

theorem query_phase (build : Outcome Request) (decode : List UInt8 → Outcome α) (e : Engine σ) :
    ((query build decode).run e).2.phase.Tells ((query build decode).run e).1 := by
  cases build with
  | error err =>
    rw [query_unbuilt]
    exact Phase.onError_marks rfl err
  | ok r =>
    let rest (reply : List UInt8) : Action (Engine σ) α := do
      enter .decoding
      let a ← orAbort (decode reply)
      enter .done
      return a
    have hquery : (query (.ok r) decode).run e =
        (exchange r e.repeats >>= rest).run { e with phase := .building } := rfl
    rw [hquery]
    match h : (exchange r e.repeats).run { e with phase := .building } with
    | (.ok reply, f) =>
      rw [Action.run_bind_ok h]
      exact phase_of_marked (orAbort_marks fun _ => rfl) (e := { f with phase := .decoding }) rfl
    | (.error err, f) =>
      rw [Action.run_bind_error h]
      exact (exchange_marks r e.repeats).marked rfl h

/-- What an engine can be asked to do: to run a request that is at hand, or to build one first and to
decode its reply. -/
inductive Transaction : Type → Type 1
  | ready (r : Request) : Transaction (List UInt8)
  | built {α : Type} (build : Outcome Request) (decode : List UInt8 → Outcome α) : Transaction α

def carryOut : Transaction α → Action (Engine σ) α
  | .ready r => transact r
  | .built build decode => query build decode

theorem carryOut_phase (t : Transaction α) (e : Engine σ) :
    ((carryOut t).run e).2.phase.Tells ((carryOut t).run e).1 := by
  cases t with
  | ready r => exact transact_phase r e
  | built build decode => exact query_phase build decode e

/-- What is asked for comes to an outcome itself, and nothing is waited past for ever. -/
def Transaction.Definite : Transaction α → Prop
  | .ready r => ¬ r.Endless
  | .built (.ok r) decode => ¬ r.Endless ∧ ∀ reply, (decode reply).Ends
  | .built (.error err) _ => ∀ why, err ≠ .halt why

theorem carryOut_ends (hσ : Link.Definite σ) {t : Transaction α} (ht : t.Definite) (e : Engine σ) :
    ((carryOut t).run e).1.Ends := by
  cases t with
  | ready r => exact transact_ends hσ ht e
  | built build decode =>
    cases build with
    | ok r => exact query_ends hσ ht.1 ht.2 e
    | error err =>
      show ((query (.error err) decode).run e).1.Ends
      rw [query_unbuilt]
      rintro why hwhy
      exact ht why (by cases hwhy; rfl)

/-- The states that an engine gets into, and whether the last transaction before each has ended with
an answer. Between two transactions the port and the timeout may change at will. Nothing comes after a
transaction without an outcome. -/
inductive Reaches (e : Engine σ) : Option Bool → Engine σ → Prop
  | refl : Reaches e none e
  | carryOut {α : Type} {last : Option Bool} {f : Engine σ} (t : Transaction α)
      (h : Reaches e last f) (hends : ((carryOut t).run f).1.Ends) :
      Reaches e (some ((carryOut t).run f).1.isOk) ((carryOut t).run f).2
  | change {last : Option Bool} {f : Engine σ} (port : Port σ) (timeout : Nat)
      (h : Reaches e last f) : Reaches e last { f with port := port, timeout := timeout }

/-- **The phase tells how the last transaction has ended**: an engine is idle as long as there was
none, and after each it is done if there was an answer and failed if there was an error, over any link.
Every transaction comes to one of the two over a link whose calls do, but for the endless wait past an
echo without bytes, in which the engine stays busy. And a request that cannot be built touches neither
the link nor what was read ahead. -/
theorem phase_tells_ending {port : Port σ} {attempts timeout : Nat} {last : Option Bool}
    {e : Engine σ} (h : (create port attempts timeout).Reaches last e) :
    e.phase = .after last ∧
    (∀ {α : Type} (t : Transaction α),
      ((carryOut t).run e).2.phase.Tells ((carryOut t).run e).1 ∧
      (Link.Definite σ → t.Definite → ((carryOut t).run e).1.Ends)) ∧
    ∀ {α : Type} (err : Error) (decode : List UInt8 → Outcome α),
      ∃ phase : Phase, phase.Marks err ∧
        (carryOut (.built (.error err) decode)).run e = (.error err, { e with phase := phase }) := by
  refine ⟨?_, fun t => ⟨carryOut_phase t e, fun hσ ht => carryOut_ends hσ ht e⟩, fun err decode =>
    ⟨_, Phase.onError_marks rfl err, query_unbuilt err decode e⟩⟩
  induction h with
  | refl => rfl
  | carryOut t _ hends _ => exact (carryOut_phase t _).after hends
  | change port timeout _ ih => exact ih

/-- A request that cannot be built, one that is not answered and one whose reply can be read, each in
its turn. -/
theorem phase_tells_ending_in_turn :
    let link : ScriptedLink := { script := [⟨[0x01], []⟩, ⟨[0x02], [0x07, 0xFD]⟩] }
    let start : Engine ScriptedLink := create { link := link, pending := [0x33] } 1 100
    let asks (b : UInt8) : Request :=
      { operation := "get", frame := [b], reply := .terminated 0xFD 8 }
    let unbuilt : Transaction Nat := .built (.error .notConnected) fun _ => .ok 0
    let read : Transaction Nat := .built (.ok (asks 0x02)) fun reply => .ok reply.length
    let first := (carryOut unbuilt).run start
    let second := (carryOut (.ready (asks 0x01))).run first.2
    let third := (carryOut read).run second.2
    start.phase = .idle ∧ first = (.error .notConnected, { start with phase := .failed }) ∧
      second.1 = .error .timeout ∧ second.2.phase = .failed ∧
      third.1 = .ok 2 ∧ third.2.phase = .done := by
  intro link start asks unbuilt read first second third
  have hidle : start.Reaches none start := .refl
  have hunbuilt : first = (.error .notConnected, { start with phase := .failed }) := by
    obtain ⟨phase, hmarks, hrun⟩ := (phase_tells_ending hidle).2.2 .notConnected fun _ => .ok 0
    exact hmarks ▸ hrun
  have hsilent : second.1 = .error .timeout := by decide +kernel
  have hread : third.1 = .ok 2 := by decide +kernel
  have hasks : ∀ b, ¬ (asks b).Endless := fun b hends => Bool.noConfusion hends.1
  have hfirst : start.Reaches (some first.1.isOk) first.2 :=
    .carryOut unbuilt hidle (((phase_tells_ending hidle).2.1 _).2 ScriptedLink.definite nofun)
  have hsecond : start.Reaches (some second.1.isOk) second.2 :=
    .carryOut _ hfirst (((phase_tells_ending hfirst).2.1 _).2 ScriptedLink.definite (hasks 0x01))
  have hthird : start.Reaches (some third.1.isOk) third.2 :=
    .carryOut read hsecond
      (((phase_tells_ending hsecond).2.1 _).2 ScriptedLink.definite ⟨hasks 0x02, fun _ => nofun⟩)
  refine ⟨(phase_tells_ending hidle).1, hunbuilt, hsilent, ?_, hread, ?_⟩
  · rw [(phase_tells_ending hsecond).1, hsilent]
    rfl
  · rw [(phase_tells_ending hthird).1, hread]
    rfl

end Engine

end RigControl
