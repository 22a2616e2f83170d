/-
Transactions as attempts. An attempt discards stale input, writes the frame once and reads the reply if
there is one to read. A transaction is a row of attempts, of which only silence where a reply is
required, and attempts left, lead on to the next.
-/
import RigControl.Link.Engine

namespace RigControl

/-- The phase that an error leads to. A transaction that comes to no outcome stays where it is. -/
def Phase.onError (phase : Phase) : Error → Phase
  | .halt _ => phase
  | _ => .failed

namespace Engine

variable {σ : Type}

/-- How an attempt has ended. -/
inductive Ending where
  | notFlushed (e : Error)
  | notWritten (e : Error)
  /-- The frame is out and no reply is due. -/
  | written
  | replied (reply : List UInt8)
  /-- No reply was read, be it that the read has failed or that it goes on for ever. -/
  | notRead (e : Error)
deriving DecidableEq, Repr

namespace Ending

/-- Whether the frame was handed to the port. -/
def wrote : Ending → Bool
  | notFlushed _ => false
  | notWritten _ | written | replied _ | notRead _ => true

/-- Whether the reply that is required stayed out. -/
def isSilence (r : Request) : Ending → Bool
  | notRead .timeout => match r.reply with
    | .required _ => true
    | .none | .optional _ => false
  | _ => false

/-- What a transaction answers with that ends so. Silence is an answer where a reply is optional. -/
def outcome (r : Request) : Ending → Outcome (List UInt8)
  | notFlushed e | notWritten e => .error e
  | written => .ok []
  | replied reply => .ok reply
  | notRead e => match e, r.reply with
    | .timeout, .optional _ => .ok []
    | e, _ => .error e

/-- What ends a transaction at once: anything that goes wrong but silence. -/
def fault? : Ending → Option Error
  | notFlushed e | notWritten e => some e
  | notRead e => if e = .timeout then none else some e
  | written | replied _ => none

/-- What the engine makes of an attempt: nothing if it has to go on. -/
def verdict (r : Request) (x : Ending) : Outcome (Option (List UInt8)) :=
  if x.isSilence r then .ok none else (x.outcome r).map some

end Ending

/-- How often the frame was handed to the port. -/
def writes (endings : List Ending) : Nat :=
  endings.countP Ending.wrote

variable [Link σ]

/-- One attempt: a flush, a write and, unless no reply is due, a read. -/
def attempt (r : Request) (timeout : Nat) (p : Port σ) : Ending × Port σ :=
  match Port.flush.run p with
  | (.error e, p) => (.notFlushed e, p)
  | (.ok (), p) =>
    match (Port.write r.frame).run p with
    | (.error e, p) => (.notWritten e, p)
    | (.ok (), p) =>
      if r.reply = .none then (.written, p)
      else match (Port.awaitReply r timeout).run p with
        | (.error e, p) => (.notRead e, p)
        | (.ok reply, p) => (.replied reply, p)

/-- Attempts in a row and the ports between which they lead. -/
inductive Attempts (r : Request) (timeout : Nat) : Port σ → List Ending → Port σ → Prop
  | nil (p : Port σ) : Attempts r timeout p [] p
  | cons {p q t : Port σ} {x : Ending} {xs : List Ending} (h : attempt r timeout p = (x, q))
      (rest : Attempts r timeout q xs t) : Attempts r timeout p (x :: xs) t

/-! ## One attempt of the engine -/

section

variable {e s t : Engine σ} {p q : Port σ} {err : Error} {α : Type}

omit [Link σ] in
theorem run_orAbort_ok {x : Action (Engine σ) α} {a : α} (h : x.run s = (.ok a, t)) :
    (orAbort x).run s = (.ok a, t) := by
  rw [orAbort, Action.run_bind_ok (Action.run_attempt h nofun)]
  rfl

omit [Link σ] in
theorem run_orAbort_error {x : Action (Engine σ) α} (h : x.run s = (.error err, t)) :
    (orAbort x).run s = (.error err, { t with phase := t.phase.onError err }) := by
  cases err with
  | halt why => exact Action.run_bind_error (Action.run_attempt_halt h)
  | _ =>
    rw [orAbort, Action.run_bind_ok (Action.run_attempt h nofun)]
    rfl

omit [Link σ] in
theorem run_onPort {x : Action (Port σ) α} {o : Outcome α} (h : x.run e.port = (o, q)) :
    (onPort x).run e = (o, { e with port := q }) := by
  simp only [Action.run] at h
  simp only [Action.run, onPort, Action.on, h]

end

section

variable {e : Engine σ} {r : Request} {p q : Port σ} {err : Error} {reply : List UInt8}

theorem run_send_flushed {frame : List UInt8} (h : Port.flush.run p = (.ok (), q)) :
    (Port.send frame).run p = (Port.write frame).run q :=
  Action.run_bind_ok h

theorem run_send_error {frame : List UInt8} (h : Port.flush.run p = (.error err, q)) :
    (Port.send frame).run p = (.error err, q) :=
  Action.run_bind_error h

theorem sendOnce_error (h : (Port.send r.frame).run e.port = (.error err, q)) :
    (sendOnce r).run e = (.error err, { e with port := q, phase := Phase.sending.onError err }) := by
  have henter : (enter .sending).run e = (.ok (), { e with phase := .sending }) := rfl
  have hport : (onPort (Port.send r.frame)).run { e with phase := .sending } =
      (.error err, { e with port := q, phase := .sending }) := run_onPort h
  rw [sendOnce, Action.run_bind_ok henter, Action.run_bind_error (run_orAbort_error hport)]

theorem sendOnce_sent (h : (Port.send r.frame).run e.port = (.ok (), q)) : (sendOnce r).run e =
    if r.reply = .none then (.ok (some []), { e with port := q, phase := .sending })
    else (listen r).run { e with port := q, phase := .awaiting } := by
  have henter : (enter .sending).run e = (.ok (), { e with phase := .sending }) := rfl
  have hport : (onPort (Port.send r.frame)).run { e with phase := .sending } =
      (.ok (), { e with port := q, phase := .sending }) := run_onPort h
  rw [sendOnce, Action.run_bind_ok henter, Action.run_bind_ok (run_orAbort_ok hport)]
  split <;> rfl

theorem listen_replied (h : (Port.awaitReply r e.timeout).run e.port = (.ok reply, q)) :
    (listen r).run e = (.ok (some reply), { e with port := q }) := by
  have hcurrent : Action.current.run e = (.ok e, e) := rfl
  rw [listen, Action.run_bind_ok hcurrent, Action.run_bind_ok (Action.run_attempt (run_onPort h) nofun)]
  rfl

theorem listen_failed (hr : r.reply ≠ .none)
    (h : (Port.awaitReply r e.timeout).run e.port = (.error err, q)) : ∃ phase, (listen r).run e =
      ((Ending.notRead err).verdict r, { e with port := q, phase := phase }) := by
  have hcurrent : Action.current.run e = (.ok e, e) := rfl
  rw [listen, Action.run_bind_ok hcurrent]
  cases err with
  | halt why => exact ⟨e.phase, Action.run_bind_error (Action.run_attempt_halt (run_onPort h))⟩
  | timeout =>
    rw [Action.run_bind_ok (Action.run_attempt (run_onPort h) nofun)]
    refine ⟨e.phase, ?_⟩
    cases hreply : r.reply with
    | none => exact absurd hreply hr
    | required | optional =>
      simp only [Ending.verdict, Ending.isSilence, Ending.outcome, hreply]
      rfl
  | _ =>
    rw [Action.run_bind_ok (Action.run_attempt (run_onPort h) nofun)]
    exact ⟨.failed, rfl⟩

theorem sendOnce_run (r : Request) (e : Engine σ) : ∃ phase, (sendOnce r).run e =
    ((attempt r e.timeout e.port).1.verdict r,
      { e with port := (attempt r e.timeout e.port).2, phase := phase }) := by
  unfold attempt
  match hf : Port.flush.run e.port with
  | (.error err, p) => exact ⟨_, sendOnce_error (run_send_error hf)⟩
  | (.ok (), p) =>
    simp only
    match hw : (Port.write r.frame).run p with
    | (.error err, q) => exact ⟨_, sendOnce_error ((run_send_flushed hf).trans hw)⟩
    | (.ok (), q) =>
      rw [sendOnce_sent ((run_send_flushed hf).trans hw)]
      simp only
      by_cases hr : r.reply = .none
      · simp only [hr, if_true]
        exact ⟨.sending, rfl⟩
      · simp only [hr, if_false]
        match ha : (Port.awaitReply r e.timeout).run q with
        | (.ok reply, t) =>
          exact ⟨.awaiting, listen_replied (e := { e with port := q, phase := .awaiting }) ha⟩
        | (.error err, t) =>
          exact listen_failed hr (e := { e with port := q, phase := .awaiting }) ha

end

/-! ## The row of attempts -/

/-- A row of at most `n` attempts: silence, some times over, and then the attempt that decides. -/
structure Course (r : Request) (n silent : Nat) (last : Ending) : Prop where
  lt : silent < n
  required : 0 < silent → ∃ extent, r.reply = .required extent
  exhausted : last.isSilence r = true → silent + 1 = n
  due : ∀ err, last = .notRead err → r.reply ≠ .none

/-- The endings of a course. -/
def row (silent : Nat) (last : Ending) : List Ending :=
  List.replicate silent (.notRead .timeout) ++ [last]

omit [Link σ] in
theorem isSilence_iff {r : Request} {x : Ending} : x.isSilence r = true ↔
    x = .notRead .timeout ∧ ∃ extent, r.reply = .required extent := by
  unfold Ending.isSilence
  split
  · split <;> simp_all
  · rename_i h
    simp only [Bool.false_eq_true, false_iff, not_and]
    exact fun hx => absurd hx h

omit [Link σ] in
/-- The engine goes on after silence only; otherwise the attempt has decided. -/
theorem verdict_of_decided {r : Request} {x : Ending} (h : x.isSilence r = false) :
    x.verdict r = (x.outcome r).map some := by
  rw [Ending.verdict, h]
  rfl

omit [Link σ] in
theorem outcome_of_silence {r : Request} {x : Ending} (h : x.isSilence r = true) :
    x.outcome r = .error .timeout := by
  obtain ⟨rfl, extent, hr⟩ := isSilence_iff.1 h
  simp only [Ending.outcome, hr]

/-- Nothing is read where no reply is due. -/
theorem reply_ne_none {r : Request} {timeout : Nat} {p : Port σ} {err : Error}
    (h : (attempt r timeout p).1 = .notRead err) : r.reply ≠ .none := by
  intro hr
  unfold attempt at h
  split at h
  · cases h
  · split at h
    · cases h
    · rw [if_pos hr] at h
      cases h

theorem exchange_decided {r : Request} {e t : Engine σ} {o : Outcome (List UInt8)} (n : Nat)
    (h : (sendOnce r).run e = (o.map some, t)) : (exchange r n).run e = (o, t) := by
  cases o with
  | ok reply => cases n <;> exact Action.run_bind_ok h
  | error err => cases n <;> exact Action.run_bind_error h

/-- An exchange whose first attempt decides is a course of that attempt. -/
theorem exchange_run_decided {r : Request} {e : Engine σ} (n : Nat)
    (hs : (attempt r e.timeout e.port).1.isSilence r = false) : ∃ phase,
    Course r (n + 1) 0 (attempt r e.timeout e.port).1 ∧ (exchange r n).run e =
      ((attempt r e.timeout e.port).1.outcome r,
        { e with port := (attempt r e.timeout e.port).2, phase := phase }) := by
  obtain ⟨phase, h⟩ := sendOnce_run r e
  rw [verdict_of_decided hs] at h
  refine ⟨phase, ⟨by omega, by omega, fun hlast => ?_, fun _ => reply_ne_none⟩,
    exchange_decided n h⟩
  rw [hs] at hlast
  cases hlast

/-- An attempt that meets silence leads on to the rest of the exchange, if there is one. -/
theorem sendOnce_silent {r : Request} {e : Engine σ}
    (hs : (attempt r e.timeout e.port).1.isSilence r = true) : ∃ phase, (sendOnce r).run e =
      (.ok none, { e with port := (attempt r e.timeout e.port).2, phase := phase }) := by
  obtain ⟨phase, h⟩ := sendOnce_run r e
  rw [Ending.verdict, hs] at h
  exact ⟨phase, h⟩

/-- **An exchange is a course of attempts**, and its last attempt gives the answer. -/
theorem exchange_run (r : Request) (n : Nat) (e : Engine σ) : ∃ silent last port phase,
    Course r (n + 1) silent last ∧ Attempts r e.timeout e.port (row silent last) port ∧
      (exchange r n).run e = (last.outcome r, { e with port := port, phase := phase }) := by
  -- Over the repeats that are left: silence takes one of them, anything else ends the course.
  induction n generalizing e with
  | zero =>
    cases hs : (attempt r e.timeout e.port).1.isSilence r with
    | false =>
      obtain ⟨phase, hcourse, hrun⟩ := exchange_run_decided 0 hs
      exact ⟨0, _, _, phase, hcourse, .cons rfl (.nil _), hrun⟩
    | true =>
      obtain ⟨phase, h⟩ := sendOnce_silent hs
      refine ⟨0, (attempt r e.timeout e.port).1, _, .failed, ?_, .cons rfl (.nil _), ?_⟩
      · exact ⟨by omega, by omega, fun _ => rfl, fun _ => reply_ne_none⟩
      · rw [outcome_of_silence hs]
        exact Action.run_bind_ok h
  | succ n ih =>
    cases hs : (attempt r e.timeout e.port).1.isSilence r with
    | false =>
      obtain ⟨phase, hcourse, hrun⟩ := exchange_run_decided (n + 1) hs
      exact ⟨0, _, _, phase, hcourse, .cons rfl (.nil _), hrun⟩
    | true =>
      obtain ⟨phase, h⟩ := sendOnce_silent hs
      obtain ⟨silent, last, port, phase', hcourse, hrow, hrun⟩ :=
        ih { e with port := (attempt r e.timeout e.port).2, phase := phase }
      obtain ⟨hx, hreq⟩ := isSilence_iff.1 hs
      have hlt := hcourse.lt
      refine ⟨silent + 1, last, port, phase', ?_, .cons (Prod.ext hx rfl) hrow, ?_⟩
      · refine ⟨by omega, fun _ => hreq, fun hlast => ?_, hcourse.due⟩
        rw [hcourse.exhausted hlast]
      · exact (Action.run_bind_ok h).trans hrun

/-- A transaction differs from its exchange in nothing but the phase. -/
theorem transact_run (r : Request) (e : Engine σ) : ∃ silent last port phase,
    Course r e.attempts silent last ∧ Attempts r e.timeout e.port (row silent last) port ∧
      (transact r).run e = (last.outcome r, { e with port := port, phase := phase }) := by
  obtain ⟨silent, last, port, phase, hcourse, hrow, hrun⟩ := exchange_run r e.repeats e
  have hcurrent : Action.current.run e = (.ok e, e) := rfl
  cases ho : last.outcome r with
  | ok reply =>
    rw [ho] at hrun
    refine ⟨silent, last, port, .done, hcourse, hrow, ?_⟩
    rw [ho, transact, Action.run_bind_ok hcurrent, Action.run_bind_ok hrun]
    rfl
  | error err =>
    rw [ho] at hrun
    refine ⟨silent, last, port, phase, hcourse, hrow, ?_⟩
    rw [ho, transact, Action.run_bind_ok hcurrent, Action.run_bind_error hrun]

/-! ## The answer as a function of the port -/

/-- What a transaction that may repeat its frame so often answers from a port, and the port it
leaves. -/
def answer (r : Request) (timeout : Nat) : Nat → Port σ → Outcome (List UInt8) × Port σ
  | 0, p => ((attempt r timeout p).1.outcome r, (attempt r timeout p).2)
  | repeats + 1, p =>
    if (attempt r timeout p).1.isSilence r then answer r timeout repeats (attempt r timeout p).2
    else ((attempt r timeout p).1.outcome r, (attempt r timeout p).2)

theorem exchange_answer (r : Request) (n : Nat) (e : Engine σ) : ∃ phase, (exchange r n).run e =
    ((answer r e.timeout n e.port).1,
      { e with port := (answer r e.timeout n e.port).2, phase := phase }) := by
  induction n generalizing e with
  | zero =>
    cases hs : (attempt r e.timeout e.port).1.isSilence r with
    | false =>
      obtain ⟨phase, -, hrun⟩ := exchange_run_decided 0 hs
      exact ⟨phase, hrun⟩
    | true =>
      obtain ⟨phase, h⟩ := sendOnce_silent hs
      refine ⟨.failed, ?_⟩
      rw [answer, outcome_of_silence hs]
      exact Action.run_bind_ok h
  | succ n ih =>
    cases hs : (attempt r e.timeout e.port).1.isSilence r with
    | false =>
      obtain ⟨phase, -, hrun⟩ := exchange_run_decided (n + 1) hs
      refine ⟨phase, ?_⟩
      rw [answer, hs]
      exact hrun
    | true =>
      obtain ⟨phase, h⟩ := sendOnce_silent hs
      obtain ⟨phase', hrun⟩ := ih { e with port := (attempt r e.timeout e.port).2, phase := phase }
      refine ⟨phase', ?_⟩
      rw [answer, hs]
      exact (Action.run_bind_ok h).trans hrun

theorem transact_answer (r : Request) (e : Engine σ) :
    ((transact r).run e).1 = (answer r e.timeout e.repeats e.port).1 ∧
      ((transact r).run e).2.port = (answer r e.timeout e.repeats e.port).2 := by
  obtain ⟨phase, hrun⟩ := exchange_answer r e.repeats e
  have hcurrent : Action.current.run e = (.ok e, e) := rfl
  rw [transact, Action.run_bind_ok hcurrent]
  cases ho : (answer r e.timeout e.repeats e.port).1 with
  | ok reply =>
    rw [ho] at hrun
    rw [Action.run_bind_ok hrun]
    exact ⟨rfl, rfl⟩
  | error err =>
    rw [ho] at hrun
    rw [Action.run_bind_error hrun]
    exact ⟨rfl, rfl⟩

/-- After some attempts that met silence the transaction goes on with those that are left. -/
theorem answer_after_silence {r : Request} {timeout n i : Nat} {p q : Port σ}
    (h : Attempts r timeout p (List.replicate i (.notRead .timeout)) q)
    (hr : ∃ extent, r.reply = .required extent) (hi : i ≤ n) :
    answer r timeout n p = answer r timeout (n - i) q := by
  induction i generalizing n p with
  | zero =>
    cases h
    rfl
  | succ i ih =>
    obtain ⟨n, rfl⟩ : ∃ m, n = m + 1 := ⟨n - 1, by omega⟩
    rw [List.replicate_succ] at h
    cases h with
    | cons hfirst hrest =>
      have hs : (attempt r timeout p).1.isSilence r = true := by
        rw [hfirst]
        exact isSilence_iff.2 ⟨rfl, hr⟩
      rw [answer, if_pos hs, hfirst, ih hrest (by omega)]
      congr 1
      omega

theorem answer_decided {r : Request} {timeout n : Nat} {p : Port σ}
    (hs : (attempt r timeout p).1.isSilence r = false) :
    answer r timeout n p = ((attempt r timeout p).1.outcome r, (attempt r timeout p).2) := by
  cases n with
  | zero => rfl
  | succ n => rw [answer, hs]; rfl

/-! ## What the row of attempts says -/

section

omit [Link σ]

variable {r : Request} {n silent k i : Nat} {last x : Ending}

theorem length_row (silent : Nat) (last : Ending) : (row silent last).length = silent + 1 := by
  simp [row]

theorem getLast_row : (row silent last).getLast? = some last := by
  simp [row]

/-- All endings but the last are silence. -/
theorem getElem_row (h : (row silent last)[i]? = some x) :
    (i < silent ∧ x = .notRead .timeout) ∨ (i = silent ∧ x = last) := by
  have hi : i < silent + 1 := by
    rw [← length_row silent last]
    exact (List.getElem?_eq_some_iff.1 h).1
  by_cases hlast : i = silent
  · subst hlast
    simp [row] at h
    exact .inr ⟨rfl, h.symm⟩
  · have hi : i < silent := by omega
    rw [row, List.getElem?_append_left (by simpa using hi), List.getElem?_replicate, if_pos hi] at h
    exact .inl ⟨hi, (Option.some.inj h).symm⟩

/-- Another attempt follows exactly after silence with attempts left. -/
theorem Course.next_iff (hc : Course r n silent last) (h : (row silent last)[i]? = some x) :
    i + 1 < (row silent last).length ↔
      i + 1 < n ∧ x = .notRead .timeout ∧ ∃ extent, r.reply = .required extent := by
  have hlt := hc.lt
  rw [length_row]
  rcases getElem_row h with ⟨hi, rfl⟩ | ⟨rfl, rfl⟩
  · have hreq := hc.required (by omega)
    exact ⟨fun _ => ⟨by omega, rfl, hreq⟩, fun _ => by omega⟩
  · refine ⟨fun _ => by omega, fun ⟨hn, hx⟩ => ?_⟩
    have := hc.exhausted (isSilence_iff.2 hx)
    omega

theorem Course.single (hc : Course r n silent last) (hr : ∀ extent, r.reply ≠ .required extent) :
    silent = 0 := by
  rcases Nat.eq_zero_or_pos silent with h | h
  · exact h
  · obtain ⟨extent, hreq⟩ := hc.required h
    exact absurd hreq (hr extent)

/-- A transaction that ends in silence has used all its attempts. -/
theorem Course.silent_of_timeout (hc : Course r n silent (.notRead .timeout))
    (ho : (Ending.notRead .timeout).outcome r = .error .timeout) : silent + 1 = n := by
  cases hr : r.reply with
  | none => exact absurd hr (hc.due .timeout rfl)
  | required extent => exact hc.exhausted (isSilence_iff.2 ⟨rfl, extent, hr⟩)
  | optional extent =>
    simp only [Ending.outcome, hr] at ho
    cases ho

theorem outcome_of_fault {err : Error} (h : x.fault? = some err) : x.outcome r = .error err := by
  cases x with
  | notFlushed e | notWritten e => exact congrArg Except.error (Option.some.inj h)
  | written | replied => cases h
  | notRead e =>
    by_cases ht : e = .timeout
    · simp [Ending.fault?, ht] at h
    · simp only [Ending.fault?, ht, if_false, Option.some.injEq] at h
      subst h
      simp only [Ending.outcome]
      split
      · exact absurd rfl ht
      · rfl

theorem writes_row : writes (row silent last) = silent + (if last.wrote then 1 else 0) := by
  have hsilent : (List.replicate silent (Ending.notRead .timeout)).countP Ending.wrote = silent := by
    rw [List.countP_replicate]
    rfl
  rw [writes, row, List.countP_append, hsilent, List.countP_singleton]

/-- Where no reply is required, the frame goes out once if it goes out at all. -/
theorem Course.once (hc : Course r n silent last) (hr : ∀ extent, r.reply ≠ .required extent) :
    (row silent last).length = 1 ∧
      (writes (row silent last) = 1 ∨ ∃ err, row silent last = [.notFlushed err]) := by
  have hzero := hc.single hr
  subst hzero
  refine ⟨length_row 0 last, ?_⟩
  cases last with
  | notFlushed err => exact .inr ⟨err, rfl⟩
  | _ => exact .inl rfl

/-- The endings of a course tell how often there was silence and what came then. -/
theorem row_inj {last' : Ending} (h : row silent last = row k last') : silent = k ∧ last = last' := by
  have hlength := congrArg List.length h
  have hlast := congrArg List.getLast? h
  rw [length_row, length_row] at hlength
  rw [getLast_row, getLast_row] at hlast
  exact ⟨by omega, Option.some.inj hlast⟩

/-- A transaction that ends in silence has written the frame in each of its attempts. -/
theorem Course.exhausted_writes (hc : Course r n silent last)
    (hlast : (row silent last).getLast? = some (.notRead .timeout))
    (ho : last.outcome r = .error .timeout) :
    row silent last = List.replicate n (.notRead .timeout) ∧ writes (row silent last) = n := by
  rw [getLast_row] at hlast
  obtain rfl := Option.some.inj hlast
  have hn := hc.silent_of_timeout ho
  refine ⟨?_, ?_⟩
  · rw [← hn, row, List.replicate_succ']
  · rw [writes_row]
    exact hn

/-- What goes wrong is the last that happens, and the answer. -/
theorem outcome_of_fault_at {err : Error} (h : (row silent last)[i]? = some x)
    (hfault : x.fault? = some err) : i + 1 = (row silent last).length ∧ last.outcome r = .error err := by
  rcases getElem_row h with ⟨-, rfl⟩ | ⟨rfl, rfl⟩
  · cases hfault
  · exact ⟨(length_row i x).symm, outcome_of_fault hfault⟩

end

/-- **A transaction is a row of attempts.** A read that goes on for ever is the last thing that happens in it,
and the transaction has no outcome then. -/
theorem transact_attempts (e : Engine σ) (r : Request) :
    (1 ≤ e.attempts ∧ ∀ (p : Port σ) (n timeout : Nat), (create p n timeout).attempts = max n 1) ∧
    ∃ endings : List Ending,
      Attempts r e.timeout e.port endings ((transact r).run e).2.port ∧
      (1 ≤ endings.length ∧ endings.length ≤ e.attempts) ∧
      (∀ i x, endings[i]? = some x → (i + 1 < endings.length ↔
        i + 1 < e.attempts ∧ x = .notRead .timeout ∧ ∃ extent, r.reply = .required extent)) ∧
      (∃ last, endings.getLast? = some last ∧ ((transact r).run e).1 = last.outcome r) ∧
      ((∀ extent, r.reply ≠ .required extent) → endings.length = 1 ∧
        (writes endings = 1 ∨ ∃ err, endings = [.notFlushed err])) ∧
      (∀ k reply, endings = row k (.replied reply) →
        writes endings = k + 1 ∧ ((transact r).run e).1 = .ok reply) ∧
      (endings.getLast? = some (.notRead .timeout) → ((transact r).run e).1 = .error .timeout →
        endings = List.replicate e.attempts (.notRead .timeout) ∧ writes endings = e.attempts) ∧
      (∀ i x err, endings[i]? = some x → x.fault? = some err →
        i + 1 = endings.length ∧ ((transact r).run e).1 = .error err) := by
  obtain ⟨silent, last, port, phase, hcourse, hrow, hrun⟩ := transact_run r e
  have hlt := hcourse.lt
  have hanswer : ((transact r).run e).1 = last.outcome r := by rw [hrun]
  rw [hanswer]
  refine ⟨⟨by omega, fun p n timeout => ?_⟩, row silent last, ?_, ?_, ?_, ?_, ?_, ?_, ?_, ?_⟩
  · show n - 1 + 1 = max n 1
    omega
  · rw [hrun]
    exact hrow
  · rw [length_row]
    omega
  · exact fun i x h => hcourse.next_iff h
  · exact ⟨last, getLast_row, rfl⟩
  · exact hcourse.once
  · intro k reply h
    obtain ⟨rfl, rfl⟩ := row_inj h
    exact ⟨writes_row, rfl⟩
  · exact hcourse.exhausted_writes
  · exact fun i x err h hfault => outcome_of_fault_at h hfault

end Engine

end RigControl
