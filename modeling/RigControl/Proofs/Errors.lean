/-
The errors that ports and engines end in. A port adds a timeout to the errors of its link, and an engine adds
those of building and decoding. So a kind of errors that has the timeout and all errors of the link has all
errors of a transaction (`Engine.transact_errs`).

Two kinds matter. A link that never blames the caller makes an engine that never does (`Link.Honest`). A link
whose calls all come to an outcome makes transactions that do (`Engine.transact_ends`), with one exception:
an echo without bytes is waited past for ever, where the request asks for that (`Engine.transact_halts_iff`).
-/
import RigControl.Link.Scripted
import RigControl.Proofs.Echoes
import RigControl.Proofs.Refusal

namespace RigControl

variable {σ τ α β : Type} {P : Error → Prop}

/-- Every error of the outcome is of this kind. -/
def Outcome.Errs (P : Error → Prop) (o : Outcome α) : Prop :=
  ∀ e, o = .error e → P e

/-- Every error that the computation ends in is of this kind. -/
def Action.Errs (P : Error → Prop) (x : Action σ α) : Prop :=
  ∀ s, Outcome.Errs P (x.run s).1

theorem Outcome.errs_ok {a : α} : Outcome.Errs P (.ok a) := nofun

theorem Outcome.errs_error {e : Error} : Outcome.Errs P (.error e : Outcome α) ↔ P e :=
  ⟨fun h => h e rfl, fun h _ he => by cases he; exact h⟩

/-- An error that is passed on is of the same kind. -/
theorem Outcome.Errs.of_run {o : Outcome α × σ} {e : Error} {t : σ} (h : Outcome.Errs P o.1)
    (ho : o = (.error e, t)) : Outcome.Errs P (.error e : Outcome β) :=
  Outcome.errs_error.2 (h e (congrArg Prod.fst ho))

theorem Outcome.ends_iff_errs {o : Outcome α} : o.Ends ↔ Outcome.Errs (fun e => ∀ why, e ≠ .halt why) o := by
  constructor
  · rintro h e rfl why rfl
    exact h why rfl
  · rintro h why rfl
    exact h _ rfl why rfl

namespace Action.Errs

theorem ret {a : α} : (pure a : Action σ α).Errs P :=
  fun _ => Outcome.errs_ok

theorem fail {e : Error} (he : P e) : (fail e : Action σ α).Errs P :=
  fun _ => Outcome.errs_error.2 he

theorem current : (current : Action σ σ).Errs P :=
  fun _ => Outcome.errs_ok

theorem update {f : σ → σ} : (update f).Errs P :=
  fun _ => Outcome.errs_ok

theorem bind {x : Action σ α} {f : α → Action σ β} (hx : x.Errs P) (hf : ∀ a, (f a).Errs P) :
    (x >>= f).Errs P := by
  intro s
  match hrun : x.run s with
  | (.ok a, t) =>
    rw [run_bind_ok hrun]
    exact hf a t
  | (.error e, t) =>
    rw [run_bind_error hrun]
    exact (hx s).of_run hrun

/-- What an attempt answers with has no other errors either. -/
theorem attempt_bind {x : Action σ α} {f : Outcome α → Action σ β} (hx : x.Errs P)
    (hf : ∀ o : Outcome α, Outcome.Errs P o → (f o).Errs P) : (x.attempt >>= f).Errs P := by
  intro s
  rcases (x.run s).1.ends_or_halts with hends | ⟨why, hhalt⟩
  · have hrun : x.attempt.run s = (.ok (x.run s).1, (x.run s).2) := run_attempt rfl hends
    rw [run_bind_ok hrun]
    exact hf _ (hx s) _
  · have hrun : x.attempt.run s = (.error (.halt why), (x.run s).2) :=
      run_attempt_halt (Prod.ext hhalt rfl)
    rw [run_bind_error hrun]
    exact Outcome.errs_error.2 (hx s _ hhalt)

theorem on {x : Action σ α} {part : τ → σ} {put : τ → σ → τ} (hx : x.Errs P) : (x.on part put).Errs P :=
  fun t => hx (part t)

end Action.Errs

/-- Every error of the link is of this kind. -/
structure Link.Errs (P : Error → Prop) (σ : Type) [Link σ] : Prop where
  send : ∀ bytes, (Link.send bytes : Action σ Unit).Errs P
  receive : ∀ room timeout, (Link.receive room timeout : Action σ (List UInt8)).Errs P
  clearInput : (Link.clearInput : Action σ Unit).Errs P
  close : (Link.close : Action σ Unit).Errs P
  sleep : ∀ ms, (Link.sleep ms : Action σ Unit).Errs P

/-- No error of the link is a refusal. -/
def Link.Honest (σ : Type) [Link σ] : Prop :=
  Link.Errs (fun e => e.isRefusal = false) σ

/-- Each call of the link comes to an outcome. -/
def Link.Definite (σ : Type) [Link σ] : Prop :=
  Link.Errs (fun e => ∀ why, e ≠ .halt why) σ

section

variable [Link σ] (hσ : Link.Errs P σ)
include hσ

/-! ## Ports -/

namespace Port

theorem flush_errs : (flush : Action (Port σ) Unit).Errs P :=
  Action.Errs.update.bind fun _ => hσ.clearInput.on

theorem sendApart_errs {pause : Nat} {frame : List UInt8} :
    (sendApart pause frame : Action σ Unit).Errs P := by
  induction frame with
  | nil => exact .ret
  | cons b rest ih =>
    cases rest with
    | nil => exact hσ.send [b]
    | cons => exact (hσ.send [b]).bind fun _ => (hσ.sleep pause).bind fun _ => ih

theorem write_errs {frame : List UInt8} : (write frame : Action (Port σ) Unit).Errs P := by
  refine Action.Errs.current.bind fun p => ?_
  have hpause : (if p.pacing.postWriteDelay ≠ 0 then onLink (Link.sleep p.pacing.postWriteDelay)
      else pure () : Action (Port σ) Unit).Errs P := by
    split
    · exact (hσ.sleep _).on
    · exact .ret
  dsimp only
  split
  · exact (hσ.send frame).on.bind fun _ => hpause
  · exact (sendApart_errs hσ).on.bind fun _ => hpause

theorem send_errs {frame : List UInt8} : (send frame : Action (Port σ) Unit).Errs P :=
  (flush_errs hσ).bind fun _ => write_errs hσ

theorem close_errs : (close : Action (Port σ) Unit).Errs P :=
  Action.Errs.update.bind fun _ => hσ.close.on

variable (htimeout : P .timeout)
include htimeout

theorem fill_errs {deadline : Nat} {p : Port σ} : Outcome.Errs P (fill deadline p).1 := by
  unfold fill
  split
  · exact Outcome.errs_error.2 htimeout
  · split
    · exact Outcome.errs_ok
    · rename_i hr
      exact (hσ.receive room _ p.link).of_run hr

theorem readBy_errs {deadline : Nat} {x : Extent} {p : Port σ} :
    Outcome.Errs P (readBy deadline x p).1 := by
  fun_induction readBy deadline x p with
  | case1 => exact Outcome.errs_ok
  | case2 p _ q hfill ih => exact ih
  | case3 p _ e q hfill =>
    have herr : Outcome.Errs P (fill deadline p).1 := fill_errs hσ htimeout
    exact herr.of_run hfill

theorem awaitReply_errs {r : Request} {timeout : Nat} (hwait : r.Endless → P (.halt .endless)) :
    (awaitReply r timeout : Action (Port σ) (List UInt8)).Errs P := by
  unfold awaitReply
  split
  · rename_i x hreply
    intro p
    show Outcome.Errs P (awaitBlock r x timeout p).1
    fun_induction awaitBlock r x timeout p with
    | case1 p q hread hecho =>
      obtain ⟨hskip, hframe⟩ := isEcho_iff.1 hecho
      exact Outcome.errs_error.2 (hwait ⟨hskip, hframe.symm, x, hreply, readBy_nil hread⟩)
    | case2 p block q hread hecho hne ih => exact ih
    | case3 p block q hread hother => exact Outcome.errs_ok
    | case4 p e q hread =>
      have herr : Outcome.Errs P (read x timeout p).1 := readBy_errs hσ htimeout
      exact herr.of_run hread
  · exact .ret

end Port

/-! ## Engines -/

namespace Engine

variable {r : Request}

omit hσ [Link σ] in
theorem abort_errs {e : Error} (he : P e) : (abort e : Action (Engine σ) α).Errs P :=
  Action.Errs.update.bind fun _ => .fail he

omit hσ [Link σ] in
theorem orAbort_errs {x : Action (Engine σ) α} (hx : x.Errs P) : (orAbort x).Errs P := by
  refine hx.attempt_bind fun o ho => ?_
  cases o with
  | ok a => exact .ret
  | error e => exact abort_errs (Outcome.errs_error.1 ho)

variable (htimeout : P .timeout) (hwait : r.Endless → P (.halt .endless))
include htimeout hwait

theorem listen_errs : (listen r : Action (Engine σ) (Option (List UInt8))).Errs P := by
  refine Action.Errs.current.bind fun engine => ?_
  refine (Port.awaitReply_errs hσ htimeout hwait).on.attempt_bind fun o ho => ?_
  split
  · exact .ret
  · exact .ret
  · exact .ret
  · exact abort_errs (Outcome.errs_error.1 ho)

theorem sendOnce_errs : (sendOnce r : Action (Engine σ) (Option (List UInt8))).Errs P := by
  refine Action.Errs.update.bind fun _ => ?_
  refine (orAbort_errs (Port.send_errs hσ).on).bind fun _ => ?_
  split
  · exact .ret
  · exact Action.Errs.update.bind fun _ => listen_errs hσ htimeout hwait

theorem exchange_errs {repeats : Nat} : (exchange r repeats : Action (Engine σ) (List UInt8)).Errs P := by
  induction repeats with
  | zero =>
    refine (sendOnce_errs hσ htimeout hwait).bind fun reply => ?_
    cases reply with
    | some reply => exact .ret
    | none => exact abort_errs htimeout
  | succ repeats ih =>
    refine (sendOnce_errs hσ htimeout hwait).bind fun reply => ?_
    cases reply with
    | some reply => exact .ret
    | none => exact ih

theorem transact_errs : (transact r : Action (Engine σ) (List UInt8)).Errs P :=
  Action.Errs.current.bind fun _ => (exchange_errs hσ htimeout hwait).bind fun _ =>
    Action.Errs.update.bind fun _ => .ret

theorem query_errs {decode : List UInt8 → Outcome α} (hdecode : ∀ reply, Outcome.Errs P (decode reply)) :
    (query (.ok r) decode : Action (Engine σ) α).Errs P := by
  intro e
  have hrun : (query (.ok r) decode).run e = (do
      let reply ← exchange r e.repeats
      enter .decoding
      let answer ← orAbort (decode reply)
      enter .done
      return answer : Action (Engine σ) α).run { e with phase := .building } := rfl
  rw [hrun]
  exact ((exchange_errs hσ htimeout hwait).bind fun reply => Action.Errs.update.bind fun _ =>
    (orAbort_errs fun _ => hdecode reply).bind fun _ => Action.Errs.update.bind fun _ => .ret) _

end Engine

end

/-! ## Outcomes -/

section

variable [Link σ] {r : Request}

namespace Engine

/-- What goes wrong in the first attempt is the outcome of the transaction. -/
theorem transact_of_fault {e : Engine σ} {err : Error}
    (hfault : (attempt r e.timeout e.port).1.fault? = some err) : ((transact r).run e).1 = .error err := by
  have hdecided : (attempt r e.timeout e.port).1.isSilence r = false := by
    rw [Bool.eq_false_iff]
    intro hsilence
    rw [(isSilence_iff.1 hsilence).1] at hfault
    cases hfault
  rw [(transact_answer r e).1, answer_decided hdecided]
  exact outcome_of_fault hfault

theorem fault_of_unsent {timeout : Nat} {p q : Port σ} {err : Error}
    (h : (Port.send r.frame).run p = (.error err, q)) : (attempt r timeout p).1.fault? = some err := by
  match hflush : Port.flush.run p with
  | (.error err', t) =>
    rw [run_send_error hflush] at h
    cases h
    simp only [attempt, hflush]
    rfl
  | (.ok (), t) =>
    rw [run_send_flushed hflush] at h
    simp only [attempt, hflush, h]
    rfl

theorem fault_of_endless (hends : r.Endless) {timeout : Nat} {p q : Port σ}
    (h : (Port.send r.frame).run p = (.ok (), q)) :
    (attempt r timeout p).1.fault? = some (.halt .endless) := by
  have hreply : r.reply ≠ .none := by
    obtain ⟨-, -, x, hreply, -⟩ := hends
    intro hnone
    rw [hnone] at hreply
    cases hreply
  rw [attempt_of_sent h hreply, Port.awaitReply_endless hends]
  rfl

end Engine

/-- **A transaction comes to an outcome** over a link that does, unless it waits for ever. -/
theorem Engine.transact_ends (hσ : Link.Definite σ) (hends : ¬ r.Endless) (e : Engine σ) :
    ((transact r).run e).1.Ends :=
  Outcome.ends_iff_errs.2 (transact_errs hσ nofun (fun h => absurd h hends) e)

/-- **Only the endless wait has no outcome**, and it has none as soon as the frame is out. -/
theorem Engine.transact_halts_iff (hσ : Link.Definite σ) {e : Engine σ} {why : Halt} :
    ((transact r).run e).1 = .error (.halt why) ↔
      why = .endless ∧ r.Endless ∧ ∃ q, (Port.send r.frame).run e.port = (.ok (), q) := by
  constructor
  · intro h
    have hends : r.Endless := Classical.not_not.1 fun hends => transact_ends hσ hends e why h
    match hsend : (Port.send r.frame).run e.port with
    | (.ok (), q) =>
      rw [transact_of_fault (fault_of_endless hends hsend)] at h
      cases h
      exact ⟨rfl, hends, q, rfl⟩
    | (.error err, q) =>
      rw [transact_of_fault (fault_of_unsent hsend)] at h
      cases h
      exact absurd rfl (Port.send_errs hσ e.port _ (congrArg Prod.fst hsend) why)
  · rintro ⟨rfl, hends, q, hsend⟩
    exact transact_of_fault (fault_of_endless hends hsend)

theorem Engine.query_ends (hσ : Link.Definite σ) (hends : ¬ r.Endless) {decode : List UInt8 → Outcome α}
    (hdecode : ∀ reply, (decode reply).Ends) (e : Engine σ) : ((query (.ok r) decode).run e).1.Ends :=
  Outcome.ends_iff_errs.2 (query_errs hσ nofun (fun h => absurd h hends)
    (fun reply => Outcome.ends_iff_errs.1 (hdecode reply)) e)

end

/-! ## Scripted links -/

namespace ScriptedLink

theorem connectedOnly_errs {x : Action ScriptedLink α} (hconnected : P .notConnected) (hx : x.Errs P) :
    (connectedOnly x).Errs P := by
  intro l
  simp only [Action.run, connectedOnly]
  split
  · exact hx l
  · exact Outcome.errs_error.2 hconnected

theorem follow_errs (hprotocol : ∀ detail, P (.protocol detail)) : follow.Errs P := by
  intro l
  simp only [Action.run, follow]
  repeat' split
  all_goals first | exact Outcome.errs_ok | exact Outcome.errs_error.2 (hprotocol _)

/-- What goes wrong on a scripted link: it is down or silent, its sends fail, or the frame is not expected. -/
theorem errs (hconnected : P .notConnected) (htimeout : P .timeout) (hio : ∀ detail, P (.io detail))
    (hprotocol : ∀ detail, P (.protocol detail)) : Link.Errs P ScriptedLink where
  send bytes := by
    refine connectedOnly_errs hconnected fun l => ?_
    simp only [Action.run]
    split
    · exact Outcome.errs_error.2 (hio _)
    · exact follow_errs hprotocol _
  receive room timeout := by
    refine connectedOnly_errs hconnected fun l => ?_
    simp only [Action.run]
    split
    · exact Outcome.errs_error.2 htimeout
    · exact Outcome.errs_ok
  clearInput := connectedOnly_errs hconnected fun l => Outcome.errs_ok
  close := .update
  sleep ms := .update

/-- A script never blames the caller. -/
theorem honest : Link.Honest ScriptedLink :=
  errs rfl rfl (fun _ => rfl) fun _ => rfl

theorem definite : Link.Definite ScriptedLink :=
  errs nofun nofun nofun nofun

end ScriptedLink

end RigControl
