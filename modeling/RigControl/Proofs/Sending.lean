/-
Links that take whatever they are given. Over such a link a frame goes out byte for byte, however the
writing is paced, and nothing else does; a request without a reply is then done after one attempt. What
has gone out is read off the list of calls (`Recorded`).
-/
import RigControl.Proofs.Attempts
import RigControl.Proofs.Conversation
import RigControl.Proofs.Recorded
import RigControl.Proofs.Writing

namespace RigControl

/-- In these states a link takes whatever it is given, and it can be taken down. -/
structure Link.Willing {σ : Type} [Link σ] (up : σ → Prop) : Prop where
  connected : ∀ l, up l → Link.isConnected l = true
  send : ∀ bytes l, up l → ∃ m, (Link.send bytes : Action σ Unit).run l = (.ok (), m) ∧ up m
  clearInput : ∀ l, up l → ∃ m, (Link.clearInput : Action σ Unit).run l = (.ok (), m) ∧ up m
  sleep : ∀ ms l, up l → ∃ m, (Link.sleep ms : Action σ Unit).run l = (.ok (), m) ∧ up m
  close : ∀ l, up l → ∃ m, (Link.close : Action σ Unit).run l = (.ok (), m) ∧
    Link.isConnected m = false

/-- The bytes that a call sends. -/
def Call.sent : Call → List UInt8
  | send bytes => bytes
  | _ => []

/-- All bytes that were sent, one after another. -/
def Recorded.sent {σ : Type} (l : Recorded σ) : List UInt8 :=
  l.calls.flatMap Call.sent

variable {σ τ : Type}

theorem Recorded.run_record {α : Type} {c : Call} {x : Action σ α} {l : Recorded σ} {o : Outcome α}
    {m : σ} (h : x.run l.link = (o, m)) :
    (record c x).run l = (o, ⟨m, l.calls ++ [c]⟩) := by
  simp only [Action.run] at h
  simp only [Action.run, record, h]

/-- From a state whose link is up, the computation succeeds, sends these bytes and nothing else, and
leaves the link up. -/
def Action.Sends (up : σ → Prop) (link : τ → Recorded σ) (bytes : List UInt8) (x : Action τ Unit) :
    Prop :=
  ∀ s, up (link s).link → ∃ t, x.run s = (.ok (), t) ∧ up (link t).link ∧
    (link t).sent = (link s).sent ++ bytes

namespace Action.Sends

variable {up : σ → Prop} {link : τ → Recorded σ} {bytes more : List UInt8} {x y : Action τ Unit}

theorem ret : Sends up link [] (pure () : Action τ Unit) := by
  intro s hs
  exact ⟨s, rfl, hs, by simp⟩

theorem bind (hx : x.Sends up link bytes) (hy : y.Sends up link more) :
    (x >>= fun _ => y).Sends up link (bytes ++ more) := by
  intro s hs
  obtain ⟨t, hrun, ht, hsent⟩ := hx s hs
  obtain ⟨u, hrun', hu, hsent'⟩ := hy t ht
  refine ⟨u, ?_, hu, ?_⟩
  · rw [Action.run_bind_ok hrun, hrun']
  · rw [hsent', hsent, List.append_assoc]

theorem of_record {c : Call} {z : Action σ Unit} (hz : ∀ l, up l → ∃ m, z.run l = (.ok (), m) ∧ up m) :
    Sends up id c.sent (Recorded.record c z) := by
  intro l hl
  obtain ⟨m, hrun, hm⟩ := hz l.link hl
  refine ⟨⟨m, l.calls ++ [c]⟩, Recorded.run_record hrun, hm, ?_⟩
  simp [Recorded.sent]

end Action.Sends

namespace Port

variable [Link σ] {up : σ → Prop} (hup : Link.Willing up) {frame : List UInt8}

omit [Link σ] in
theorem onLink_sends {bytes : List UInt8} {x : Action (Recorded σ) Unit}
    (hx : x.Sends up id bytes) : (onLink x).Sends up Port.link bytes := by
  intro p hp
  obtain ⟨l, hrun, hl, hsent⟩ := hx p.link hp
  exact ⟨{ p with link := l }, run_onLink hrun, hl, hsent⟩

include hup

/-- Pauses between the bytes make no difference. -/
theorem sendApart_sends {pause : Nat} :
    (sendApart pause frame : Action (Recorded σ) Unit).Sends up id frame := by
  induction frame with
  | nil => exact .ret
  | cons b rest ih =>
    have hsend : (Link.send [b] : Action (Recorded σ) Unit).Sends up id [b] :=
      .of_record (hup.send [b])
    cases rest with
    | nil => exact hsend
    | cons c rest =>
      have hsleep : (Link.sleep pause : Action (Recorded σ) Unit).Sends up id [] :=
        .of_record (c := .sleep pause) (hup.sleep pause)
      exact .bind hsend (.bind hsleep ih)

/-- **A frame goes out as it is**, however the writing is paced. -/
theorem write_sends : (write frame : Action (Port (Recorded σ)) Unit).Sends up Port.link frame := by
  have hhand : ∀ pause, (handOver pause frame : Action (Recorded σ) Unit).Sends up id frame := by
    intro pause
    unfold handOver
    split
    · exact .of_record (c := .send frame) (hup.send frame)
    · exact sendApart_sends hup
  have hpause : ∀ pause, (pauseAfter pause : Action (Port (Recorded σ)) Unit).Sends up Port.link [] := by
    intro pause
    unfold pauseAfter
    split
    · exact onLink_sends (.of_record (c := .sleep pause) (hup.sleep pause))
    · exact .ret
  intro p
  rw [run_write]
  simpa using Action.Sends.bind (onLink_sends (hhand p.pacing.writeDelay))
    (hpause p.pacing.postWriteDelay) p

theorem send_sends : (send frame : Action (Port (Recorded σ)) Unit).Sends up Port.link frame := by
  have hclear : (onLink Link.clearInput : Action (Port (Recorded σ)) Unit).Sends up Port.link [] :=
    onLink_sends (.of_record (c := .clearInput) hup.clearInput)
  have hflush : (flush : Action (Port (Recorded σ)) Unit).Sends up Port.link [] :=
    fun p hp => hclear { p with pending := [] } hp
  exact .bind hflush (write_sends hup)

/-- Taking the link down sends nothing. -/
theorem run_close {p : Port (Recorded σ)} (hp : up p.link.link) : ∃ q, close.run p = (.ok (), q) ∧
    q.isConnected = false ∧ q.link.sent = p.link.sent := by
  obtain ⟨m, hrun, hm⟩ := hup.close p.link.link hp
  have hrecord : (Link.close : Action (Recorded σ) Unit).run p.link =
      (.ok (), ⟨m, p.link.calls ++ [.close]⟩) := Recorded.run_record hrun
  have hclose : close.run p = (.ok (), { p with pending := [], link := ⟨m, p.link.calls ++ [.close]⟩ }) :=
    run_onLink (p := { p with pending := [] }) hrecord
  refine ⟨_, hclose, hm, ?_⟩
  simp [Recorded.sent, Call.sent]

end Port

namespace Session

variable [Link σ] {up : σ → Prop} (hup : Link.Willing up) {s : Session (Recorded σ)} {r : Request}
include hup

/-- **A request without a reply is done after one attempt.** -/
theorem run_transact (hr : r.reply = .none) (hs : up s.engine.port.link.link) :
    ∃ e, (transact r).run s = (.ok [], { s with engine := e }) ∧ up e.port.link.link ∧
      e.port.link.sent = s.engine.port.link.sent ++ r.frame := by
  have hsends : (Port.send r.frame : Action (Port (Recorded σ)) Unit).Sends up Port.link r.frame :=
    Port.send_sends hup
  obtain ⟨q, hsend, hq, hsent⟩ := hsends _ hs
  obtain ⟨p, hflush, hwrite⟩ := Port.run_send_ok.1 hsend
  have hattempt : Engine.attempt r s.engine.timeout s.engine.port = (.written, q) := by
    simp only [Engine.attempt, hflush, hwrite, hr, if_true]
  have hdecided : Engine.answer r s.engine.timeout s.engine.repeats s.engine.port = (.ok [], q) := by
    rw [Engine.answer_decided (by rw [hattempt]; rfl), hattempt]
    rfl
  obtain ⟨houtcome, hport⟩ := Engine.transact_answer r s.engine
  rw [hdecided] at houtcome hport
  have hq' : ((Engine.transact r).run s.engine).2.port = q := hport
  refine ⟨((Engine.transact r).run s.engine).2, Prod.ext houtcome rfl, ?_, ?_⟩
  · rw [hq']
    exact hq
  · rw [hq', hsent]

/-- Taking the link down. -/
theorem run_close (hs : up s.engine.port.link.link) :
    ∃ e, close.run s = (.ok (), { s with engine := e }) ∧ e.port.isConnected = false ∧
      e.port.link.sent = s.engine.port.link.sent := by
  obtain ⟨q, hclose, hq, hsent⟩ := Port.run_close hup hs
  have hconnected : s.isConnected = true := hup.connected _ hs
  have hengine : (Engine.onPort Port.close).run s.engine = (.ok (), { s.engine with port := q }) :=
    Engine.run_onPort hclose
  refine ⟨{ s.engine with port := q }, ?_, hq, hsent⟩
  simp only [Action.run] at hengine
  simp only [Action.run, close, hconnected, if_true, onEngine, Action.on, hengine]

/-- A conversation that only hangs up. -/
theorem run_hangUp (hs : up s.engine.port.link.link) :
    ∃ t, (Dialogue.hangUp (pure ())).run.run s = (.ok (), t) ∧ t.isConnected = false ∧
      t.engine.port.link.sent = s.engine.port.link.sent := by
  obtain ⟨e, hclose, hdown, hsent⟩ := run_close hup hs
  exact ⟨_, Dialogue.run_hangUp_ok hclose, hdown, hsent⟩

end Session

end RigControl
