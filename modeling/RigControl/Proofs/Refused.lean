/-
Refused operations. When a registered model refuses an operation, nothing has been asked of the link and
nothing has been learned about the rig: every check comes before the first call.
-/
import RigControl.Proofs.Faults
import RigControl.Proofs.Recorded
import RigControl.Proofs.Registered

namespace RigControl.Rig

variable {σ α : Type} [Link σ] {e : Entry} {config : Config} {link : σ} {r s : Rig σ}

/-- A registered model declares its selection in every state. -/
theorem Reaches.declared_of_standard (he : e ∈ Registry.standard.entries)
    (hc : e.create config link = .ok r) (h : r.Reaches s) :
    s.session.known.Declared s.session.descriptor := by
  obtain ⟨-, hsession⟩ := create_ok hc
  refine h.declared ?_
  rw [hsession]
  exact Tracking.initial_declared (Registry.mem_ofList he).2

/-- The contract of a registered model is firm in every state. -/
theorem Reaches.firm_of_standard (he : e ∈ Registry.standard.entries)
    (hc : e.create config link = .ok r) (h : r.Reaches s) :
    (s.backend.contract s.session.descriptor s.session.config.region).firm := by
  obtain ⟨hb, hdesc, hconfig⟩ := Reaches.of_create hc h
  rw [hdesc, hconfig]
  exact Registry.standard_firm he hb

/-- Over an honest link, an operation that is refused has had no events. -/
theorem declined_of_refused (hσ : Link.Honest σ) (he : e ∈ Registry.standard.entries)
    (hc : e.create config link = .ok r) (h : r.Reaches s) {op : Operation α} {err : Error}
    (hop : ((perform op).run s).1 = .error err) (href : err.isRefusal = true) :
    s.history op = [] ∧ ((perform op).run s).2.session.known.Agrees s.session.known := by
  rcases perform_honours op (h.declared_of_standard he hc) with hdec | hkept
  · exact ⟨hdec.silent, hdec.agrees⟩
  · obtain ⟨x, hx, hfail⟩ := hkept.firm (h.firm_of_standard he hc) err hop href
    have := Dialogue.failure_ne_refusal hσ hx hfail
    simp [this] at href

/-- **A refused operation has done nothing**: over a scripted link, when a registered model answers
that a request is no good, no call of the link was made and the session is as it was. -/
theorem refused_does_nothing {link : Recorded ScriptedLink} {r s : Rig (Recorded ScriptedLink)}
    (he : e ∈ Registry.standard.entries) (hc : e.create config link = .ok r) (h : r.Reaches s)
    (op : Operation α) {err : Error} (hop : ((perform op).run s).1 = .error err)
    (href : err.isRefusal = true) :
    let t := ((perform op).run s).2
    t.session.engine.port.link.calls = s.session.engine.port.link.calls ∧
      t.session.engine = s.session.engine ∧
      t.session.known.vfo = s.session.known.vfo ∧
      t.session.known.channel = s.session.known.channel ∧
      t.session.known.snapshot = s.session.known.snapshot ∧
      t.session.known.pacing = s.session.known.pacing := by
  have hσ : Link.Honest (Recorded ScriptedLink) := Recorded.errs ScriptedLink.honest
  obtain ⟨hsilent, hagrees⟩ := declined_of_refused hσ he hc h hop href
  have hengine := engine_eq_of_history_nil hsilent
  refine ⟨?_, hengine, hagrees.vfo, hagrees.channel, hagrees.snapshot, hagrees.pacing⟩
  rw [hengine]

/-- An FT-840 on VFO B is asked for too large an offset on VFO A, and stays on VFO B. -/
theorem refused_does_nothing_ft840 :
    let e : Entry := ⟨Models.ft840, .ft840⟩
    let link : Recorded ScriptedLink := { link := { script := [⟨[0, 0, 0, 1, 0x05], []⟩] } }
    let r : Rig (Recorded ScriptedLink) := ⟨.ft840, .start Models.ft840 {} link⟩
    let s := ((perform (.setVfo .b)).run r).2
    let t := ((perform (.setRit .a 10000)).run s).2
    e ∈ Registry.standard.entries ∧ e.create {} link = .ok r ∧
      s.session.engine.port.link.calls ≠ [] ∧
      ((perform (.setRit .a 10000)).run s).1 =
        .error (.invalidParameter "RIT 10000 Hz exceeds ±9990 Hz") ∧
      t.session.engine.port.link.calls = s.session.engine.port.link.calls := by
  intro e link r s t
  have he : e ∈ Registry.standard.entries := by decide +kernel
  have hc : e.create {} link = .ok r := rfl
  have hop : ((perform (.setRit .a 10000)).run s).1 =
      .error (.invalidParameter "RIT 10000 Hz exceeds ±9990 Hz") := by decide +kernel
  have ht := refused_does_nothing he hc (.perform _ .refl) _ hop rfl
  exact ⟨he, hc, by decide +kernel, hop, ht.1⟩

end RigControl.Rig
