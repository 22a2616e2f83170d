/-
Operations that write, and what becomes of them when something fails. On an FT-840 and on a CI-V rig each
goes by a plan that is fixed before anything is sent. It stops at the first request that is not complete
and takes nothing back: a VFO that was selected on the way stays selected.
-/
import RigControl.Proofs.Plan.Civ
import RigControl.Proofs.Plan.Ft840
import RigControl.Proofs.Refused

namespace RigControl

/-- What is left of a plan: these events, an outcome, and a selected VFO. -/
structure Plan.CarriedOut (C : Completion) (p : Plan) (events : List Event) (ok : Bool)
    (before after : Vfo) : Prop where
  /-- What was started is the front of the plan. -/
  started : events.map Event.request? <+: p.requests.map some
  /-- Each was started after its predecessor was complete. -/
  inTurn : ∀ i x, events[i]? = some x → i + 1 < events.length → x.Completed C
  ok_iff : ok = true ↔ events.length = p.requests.length ∧ ∀ x ∈ events, x.Completed C
  leaves : p.Leaves C events before after

namespace Rig

variable {σ α : Type} [Link σ] {e : Entry} {config : Config} {link : σ} {r s : Rig σ}

/-- The operation goes by the plan, if there is one, and does nothing otherwise. -/
structure Follows (s : Rig σ) (op : Operation α) (C : Completion) (plan : Outcome Plan) : Prop where
  /-- The events are all that happens to the engine. -/
  traffic : ((perform op).run s).2.session.engine =
    (s.history op).foldl Event.replay s.session.engine
  /-- The outcome of a request is what the engine made of it in its turn. -/
  outcomes : ∀ i k q o, (s.history op)[i]? = some (.exchange k q o) →
    ((Engine.transact q).run
      (((s.history op).take i).foldl Event.replay s.session.engine)).1 = o
  declined : ∀ err, plan = .error err →
    s.history op = [] ∧ (perform op).run s = (.error err, s)
  carriedOut : ∀ p, plan = .ok p → p.CarriedOut C (s.history op) ((perform op).run s).1.isOk
    s.session.known.vfo ((perform op).run s).2.session.known.vfo

theorem follows_of_carries {op : Operation α} {C : Completion} {plan : Outcome Plan}
    (h : (s.dialogue op).Carries C plan s.session.known) : s.Follows op C plan := by
  have hend := perform_wp h
  refine ⟨perform_engine op, fun i k q o hx => Dialogue.outcome_of_history hx, ?_, ?_⟩
  · rintro err rfl
    obtain ⟨hsilent, herror, hknown⟩ := hend
    have hkept : ((perform op).run s).2.session = s.session := by
      rw [perform_session, hknown, hsilent]
      rfl
    refine ⟨hsilent, Prod.ext herror ?_⟩
    show { s with session := ((perform op).run s).2.session } = s
    rw [hkept]
  · rintro p rfl
    obtain ⟨hruns, hleaves⟩ := hend
    exact ⟨hruns.started, fun _ _ => hruns.inTurn, hruns.ok_iff, hleaves⟩

/-- **A write goes by a plan** that the arguments, the model, the choices of the user and what is known
about the rig have fixed. -/
theorem writes_follow_plan (he : e ∈ Registry.standard.entries) (hc : e.create config link = .ok r)
    (h : r.Reaches s) (op : Operation α) (hop : op.isWrite = true) :
    (s.backend = .ft840 →
      s.Follows op Ft840.Written (Ft840.plan e.descriptor config s.session.known op)) ∧
    ∀ bus, s.backend = .civ bus →
      s.Follows op bus.Accepted (Civ.plan bus e.descriptor config s.session.known op) := by
  obtain ⟨-, hd, hr⟩ := Reaches.of_create hc h
  have hk := h.declared_of_standard he hc
  have hfirm := h.firm_of_standard he hc
  rw [← hd, ← hr]
  refine ⟨fun hbackend => follows_of_carries ?_, fun bus hbackend => follows_of_carries ?_⟩
  · rw [hbackend] at hfirm
    rw [dialogue, hbackend]
    exact Ft840.respond_carries hfirm hk hop
  · rw [hbackend] at hfirm
    rw [dialogue, hbackend]
    exact Civ.respond_carries hfirm hk hop

/-- An FT-840 is sent to VFO B and not tuned, as the script ends there. An IC-7800 accepts its sub
receiver and refuses the frequency. Each stays where it was sent. -/
theorem writes_follow_plan_halted :
    let yaesu : Rig ScriptedLink := ⟨.ft840, .start Models.ft840 {}
      { script := [⟨[0, 0, 0, 1, 0x05], []⟩] }⟩
    let bus : Civ.Bus := { rig := 0x6A }
    let select : Request := bus.request "set_vfo" 0x07 [0xD1]
    let tune : Request := bus.request "set_freq" 0x05 [0x00, 0x50, 0x25, 0x14, 0x00]
    let icom : Rig ScriptedLink := ⟨.civ bus, .start Models.ic7800 {}
      { script := [⟨select.frame, (Civ.Bus.mk 0xE0 0x6A).frame Civ.accepted []⟩,
        ⟨tune.frame, (Civ.Bus.mk 0xE0 0x6A).frame Civ.refused []⟩] }⟩
    ((perform (.setFrequency .b 14255000)).run yaesu).1.isOk = false ∧
      ((perform (.setFrequency .b 14255000)).run yaesu).2.session.known.vfo = .b ∧
      ((perform (.setFrequency .sub 14255000)).run icom).1 =
        .error (.protocol "rig answered NAK") ∧
      ((perform (.setFrequency .sub 14255000)).run icom).2.session.known.vfo = .sub := by
  intro yaesu bus select tune icom
  have hyaesu : (Entry.mk Models.ft840 .ft840) ∈ Registry.standard.entries := by decide +kernel
  have hicom : (Entry.mk Models.ic7800 .civ) ∈ Registry.standard.entries := by decide +kernel
  have hcreated : (Entry.mk Models.ic7800 .civ).create {} icom.session.engine.port.link =
      .ok icom := rfl
  have hwritten := (writes_follow_plan hyaesu (r := yaesu) rfl .refl
    (.setFrequency .b 14255000) rfl).1 rfl
  have haccepted := (writes_follow_plan hicom hcreated .refl
    (.setFrequency .sub 14255000) rfl).2 bus rfl
  refine ⟨by decide +kernel, ?_, by decide +kernel, ?_⟩
  · have hplan : Ft840.plan Models.ft840 {} yaesu.session.known (.setFrequency .b 14255000) =
        .ok {
          selection := some (.b, Ft840.request "set_vfo" [0, 0, 0, 1, 0x05])
          commands := [Ft840.request "set_freq" [0x00, 0x55, 0x42, 0x01, 0x0A]] } := by
      decide +kernel
    have hhead : (yaesu.history (.setFrequency .b 14255000)).head? = some (.exchange
        yaesu.session.known (Ft840.request "set_vfo" [0, 0, 0, 1, 0x05]) (.ok [])) := by
      decide +kernel
    exact (hwritten.carriedOut _ hplan).leaves.selected .b _ rfl ⟨_, hhead, rfl, rfl⟩
  · have hplan : Civ.plan bus Models.ic7800 {} icom.session.known (.setFrequency .sub 14255000) =
        .ok { selection := some (.sub, select), commands := [tune] } := by
      decide +kernel
    have hhead : (icom.history (.setFrequency .sub 14255000)).head? = some (.exchange
        icom.session.known select (.ok ((Civ.Bus.mk 0xE0 0x6A).frame Civ.accepted []))) := by
      decide +kernel
    exact (haccepted.carriedOut _ hplan).leaves.selected .sub _ rfl ⟨_, hhead, _, rfl, rfl⟩

end Rig

end RigControl
